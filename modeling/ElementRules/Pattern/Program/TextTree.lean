import ElementRules.Pattern.Program

/-!
Trees of texts: a choice between texts reads what they have in common once. The texts are lists of
bytes, and a tree keeps the order in which they were added where one starts another: what was added
later is tried later.
-/

namespace ElementRules.Pattern

/-- A tree of texts. The moves out of a node come in lists, the latest first, each in the order of
the bytes; between two lists a text ends at the node. -/
inductive TextTree
  | node (moves : List (List (Nat × TextTree)))

namespace TextTree

/-- The tree without a text. -/
def leaf : TextTree := .node [[]]

/-- Changes the subtree under a byte, in the order of the bytes. -/
def alter (byte : Nat) (change : TextTree → TextTree) :
    List (Nat × TextTree) → List (Nat × TextTree)
  | [] => [(byte, change leaf)]
  | (other, tree) :: rest =>
    if byte = other then (byte, change tree) :: rest
    else if byte < other then (byte, change leaf) :: (other, tree) :: rest
    else (other, tree) :: alter byte change rest

/-- Adds a text. A text that ends where one has ended and nothing goes on adds nothing. -/
def insert : List Nat → TextTree → TextTree
  | [], .node moves =>
    if 1 < moves.length && moves.all (·.isEmpty) then .node moves else .node ([] :: moves)
  | byte :: rest, .node (latest :: older) => .node (alter byte (insert rest) latest :: older)
  | byte :: rest, .node [] => .node [alter byte (insert rest) []]

mutual

/-- The states and details for a tree. A node is a fork between its lists of moves, of which several
together take one state, and the end of the texts that end there; a leaf is the end. -/
def cost : TextTree → Nat × Nat
  | .node moves =>
    if moves.all (·.isEmpty) then (0, 0)
    else
      let (states, details) := listsCost moves
      let ways := (moves.filter (!·.isEmpty)).length + (moves.length - 1)
      (states + 1, details + ways * Program.wayBytes)

def listsCost : List (List (Nat × TextTree)) → Nat × Nat
  | [] => (0, 0)
  | moves :: rest =>
    let (states, details) := movesCost moves
    let (restStates, restDetails) := listsCost rest
    let own := match moves with
      | [] => (0, 0)
      | [_] => (1, 0)
      | _ => (1, moves.length * Program.moveBytes)
    (states + own.1 + restStates, details + own.2 + restDetails)

def movesCost : List (Nat × TextTree) → Nat × Nat
  | [] => (0, 0)
  | (_, tree) :: rest =>
    let (states, details) := cost tree
    let (restStates, restDetails) := movesCost rest
    (states + restStates, details + restDetails)

end

end TextTree

end ElementRules.Pattern
