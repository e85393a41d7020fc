import ElementRules.Pattern.Regex

/-!
Expressions in a normal form. The functions that put expressions together (`Expression.ofSet`,
`repeated`, `sequenceOf`, `choiceOf`) simplify what can be simplified without a look inside:
literals side by side become one, a choice between single characters becomes a set, and what is
shared by all branches of a choice moves in front of it. They keep what an expression matches, and
they decide how large a program for it becomes.
-/

namespace ElementRules.Pattern

inductive Expression
  | empty
  /-- At least one character. -/
  | literal (text : List Char)
  /-- Any member; nothing at all if the set is empty. -/
  | oneOf (set : CharSet)
  | look (condition : Look)
  /-- From `least` to `most` times, or any number from `least` on. A lazy repetition prefers fewer
  rounds, which makes no difference to whether there is a match. -/
  | repetition (least : Nat) (most : Option Nat) (isLazy : Bool) (part : Expression)
  /-- A group that remembers what it matched; no two groups have the same place. -/
  | group (place : Nat) (part : Expression)
  | sequence (parts : List Expression)
  | choice (parts : List Expression)

namespace Expression

/-! ## Properties -/

mutual

/-- Matches nothing but the empty text. -/
def onlyEmpty : Expression → Bool
  | .empty => true
  | .look _ => true
  | .literal _ => false
  | .oneOf _ => false
  | .repetition _ most _ part => most.isSome && onlyEmpty part
  | .group _ part => onlyEmpty part
  | .sequence parts => allOnlyEmpty parts
  | .choice parts => allOnlyEmpty parts

def allOnlyEmpty : List Expression → Bool
  | [] => true
  | part :: rest => onlyEmpty part && allOnlyEmpty rest

end

mutual

/-- No empty set stands anywhere in the expression. -/
def satisfiable : Expression → Bool
  | .empty => true
  | .look _ => true
  | .literal _ => true
  | .oneOf set => !set.isEmpty
  | .repetition _ _ _ part => satisfiable part
  | .group _ part => satisfiable part
  | .sequence parts => allSatisfiable parts
  | .choice parts => allSatisfiable parts

def allSatisfiable : List Expression → Bool
  | [] => true
  | part :: rest => satisfiable part && allSatisfiable rest

end

mutual

/-- Known to match only texts with at least one character. -/
def neverEmpty : Expression → Bool
  | .empty => false
  | .look _ => false
  | .literal _ => true
  | .oneOf set => !set.isEmpty
  | .repetition least _ _ part => 0 < least && neverEmpty part
  | .group _ part => neverEmpty part
  | .sequence parts => allSatisfiable parts && anyNeverEmpty parts
  | .choice parts => allNeverEmpty parts

def anyNeverEmpty : List Expression → Bool
  | [] => false
  | part :: rest => neverEmpty part || anyNeverEmpty rest

def allNeverEmpty : List Expression → Bool
  | [] => true
  | part :: rest => neverEmpty part && allNeverEmpty rest

end

/-- In order, whether a part holds on to an end of the text, and whether it matches only the empty
text: the sequence holds on if one of its parts does before the first that matches more. -/
def firstHolds : List (Bool × Bool) → Bool
  | [] => false
  | (holds, onlyEmpty) :: rest => holds || (onlyEmpty && firstHolds rest)

mutual

/-- Known to match only where the text starts, or, `backwards`, only where it ends. -/
def anchored (backwards : Bool) : Expression → Bool
  | .look condition => condition == if backwards then .textEnd else .textStart
  | .repetition least _ _ part => 0 < least && anchored backwards part
  | .group _ part => anchored backwards part
  | .sequence parts =>
    let holds := allAnchored backwards parts
    firstHolds (if backwards then holds.reverse else holds)
  | .choice parts => (allAnchored backwards parts).all (·.1)
  | .empty => false
  | .literal _ => false
  | .oneOf _ => false

def allAnchored (backwards : Bool) : List Expression → List (Bool × Bool)
  | [] => []
  | part :: rest => (anchored backwards part, onlyEmpty part) :: allAnchored backwards rest

end

mutual

/-- Written the same way. -/
def same : Expression → Expression → Bool
  | .empty, .empty => true
  | .literal s, .literal t => s == t
  | .oneOf a, .oneOf b => a == b
  | .look a, .look b => a == b
  | .repetition least most isLazy a, .repetition least' most' isLazy' b =>
    least == least' && most == most' && isLazy == isLazy' && same a b
  | .group place a, .group place' b => place == place' && same a b
  | .sequence a, .sequence b => allSame a b
  | .choice a, .choice b => allSame a b
  | _, _ => false

def allSame : List Expression → List Expression → Bool
  | [], [] => true
  | a :: as, b :: bs => same a b && allSame as bs
  | _, _ => false

end

/-! ## Putting together -/

/-- A set with one member is a literal. -/
def ofSet (set : CharSet) : Expression :=
  match set.single? with
  | some c => .literal [c]
  | none => .oneOf set

/-- A repetition; what matches only the empty text is repeated at most once. -/
def repeated (least : Nat) (most : Option Nat) (isLazy : Bool) (part : Expression) : Expression :=
  let (least, most) :=
    if part.onlyEmpty then (min least 1, some (min (most.getD 1) 1)) else (least, most)
  if most == some 0 then .empty
  else if least = 1 ∧ most = some 1 then part
  else .repetition least most isLazy part

/-- Puts a part before others; literals become one. -/
def prepend : Expression → List Expression → List Expression
  | .literal s, .literal t :: rest => .literal (s ++ t) :: rest
  | part, rest => part :: rest

/-- The parts of a sequence, of which those that are sequences are taken apart and those that are
empty are dropped. -/
def flatten : List Expression → List Expression
  | [] => []
  | .empty :: rest => flatten rest
  | .sequence parts :: rest => parts.foldr prepend (flatten rest)
  | part :: rest => prepend part (flatten rest)

def sequenceOf (parts : List Expression) : Expression :=
  match flatten parts with
  | [] => .empty
  | [part] => part
  | parts => .sequence parts

/-- The branches of a choice, and of another expression itself. -/
def branches : Expression → List Expression
  | .choice parts => parts
  | part => [part]

/-- The members of an expression that matches exactly the single characters of a set. -/
def members? : Expression → Option CharSet
  | .literal [c] => some (.range c c)
  | .oneOf set => some set
  | _ => none

def parts? : Expression → Option (List Expression)
  | .sequence parts => some parts
  | _ => none

/-- How many parts two sequences share at their start. -/
def commonLength : List Expression → List Expression → Nat
  | a :: as, b :: bs => if same a b then commonLength as bs + 1 else 0
  | _, _ => 0

/-- How many parts all branches share at their start; only sequences share any. -/
def sharedLength (first : List Expression) (others : List (List Expression)) : Nat :=
  others.foldl (fun length parts => min length (commonLength first parts)) first.length

/-- A choice. A choice of single characters is a set, and what all branches share moves to the
front; `fuel` bounds how often that happens inside each other. -/
def choiceOf : (fuel : Nat) → List Expression → Expression
  | fuel, parts =>
    match parts.flatMap branches with
    | [] => .oneOf .nothing
    | [part] => part
    | parts =>
      match parts.mapM members?, parts.mapM parts?, fuel with
      | some sets, _, _ => ofSet (.unionAll sets)
      | none, some (first :: others), fuel + 1 =>
        let shared := sharedLength first others
        if shared = 0 then .choice parts
        else
          let ends := (first :: others).map fun parts => sequenceOf (parts.drop shared)
          sequenceOf (first.take shared ++ [choiceOf fuel ends])
      | _, _, _ => .choice parts

/-! ## Search -/

mutual

/-- The expression as it is searched for. -/
def regex : Expression → Regex
  | .empty => .empty
  | .literal text => .sequence (text.map fun c => .symbol false (.exactly c))
  | .oneOf set => .symbol false (.oneOf set)
  | .look condition => .look condition
  | .repetition least most _ part => (regex part).repeated least most
  | .group _ part => regex part
  | .sequence parts => sequenceRegex parts
  | .choice parts => choiceRegex parts

def sequenceRegex : List Expression → Regex
  | [] => .empty
  | [part] => regex part
  | part :: rest => .seq (regex part) (sequenceRegex rest)

/-- There is no expression for no branch at all; such a choice is never built. -/
def choiceRegex : List Expression → Regex
  | [] => .symbol false (.oneOf .nothing)
  | [part] => regex part
  | part :: rest => .alt (regex part) (choiceRegex rest)

end

end Expression

end ElementRules.Pattern
