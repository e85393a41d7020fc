import ElementRules.Pattern.Escape

/-!
Bracketed classes: characters, ranges, escapes and classes inside classes side by side, with the
operators `&&`, `--` and `~~` between such unions. The operators have one precedence and join from
the left.

Without Unicode a class may hold only the first 128 characters, and none may be negated.
-/

namespace ElementRules.Pattern

/-- A part of a class, and how deeply it is nested. -/
structure ClassPart where
  set : CharSet
  depth : Nat

inductive SetOperator
  | intersection
  | difference
  | symmetricDifference

/-- A class that is not closed yet: what has been read since its last operator, latest first, and
what stands before that operator. -/
structure OpenClass where
  negated : Bool
  pending : Option (SetOperator × ClassPart)
  parts : List ClassPart

namespace OpenClass

def closeUnderCase (flags : Flags) (set : CharSet) : CharSet :=
  if flags.ignoreCase then
    if flags.unicode then set.closeUnderCase else set.closeUnderAsciiCase
  else set

def deepest (parts : List ClassPart) : Nat := parts.foldl (fun depth part => max depth part.depth) 0

/-- Parts side by side; a lone part stays as it is. -/
def join : List ClassPart → ClassPart
  | [] => ⟨.nothing, 0⟩
  | [part] => part
  | parts => ⟨CharSet.unionAll (parts.reverse.map (·.set)), deepest parts + 1⟩

def operate (operator : SetOperator) (a b : CharSet) : CharSet :=
  match operator with
  | .intersection => a.intersection b
  | .difference => a.difference b
  | .symmetricDifference => a.symmetricDifference b

/-- The parts since the last operator, joined with what stands before it. Both operands are closed
under case. -/
def gather (flags : Flags) (state : OpenClass) : ClassPart :=
  let right := join state.parts
  match state.pending with
  | none => right
  | some (operator, left) =>
    ⟨operate operator (closeUnderCase flags left.set) (closeUnderCase flags right.set),
      max left.depth right.depth + 1⟩

def push (state : OpenClass) (part : ClassPart) : OpenClass :=
  { state with parts := part :: state.parts }

def startOperand (flags : Flags) (state : OpenClass) (operator : SetOperator) : OpenClass :=
  { state with pending := some (operator, state.gather flags), parts := [] }

/-- The whole class, closed under case before it is negated. -/
def close? (flags : Flags) (state : OpenClass) : Option ClassPart :=
  if state.negated && !flags.unicode then none
  else
    let content := state.gather flags
    some ⟨complementIf state.negated (closeUnderCase flags content.set), content.depth + 1⟩

end OpenClass

/-- A character may stand in a class. -/
def allowedInClass (flags : Flags) (c : Char) : Bool := flags.unicode || c.toNat < 128

def charPart (c : Char) : ClassPart := ⟨.range c c, 0⟩

/-- One character or escape in a class. -/
def readClassAtom? (flags : Flags) : List Char → Option (Escape × List Char)
  | [] => none
  | '\\' :: rest => readEscape? flags rest
  | c :: rest => some (.char c, rest)

/-- The character after the next one, which is a hyphen, stepping over what does not count. -/
def afterHyphen (flags : Flags) (s : List Char) : Option Char :=
  if flags.verbose then
    match s.tail.dropWhile Text.isBlank with
    | '#' :: rest => (rest.dropWhile Text.isBlank).head?
    | rest => rest.head?
  else s.tail.head?

/-- A character, a range or an escape. A hyphen before a closing bracket or another hyphen makes no
range. -/
def readClassRange? (flags : Flags) (s : List Char) : Option (ClassPart × List Char) := do
  let (first, rest) ← readClassAtom? flags s
  let rest := flags.skip rest
  let next := afterHyphen flags rest
  if rest.isEmpty then none
  else if rest.head? != some '-' || next == some ']' || next == some '-' then
    match first with
    | .char c => if allowedInClass flags c then some (charPart c, rest) else none
    | .set set => some (⟨set, 0⟩, rest)
    | .look _ => none
  else
    let (last, rest) ← readClassAtom? flags (flags.skip rest.tail)
    match first, last with
    | .char first, .char last =>
      if first ≤ last && allowedInClass flags first && allowedInClass flags last then
        some (⟨.range first last, 0⟩, rest)
      else none
    | _, _ => none

/-- A named class inside a class, after its opening bracket: a colon, an optional negation, the
name, and a colon with a closing bracket. Nothing if the text has not this form. -/
def readAsciiClass? (s : List Char) : Option (Bool × CharSet × List Char) :=
  match s with
  | ':' :: rest =>
    let (negated, rest) := match rest with
      | '^' :: rest => (true, rest)
      | rest => (false, rest)
    match rest.dropWhile (· != ':') with
    | ':' :: ']' :: after =>
      (CharSet.asciiClass? (String.ofList (rest.takeWhile (· != ':')))).map fun set =>
        (negated, set, after)
    | _ => none
  | _ => none

/-- The hyphens that open a class stand for themselves; `fuel` bounds their number. -/
def readLeadingHyphens (flags : Flags) : (fuel : Nat) → OpenClass → List Char →
    OpenClass × List Char
  | 0, state, s => (state, s)
  | fuel + 1, state, '-' :: rest =>
    readLeadingHyphens flags fuel (state.push (charPart '-')) (flags.skip rest)
  | _, state, s => (state, s)

/-- The start of a class, after its opening bracket: a negation, hyphens, and, as the very first
character, a closing bracket that stands for itself. -/
def openClass? (flags : Flags) (s : List Char) : Option (OpenClass × List Char) :=
  let (negated, s) := match flags.skip s with
    | '^' :: rest => (true, flags.skip rest)
    | s => (false, s)
  let (state, s) := readLeadingHyphens flags s.length ⟨negated, none, []⟩ s
  let (state, s) := match state.parts, s with
    | [], ']' :: rest => (state.push (charPart ']'), flags.skip rest)
    | _, _ => (state, s)
  if s.isEmpty then none else some (state, s)

/-- Reads to the end of the outermost class. `outer` holds the classes around the current one,
innermost first, and `fuel` bounds the number of parts. -/
def readClassFrom? (flags : Flags) : (fuel : Nat) → OpenClass → (outer : List OpenClass) →
    List Char → Option (ClassPart × List Char)
  | 0, _, _, _ => none
  | fuel + 1, state, outer, s =>
    match flags.skip s with
    | [] => none
    | '[' :: rest =>
      match readAsciiClass? rest with
      | some (negated, set, rest) =>
        if negated && !flags.unicode then none
        else
          let set := complementIf negated (OpenClass.closeUnderCase flags set)
          readClassFrom? flags fuel (state.push ⟨set, 0⟩) outer rest
      | none =>
        match openClass? flags rest with
        | some (inner, rest) => readClassFrom? flags fuel inner (state :: outer) rest
        | none => none
    | ']' :: rest =>
      match state.close? flags, outer with
      | none, _ => none
      | some part, [] => some (part, rest)
      | some part, around :: outer => readClassFrom? flags fuel (around.push part) outer rest
    | '&' :: '&' :: rest =>
      readClassFrom? flags fuel (state.startOperand flags .intersection) outer rest
    | '-' :: '-' :: rest =>
      readClassFrom? flags fuel (state.startOperand flags .difference) outer rest
    | '~' :: '~' :: rest =>
      readClassFrom? flags fuel (state.startOperand flags .symmetricDifference) outer rest
    | s =>
      match readClassRange? flags s with
      | some (part, rest) => readClassFrom? flags fuel (state.push part) outer rest
      | none => none

/-- A class, after its opening bracket. -/
def readClass? (flags : Flags) (s : List Char) : Option (ClassPart × List Char) := do
  let (state, rest) ← openClass? flags s
  readClassFrom? flags (rest.length + 1) state [] rest

end ElementRules.Pattern
