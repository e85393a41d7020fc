import ElementRules.Pattern.Bracket
import ElementRules.Pattern.Program.Assembly

/-!
Reading a pattern: alternatives of sequences of pieces, each with any number of repetitions after
it. Groups nest; flags that are set inside a group hold to its end, through all its alternatives.

A pattern is refused where the grammar fails, and also where it is nested too deeply
(`deepestNesting`) or would need too large a program to search for (`Expression.fits`).
-/

namespace ElementRules.Pattern

/-! ## Pieces -/

/-- A part of a pattern, and how deeply it is nested. -/
structure Piece where
  expression : Expression
  depth : Nat
  /-- A repetition may follow; it may not where flags were set. -/
  repeatable : Bool

def deepestNesting : Nat := 250

namespace Piece

def ofExpression (expression : Expression) : Piece := ⟨expression, 0, true⟩

def empty : Piece := ofExpression .empty

/-- Setting flags leaves a piece behind that matches the empty text. -/
def flagsSet : Piece := { empty with repeatable := false }

def look (condition : Look) : Piece := ofExpression (.look condition)

def ofSet (set : CharSet) : Piece := ofExpression (.ofSet set)

/-- A character; where case is ignored, every form of the same letter. -/
def char (flags : Flags) (c : Char) : Piece :=
  if !flags.ignoreCase then ofExpression (.literal [c])
  else if flags.unicode then ofSet (.ofCodes (letterForms c.toNat))
  else ofSet (CharSet.range c c).closeUnderAsciiCase

/-- Any character but a line end, or any at all. Without Unicode it could match a part of a
character, and is refused. -/
def dot? (flags : Flags) : Option Piece :=
  if !flags.unicode then none
  else
    let lineEnds : CharSet :=
      if flags.dotNewline then .nothing
      else if flags.anyLineEnd then .union (.range '\n' '\n') (.range '\r' '\r')
      else .range '\n' '\n'
    some (ofSet lineEnds.complement)

def lineStart (flags : Flags) : Piece :=
  look (if !flags.multiLine then .textStart
    else if flags.anyLineEnd then .anyLineStart else .lineStart)

def lineEnd (flags : Flags) : Piece :=
  look (if !flags.multiLine then .textEnd
    else if flags.anyLineEnd then .anyLineEnd else .lineEnd)

def greatestDepth (pieces : List Piece) : Nat :=
  pieces.foldl (fun depth piece => max depth piece.depth) 0

/-- One piece after the other; a lone piece stays as it is. -/
def sequence : List Piece → Piece
  | [] => empty
  | [piece] => piece
  | pieces => ⟨.sequenceOf (pieces.map (·.expression)), greatestDepth pieces + 1, true⟩

/-- One piece or another; a lone piece stays as it is. -/
def alternatives : List Piece → Piece
  | [] => empty
  | [piece] => piece
  | pieces =>
    ⟨.choiceOf deepestNesting (pieces.map (·.expression)), greatestDepth pieces + 1, true⟩

/-- A group; one with a place remembers what it matched. -/
def group (place : Option Nat) (piece : Piece) : Piece :=
  let expression := match place with
    | some place => .group place piece.expression
    | none => piece.expression
  ⟨expression, piece.depth + 1, true⟩

/-- A repetition from `least` to `most` times. -/
def repeated? (piece : Piece) (least : Nat) (most : Option Nat) (isLazy : Bool) : Option Piece :=
  if piece.repeatable then
    some ⟨.repeated least most isLazy piece.expression, piece.depth + 1, true⟩
  else none

end Piece

/-! ## The state of reading -/

/-- A group that is not closed yet: its place if it remembers what it matched, the flags to return
to, the finished alternatives and the pieces of the current one, both latest first. -/
structure OpenGroup where
  place : Option Nat
  outerFlags : Flags
  branches : List Piece
  pieces : List Piece

namespace OpenGroup

def push (group : OpenGroup) (piece : Piece) : OpenGroup :=
  { group with pieces := piece :: group.pieces }

def startBranch (group : OpenGroup) : OpenGroup :=
  { group with branches := Piece.sequence group.pieces.reverse :: group.branches, pieces := [] }

/-- The content of the group as one piece. -/
def content (group : OpenGroup) : Piece := Piece.alternatives group.startBranch.branches.reverse

end OpenGroup

structure Reader where
  flags : Flags
  current : OpenGroup
  /-- The groups around the current one, innermost first. -/
  outer : List OpenGroup
  /-- How many groups so far remember what they matched. -/
  places : Nat
  /-- The names of groups so far. -/
  names : List (List Char)

namespace Reader

def initial (ignoreCase : Bool) : Reader :=
  ⟨Flags.initial ignoreCase, ⟨none, Flags.initial ignoreCase, [], []⟩, [], 0, []⟩

def push (reader : Reader) (piece : Piece) : Reader :=
  { reader with current := reader.current.push piece }

/-- Opens a group that is read under the given flags. -/
def enter (reader : Reader) (place : Option Nat) (flags : Flags) : Reader :=
  { reader with
    flags
    current := ⟨place, reader.flags, [], []⟩
    outer := reader.current :: reader.outer }

/-- Opens a group that remembers what it matches. -/
def enterPlace (reader : Reader) : Reader :=
  { reader.enter (some reader.places) reader.flags with places := reader.places + 1 }

def leave? (reader : Reader) : Option Reader :=
  match reader.outer with
  | [] => none
  | around :: outer =>
    some { reader with
      flags := reader.current.outerFlags
      current := around.push (reader.current.content.group reader.current.place)
      outer }

/-- Puts a repetition on the last piece. A question mark right after its sign makes it lazy, or,
where the flags swap the two, makes it prefer more rounds. -/
def repeatLast? (reader : Reader) (least : Nat) (most : Option Nat) (rest : List Char) :
    Option (Reader × List Char) := do
  let (marked, rest) := match rest with
    | '?' :: rest => (true, rest)
    | rest => (false, rest)
  let last ← reader.current.pieces.head?
  let piece ← last.repeated? least most (marked != reader.flags.swapGreed)
  some ({ reader with
    current := { reader.current with pieces := piece :: reader.current.pieces.tail } }, rest)

/-! ## Groups -/

/-- A group with a name, after the opening angle bracket. No two groups share a name. -/
def readNamed? (reader : Reader) (s : List Char) : Option (Reader × List Char) :=
  let name := s.takeWhile (· != '>')
  match s.dropWhile (· != '>') with
  | _ :: rest =>
    let wellFormed := match name with
      | [] => false
      | c :: others => isNameChar true c && others.all (isNameChar false)
    if wellFormed && !reader.names.contains name then
      some ({ reader.enterPlace with names := name :: reader.names }, rest)
    else none
  | [] => none

/-- What follows an opening parenthesis. Looking ahead or behind is not part of the language. -/
def readGroup? (reader : Reader) (s : List Char) : Option (Reader × List Char) :=
  match reader.flags.skip s with
  | '?' :: 'P' :: '<' :: rest => reader.readNamed? rest
  | '?' :: '<' :: rest =>
    if rest.head? == some '=' || rest.head? == some '!' then none else reader.readNamed? rest
  | '?' :: rest =>
    match reader.flags.readLetters [] true false rest with
    | some (flags, _, true, rest) => some (reader.enter none flags, rest)
    | some (flags, true, false, rest) =>
      some ({ reader with flags }.push Piece.flagsSet, rest)
    | _ => none
  | rest => some (reader.enterPlace, rest)

/-! ## The whole pattern -/

/-- Reads one piece or sign, of which `c` is the first character. -/
def read? (reader : Reader) (c : Char) (rest : List Char) : Option (Reader × List Char) :=
  match c with
  | '(' => reader.readGroup? rest
  | ')' => reader.leave?.map (·, rest)
  | '|' => some ({ reader with current := reader.current.startBranch }, rest)
  | '[' => (readClass? reader.flags rest).map fun (part, rest) =>
      (reader.push { Piece.ofSet part.set with depth := part.depth }, rest)
  | '?' => reader.repeatLast? 0 (some 1) rest
  | '*' => reader.repeatLast? 0 none rest
  | '+' => reader.repeatLast? 1 none rest
  | '\x7b' => do
    let (least, most, rest) ← readCounts? reader.flags rest
    reader.repeatLast? least most (reader.flags.skip rest)
  | '\\' => (readEscape? reader.flags rest).map fun (escape, rest) =>
      let piece := match escape with
        | .char c => Piece.char reader.flags c
        | .set set => Piece.ofSet set
        | .look condition => Piece.look condition
      (reader.push piece, rest)
  | '.' => (Piece.dot? reader.flags).map fun piece => (reader.push piece, rest)
  | '^' => some (reader.push (Piece.lineStart reader.flags), rest)
  | '$' => some (reader.push (Piece.lineEnd reader.flags), rest)
  | _ => some (reader.push (Piece.char reader.flags c), rest)

/-- All groups are closed, and the pattern keeps the limits. -/
def finish? (reader : Reader) : Option Regex :=
  let piece := reader.current.content
  if reader.outer.isEmpty && piece.depth ≤ deepestNesting && piece.expression.fits then
    some piece.expression.regex
  else none

/-- Reads to the end of the pattern; `fuel` bounds the number of pieces and signs. -/
def readFrom? : (fuel : Nat) → Reader → List Char → Option Regex
  | 0, _, _ => none
  | fuel + 1, reader, s =>
    match reader.flags.skip s with
    | [] => reader.finish?
    | c :: rest =>
      match reader.read? c rest with
      | some (reader, rest) => readFrom? fuel reader rest
      | none => none

end Reader

end ElementRules.Pattern
