import ElementRules.Pattern.Property

/-!
Regular expressions and the search for them in a text.

An expression carries its own state of search: a symbol is *active* when some way of reading the
text so far has just consumed that symbol. One step (`Regex.step`) looks at the characters before
and after the current position and tells whether the expression can match the empty text here,
whether an active symbol can reach its end here, and what it looks like after the next character. A
search does one step per character, entering the expression anew at every position, and never goes
back.
-/

namespace ElementRules.Pattern

/-! ## Conditions on a position -/

inductive Look
  | textStart
  | textEnd
  | lineStart
  | lineEnd
  /-- Line ends are a carriage return, a line feed, or the two in this order. -/
  | anyLineStart
  | anyLineEnd
  | boundary (unicode : Bool)
  | noBoundary (unicode : Bool)
  | wordStart (unicode : Bool)
  | wordEnd (unicode : Bool)
  /-- No word character before. -/
  | halfStart (unicode : Bool)
  /-- No word character after. -/
  | halfEnd (unicode : Bool)
deriving DecidableEq, Repr

namespace Look

/-- There is a neighbour, and it belongs to a word. -/
def inWord (unicode : Bool) (neighbour : Option Char) : Bool :=
  match neighbour with
  | none => false
  | some c => if unicode then isWordChar c else isAsciiWordChar c

def holds (look : Look) (before after : Option Char) : Bool :=
  match look with
  | .textStart => before.isNone
  | .textEnd => after.isNone
  | .lineStart => before.isNone || before == some '\n'
  | .lineEnd => after.isNone || after == some '\n'
  | .anyLineStart =>
    before.isNone || before == some '\n' || (before == some '\r' && after != some '\n')
  | .anyLineEnd =>
    after.isNone || after == some '\r' || (after == some '\n' && before != some '\r')
  | .boundary unicode => inWord unicode before != inWord unicode after
  | .noBoundary unicode => inWord unicode before == inWord unicode after
  | .wordStart unicode => !inWord unicode before && inWord unicode after
  | .wordEnd unicode => inWord unicode before && !inWord unicode after
  | .halfStart unicode => !inWord unicode before
  | .halfEnd unicode => !inWord unicode after

end Look

/-! ## Expressions -/

/-- What one symbol accepts. -/
inductive Symbol
  | exactly (c : Char)
  | oneOf (set : CharSet)

def Symbol.accepts : Symbol → Char → Bool
  | .exactly a, c => a == c
  | .oneOf set, c => set.contains c

inductive Regex
  | empty
  | look (condition : Look)
  | symbol (active : Bool) (accepting : Symbol)
  | seq (a b : Regex)
  | alt (a b : Regex)
  /-- One or more times. -/
  | plus (a : Regex)

namespace Regex

/-! ## Search -/

/-- What a position shows of an expression. -/
structure Step where
  /-- Matches the empty text here. -/
  nullable : Bool
  /-- An active symbol reaches the end of the expression here. -/
  final : Bool
  /-- The expression after the next character, entered here or not. -/
  next : (entered : Bool) → Regex

def step (before after : Option Char) : Regex → Step
  | .empty => ⟨true, false, fun _ => .empty⟩
  | .look condition => ⟨condition.holds before after, false, fun _ => .look condition⟩
  | .symbol active accepting =>
    let accepted := match after with
      | some c => accepting.accepts c
      | none => false
    ⟨false, active, fun entered => .symbol (entered && accepted) accepting⟩
  | .seq a b =>
    let x := step before after a
    let y := step before after b
    ⟨x.nullable && y.nullable, (x.final && y.nullable) || y.final,
      fun entered => .seq (x.next entered) (y.next (x.final || (entered && x.nullable)))⟩
  | .alt a b =>
    let x := step before after a
    let y := step before after b
    ⟨x.nullable || y.nullable, x.final || y.final,
      fun entered => .alt (x.next entered) (y.next entered)⟩
  | .plus a =>
    let x := step before after a
    ⟨x.nullable, x.final, fun entered => .plus (x.next (entered || x.final))⟩

/-- A match ends at the current position or a later one; `before` is the character before it. -/
def foundFrom (regex : Regex) (before : Option Char) : List Char → Bool
  | [] =>
    let here := regex.step before none
    here.nullable || here.final
  | c :: rest =>
    let here := regex.step before (some c)
    here.nullable || here.final || foundFrom (here.next true) (some c) rest

/-- The expression matches some part of the text. -/
def foundIn (regex : Regex) (s : List Char) : Bool := foundFrom regex none s

/-! ## Repetition -/

def optional (a : Regex) : Regex := .alt .empty a

def star (a : Regex) : Regex := .alt .empty (.plus a)

/-- `n` copies in sequence, halved at every level so that the depth stays small. -/
def copies (a : Regex) (n : Nat) : Regex :=
  if n = 0 then .empty
  else if n = 1 then a
  else if n % 2 = 0 then .seq (copies a (n / 2)) (copies a (n / 2))
  else .seq a (.seq (copies a (n / 2)) (copies a (n / 2)))
termination_by n
decreasing_by all_goals omega

/-- From `least` to `most` times, or any number from `least` on. -/
def repeated (a : Regex) (least : Nat) (most : Option Nat) : Regex :=
  match most with
  | some most => .seq (copies a least) (copies (optional a) (most - least))
  | none => if least = 0 then star a else .seq (copies a (least - 1)) (.plus a)

def sequence (parts : List Regex) : Regex := parts.foldr .seq .empty

end Regex

end ElementRules.Pattern
