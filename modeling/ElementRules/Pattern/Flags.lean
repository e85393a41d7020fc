import ElementRules.Text.Blank

/-!
The flags of a pattern, and reading under them. In a verbose pattern, blanks and comments between
the parts count for nothing: `Flags.skip` steps over them.
-/

namespace ElementRules.Pattern

structure Flags where
  ignoreCase : Bool
  /-- The line anchors match at every line. -/
  multiLine : Bool
  /-- The dot matches a line feed too. -/
  dotNewline : Bool
  /-- A carriage return ends a line too. -/
  anyLineEnd : Bool
  /-- Classes and case are those of all characters, and not of the first 128 alone. -/
  unicode : Bool
  verbose : Bool
  /-- Repetitions prefer fewer rounds, and those marked as lazy prefer more. -/
  swapGreed : Bool
deriving DecidableEq, Repr

namespace Flags

/-- The flags before anything is read. -/
def initial (ignoreCase : Bool) : Flags := ⟨ignoreCase, false, false, false, true, false, false⟩

/-- Turns the flag with this letter on or off. -/
def set? (flags : Flags) (letter : Char) (on : Bool) : Option Flags :=
  match letter with
  | 'i' => some { flags with ignoreCase := on }
  | 'm' => some { flags with multiLine := on }
  | 's' => some { flags with dotNewline := on }
  | 'R' => some { flags with anyLineEnd := on }
  | 'u' => some { flags with unicode := on }
  | 'x' => some { flags with verbose := on }
  | 'U' => some { flags with swapGreed := on }
  | _ => none

/-- Steps over blanks and comments; a comment ends with its line. -/
def skipBlanks (inComment : Bool) : List Char → List Char
  | [] => []
  | c :: rest =>
    if inComment then skipBlanks (c != '\n') rest
    else if Text.isBlank c then skipBlanks false rest
    else if c == '#' then skipBlanks true rest
    else c :: rest

/-- Steps over what does not count. -/
def skip (flags : Flags) (s : List Char) : List Char :=
  if flags.verbose then skipBlanks false s else s

/-- The longest run of characters that pass the test, stepping over what does not count after each;
`fuel` bounds its length. -/
def takeRun (flags : Flags) (test : Char → Bool) : (fuel : Nat) → List Char → List Char × List Char
  | 0, s => ([], s)
  | _, [] => ([], [])
  | fuel + 1, c :: rest =>
    if test c then
      let (run, rest) := takeRun flags test fuel (flags.skip rest)
      (c :: run, rest)
    else ([], c :: rest)

/-- The letters of a group of flags up to its end, which is a colon or a closing parenthesis: the
flags, whether there was any letter, whether a colon ended them, and the rest. No letter is
repeated, and a hyphen, which turns the letters after it off, has at least one letter after it. -/
def readLetters (flags : Flags) (seen : List Char) (on afterHyphen : Bool) :
    List Char → Option (Flags × Bool × Bool × List Char)
  | [] => none
  | c :: rest =>
    if c == ':' || c == ')' then
      if afterHyphen then none else some (flags, !seen.isEmpty, c == ':', rest)
    else if seen.contains c then none
    else if c == '-' then readLetters flags (c :: seen) false true rest
    else match flags.set? c on with
      | some flags => readLetters flags (c :: seen) on false rest
      | none => none

end Flags

end ElementRules.Pattern
