import ElementRules.Pattern.CharSet
import ElementRules.Pattern.Table.Folding

/-!
Sets of characters closed under case: with a character they contain every other form of the same
letter. Two characters are forms of one letter when they fold to the same one.
-/

namespace ElementRules.Pattern

/-- The forms of the letter with this code point; a character without case is the only one. -/
def letterForms (code : Nat) : List Nat :=
  let folded := ((foldings.find? (·.1 == code)).map (·.2)).getD code
  folded :: (foldings.filter (·.2 == folded)).map (·.1)

/-- The other case of a letter from A to Z. -/
def swapAsciiCase (c : Char) : Char := if c.isUpper then c.toLower else c.toUpper

def asciiLetters : List Char :=
  ['A', 'B', 'C', 'D', 'E', 'F', 'G', 'H', 'I', 'J', 'K', 'L', 'M', 'N', 'O', 'P', 'Q', 'R', 'S',
    'T', 'U', 'V', 'W', 'X', 'Y', 'Z', 'a', 'b', 'c', 'd', 'e', 'f', 'g', 'h', 'i', 'j', 'k', 'l',
    'm', 'n', 'o', 'p', 'q', 'r', 's', 't', 'u', 'v', 'w', 'x', 'y', 'z']

namespace CharSet

/-- Adds everything that differs from a member in case only. -/
def closeUnderCase (set : CharSet) : CharSet :=
  let folded := ofCodes (foldings.filterMap fun (code, target) =>
    if set.containsCode code || set.containsCode target then some target else none)
  let others := ofCodes (foldings.filterMap fun (code, target) =>
    if folded.containsCode target then some code else none)
  set.union (folded.union others)

/-- The same for the letters A to Z alone. -/
def closeUnderAsciiCase (set : CharSet) : CharSet :=
  set.union (ofCodes ((asciiLetters.filter fun c => set.contains (swapAsciiCase c)).map (·.toNat)))

end CharSet

end ElementRules.Pattern
