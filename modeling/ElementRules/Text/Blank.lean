/-!
Code point ranges, and the blank characters: the code points of the White_Space property.
Trimming removes them from both ends of a text and nothing from its inside.
-/

namespace ElementRules.Text

/-- The code point lies in one of the closed ranges. -/
def inRanges (ranges : List (Nat × Nat)) (code : Nat) : Bool :=
  ranges.any fun range => range.1 ≤ code && code ≤ range.2

/-- The White_Space property, ascending. -/
def blankRanges : List (Nat × Nat) := [
  (0x9, 0xD), (0x20, 0x20), (0x85, 0x85), (0xA0, 0xA0), (0x1680, 0x1680), (0x2000, 0x200A),
  (0x2028, 0x2029), (0x202F, 0x202F), (0x205F, 0x205F), (0x3000, 0x3000)]

def isBlank (c : Char) : Bool := inRanges blankRanges c.toNat

/-- A list of characters without its leading and trailing blanks. -/
def trimChars (s : List Char) : List Char :=
  ((s.dropWhile isBlank).reverse.dropWhile isBlank).reverse

/-- A text without its leading and trailing blanks. -/
def trim (s : String) : String := String.ofList (trimChars s.toList)

/-- Equality up to the case of the letters A to Z. -/
def equalUpToAsciiCase (a b : String) : Bool :=
  a.toList.map Char.toLower == b.toList.map Char.toLower

end ElementRules.Text
