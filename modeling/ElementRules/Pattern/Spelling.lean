import ElementRules.Pattern.CharSet

/-!
How the members of a set are spelled in UTF-8. `CharSet.spellings` covers a set with sequences of
byte ranges: a text of bytes spells a member when its bytes lie in the ranges of one sequence, in
order. The sequences ascend and none overlaps another.
-/

namespace ElementRules.Pattern

/-- The bytes from the first to the last, both included. -/
abbrev ByteRange := Nat × Nat

/-- The bytes that spell a code point. -/
def utf8Bytes (code : Nat) : List Nat :=
  if code < 0x80 then [code]
  else if code < 0x800 then [0xC0 + code / 64, 0x80 + code % 64]
  else if code < 0x10000 then [0xE0 + code / 4096, 0x80 + code / 64 % 64, 0x80 + code % 64]
  else
    [0xF0 + code / 262144, 0x80 + code / 4096 % 64, 0x80 + code / 64 % 64, 0x80 + code % 64]

/-- Cuts a range of code points at the borders of blocks so that, of every part, the code points
share their first bytes and run through all values of the bytes after the first that differs. The
blocks are those of one byte at the end, of two, and of three. -/
def cutAtBlocks : (blocks : List Nat) → (first last : Nat) → List (Nat × Nat)
  | [], first, last => [(first, last)]
  | block :: blocks, first, last =>
    if first / block = last / block then [(first, last)]
    else
      let (head, first) :=
        if first % block = 0 then ([], first)
        else
          let next := (first / block + 1) * block
          ([(first, next - 1)], next)
      if first / block = last / block then head ++ [(first, last)]
      else
        let (tail, last) :=
          if last % block = block - 1 then ([], last)
          else
            let start := last / block * block
            ([(start, last)], start - 1)
        head ++ cutAtBlocks blocks first last ++ tail

/-- The parts of a range of code points that are spelled with one, two, three and four bytes. -/
def cutAtLengths (first last : Nat) : List (Nat × Nat) :=
  [(0, 0x7F), (0x80, 0x7FF), (0x800, 0xFFFF), (0x10000, 0x10FFFF)].filterMap fun (low, high) =>
    let low := max first low
    let high := min last high
    if low ≤ high then some (low, high) else none

/-- The sequences of byte ranges for a range of code points. A single byte has no block to cut. -/
def spellRange (range : Nat × Nat) : List (List ByteRange) :=
  (cutAtLengths range.1 range.2).flatMap fun (first, last) =>
    let blocks := if last < 0x80 then [] else [64, 4096, 262144]
    (cutAtBlocks blocks first last).map fun (first, last) =>
      (utf8Bytes first).zip (utf8Bytes last)

def CharSet.spellings (set : CharSet) : List (List ByteRange) := set.ranges.flatMap spellRange

end ElementRules.Pattern
