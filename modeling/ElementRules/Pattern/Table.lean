import ElementRules.Pattern.CharSet

/-!
Tables of character properties, kept as text. A table is a list of numbers, each written in base 32
with the most significant digit first; the last digit of a number is one of the first 32 letters of
the alphabet, every other digit one of the last 32.

* The table of a set holds the differences of its ascending boundaries.
* A `ValueTable` holds runs of equal value: the difference to the start of the run before, and the
  value.
-/

namespace ElementRules.Pattern

/-! ## Numbers as text -/

/-- The number that a letter of the alphabet stands for, from 0 to 63. -/
def letterValue (c : Char) : Nat :=
  if 'A' ≤ c && c ≤ 'Z' then c.toNat - 'A'.toNat
  else if 'a' ≤ c && c ≤ 'z' then c.toNat - 'a'.toNat + 26
  else if '0' ≤ c && c ≤ '9' then c.toNat - '0'.toNat + 52
  else if c == '+' then 62
  else 63

/-- The numbers of a text; `high` is what has been read of the next one. -/
def decodeNumbers (lines : List String) : Array Nat :=
  (lines.foldl
    (fun (state : Nat × Array Nat) line =>
      line.toList.foldl
        (fun (high, numbers) c =>
          let digit := letterValue c
          if digit < 32 then (0, numbers.push (high * 32 + digit))
          else (high * 32 + (digit - 32), numbers))
        state)
    (0, #[])).2

/-- The set whose boundaries have these differences. -/
def CharSet.decode (lines : List String) : CharSet :=
  ⟨((decodeNumbers lines).foldl
    (fun (last, boundaries) step => (last + step, boundaries.push (last + step))) (0, #[])).2⟩

/-! ## Tables of values -/

/-- Runs of equal value: where each starts, ascending from zero, and its value. -/
structure ValueTable where
  starts : Array Nat
  values : Array Nat

namespace ValueTable

/-- Reads a list of differences and values in turn. -/
def ofPairs (last : Nat) (table : ValueTable) : List Nat → ValueTable
  | step :: value :: rest =>
    ofPairs (last + step) ⟨table.starts.push (last + step), table.values.push value⟩ rest
  | _ => table

def decode (lines : List String) : ValueTable :=
  ofPairs 0 ⟨#[], #[]⟩ (decodeNumbers lines).toList

/-- The changes at which the values of a list of runs start or cease to pass the test; `inside` is
whether the value before does. -/
def changes (test : Nat → Bool) (inside : Bool) : List (Nat × Nat) → List Nat
  | [] => if inside then [0x110000] else []
  | (start, value) :: rest =>
    if test value == inside then changes test inside rest
    else start :: changes test (test value) rest

/-- The characters whose value passes the test. -/
def having (table : ValueTable) (test : Nat → Bool) : CharSet :=
  CharSet.everything.intersection
    ⟨(changes test false (table.starts.zip table.values).toList).toArray⟩

end ValueTable

end ElementRules.Pattern
