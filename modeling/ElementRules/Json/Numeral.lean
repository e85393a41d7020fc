import ElementRules.Double.Decimal

/-!
Numbers of the JSON format, as they are written: `Numeral` keeps the digits, and what they mean
depends on what is asked for.

* An integer has neither fraction nor exponent, and is in range.
* How near a double comes to the number is up to who reads it (`Numeral.Reader`). Where nobody says
  otherwise it is the nearest one, however long the numeral is, and a number beyond the range of the
  doubles is refused.
* A finite double is written with its shortest digits, the even ones on a tie: positionally and with
  a fraction from `1e-5` up to `1e16`, and elsewhere with an exponent that has a sign.
-/

namespace ElementRules

structure Numeral where
  negative : Bool
  /-- The digits before the point, most significant first. -/
  whole : List Char
  /-- The digits after the point; none where there is no point. -/
  fraction : List Char
  /-- Whether the exponent is negative, and its digits. -/
  exponent : Option (Bool × List Char)
deriving DecidableEq, Repr

namespace Numeral

/-! ## Text -/

def chars (numeral : Numeral) : List Char :=
  let sign := if numeral.negative then ['-'] else []
  let fraction := if numeral.fraction.isEmpty then [] else '.' :: numeral.fraction
  let exponent := match numeral.exponent with
    | none => []
    | some (negative, digits) => 'e' :: (if negative then '-' else '+') :: digits
  sign ++ numeral.whole ++ fraction ++ exponent

/-- The digits at the start of a text, and the rest of it. -/
def takeDigits (s : List Char) : List Char × List Char :=
  (s.takeWhile Double.isDigit, s.dropWhile Double.isDigit)

/-- The exponent part, if there is one; after its letter there must be a digit. -/
def readExponent? (s : List Char) : Option (Option (Bool × List Char) × List Char) :=
  match s with
  | c :: rest =>
    if c == 'e' || c == 'E' then
      let (negative, rest) := Double.splitSign rest
      let (digits, rest) := takeDigits rest
      if digits.isEmpty then none else some (some (negative, digits), rest)
    else some (none, s)
  | [] => some (none, s)

/-- The fraction, if there is one; after the point there must be a digit. -/
def readFraction? (s : List Char) : Option (List Char × List Char) :=
  match s with
  | '.' :: rest =>
    let (digits, rest) := takeDigits rest
    if digits.isEmpty then none else some (digits, rest)
  | _ => some ([], s)

/-- Splits a minus off. -/
def splitMinus : List Char → Bool × List Char
  | '-' :: rest => (true, rest)
  | s => (false, s)

/-- The digits before the point: a zero alone, or digits that do not start with one. -/
def takeWhole : List Char → List Char × List Char
  | '0' :: rest => (['0'], rest)
  | s => takeDigits s

/-- The numeral at the start of a text. -/
def read? (s : List Char) : Option (Numeral × List Char) :=
  let (negative, rest) := splitMinus s
  let (whole, rest) := takeWhole rest
  if whole.isEmpty then none
  else do
    let (fraction, rest) ← readFraction? rest
    let (exponent, rest) ← readExponent? rest
    some (⟨negative, whole, fraction, exponent⟩, rest)

/-! ## Integers -/

def isInteger (numeral : Numeral) : Bool := numeral.fraction.isEmpty && numeral.exponent.isNone

def wholeValue (numeral : Numeral) : Nat := Double.digitsValue numeral.whole

/-- An unsigned integer below a bound. A sign is refused even on zero. -/
def toNat? (bound : Nat) (numeral : Numeral) : Option Nat :=
  if numeral.isInteger && !numeral.negative && numeral.wholeValue < bound then
    some numeral.wholeValue
  else none

/-- A signed integer of 64 bits. Zero takes no sign. -/
def toInt? (numeral : Numeral) : Option Int :=
  let n := numeral.wholeValue
  if !numeral.isInteger then none
  else if numeral.negative then
    if 0 < n && n ≤ UInt64.size / 2 then some (-(n : Int)) else none
  else if n < UInt64.size / 2 then some n else none

def ofNat (n : Nat) : Numeral := ⟨false, Double.digitChars n, [], none⟩

def ofInt (i : Int) : Numeral := ⟨i < 0, Double.digitChars i.natAbs, [], none⟩

/-! ## Reading doubles -/

/-- The power of ten that the exponent part writes. -/
def exponentValue (numeral : Numeral) : Int :=
  match numeral.exponent with
  | none => 0
  | some (negative, digits) =>
    if negative then -(Double.digitsValue digits : Int) else Double.digitsValue digits

/-- A way of reading doubles: the format says which number a numeral writes, and not how near to it
a reader comes. -/
class Reader where
  toDouble? : Numeral → Option Double

/-- The double nearest to the number, if that is finite. -/
def nearest? (numeral : Numeral) : Option Double :=
  let x := Double.ofDecimal numeral.negative
    (Double.digitsValue (numeral.whole ++ numeral.fraction))
    (numeral.exponentValue - numeral.fraction.length)
  if x.isFinite then some x else none

instance nearestReader : Reader := ⟨nearest?⟩

/-! ## Writing doubles -/

/-- The digits of a decimal, with the point where it belongs in `1e-5` to `1e16`, and after the
first digit elsewhere. -/
def ofDecimal (negative : Bool) (decimal : Double.Decimal) : Numeral :=
  let digits := Double.digitChars decimal.digits
  let point : Int := digits.length + decimal.exponent
  if 0 ≤ decimal.exponent && point ≤ 16 then
    ⟨negative, digits ++ List.replicate decimal.exponent.natAbs '0', ['0'], none⟩
  else if 0 < point && point ≤ 16 then
    ⟨negative, digits.take point.natAbs, digits.drop point.natAbs, none⟩
  else if -5 < point && point ≤ 0 then
    ⟨negative, ['0'], List.replicate point.natAbs '0' ++ digits, none⟩
  else
    let exponent := point - 1
    ⟨negative, digits.take 1, digits.drop 1, some (exponent < 0, Double.digitChars exponent.natAbs)⟩

/-- The numeral of a finite double. -/
def ofDouble? : Double → Option Numeral
  | .finite negative steps _ =>
    some (if steps = 0 then ⟨negative, ['0'], ['0'], none⟩
      else ofDecimal negative (Double.decimal .even steps))
  | _ => none

end Numeral

end ElementRules
