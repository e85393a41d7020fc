import ElementRules.Double

/-!
Decimals and doubles.

* `Double.ofDecimal` is the double nearest to `digits · 10 ^ exponent`, however long the digits are.
* `Double.ofText?` reads a number as it is typed: an optional sign, then digits with at most one
  point and an optional exponent, or one of the words `inf`, `infinity` and `nan` in any case.
* `Double.decimal` is the shortest decimal that reads back to the same double, and the nearest of
  those; of two that are equally near, a `Tie` chooses. `Double.toText` writes it positionally, with
  no exponent and no needless fraction, and takes the larger of two.
-/

namespace ElementRules

namespace Double

/-! ## Reading -/

def powerOfTen (exponent : Nat) : Nat := Nat.pow 10 exponent

/-- The double nearest to `digits · 10 ^ exponent`. Exponents far outside the range of the doubles
are settled without computing the power: from `10 ^ 400` on every positive number overflows, and a
number that is a power of two below the smallest step by a wide margin rounds to zero. -/
def ofDecimal (negative : Bool) (digits : Nat) (exponent : Int) : Double :=
  if digits = 0 then zero negative
  else if 0 ≤ exponent then
    if 400 < exponent then .infinite negative
    else ofRatio negative (digits * powerOfTen exponent.natAbs * stepsPerUnit) 1
  else if digits.log2 + 1100 < exponent.natAbs then zero negative
  else ofRatio negative (digits * stepsPerUnit) (powerOfTen exponent.natAbs)

def isDigit (c : Char) : Bool := '0' ≤ c && c ≤ '9'

/-- The number that a list of decimal digits writes. -/
def digitsValue (digits : List Char) : Nat :=
  digits.foldl (fun value c => value * 10 + (c.toNat - '0'.toNat)) 0

/-- Splits an optional sign off: true for a minus. -/
def splitSign : List Char → Bool × List Char
  | '-' :: rest => (true, rest)
  | '+' :: rest => (false, rest)
  | s => (false, s)

/-- The exponent part after the digits: nothing, or the letter e, an optional sign and digits. -/
def exponentOf? : List Char → Option Int
  | [] => some 0
  | c :: rest =>
    if c == 'e' || c == 'E' then
      let (negative, digits) := splitSign rest
      if digits.isEmpty || !digits.all isDigit then none
      else some (if negative then -(digitsValue digits : Int) else digitsValue digits)
    else none

/-- Digits, at most one point among or beside them, and an exponent part. -/
def ofUnsigned? (negative : Bool) (s : List Char) : Option Double :=
  let whole := s.takeWhile isDigit
  let rest := s.dropWhile isDigit
  let (fraction, rest) := match rest with
    | '.' :: rest => (rest.takeWhile isDigit, rest.dropWhile isDigit)
    | rest => ([], rest)
  if whole.isEmpty && fraction.isEmpty then none
  else (exponentOf? rest).map fun exponent =>
    ofDecimal negative (digitsValue (whole ++ fraction)) (exponent - fraction.length)

def ofChars? (s : List Char) : Option Double :=
  let (negative, rest) := splitSign s
  let word := String.ofList (rest.map Char.toLower)
  if word == "inf" || word == "infinity" then some (.infinite negative)
  else if word == "nan" then some .nan
  else ofUnsigned? negative rest

def ofText? (s : String) : Option Double := ofChars? s.toList

/-! ## The shortest decimal -/

/-- A magnitude written as `digits · 10 ^ exponent`. -/
structure Decimal where
  digits : Nat
  exponent : Int
deriving DecidableEq, Repr

/-- `steps` reach `10 ^ exponent`. -/
def reachesPower (steps : Nat) (exponent : Int) : Bool :=
  if 0 ≤ exponent then powerOfTen exponent.natAbs * stepsPerUnit ≤ steps
  else stepsPerUnit ≤ steps * powerOfTen exponent.natAbs

/-- The least power of ten above a positive magnitude: an estimate from the binary logarithm, never
too high, and then at most three corrections. -/
def powerAbove (steps : Nat) : Int :=
  let estimate := ((steps.log2 : Int) - 1074) * 30103 / 100000
  let raise (p : Int) : Int := if reachesPower steps p then p + 1 else p
  raise (raise (raise estimate))

/-- Which of two equally near decimals is taken. -/
inductive Tie
  | larger
  /-- The one whose last digit is even. -/
  | even
deriving DecidableEq, Repr

/-- The grid point `10 ^ exponent` times the result is the last one not above the magnitude; the
flag tells that the next one is nearer, or as near and chosen. -/
def gridBelow (tie : Tie) (steps : Nat) (exponent : Int) : Nat × Bool :=
  let (num, den) :=
    if 0 ≤ exponent then (steps, powerOfTen exponent.natAbs * stepsPerUnit)
    else (steps * powerOfTen exponent.natAbs, stepsPerUnit)
  let low := num / den
  let rest := 2 * (num % den)
  (low, den < rest || (rest == den && (tie == .larger || low % 2 == 1)))

/-- `digits · 10 ^ exponent` reads back to the magnitude. -/
def readsBack (steps digits : Nat) (exponent : Int) : Bool :=
  match ofDecimal false digits exponent with
  | .finite _ read _ => read == steps
  | _ => false

/-- Of the two points of one decimal grid around a magnitude, the one that reads back; of two such
points the nearer. -/
def onGrid? (tie : Tie) (steps : Nat) (exponent : Int) : Option Decimal :=
  let (low, upNearer) := gridBelow tie steps exponent
  let first := if upNearer then low + 1 else low
  let second := if upNearer then low else low + 1
  if readsBack steps first exponent then some ⟨first, exponent⟩
  else if readsBack steps second exponent then some ⟨second, exponent⟩
  else none

/-- The coarsest grid with a hit, from one digit to seventeen. -/
def shortest (tie : Tie) (steps : Nat) : Decimal :=
  let above := powerAbove steps
  match (List.range 17).findSome? fun (i : Nat) => onGrid? tie steps (above - 1 - i) with
  | some decimal => decimal
  | none => ⟨(gridBelow tie steps (above - 17)).1, above - 17⟩

/-- Moves the trailing zeros of the digits into the exponent; `fuel` bounds their number. -/
def Decimal.strip : (fuel : Nat) → Decimal → Decimal
  | 0, d => d
  | fuel + 1, d =>
    if d.digits ≠ 0 ∧ d.digits % 10 = 0 then Decimal.strip fuel ⟨d.digits / 10, d.exponent + 1⟩
    else d

/-- The shortest decimal of a magnitude, without trailing zeros. -/
def decimal (tie : Tie) (steps : Nat) : Decimal := (shortest tie steps).strip 20

/-! ## Writing -/

/-- The digits of a number, most significant first. -/
def digitChars (n : Nat) : List Char := Nat.toDigits 10 n

/-- Digits with the point where it belongs: before the digits, among them or after them. -/
def positional (d : Decimal) : List Char :=
  let digits := digitChars d.digits
  let point : Int := digits.length + d.exponent
  if 0 ≤ d.exponent then digits ++ List.replicate d.exponent.natAbs '0'
  else if 0 < point then digits.take point.natAbs ++ '.' :: digits.drop point.natAbs
  else '0' :: '.' :: (List.replicate point.natAbs '0' ++ digits)

def signed (negative : Bool) (s : List Char) : String :=
  String.ofList (if negative then '-' :: s else s)

/-- Every digit is written out; a whole number has no fraction, and zero keeps its sign. -/
def toText : Double → String
  | .nan => "NaN"
  | .infinite negative => signed negative ['i', 'n', 'f']
  | .finite negative steps _ =>
    signed negative (if steps = 0 then ['0'] else positional (decimal .larger steps))

end Double

end ElementRules
