import ElementRules.Proofs.Numerals
import ElementRules.Proofs.ShortestDecimal

/-!
# Stored numbers read back

The numerals of integers are read as what they were written for, and so are those of finite doubles,
if a reader takes the nearest double:

    (ofInt i).toInt? = some i                                           (toInt?_ofInt)
    ofDouble? x = some numeral → nearest? numeral = some x              (readsBack_nearest)

A double has the digits of its shortest decimal, laid out in one of four ways. All of them write
that decimal, with some zeros behind its digits (`Spells`), and these do not change what is read.
-/

namespace ElementRules

namespace Double

/-! ## Digits -/

theorem digitsValue_digitChars (n : Nat) : digitsValue (digitChars n) = n :=
  Numeral.wholeValue_ofNat n

theorem digitsValue_append_zeros (digits : List Char) (zeros : Nat) :
    digitsValue (digits ++ List.replicate zeros '0') = digitsValue digits * powerOfTen zeros := by
  induction zeros with
  | zero => rw [List.replicate_zero, List.append_nil, powerOfTen_zero, Nat.mul_one]
  | succ zeros ih =>
    rw [List.replicate_succ', ← List.append_assoc, digitsValue, List.foldl_concat, ← digitsValue,
      ih, powerOfTen_add, ← Nat.mul_assoc]
    rfl

theorem digitsValue_zeros_append (zeros : Nat) (digits : List Char) :
    digitsValue (List.replicate zeros '0' ++ digits) = digitsValue digits := by
  induction zeros with
  | zero => rfl
  | succ zeros ih => exact ih

end Double

namespace Numeral

/-! ## Integers -/

theorem WellFormed.withSign {numeral : Numeral} (h : numeral.WellFormed) (negative : Bool) :
    WellFormed { numeral with negative } :=
  ⟨h.whole_ne_nil, h.whole_digits, h.whole_zero, h.fraction_digits, h.exponent_ne_nil,
    h.exponent_digits⟩

theorem wellFormed_ofInt (i : Int) : (ofInt i).WellFormed :=
  (wellFormed_ofNat i.natAbs).withSign (i < 0)

/-- An integer of 64 bits is read from its numeral. -/
theorem toInt?_ofInt {i : Int} (hle : -2 ^ 63 ≤ i) (hlt : i < 2 ^ 63) :
    (ofInt i).toInt? = some i := by
  have hvalue : (ofInt i).wholeValue = i.natAbs := wholeValue_ofNat i.natAbs
  have hinteger : (ofInt i).isInteger = true := rfl
  have hsign : (ofInt i).negative = decide (i < 0) := rfl
  have hhalf : UInt64.size / 2 = 2 ^ 63 := by decide
  unfold toInt?
  simp only [hvalue, hinteger, hsign, hhalf, Bool.not_true, Bool.false_eq_true, if_false,
    decide_eq_true_eq, Bool.and_eq_true]
  split
  · rw [if_pos (by omega)]
    exact congrArg some (by omega)
  · rw [if_pos (by omega)]
    exact congrArg some (by omega)

/-! ## Layouts of a decimal -/

/-- The numeral is as the format has them, and writes the decimal with zeros behind its digits. -/
structure Spells (numeral : Numeral) (negative : Bool) (decimal : Double.Decimal)
    (zeros : Nat) : Prop where
  wellFormed : numeral.WellFormed
  negative_eq : numeral.negative = negative
  digits_eq : Double.digitsValue (numeral.whole ++ numeral.fraction) =
    decimal.digits * Double.powerOfTen zeros
  exponent_eq : numeral.exponentValue - numeral.fraction.length + zeros = decimal.exponent

theorem Spells.nearest?_eq {numeral : Numeral} {negative : Bool} {decimal : Double.Decimal}
    {zeros : Nat} (h : numeral.Spells negative decimal zeros) {x : Double}
    (hx : Double.ofDecimal negative decimal.digits decimal.exponent = x)
    (hfinite : x.isFinite = true) : numeral.nearest? = some x := by
  unfold nearest?
  dsimp only
  rw [h.negative_eq, h.digits_eq, Double.ofDecimal_mul_powerOfTen, h.exponent_eq, hx,
    if_pos hfinite]

section Layouts

open Double

variable {decimal : Decimal} (hpos : decimal.digits ≠ 0) (negative : Bool)

theorem isDigit_of_mem_digitChars {n : Nat} : ∀ c ∈ digitChars n, isDigit c = true :=
  (wellFormed_ofNat n).whole_digits

theorem isDigit_of_mem_zeros {zeros : Nat} : ∀ c ∈ List.replicate zeros '0', isDigit c = true := by
  intro c hc
  rw [List.eq_of_mem_replicate hc]
  rfl

theorem digitChars_ne_nil (n : Nat) : digitChars n ≠ [] := Nat.toDigits_ne_nil

/-- The point before the digits, and zeros between. -/
theorem spells_before (zeros : Nat)
    (h : -(zeros : Int) = (digitChars decimal.digits).length + decimal.exponent) :
    Spells ⟨negative, ['0'], List.replicate zeros '0' ++ digitChars decimal.digits, none⟩ negative
      decimal 0 where
  wellFormed :=
    { whole_ne_nil := List.cons_ne_nil _ _
      whole_digits := @isDigit_of_mem_zeros 1
      whole_zero := fun _ => rfl
      fraction_digits := List.forall_mem_append.2 ⟨isDigit_of_mem_zeros, isDigit_of_mem_digitChars⟩
      exponent_ne_nil := nofun
      exponent_digits := nofun }
  negative_eq := rfl
  digits_eq := by
    have hzero : ['0'] ++ (List.replicate zeros '0' ++ digitChars decimal.digits) =
        List.replicate (zeros + 1) '0' ++ digitChars decimal.digits := rfl
    rw [hzero, digitsValue_zeros_append, digitsValue_digitChars, powerOfTen_zero, Nat.mul_one]
  exponent_eq := by
    simp only [exponentValue, List.length_append, List.length_replicate]
    omega

include hpos

theorem head?_digitChars : '0' ∉ (digitChars decimal.digits).head? :=
  head?_toDigits (Nat.pos_of_ne_zero hpos)

/-- Digits with a cut behind one of them. -/
theorem wellFormed_cut {place : Nat} (hplace : place ≠ 0) {exponent : Option (Bool × List Char)}
    (hne : ∀ written ∈ exponent, written.2 ≠ [])
    (hdigits : ∀ written ∈ exponent, ∀ c ∈ written.2, isDigit c = true) :
    WellFormed ⟨negative, (digitChars decimal.digits).take place,
      (digitChars decimal.digits).drop place, exponent⟩ where
  whole_ne_nil := by
    rw [Ne, List.take_eq_nil_iff]
    exact not_or.2 ⟨hplace, digitChars_ne_nil _⟩
  whole_digits := fun c hc => isDigit_of_mem_digitChars c (List.mem_of_mem_take hc)
  whole_zero := by
    rw [List.head?_take, if_neg hplace]
    exact fun hzero => absurd hzero (head?_digitChars hpos)
  fraction_digits := fun c hc => isDigit_of_mem_digitChars c (List.mem_of_mem_drop hc)
  exponent_ne_nil := hne
  exponent_digits := hdigits

/-- A whole number, with a needless fraction. -/
theorem spells_whole (h : 0 ≤ decimal.exponent) :
    Spells ⟨negative, digitChars decimal.digits ++ List.replicate decimal.exponent.natAbs '0',
      ['0'], none⟩ negative decimal (decimal.exponent.natAbs + 1) where
  wellFormed :=
    { whole_ne_nil := List.append_ne_nil_of_left_ne_nil (digitChars_ne_nil _) _
      whole_digits := List.forall_mem_append.2 ⟨isDigit_of_mem_digitChars, isDigit_of_mem_zeros⟩
      whole_zero := by
        rw [List.head?_append_of_ne_nil _ (digitChars_ne_nil _)]
        exact fun hzero => absurd hzero (head?_digitChars hpos)
      fraction_digits := @isDigit_of_mem_zeros 1
      exponent_ne_nil := nofun
      exponent_digits := nofun }
  negative_eq := rfl
  digits_eq := by
    have hzeros : List.replicate decimal.exponent.natAbs '0' ++ ['0'] =
        List.replicate (decimal.exponent.natAbs + 1) '0' := List.replicate_succ'.symm
    rw [List.append_assoc, hzeros, digitsValue_append_zeros, digitsValue_digitChars]
  exponent_eq := by
    simp only [exponentValue, List.length_singleton]
    omega

/-- The point among the digits. -/
theorem spells_among (place : Nat) (hplace : place ≠ 0)
    (h : (place : Int) = (digitChars decimal.digits).length + decimal.exponent)
    (hexponent : decimal.exponent < 0) :
    Spells ⟨negative, (digitChars decimal.digits).take place,
      (digitChars decimal.digits).drop place, none⟩ negative decimal 0 where
  wellFormed := wellFormed_cut hpos negative hplace nofun nofun
  negative_eq := rfl
  digits_eq := by
    rw [List.take_append_drop, digitsValue_digitChars, powerOfTen_zero, Nat.mul_one]
  exponent_eq := by
    simp only [exponentValue, List.length_drop]
    omega

/-- The point after the first digit, and an exponent. -/
theorem spells_scientific (exponent : Int)
    (h : exponent + 1 = (digitChars decimal.digits).length + decimal.exponent) :
    Spells ⟨negative, (digitChars decimal.digits).take 1, (digitChars decimal.digits).drop 1,
      some (exponent < 0, digitChars exponent.natAbs)⟩ negative decimal 0 where
  wellFormed := by
    refine wellFormed_cut hpos negative Nat.one_ne_zero ?_ ?_
    · rintro written hwritten
      obtain rfl := Option.some.inj hwritten
      exact digitChars_ne_nil _
    · rintro written hwritten
      obtain rfl := Option.some.inj hwritten
      exact isDigit_of_mem_digitChars
  negative_eq := rfl
  digits_eq := by
    rw [List.take_append_drop, digitsValue_digitChars, powerOfTen_zero, Nat.mul_one]
  exponent_eq := by
    have hlength := List.length_pos_iff.2 (digitChars_ne_nil decimal.digits)
    simp only [exponentValue, List.length_drop, digitsValue_digitChars, decide_eq_true_eq]
    split
    · omega
    · omega

theorem spells_ofDecimal : ∃ zeros, (ofDecimal negative decimal).Spells negative decimal zeros := by
  unfold ofDecimal
  simp only [Bool.and_eq_true, decide_eq_true_eq]
  split
  · next h => exact ⟨_, spells_whole hpos negative h.1⟩
  · split
    · next hwhole h => exact ⟨_, spells_among hpos negative _ (by omega) (by omega) (by omega)⟩
    · split
      · next h => exact ⟨_, spells_before negative _ (by omega)⟩
      · exact ⟨_, spells_scientific hpos negative _ (by omega)⟩

end Layouts

/-! ## Doubles -/

/-- A finite double has a numeral, to which it is the nearest. -/
theorem exists_ofDouble? {x : Double} (h : x.isFinite = true) :
    ∃ numeral, ofDouble? x = some numeral ∧ numeral.WellFormed ∧ numeral.nearest? = some x := by
  cases x with
  | nan => cases h
  | infinite negative => cases h
  | finite negative steps hsteps =>
    by_cases hzero : steps = 0
    · subst hzero
      refine ⟨⟨negative, ['0'], ['0'], none⟩, rfl, ?_, ?_⟩
      · exact ⟨List.cons_ne_nil _ _, @isDigit_of_mem_zeros 1, fun _ => rfl, @isDigit_of_mem_zeros 1,
          nofun, nofun⟩
      · unfold nearest?
        rfl
    · obtain ⟨hpos, hreads⟩ := Double.ofDecimal_decimal hsteps hzero .even negative
      obtain ⟨zeros, hspells⟩ := spells_ofDecimal hpos negative
      refine ⟨_, ?_, hspells.wellFormed, hspells.nearest?_eq hreads h⟩
      unfold ofDouble?
      dsimp only
      rw [if_neg hzero]

theorem ofDouble?_eq_none {x : Double} (h : x.isFinite = false) : ofDouble? x = none := by
  cases x with
  | nan => rfl
  | infinite negative => rfl
  | finite negative steps hsteps => cases h

/-- What is asked of a reader: the numeral that was written for a double is read as that double. -/
def Reader.ReadsBack (reader : Reader) : Prop :=
  ∀ x numeral, ofDouble? x = some numeral → reader.toDouble? numeral = some x

theorem readsBack_nearest : nearestReader.ReadsBack := by
  intro x numeral hwritten
  cases hfinite : x.isFinite with
  | true =>
    obtain ⟨_, hnumeral, -, hread⟩ := exists_ofDouble? hfinite
    obtain rfl := Option.some.inj (hwritten.symm.trans hnumeral)
    exact hread
  | false =>
    rw [ofDouble?_eq_none hfinite] at hwritten
    cases hwritten

end Numeral

end ElementRules
