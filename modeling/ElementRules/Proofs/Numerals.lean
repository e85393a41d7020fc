import ElementRules.Json.Numeral
import Mathlib.Data.List.Basic

/-!
# Numerals read back

A numeral that is as the format has them (`WellFormed`) is read from its text, up to its end:

    WellFormed numeral → EndsBefore rest →
      read? (numeral.chars ++ rest) = some (numeral, rest)      (read?_chars)

The numeral of a natural number is one of these, and means the number (`toNat?_ofNat`).
-/

namespace ElementRules

/-! ## Numerals -/

namespace Numeral

/-- The digits are as the format has them: some before the point, without a needless zero, and some
in an exponent, if there is one. -/
structure WellFormed (numeral : Numeral) : Prop where
  whole_ne_nil : numeral.whole ≠ []
  whole_digits : ∀ c ∈ numeral.whole, Double.isDigit c = true
  whole_zero : numeral.whole.head? = some '0' → numeral.whole = ['0']
  fraction_digits : ∀ c ∈ numeral.fraction, Double.isDigit c = true
  exponent_ne_nil : ∀ exponent ∈ numeral.exponent, exponent.2 ≠ []
  exponent_digits : ∀ exponent ∈ numeral.exponent, ∀ c ∈ exponent.2, Double.isDigit c = true

/-- What follows is not taken for a part of a numeral. -/
def EndsBefore (rest : List Char) : Prop :=
  ∀ c ∈ rest.head?, Double.isDigit c = false ∧ c ≠ '.' ∧ c ≠ 'e' ∧ c ≠ 'E'

theorem takeDigits_append {digits rest : List Char}
    (hdigits : ∀ c ∈ digits, Double.isDigit c = true)
    (hrest : ∀ c ∈ rest.head?, Double.isDigit c = false) :
    takeDigits (digits ++ rest) = (digits, rest) := by
  unfold takeDigits
  rw [List.takeWhile_append_of_pos hdigits, List.dropWhile_append_of_pos hdigits]
  cases rest with
  | nil => rw [List.takeWhile_nil, List.dropWhile_nil, List.append_nil]
  | cons c rest =>
    have hc : ¬ Double.isDigit c = true := by
      rw [hrest c rfl]
      exact Bool.false_ne_true
    rw [List.takeWhile_cons_of_neg hc, List.dropWhile_cons_of_neg hc, List.append_nil]

def exponentChars : Option (Bool × List Char) → List Char
  | none => []
  | some (negative, digits) => 'e' :: (if negative then '-' else '+') :: digits

def fractionChars (digits : List Char) : List Char :=
  if digits.isEmpty then [] else '.' :: digits

theorem chars_eq (numeral : Numeral) :
    numeral.chars = (if numeral.negative then ['-'] else []) ++ numeral.whole ++
      fractionChars numeral.fraction ++ exponentChars numeral.exponent := rfl

theorem readExponent?_exponentChars {exponent : Option (Bool × List Char)} {rest : List Char}
    (hne : ∀ written ∈ exponent, written.2 ≠ [])
    (hdigits : ∀ written ∈ exponent, ∀ c ∈ written.2, Double.isDigit c = true)
    (hrest : EndsBefore rest) :
    readExponent? (exponentChars exponent ++ rest) = some (exponent, rest) := by
  cases exponent with
  | none =>
    cases rest with
    | nil => rfl
    | cons c rest =>
      obtain ⟨-, -, hlower, hupper⟩ := hrest c rfl
      simp [exponentChars, readExponent?, hlower, hupper]
  | some written =>
    obtain ⟨negative, digits⟩ := written
    have hsplit : Double.splitSign ((if negative then '-' else '+') :: (digits ++ rest)) =
        (negative, digits ++ rest) := by
      cases negative <;> rfl
    have htake := takeDigits_append (hdigits _ rfl) fun c hc => (hrest c hc).1
    have hne : digits ≠ [] := hne _ rfl
    simp [exponentChars, readExponent?, hsplit, htake, hne]

theorem readFraction?_fractionChars {digits rest : List Char}
    (hdigits : ∀ c ∈ digits, Double.isDigit c = true)
    (hrest : ∀ c ∈ rest.head?, Double.isDigit c = false ∧ c ≠ '.') :
    readFraction? (fractionChars digits ++ rest) = some (digits, rest) := by
  unfold fractionChars
  cases digits with
  | nil =>
    rw [List.isEmpty_nil, if_pos rfl, List.nil_append]
    unfold readFraction?
    split
    · next after => exact absurd rfl (hrest '.' rfl).2
    · rfl
  | cons digit digits =>
    have htake := takeDigits_append hdigits fun c hc => (hrest c hc).1
    rw [List.cons_append] at htake
    simp [readFraction?, htake]

theorem head?_exponentChars (exponent : Option (Bool × List Char)) {rest : List Char}
    (hrest : EndsBefore rest) :
    ∀ c ∈ (exponentChars exponent ++ rest).head?, Double.isDigit c = false ∧ c ≠ '.' := by
  cases exponent with
  | none => exact fun c hc => ⟨(hrest c hc).1, (hrest c hc).2.1⟩
  | some written =>
    rintro c hc
    obtain rfl : 'e' = c := Option.some.inj hc
    decide

theorem head?_fractionChars {fraction : List Char} {exponent : Option (Bool × List Char)}
    {rest : List Char} (hrest : EndsBefore rest) :
    ∀ c ∈ (fractionChars fraction ++ (exponentChars exponent ++ rest)).head?,
      Double.isDigit c = false := by
  cases fraction with
  | nil => exact fun c hc => (head?_exponentChars exponent hrest c hc).1
  | cons digit digits =>
    rintro c hc
    obtain rfl : '.' = c := Option.some.inj hc
    decide

theorem splitMinus_append (negative : Bool) {s : List Char} (h : '-' ∉ s.head?) :
    splitMinus ((if negative then ['-'] else []) ++ s) = (negative, s) := by
  cases negative with
  | true => rfl
  | false =>
    rw [if_neg Bool.false_ne_true, List.nil_append]
    unfold splitMinus
    split
    · exact absurd rfl h
    · rfl

theorem takeWhole_append {whole rest : List Char} (hne : whole ≠ [])
    (hdigits : ∀ c ∈ whole, Double.isDigit c = true)
    (hzero : whole.head? = some '0' → whole = ['0'])
    (hrest : ∀ c ∈ rest.head?, Double.isDigit c = false) :
    takeWhole (whole ++ rest) = (whole, rest) := by
  by_cases hfirst : whole.head? = some '0'
  · rw [hzero hfirst]
    rfl
  · have hother : '0' ∉ (whole ++ rest).head? := by
      rwa [List.head?_append_of_ne_nil _ hne]
    unfold takeWhole
    split
    · next tail heq => exact absurd (congrArg List.head? heq) hother
    · exact takeDigits_append hdigits hrest

/-- A numeral is read up to its end. -/
theorem read?_chars {numeral : Numeral} (h : numeral.WellFormed) {rest : List Char}
    (hrest : EndsBefore rest) : read? (numeral.chars ++ rest) = some (numeral, rest) := by
  obtain ⟨negative, whole, fraction, exponent⟩ := numeral
  obtain ⟨hne, hdigits, hzero, hfraction, hexponent, hexponentDigits⟩ := h
  dsimp only at hne hdigits hzero hfraction hexponent hexponentDigits
  have hunsigned :
      '-' ∉ (whole ++ (fractionChars fraction ++ (exponentChars exponent ++ rest))).head? := by
    rw [List.head?_append_of_ne_nil _ hne]
    intro hminus
    exact absurd (hdigits '-' (List.mem_of_mem_head? hminus)) (by decide)
  have hfollows : ∀ c ∈ (exponentChars exponent ++ rest).head?,
      Double.isDigit c = false ∧ c ≠ '.' := head?_exponentChars exponent hrest
  rw [chars_eq]
  dsimp only
  rw [List.append_assoc, List.append_assoc, List.append_assoc]
  unfold read?
  rw [splitMinus_append negative hunsigned]
  dsimp only
  rw [takeWhole_append hne hdigits hzero (head?_fractionChars hrest)]
  dsimp only
  rw [if_neg (by rwa [List.isEmpty_iff]), readFraction?_fractionChars hfraction hfollows,
    Option.bind_eq_bind, Option.bind_some,
    readExponent?_exponentChars hexponent hexponentDigits hrest]
  rfl

/-! ## Natural numbers -/

theorem isDigit_iff (c : Char) : Double.isDigit c = true ↔ c.isDigit = true := by
  unfold Double.isDigit Char.isDigit
  simp only [Bool.and_eq_true, decide_eq_true_eq]
  rfl

/-- The first digit of a positive number is not a zero. -/
theorem head?_toDigits {n : Nat} (h : 0 < n) : '0' ∉ (Nat.toDigits 10 n).head? := by
  induction n using Nat.strongRecOn with
  | _ n ih =>
    rw [Nat.toDigits_eq_if (by decide)]
    split
    · next hlt =>
      have hdigit : ∀ m < 10, 0 < m → m.digitChar ≠ '0' := by decide
      intro hzero
      exact hdigit n hlt h (Option.some.inj hzero)
    · next hge =>
      rw [List.head?_append_of_ne_nil _ Nat.toDigits_ne_nil]
      exact ih (n / 10) (by omega) (by omega)

theorem wellFormed_ofNat (n : Nat) : (ofNat n).WellFormed where
  whole_ne_nil := Nat.toDigits_ne_nil
  whole_digits := by
    intro c hc
    rw [isDigit_iff]
    exact Nat.isDigit_of_mem_toDigits (by decide) (by decide) hc
  whole_zero := by
    intro hzero
    rcases Nat.eq_zero_or_pos n with rfl | hpos
    · rfl
    · exact absurd hzero (head?_toDigits hpos)
  fraction_digits := List.forall_mem_nil _
  exponent_ne_nil := nofun
  exponent_digits := nofun

theorem wholeValue_ofNat (n : Nat) : (ofNat n).wholeValue = n := by
  have hvalue : Nat.ofDigitChars 10 (Nat.toDigits 10 n) 0 = n := Nat.ofDigitChars_ten_toDigits
  rw [Nat.ofDigitChars_eq_foldl] at hvalue
  simp only [Nat.mul_comm 10] at hvalue
  exact hvalue

/-- A natural number below the bound is read from its numeral. -/
theorem toNat?_ofNat {bound n : Nat} (h : n < bound) : (ofNat n).toNat? bound = some n := by
  have hinteger : (ofNat n).isInteger = true := rfl
  have hpositive : (ofNat n).negative = false := rfl
  unfold toNat?
  rw [wholeValue_ofNat, hinteger, hpositive, if_pos (by simpa using h)]

end Numeral

end ElementRules
