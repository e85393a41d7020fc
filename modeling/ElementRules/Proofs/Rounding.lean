import ElementRules.Double
import Mathlib.Algebra.Order.Ring.Nat

/-!
# Rounding to the grid

What one rounding can do, in numbers of steps. A number of steps is short if it has at most 53
significant bits; these are the numbers that are not rounded at all (`nearestSteps_mul`), and no
rounding leads past one of them (`nearestSteps_le`, `le_nearestSteps`). Elsewhere a rounding moves a
number by no more than half of its last bit (`nearestSteps_near`). Two short numbers within a factor
of two of each other have a short difference (`IsShort.sub`), so it is not rounded either.
-/

namespace ElementRules

variable {num den k steps : Nat}

theorem log2_lt_of_lt_powerOfTwo {n exponent : Nat} (hpos : 0 < n) (h : n < powerOfTwo exponent) :
    n.log2 < exponent :=
  (Nat.log2_lt (Nat.ne_of_gt hpos)).2 h

theorem powerOfTwo_lt {a b : Nat} (h : a < b) : powerOfTwo a < powerOfTwo b :=
  Nat.pow_lt_pow_right (by decide) h

theorem powerOfTwo_le {a b : Nat} (h : a ≤ b) : powerOfTwo a ≤ powerOfTwo b :=
  Nat.pow_le_pow_right (by decide) h

theorem powerOfTwo_eq_mul {whole part more factor : Nat} (h : whole = more + part)
    (hfactor : powerOfTwo more = factor) : powerOfTwo whole = factor * powerOfTwo part := by
  rw [h, powerOfTwo_add, hfactor]

theorem stepsPerUnit_pos : 0 < stepsPerUnit := powerOfTwo_pos 1074

/-! ## To whole numbers -/

theorem roundHalfEven_le_of_le (hden : 0 < den) (h : num ≤ k * den) :
    roundHalfEven num den ≤ k := by
  have hdiv : num / den ≤ k := Nat.div_le_of_le_mul (Nat.mul_comm k den ▸ h)
  rcases Nat.lt_or_eq_of_le hdiv with hlt | heq
  · exact Nat.le_trans (roundHalfEven_le num den) hlt
  · have hrest : num % den = 0 := by
      have hsplit := Nat.div_add_mod' num den
      rw [heq] at hsplit
      omega
    unfold roundHalfEven
    simp only [hrest, heq]
    rw [if_neg (by omega)]

theorem le_roundHalfEven_of_le (hden : 0 < den) (h : k * den ≤ num) :
    k ≤ roundHalfEven num den :=
  Nat.le_trans ((Nat.le_div_iff_mul_le hden).2 h) (le_roundHalfEven num den)

theorem roundHalfEven_zero (den : Nat) : roundHalfEven 0 den = 0 := by
  unfold roundHalfEven
  simp

/-- Off by a half at most. -/
theorem roundHalfEven_near (hden : 0 < den) :
    2 * (roundHalfEven num den * den) ≤ 2 * num + den ∧
      2 * num ≤ 2 * (roundHalfEven num den * den) + den := by
  have hsplit := Nat.div_add_mod' num den
  have hrest := Nat.mod_lt num hden
  unfold roundHalfEven
  simp only
  split
  · have hnext : (num / den + 1) * den = num / den * den + den := Nat.succ_mul _ _
    omega
  · omega

theorem roundHalfEven_mul_right {scale : Nat} (hscale : 0 < scale) :
    roundHalfEven (num * scale) (den * scale) = roundHalfEven num den := by
  unfold roundHalfEven
  simp only [Nat.mul_div_mul_right _ _ hscale, Nat.mul_mod_mul_right, ← Nat.mul_assoc,
    Nat.mul_lt_mul_right hscale, Nat.mul_left_inj (Nat.ne_of_gt hscale)]

/-! ## IsShort numbers -/

/-- At most 53 significant bits. -/
def IsShort (steps : Nat) : Prop := powerOfTwo (steps.log2 - 52) ∣ steps

theorem isShort_mul_powerOfTwo {m : Nat} (h : m ≤ powerOfTwo 53) (width : Nat) :
    IsShort (m * powerOfTwo width) :=
  powerOfTwo_log2_sub_dvd h

theorem isShort_mul_stepsPerUnit {m : Nat} (h : m ≤ powerOfTwo 53) : IsShort (m * stepsPerUnit) :=
  isShort_mul_powerOfTwo h 1074

theorem isShort_powerOfTwo (width : Nat) : IsShort (powerOfTwo width) := by
  have hone : 1 ≤ powerOfTwo 53 := powerOfTwo_pos 53
  rw [← Nat.one_mul (powerOfTwo width)]
  exact isShort_mul_powerOfTwo hone width

/-- The last bit of a short number is not below that of a smaller number. -/
theorem IsShort.dvd {a b : Nat} (h : IsShort b) (hle : a ≤ b) : powerOfTwo (a.log2 - 52) ∣ b := by
  rcases Nat.eq_zero_or_pos a with rfl | hpos
  · rw [Nat.log2_zero]
    exact Nat.one_dvd b
  · have hself : Nat.pow 2 a.log2 ≤ a := Nat.log2_self_le (Nat.ne_of_gt hpos)
    have hlog : a.log2 ≤ b.log2 :=
      (Nat.le_log2 (Nat.ne_of_gt (Nat.lt_of_lt_of_le hpos hle))).2 (Nat.le_trans hself hle)
    exact Nat.dvd_trans (powerOfTwo_dvd (Nat.sub_le_sub_right hlog 52)) h

/-- The difference of short numbers that are alike in size is short. -/
theorem IsShort.sub {a b : Nat} (ha : IsShort a) (hb : IsShort b) (hab : a ≤ b) (hba : b ≤ 2 * a) :
    IsShort (b - a) :=
  Nat.dvd_sub (hb.dvd (Nat.sub_le b a)) (ha.dvd (by omega))

theorem IsShort.natAbs_sub {a b : Nat} (ha : IsShort a) (hb : IsShort b) (hab : a ≤ 2 * b)
    (hba : b ≤ 2 * a) : IsShort ((a : Int) - b).natAbs := by
  rcases Nat.le_total a b with hle | hle
  · have hdifference : ((a : Int) - b).natAbs = b - a := by omega
    rw [hdifference]
    exact ha.sub hb hle hba
  · have hdifference : ((a : Int) - b).natAbs = a - b := by omega
    rw [hdifference]
    exact hb.sub ha hle hab

/-- From 53 bits on a short number ends in zeros. -/
theorem IsShort.powerOfTwo_dvd {width : Nat} (h : IsShort steps)
    (hle : powerOfTwo (52 + width) ≤ steps) : powerOfTwo width ∣ steps := by
  have hlog : (powerOfTwo (52 + width)).log2 = 52 + width := Nat.log2_two_pow
  have hdvd := h.dvd hle
  rwa [hlog, Nat.add_sub_cancel_left] at hdvd

theorem succ_mul_double (count unit : Nat) :
    (count + 1) * (2 * unit) = 2 * (count * unit) + 2 * unit := by
  rw [Nat.mul_left_comm, Nat.add_one_mul count unit, Nat.mul_add]

/-- To the nearest multiple of a unit, counted in units. -/
theorem whole_le {unit bound : Nat} (hunit : 0 < unit) (h : steps < bound * unit) :
    (2 * steps + unit) / (2 * unit) ≤ bound := by
  refine Nat.lt_add_one_iff.1 ((Nat.div_lt_iff_lt_mul (Nat.mul_pos Nat.two_pos hunit)).2 ?_)
  have hnext := succ_mul_double bound unit
  omega

theorem whole_mul {unit : Nat} (hunit : 0 < unit) (count : Nat) :
    (2 * (count * unit) + unit) / (2 * unit) = count := by
  have hnext := succ_mul_double count unit
  refine Nat.div_eq_of_lt_le ?_ ?_
  · rw [Nat.mul_left_comm]
    omega
  · omega

/-- The whole number nearest to a short number of steps is short. -/
theorem IsShort.whole (h : IsShort steps) :
    IsShort ((2 * steps + stepsPerUnit) / (2 * stepsPerUnit) * stepsPerUnit) := by
  rcases Nat.lt_or_ge steps (powerOfTwo 52 * stepsPerUnit) with hlt | hge
  · refine isShort_mul_stepsPerUnit (Nat.le_trans (whole_le stepsPerUnit_pos hlt) ?_)
    decide
  · rw [stepsPerUnit, ← powerOfTwo_add] at hge
    obtain ⟨count, hcount⟩ := h.powerOfTwo_dvd hge
    change steps = stepsPerUnit * count at hcount
    rw [Nat.mul_comm] at hcount
    rwa [hcount, whole_mul stepsPerUnit_pos, ← hcount]

/-! ## To short numbers -/

theorem nearestSteps_mul_right {scale : Nat} (hscale : 0 < scale) :
    nearestSteps (num * scale) (den * scale) = nearestSteps num den := by
  unfold nearestSteps
  simp only [Nat.mul_div_mul_right _ _ hscale, Nat.mul_right_comm den scale,
    roundHalfEven_mul_right hscale]

theorem isShort_nearestSteps (num den : Nat) : IsShort (nearestSteps num den) :=
  powerOfTwo_log2_sub_dvd (roundHalfEven_unit_le num den)

theorem nearestSteps_zero (den : Nat) : nearestSteps 0 den = 0 := by
  unfold nearestSteps
  simp only [roundHalfEven_zero, Nat.zero_mul]

/-- No rounding leads up past a short number. -/
theorem nearestSteps_le (h : IsShort steps) (hden : 0 < den) (hle : num ≤ steps * den) :
    nearestSteps num den ≤ steps := by
  have hfloor : num / den ≤ steps := Nat.div_le_of_le_mul (Nat.mul_comm steps den ▸ hle)
  obtain ⟨count, hcount⟩ := h.dvd hfloor
  unfold nearestSteps
  simp only
  have hunit := powerOfTwo_pos ((num / den).log2 - 52)
  generalize powerOfTwo ((num / den).log2 - 52) = unit at hcount hunit
  rw [hcount, Nat.mul_comm unit count]
  refine Nat.mul_le_mul_right unit (roundHalfEven_le_of_le (Nat.mul_pos hden hunit) ?_)
  rw [hcount] at hle
  refine Nat.le_trans hle (Nat.le_of_eq ?_)
  rw [Nat.mul_comm unit count, Nat.mul_assoc, Nat.mul_comm unit den]

/-- No rounding leads down past a multiple of the last bit. -/
theorem le_nearestSteps_of_dvd (h : powerOfTwo ((num / den).log2 - 52) ∣ steps) (hden : 0 < den)
    (hle : steps * den ≤ num) : steps ≤ nearestSteps num den := by
  obtain ⟨count, rfl⟩ := h
  unfold nearestSteps
  simp only
  have hunit := powerOfTwo_pos ((num / den).log2 - 52)
  generalize powerOfTwo ((num / den).log2 - 52) = unit at hle hunit
  rw [Nat.mul_comm unit count] at hle ⊢
  refine Nat.mul_le_mul_right unit (le_roundHalfEven_of_le (Nat.mul_pos hden hunit) ?_)
  rwa [Nat.mul_comm den unit, ← Nat.mul_assoc]

/-- No rounding leads down past a short number: its last bit is that of the result, or the result
has a greater leading bit. -/
theorem le_nearestSteps (h : IsShort steps) (hden : 0 < den) (hle : steps * den ≤ num) :
    steps ≤ nearestSteps num den := by
  have hfloor : steps ≤ num / den := (Nat.le_div_iff_mul_le hden).2 hle
  rcases Nat.lt_or_ge steps.log2 (num / den).log2 with hlt | hge
  · have hsteps : steps < powerOfTwo (num / den).log2 := by
      exact Nat.lt_of_lt_of_le (Nat.lt_log2_self (n := steps)) (powerOfTwo_le hlt)
    have hpos : num / den ≠ 0 := by
      rintro hzero
      rw [hzero] at hlt
      cases hlt
    refine Nat.le_trans (Nat.le_of_lt hsteps) ?_
    refine le_nearestSteps_of_dvd (powerOfTwo_dvd (Nat.sub_le _ _)) hden ?_
    exact (Nat.le_div_iff_mul_le hden).1 (Nat.log2_self_le hpos)
  · refine le_nearestSteps_of_dvd ?_ hden hle
    exact Nat.dvd_trans (powerOfTwo_dvd (Nat.sub_le_sub_right hge 52)) h

/-- A short number is not rounded. -/
theorem nearestSteps_mul (h : IsShort steps) (hden : 0 < den) :
    nearestSteps (steps * den) den = steps :=
  Nat.le_antisymm (nearestSteps_le h hden (Nat.le_refl _)) (le_nearestSteps h hden (Nat.le_refl _))

theorem nearestSteps_one (h : IsShort steps) : nearestSteps steps 1 = steps := by
  have hself := nearestSteps_mul h Nat.one_pos
  rwa [Nat.mul_one] at hself

/-- Off by half a last bit at most. -/
theorem nearestSteps_near {width : Nat} (hden : 0 < den)
    (h : num < powerOfTwo (width + 53) * den) :
    2 * (nearestSteps num den * den) ≤ 2 * num + den * powerOfTwo width ∧
      2 * num ≤ 2 * (nearestSteps num den * den) + den * powerOfTwo width := by
  have hwidth : powerOfTwo ((num / den).log2 - 52) ≤ powerOfTwo width := by
    refine powerOfTwo_le ?_
    rcases Nat.eq_zero_or_pos (num / den) with hzero | hpos
    · rw [hzero, Nat.log2_zero]
      exact Nat.zero_le width
    · have hlog := log2_lt_of_lt_powerOfTwo hpos ((Nat.div_lt_iff_lt_mul hden).2 h)
      omega
  unfold nearestSteps
  simp only
  have hunit := powerOfTwo_pos ((num / den).log2 - 52)
  generalize powerOfTwo ((num / den).log2 - 52) = unit at hwidth hunit
  have hnear := @roundHalfEven_near num (den * unit) (Nat.mul_pos hden hunit)
  have hle : den * unit ≤ den * powerOfTwo width := Nat.mul_le_mul_left den hwidth
  rw [Nat.mul_assoc (roundHalfEven num (den * unit)) unit den, Nat.mul_comm unit den]
  omega

/-! ## To doubles -/

namespace Double

theorem ofRatio_congr {num den num' den' : Nat} (h : nearestSteps num den = nearestSteps num' den')
    (negative : Bool) : ofRatio negative num den = ofRatio negative num' den' := by
  unfold ofRatio
  simp only [h]

theorem ofRatio_of_lt {num den : Nat} (h : nearestSteps num den < overflowSteps)
    (negative : Bool) : ∃ hsteps, ofRatio negative num den =
      .finite negative (nearestSteps num den) hsteps :=
  ⟨_, dif_pos h⟩

theorem ofRatio_of_not_lt {num den : Nat} (h : ¬ nearestSteps num den < overflowSteps)
    (negative : Bool) : ofRatio negative num den = .infinite negative :=
  dif_neg h

theorem isFinite_ofRatio_iff {negative : Bool} {num den : Nat} :
    (ofRatio negative num den).isFinite = true ↔ nearestSteps num den < overflowSteps := by
  by_cases hfits : nearestSteps num den < overflowSteps
  · obtain ⟨hsteps, heq⟩ := ofRatio_of_lt hfits negative
    simp [heq, isFinite, hfits]
  · simp [ofRatio_of_not_lt hfits, isFinite, hfits]

theorem zero_eq_ofRatio (negative : Bool) (den : Nat) : zero negative = ofRatio negative 0 den := by
  have hzero : nearestSteps 0 den < overflowSteps := by
    rw [nearestSteps_zero]
    exact overflowSteps_pos
  obtain ⟨hsteps, heq⟩ := ofRatio_of_lt hzero negative
  simp only [heq, zero, nearestSteps_zero]

/-- Whole numbers of 53 bits are not rounded. -/
theorem ofNat_eq {n : Nat} (h : n ≤ powerOfTwo 53) :
    ∃ hsteps, ofNat n = .finite false (n * stepsPerUnit) hsteps := by
  have hself := nearestSteps_one (isShort_mul_stepsPerUnit h)
  have hfits : nearestSteps (n * stepsPerUnit) 1 < overflowSteps := by
    rw [hself]
    refine Nat.lt_of_le_of_lt (Nat.mul_le_mul_right stepsPerUnit h) ?_
    rw [stepsPerUnit, ← powerOfTwo_add]
    exact powerOfTwo_lt (by decide)
  obtain ⟨hsteps, heq⟩ := ofRatio_of_lt hfits false
  simp only [hself] at heq hsteps
  exact ⟨hsteps, heq⟩

end Double

end ElementRules
