import ElementRules.Double.Decimal
import ElementRules.Proofs.Rounding
import Mathlib.Tactic.Ring

/-!
# The shortest decimal reads back

The shortest decimal of a magnitude is read as the same magnitude (`ofDecimal_decimal`):

    decimal tie steps = ⟨digits, exponent⟩ → ofDecimal negative digits exponent = finite negative steps

A decimal is taken only if it reads back, so what is to be shown is that one is found. On the grid
of seventeen digits the nearest point is off by less than one part in `2 ^ 54`
(`readsBack_nearestPoint`), and whatever is so near to a number of 53 bits is rounded to it
(`nearestSteps_of_near`).
-/

namespace ElementRules

/-! ## Powers of ten -/

section Powers

variable {a b : Nat}

theorem powerOfTen_pos (exponent : Nat) : 0 < Double.powerOfTen exponent :=
  Nat.pow_pos (by decide)

theorem powerOfTen_zero : Double.powerOfTen 0 = 1 := rfl

theorem powerOfTen_add (a b : Nat) :
    Double.powerOfTen (a + b) = Double.powerOfTen a * Double.powerOfTen b :=
  Nat.pow_add 10 a b

theorem powerOfTen_le (h : a ≤ b) : Double.powerOfTen a ≤ Double.powerOfTen b :=
  Nat.pow_le_pow_right (by decide) h

theorem powerOfTwo_le_powerOfTen (exponent : Nat) :
    powerOfTwo exponent ≤ Double.powerOfTen exponent :=
  Nat.pow_le_pow_left (by decide) exponent

end Powers

/-! ## Numbers that are rounded back -/

section Near

variable {num den steps width : Nat}

/-- Short numbers are a last bit apart. -/
theorem IsShort.add_powerOfTwo_le {a b : Nat} (ha : IsShort a) (hb : IsShort b) (hab : a < b)
    (hwidth : width = 0 ∨ powerOfTwo (52 + width) < b) : a + powerOfTwo width ≤ b := by
  rcases hwidth with rfl | hlt
  · exact hab
  · have hdvd := hb.powerOfTwo_dvd (Nat.le_of_lt hlt)
    obtain ⟨c, hac, hcb, hc⟩ : ∃ c, a ≤ c ∧ c < b ∧ powerOfTwo width ∣ c := by
      rcases Nat.lt_or_ge a (powerOfTwo (52 + width)) with hsmall | hlarge
      · exact ⟨_, Nat.le_of_lt hsmall, hlt, ElementRules.powerOfTwo_dvd (Nat.le_add_left _ _)⟩
      · exact ⟨a, Nat.le_refl a, hab, ha.powerOfTwo_dvd hlarge⟩
    have hapart : powerOfTwo width ≤ b - c := Nat.le_of_dvd (by omega) (Nat.dvd_sub hdvd hc)
    omega

/-- How far the 53 bits of a number reach. -/
theorem exists_width (steps : Nat) :
    ∃ width, (width = 0 ∨ powerOfTwo (52 + width) ≤ steps) ∧ steps < powerOfTwo (width + 53) := by
  rcases Nat.lt_or_ge steps (powerOfTwo 52) with hlt | hge
  · exact ⟨0, .inl rfl, Nat.lt_trans hlt (powerOfTwo_lt (by decide))⟩
  · have hpos : steps ≠ 0 := Nat.ne_of_gt (Nat.lt_of_lt_of_le (powerOfTwo_pos 52) hge)
    have hlog : 52 ≤ steps.log2 := (Nat.le_log2 hpos).2 hge
    refine ⟨steps.log2 - 52, .inr ?_, ?_⟩
    · rw [Nat.add_sub_cancel' hlog]
      exact Nat.log2_self_le hpos
    · exact Nat.lt_of_lt_of_le (Nat.lt_log2_self (n := steps)) (powerOfTwo_le (by omega))

/-- What is off from a short number by less than one part in `2 ^ 54` is rounded to it: the last bit
is worth two such parts at least. -/
theorem nearestSteps_of_near (h : IsShort steps) (hden : 0 < den)
    (hbelow : (2 ^ 54 - 1) * (steps * den) < 2 ^ 54 * num)
    (habove : 2 ^ 54 * num < (2 ^ 54 + 1) * (steps * den)) : nearestSteps num den = steps := by
  have hshort := isShort_nearestSteps num den
  have hunits (width : Nat) :
      powerOfTwo (width + 53) * den = 2 ^ 53 * (powerOfTwo width * den) := by
    rw [powerOfTwo_add, Nat.mul_comm (powerOfTwo width), Nat.mul_assoc]
    rfl
  have hscaled {a b width : Nat} (hab : a + powerOfTwo width ≤ b) :
      a * den + powerOfTwo width * den ≤ b * den := by
    rw [← Nat.add_mul]
    exact Nat.mul_le_mul_right den hab
  rcases Nat.lt_or_ge num (steps * den) with hlt | hge
  · -- What is below the number is a last bit away, and rounding leads away by half of one at most.
    refine Nat.le_antisymm (nearestSteps_le h hden (Nat.le_of_lt hlt)) ?_
    by_contra hless
    obtain ⟨width, hwidth, hbound⟩ := exists_width (steps - 1)
    have hgap := hscaled (hshort.add_powerOfTwo_le h (Nat.not_le.1 hless)
      (hwidth.imp_right fun hle => by omega))
    have hroom : steps * den ≤ powerOfTwo (width + 53) * den :=
      Nat.mul_le_mul_right den (by omega)
    have hnear := (nearestSteps_near hden (Nat.lt_of_lt_of_le hlt hroom)).2
    rw [hunits] at hroom
    rw [Nat.mul_comm den] at hnear
    omega
  · -- Above the number the last bit may be twice that, so the width is another one.
    refine Nat.le_antisymm ?_ (le_nearestSteps h hden hge)
    by_contra hmore
    obtain ⟨width, hwidth, hbound⟩ := exists_width steps
    have hgap := hscaled (h.add_powerOfTwo_le hshort (Nat.not_le.1 hmore)
      (hwidth.imp_right fun hle => by omega))
    have hroom := hscaled (h.add_powerOfTwo_le (isShort_powerOfTwo (width + 53)) hbound
      (hwidth.imp_right fun hle => by omega))
    have hunit := hunits width
    have hnear := (@nearestSteps_near num den width hden (by omega)).1
    rw [Nat.mul_comm den] at hnear
    omega

end Near

namespace Double

/-! ## Grids -/

/-- The points of a grid are multiples of a power of ten, which is `gridDen / gridUnit` steps. -/
def gridDen (exponent : Int) : Nat := powerOfTen exponent.toNat * stepsPerUnit

def gridUnit (exponent : Int) : Nat := powerOfTen (-exponent).toNat

section Exponent

variable {exponent : Int}

theorem grid_of_nonneg (h : 0 ≤ exponent) :
    gridDen exponent = powerOfTen exponent.natAbs * stepsPerUnit ∧ gridUnit exponent = 1 := by
  have hself : exponent.toNat = exponent.natAbs := by omega
  have hnone : (-exponent).toNat = 0 := by omega
  unfold gridDen gridUnit
  rw [hself, hnone]
  exact ⟨rfl, rfl⟩

theorem grid_of_neg (h : ¬ 0 ≤ exponent) :
    gridDen exponent = stepsPerUnit ∧ gridUnit exponent = powerOfTen exponent.natAbs := by
  have hself : (-exponent).toNat = exponent.natAbs := by omega
  have hnone : exponent.toNat = 0 := by omega
  unfold gridDen gridUnit
  rw [hself, hnone, powerOfTen_zero, Nat.one_mul]
  exact ⟨rfl, rfl⟩

end Exponent

theorem gridDen_pos (exponent : Int) : 0 < gridDen exponent :=
  Nat.mul_pos (powerOfTen_pos _) stepsPerUnit_pos

theorem gridUnit_pos (exponent : Int) : 0 < gridUnit exponent := powerOfTen_pos _

/-- The powers of ten of two grids, without their denominators. -/
theorem gridDen_add (exponent : Int) (more : Nat) :
    powerOfTen more * gridDen exponent * gridUnit (exponent + more) =
      gridDen (exponent + more) * gridUnit exponent := by
  have hexponents : more + exponent.toNat + (-(exponent + more)).toNat =
      (exponent + more).toNat + (-exponent).toNat := by omega
  have hpowers := congrArg powerOfTen hexponents
  simp only [powerOfTen_add] at hpowers
  unfold gridDen gridUnit
  calc powerOfTen more * (powerOfTen exponent.toNat * stepsPerUnit) *
        powerOfTen (-(exponent + more)).toNat
      = powerOfTen more * powerOfTen exponent.toNat * powerOfTen (-(exponent + more)).toNat *
          stepsPerUnit := by ring
    _ = powerOfTen (exponent + more).toNat * powerOfTen (-exponent).toNat * stepsPerUnit := by
        rw [hpowers]
    _ = powerOfTen (exponent + more).toNat * stepsPerUnit * powerOfTen (-exponent).toNat := by ring

/-! ## Reading a decimal -/

theorem ofRatio_eq_infinite {num den : Nat} (hden : 0 < den) (h : overflowSteps * den ≤ num)
    (negative : Bool) : ofRatio negative num den = .infinite negative := by
  refine ofRatio_of_not_lt (Nat.not_lt.2 ?_) negative
  exact le_nearestSteps (isShort_powerOfTwo 2098) hden h

theorem ofRatio_eq_zero {num den : Nat} (h : 2 * num < den) (negative : Bool) :
    ofRatio negative num den = zero negative := by
  rw [zero_eq_ofRatio negative den]
  refine ofRatio_congr ?_ negative
  have hfloor : num / den = 0 := Nat.div_eq_of_lt (by omega)
  have hrest : num % den = num := Nat.mod_eq_of_lt (by omega)
  have hunit : powerOfTwo (Nat.log2 0 - 52) = 1 := by decide
  rw [nearestSteps_zero]
  unfold nearestSteps
  simp only [hfloor]
  rw [hunit, Nat.mul_one, Nat.mul_one]
  unfold roundHalfEven
  simp only [hfloor, hrest]
  rw [if_neg (by omega)]

theorem overflowSteps_le_powerOfTen {exponent : Nat} (h : 400 < exponent) :
    overflowSteps ≤ powerOfTen exponent * stepsPerUnit := by
  have hleast : powerOfTwo 1024 ≤ powerOfTen 401 := by decide +kernel
  have hsplit : overflowSteps = powerOfTwo 1024 * stepsPerUnit := by
    rw [overflowSteps, stepsPerUnit, ← powerOfTwo_add]
  rw [hsplit]
  exact Nat.mul_le_mul_right stepsPerUnit (Nat.le_trans hleast (powerOfTen_le h))

theorem lt_powerOfTen_of_log2 {digits exponent : Nat} (h : digits.log2 + 1100 < exponent) :
    2 * (digits * stepsPerUnit) < powerOfTen exponent := by
  have hdigits : digits < powerOfTwo (digits.log2 + 1) := Nat.lt_log2_self
  have hdouble : powerOfTwo (digits.log2 + 2) = powerOfTwo (digits.log2 + 1) * 2 :=
    powerOfTwo_add (digits.log2 + 1) 1
  have hsum : powerOfTwo (digits.log2 + 2) * stepsPerUnit ≤ powerOfTwo exponent := by
    rw [stepsPerUnit, ← powerOfTwo_add]
    exact powerOfTwo_le (by omega)
  rw [← Nat.mul_assoc]
  refine Nat.lt_of_lt_of_le (Nat.mul_lt_mul_of_pos_right ?_ stepsPerUnit_pos)
    (Nat.le_trans hsum (powerOfTwo_le_powerOfTen exponent))
  omega

/-- The exponents that are settled without the power are settled rightly. -/
theorem ofDecimal_eq (negative : Bool) (digits : Nat) (exponent : Int) :
    ofDecimal negative digits exponent =
      ofRatio negative (digits * gridDen exponent) (gridUnit exponent) := by
  unfold ofDecimal
  split
  · next hzero => rw [hzero, Nat.zero_mul, zero_eq_ofRatio]
  · next hpos =>
    split
    · next hwhole =>
      obtain ⟨hden, hunit⟩ := grid_of_nonneg hwhole
      rw [hden, hunit, ← Nat.mul_assoc]
      split
      · next hlarge =>
        refine (ofRatio_eq_infinite Nat.one_pos ?_ negative).symm
        have hover := overflowSteps_le_powerOfTen (show 400 < exponent.natAbs by omega)
        rw [Nat.mul_one, Nat.mul_assoc]
        exact Nat.le_trans hover (Nat.le_mul_of_pos_left _ (Nat.pos_of_ne_zero hpos))
      · rfl
    · next hfraction =>
      obtain ⟨hden, hunit⟩ := grid_of_neg hfraction
      rw [hden, hunit]
      split
      · next hsmall => exact (ofRatio_eq_zero (lt_powerOfTen_of_log2 hsmall) negative).symm
      · rfl

/-- Zeros behind the digits are a part of the exponent. -/
theorem ofDecimal_mul_powerOfTen (negative : Bool) (digits zeros : Nat) (exponent : Int) :
    ofDecimal negative (digits * powerOfTen zeros) exponent =
      ofDecimal negative digits (exponent + zeros) := by
  have hgrids := gridDen_add exponent zeros
  rw [ofDecimal_eq, ofDecimal_eq]
  refine ofRatio_congr ?_ negative
  rw [← nearestSteps_mul_right (gridUnit_pos (exponent + zeros)),
    ← @nearestSteps_mul_right (digits * gridDen (exponent + zeros)) _ _ (gridUnit_pos exponent)]
  refine congrArg₂ nearestSteps ?_ (Nat.mul_comm _ _)
  rw [Nat.mul_assoc digits, Nat.mul_assoc digits, hgrids, Nat.mul_assoc]

section Grid

variable {tie : Tie} {steps digits : Nat} {exponent : Int}

theorem readsBack_iff (hsteps : Representable steps) :
    readsBack steps digits exponent = true ↔
      nearestSteps (digits * gridDen exponent) (gridUnit exponent) = steps := by
  unfold readsBack
  rw [ofDecimal_eq]
  by_cases hfits :
      nearestSteps (digits * gridDen exponent) (gridUnit exponent) < overflowSteps
  · obtain ⟨hread, heq⟩ := ofRatio_of_lt hfits false
    rw [heq]
    exact beq_iff_eq
  · rw [ofRatio_of_not_lt hfits]
    refine iff_of_false Bool.false_ne_true ?_
    rintro rfl
    exact hfits hsteps.1

theorem ofDecimal_of_readsBack (hsteps : Representable steps)
    (hread : readsBack steps digits exponent = true) (negative : Bool) :
    ofDecimal negative digits exponent = .finite negative steps hsteps := by
  rw [readsBack_iff hsteps] at hread
  obtain ⟨hrepresentable, heq⟩ := ofRatio_of_lt (hread ▸ hsteps.1) negative
  rw [ofDecimal_eq, heq]
  simp only [hread]

/-! ## The nearest point of a grid -/

theorem reachesPower_iff :
    reachesPower steps exponent = true ↔ gridDen exponent ≤ steps * gridUnit exponent := by
  unfold reachesPower
  split
  · next hwhole =>
    obtain ⟨hden, hunit⟩ := grid_of_nonneg hwhole
    rw [hden, hunit, Nat.mul_one, decide_eq_true_eq]
  · next hfraction =>
    obtain ⟨hden, hunit⟩ := grid_of_neg hfraction
    rw [hden, hunit, decide_eq_true_eq]

/-- Who reaches a power of ten has that many points of a finer grid below. -/
theorem powerOfTen_mul_gridDen_le {more : Nat}
    (h : reachesPower steps (exponent + more) = true) :
    powerOfTen more * gridDen exponent ≤ steps * gridUnit exponent := by
  rw [reachesPower_iff] at h
  refine Nat.le_of_mul_le_mul_right ?_ (gridUnit_pos (exponent + more))
  rw [gridDen_add, Nat.mul_right_comm]
  exact Nat.mul_le_mul_right (gridUnit exponent) h

theorem gridBelow_eq :
    gridBelow tie steps exponent =
      (steps * gridUnit exponent / gridDen exponent,
        gridDen exponent < 2 * (steps * gridUnit exponent % gridDen exponent) ||
          (2 * (steps * gridUnit exponent % gridDen exponent) == gridDen exponent &&
            (tie == .larger || steps * gridUnit exponent / gridDen exponent % 2 == 1))) := by
  have hquotient : (if 0 ≤ exponent then (steps, powerOfTen exponent.natAbs * stepsPerUnit)
      else (steps * powerOfTen exponent.natAbs, stepsPerUnit)) =
        (steps * gridUnit exponent, gridDen exponent) := by
    split
    · next hwhole =>
      obtain ⟨hden, hunit⟩ := grid_of_nonneg hwhole
      rw [hden, hunit, Nat.mul_one]
    · next hfraction =>
      obtain ⟨hden, hunit⟩ := grid_of_neg hfraction
      rw [hden, hunit]
  unfold gridBelow
  rw [hquotient]

/-- The point of a grid that is nearest to a magnitude. -/
def nearestPoint (tie : Tie) (steps : Nat) (exponent : Int) : Nat :=
  if (gridBelow tie steps exponent).2 then (gridBelow tie steps exponent).1 + 1
  else (gridBelow tie steps exponent).1

theorem nearestPoint_near (tie : Tie) (steps : Nat) (exponent : Int) :
    2 * (nearestPoint tie steps exponent * gridDen exponent) ≤
        2 * (steps * gridUnit exponent) + gridDen exponent ∧
      2 * (steps * gridUnit exponent) ≤
        2 * (nearestPoint tie steps exponent * gridDen exponent) + gridDen exponent := by
  have hsplit := Nat.div_add_mod' (steps * gridUnit exponent) (gridDen exponent)
  have hrest := Nat.mod_lt (steps * gridUnit exponent) (gridDen_pos exponent)
  unfold nearestPoint
  rw [gridBelow_eq]
  dsimp only
  split
  · next hup =>
    have hhalf : gridDen exponent ≤ 2 * (steps * gridUnit exponent % gridDen exponent) := by
      rw [Bool.or_eq_true, Bool.and_eq_true, decide_eq_true_eq, beq_iff_eq] at hup
      omega
    have hnext := Nat.add_one_mul (steps * gridUnit exponent / gridDen exponent) (gridDen exponent)
    omega
  · next hdown =>
    have hhalf : 2 * (steps * gridUnit exponent % gridDen exponent) ≤ gridDen exponent := by
      rw [Bool.or_eq_true, decide_eq_true_eq] at hdown
      omega
    omega

/-- Seventeen digits suffice: from `10 ^ 16` points on, half a point is less than one part in
`2 ^ 54`. -/
theorem readsBack_nearestPoint (hsteps : Representable steps)
    (h : reachesPower steps (exponent + 16) = true) (tie : Tie) :
    readsBack steps (nearestPoint tie steps exponent) exponent = true := by
  have hmany : powerOfTen 16 * gridDen exponent ≤ steps * gridUnit exponent :=
    powerOfTen_mul_gridDen_le h
  have hsixteen : powerOfTen 16 = 10 ^ 16 := rfl
  have hpos := gridDen_pos exponent
  obtain ⟨habove, hbelow⟩ := nearestPoint_near tie steps exponent
  rw [readsBack_iff hsteps]
  rw [hsixteen] at hmany
  refine nearestSteps_of_near hsteps.2 (gridUnit_pos exponent) ?_ ?_
  · omega
  · omega

theorem isSome_onGrid? (h : readsBack steps (nearestPoint tie steps exponent) exponent = true) :
    (onGrid? tie steps exponent).isSome = true := by
  unfold nearestPoint at h
  unfold onGrid?
  dsimp only
  rw [if_pos h]
  rfl

theorem readsBack_of_onGrid? {found : Decimal} (h : onGrid? tie steps exponent = some found) :
    readsBack steps found.digits found.exponent = true := by
  unfold onGrid? at h
  dsimp only at h
  generalize (if (gridBelow tie steps exponent).2 = true then _ else _ : Nat) = first at h
  generalize (if (gridBelow tie steps exponent).2 = true then _ else _ : Nat) = second at h
  split at h
  · next hfirst =>
    obtain rfl := Option.some.inj h
    exact hfirst
  · split at h
    · next hsecond =>
      obtain rfl := Option.some.inj h
      exact hsecond
    · cases h

/-! ## The power of ten above -/

theorem reachesPower_mono {more : Nat} (hle : steps ≤ more)
    (h : reachesPower steps exponent = true) : reachesPower more exponent = true := by
  rw [reachesPower_iff] at h ⊢
  exact Nat.le_trans h (Nat.mul_le_mul_right (gridUnit exponent) hle)

/-- The estimate of the power of ten above is never too high. -/
theorem reachesPower_estimate :
    (List.range 2098).all (fun log2 => reachesPower (powerOfTwo log2)
      (((log2 : Int) - 1074) * 30103 / 100000 - 1)) = true := by
  decide +kernel

theorem reachesPower_powerAbove (hsteps : Representable steps) (hpos : steps ≠ 0) :
    reachesPower steps (powerAbove steps - 1) = true := by
  have hestimate :
      reachesPower steps (((steps.log2 : Int) - 1074) * 30103 / 100000 - 1) = true := by
    have hlog : steps.log2 < 2098 := log2_lt_of_lt_powerOfTwo (Nat.pos_of_ne_zero hpos) hsteps.1
    exact reachesPower_mono (Nat.log2_self_le hpos)
      (List.all_eq_true.1 reachesPower_estimate _ (List.mem_range.2 hlog))
  -- A correction is made only if the power is reached, and leads to the next one.
  have hraise {p : Int} (h : reachesPower steps (p - 1) = true) :
      reachesPower steps ((if reachesPower steps p then p + 1 else p) - 1) = true := by
    split
    · next hreached =>
      rw [Int.add_sub_cancel]
      exact hreached
    · exact h
  unfold powerAbove
  exact hraise (hraise (hraise hestimate))

/-! ## The shortest decimal -/

theorem readsBack_shortest (hsteps : Representable steps) (hpos : steps ≠ 0) (tie : Tie) :
    readsBack steps (shortest tie steps).digits (shortest tie steps).exponent = true := by
  unfold shortest
  dsimp only
  split
  · next found hfound =>
    obtain ⟨place, -, hhit⟩ := List.exists_of_findSome?_eq_some hfound
    exact readsBack_of_onGrid? hhit
  · next hnone =>
    have hlast : onGrid? tie steps (powerAbove steps - 1 - 16) = none :=
      List.findSome?_eq_none_iff.1 hnone 16 (by decide)
    have hreaches : reachesPower steps (powerAbove steps - 1 - 16 + 16) = true := by
      rw [Int.sub_add_cancel]
      exact reachesPower_powerAbove hsteps hpos
    have hhit := isSome_onGrid? (readsBack_nearestPoint hsteps hreaches tie)
    rw [hlast] at hhit
    cases hhit

theorem readsBack_strip {decimal : Decimal} (fuel : Nat)
    (h : readsBack steps decimal.digits decimal.exponent = true) :
    readsBack steps (decimal.strip fuel).digits (decimal.strip fuel).exponent = true := by
  induction fuel generalizing decimal with
  | zero => exact h
  | succ fuel ih =>
    unfold Decimal.strip
    split
    · next hzero =>
      refine ih ?_
      have hdigits : decimal.digits = decimal.digits / 10 * powerOfTen 1 := by
        change decimal.digits = decimal.digits / 10 * 10
        omega
      unfold readsBack at h ⊢
      rw [hdigits, ofDecimal_mul_powerOfTen] at h
      exact h
    · exact h

/-- **The shortest decimal reads back.** -/
theorem ofDecimal_decimal (hsteps : Representable steps) (hpos : steps ≠ 0) (tie : Tie)
    (negative : Bool) :
    (decimal tie steps).digits ≠ 0 ∧
      ofDecimal negative (decimal tie steps).digits (decimal tie steps).exponent =
        .finite negative steps hsteps := by
  have hread := readsBack_strip 20 (readsBack_shortest hsteps hpos tie)
  refine ⟨?_, ofDecimal_of_readsBack hsteps hread negative⟩
  intro hzero
  rw [← decimal, hzero, readsBack_iff hsteps, Nat.zero_mul, nearestSteps_zero] at hread
  exact hpos hread.symm

end Grid

end Double

end ElementRules
