import ElementRules.Proofs.Rounding
import ElementRules.Proofs.Tolerance

/-!
# Equality with itself

A number of the model is rounded to thousandths before it is compared with the threshold, and the
threshold is not. So a number does not always equal itself: it does so exactly if the rounding moves
it by less than the tolerance (`Rule.equal_finds_itself`),

    the number x passes the test for x  ↔  x.SurvivesRounding

and up to 2 to the 40 these are the numbers near a thousandth, whatever thousandth that is. What
the program computes here is rounded three times. That does no harm: the product with 1000 stays
between the quarters around the right whole number (`thousandthsOf_eq`), and the difference at the
end is exact wherever it is less than the tolerance (`isShort_difference`).
-/

namespace ElementRules

/-! ## Whole numbers of thousandths -/

/-- The magnitude nearest to a whole number of thousandths. -/
def thousandths (count : Nat) : Nat := nearestSteps (count * stepsPerUnit) 1000

/-- The whole number that a magnitude times 1000 is rounded to, twice. -/
def thousandthsOf (steps : Nat) : Nat :=
  (2 * nearestSteps (1000 * steps) 1 + stepsPerUnit) / (2 * stepsPerUnit)

theorem stepsPerUnit_eq : stepsPerUnit = 65536 * powerOfTwo 1058 :=
  powerOfTwo_eq_mul (by decide : 1074 = 16 + 1058) rfl

theorem thousandths_zero : thousandths 0 = 0 := by
  rw [thousandths, Nat.zero_mul, nearestSteps_zero]

theorem le_thousandths {count : Nat} (h : 0 < count) : powerOfTwo 1064 ≤ thousandths count := by
  refine le_nearestSteps (isShort_powerOfTwo 1064) (by decide) ?_
  have hunit : stepsPerUnit = 1024 * powerOfTwo 1064 :=
    powerOfTwo_eq_mul (by decide : 1074 = 10 + 1064) rfl
  rw [hunit]
  generalize powerOfTwo 1064 = part
  have hone : 1024 * part ≤ count * (1024 * part) := Nat.le_mul_of_pos_left _ h
  omega

/-- Below the tolerance, the difference of a number from whole thousandths is not rounded. -/
theorem isShort_difference {steps count : Nat} (h : IsShort steps)
    (hcount : IsShort (thousandths count))
    (hnear : ((thousandths count : Int) - steps).natAbs < powerOfTwo 1063) :
    IsShort ((thousandths count : Int) - steps).natAbs := by
  rcases Nat.eq_zero_or_pos count with rfl | hpos
  · rw [thousandths_zero]
    simpa using h
  · have hleast := le_thousandths hpos
    have htwice : powerOfTwo 1064 = 2 * powerOfTwo 1063 :=
      powerOfTwo_eq_mul (by decide : 1064 = 1 + 1063) rfl
    exact hcount.natAbs_sub h (by omega) (by omega)

theorem count_lt_of_near {steps count : Nat} (hsteps : steps ≤ powerOfTwo 40 * stepsPerUnit)
    (hnear : ((thousandths count : Int) - steps).natAbs < powerOfTwo 1058) :
    count < 1000 * powerOfTwo 41 := by
  by_contra hlarge
  have hthousandths : powerOfTwo 41 * stepsPerUnit ≤ thousandths count := by
    refine le_nearestSteps (isShort_mul_stepsPerUnit (by decide)) (by decide) ?_
    rw [Nat.mul_right_comm]
    refine Nat.mul_le_mul_right stepsPerUnit ?_
    rw [Nat.mul_comm]
    exact Nat.le_of_not_lt hlarge
  have hgap : powerOfTwo 40 * stepsPerUnit + stepsPerUnit ≤ powerOfTwo 41 * stepsPerUnit := by
    rw [← Nat.add_one_mul]
    exact Nat.mul_le_mul_right _ (powerOfTwo_lt (by decide))
  have hunit := stepsPerUnit_eq
  generalize powerOfTwo 41 * stepsPerUnit = high at *
  generalize powerOfTwo 40 * stepsPerUnit = low at *
  generalize stepsPerUnit = unit at *
  omega

/-- A number near to a whole number of thousandths has that number of them. -/
theorem thousandthsOf_eq {steps count : Nat} (hsteps : steps ≤ powerOfTwo 40 * stepsPerUnit)
    (hnear : ((thousandths count : Int) - steps).natAbs < powerOfTwo 1058) :
    thousandthsOf steps = count := by
  have hcount := count_lt_of_near hsteps hnear
  have hbits : 4 * count + 1 ≤ powerOfTwo 53 := by
    have hlimit : 4 * (1000 * powerOfTwo 41) ≤ powerOfTwo 53 := by decide
    omega
  have hrange : count * stepsPerUnit < powerOfTwo (1062 + 53) * 1000 := by
    have hlimit : powerOfTwo (1062 + 53) = powerOfTwo 41 * powerOfTwo 1074 := by
      rw [← powerOfTwo_add]
    rw [hlimit, Nat.mul_comm _ 1000, ← Nat.mul_assoc, stepsPerUnit]
    exact Nat.mul_lt_mul_of_pos_right hcount (powerOfTwo_pos 1074)
  obtain ⟨hbelow, habove⟩ := nearestSteps_near (by decide) hrange
  change 2 * (thousandths count * 1000) ≤ _ at hbelow
  change _ ≤ 2 * (thousandths count * 1000) + _ at habove
  -- Everything is measured in multiples of the bound on the distance.
  have hunit := stepsPerUnit_eq
  have hbit : powerOfTwo 1062 = 16 * powerOfTwo 1058 :=
    powerOfTwo_eq_mul (by decide : 1062 = 4 + 1058) rfl
  have hquarter : powerOfTwo 1072 = 16384 * powerOfTwo 1058 :=
    powerOfTwo_eq_mul (by decide : 1072 = 14 + 1058) rfl
  have hpos := powerOfTwo_pos 1058
  have hshort (quarters : Nat) (h : quarters ≤ powerOfTwo 53) :
      IsShort (quarters * powerOfTwo 1072) := isShort_mul_powerOfTwo h 1072
  rw [hquarter] at hshort
  rw [hunit, hbit] at hbelow habove
  generalize powerOfTwo 1058 = part at *
  have hscaled : count * (65536 * part) = 65536 * (count * part) := Nat.mul_left_comm _ _ _
  rw [hscaled] at hbelow habove
  have hupper : nearestSteps (1000 * steps) 1 ≤ (4 * count + 1) * (16384 * part) := by
    refine nearestSteps_le (hshort _ hbits) Nat.one_pos ?_
    rw [Nat.mul_one, Nat.add_mul, Nat.mul_assoc, Nat.mul_left_comm count]
    omega
  have hlower : (4 * count - 1) * (16384 * part) ≤ nearestSteps (1000 * steps) 1 := by
    refine le_nearestSteps (hshort _ (by omega)) Nat.one_pos ?_
    rw [Nat.mul_one, Nat.sub_mul, Nat.mul_assoc, Nat.mul_left_comm count]
    omega
  rw [Nat.add_mul, Nat.mul_assoc, Nat.mul_left_comm count] at hupper
  rw [Nat.sub_mul, Nat.mul_assoc, Nat.mul_left_comm count] at hlower
  unfold thousandthsOf
  rw [hunit]
  refine Nat.div_eq_of_lt_le ?_ ?_
  · rw [← Nat.mul_assoc 2, Nat.mul_left_comm count]
    omega
  · rw [succ_mul_double, hscaled]
    omega

theorem NumberTest.passes_of_build_equal {settings : Settings} {threshold : Double}
    {test : NumberTest} (h : build .equal threshold settings = .ok test) (value : Double) :
    test.passes value = (settings.distance threshold value).lt settings.tolerance := by
  obtain rfl := Except.ok.inj h
  rfl

/-! ## Doubles as exact numbers -/

namespace Double

variable {negative : Bool}

/-- A finite double as an exact number, in steps. -/
def steps? : Double → Option Int
  | .finite negative steps _ => some (if negative then -(steps : Int) else steps)
  | _ => none

/-- Both are finite and, as exact numbers, less than the distance apart. -/
def IsNear (distance x y : Double) : Prop :=
  ∃ a ∈ x.steps?, ∃ b ∈ y.steps?, ∃ d ∈ distance.steps?, ((a - b).natAbs : Int) < d

theorem abs_ofRatio_lt_iff {num den bound : Nat} (hbound : Representable bound) :
    (ofRatio negative num den).abs.lt (.finite false bound hbound) = true ↔
      nearestSteps num den < bound := by
  by_cases hfits : nearestSteps num den < overflowSteps
  · obtain ⟨hsteps, heq⟩ := ofRatio_of_lt hfits negative
    rw [heq, abs, lt, compareBy_of_place rfl rfl]
    simp
  · rw [ofRatio_of_not_lt hfits, abs, lt, compareBy_of_place rfl rfl]
    have hlimit := hbound.1
    simp only [Bool.false_eq_true, if_false, decide_eq_true_eq]
    omega

theorem abs_sub_lt_iff {m n bound : Nat} (hm : Representable m) (hn : Representable n)
    (hbound : Representable bound) :
    ((finite negative m hm).sub (.finite negative n hn)).abs.lt (.finite false bound hbound) =
        true ↔
      nearestSteps ((m : Int) - n).natAbs 1 < bound := by
  unfold sub neg add
  have hsum :
      ((if negative then -(m : Int) else m) + if (!negative) then -(n : Int) else n).natAbs =
        ((m : Int) - n).natAbs := by
    cases negative
    · rfl
    · change (-(m : Int) + n).natAbs = _
      omega
  dsimp only
  rw [← hsum]
  generalize ((if negative then -(m : Int) else m) + if (!negative) then -(n : Int) else n) = sum
  split
  · next hzero => rw [hzero, zero_eq_ofRatio _ 1, abs_ofRatio_lt_iff, Int.natAbs_zero]
  · rw [abs_ofRatio_lt_iff]

/-! ## Rounding to thousandths -/

theorem ofDecimal_thousandths (negative : Bool) (count : Nat) :
    ofDecimal negative count (-3) = ofRatio negative (count * stepsPerUnit) 1000 := by
  unfold ofDecimal
  split
  · next hzero => rw [hzero, Nat.zero_mul, zero_eq_ofRatio]
  · rw [if_neg (by decide), if_neg (by omega)]
    rfl

theorem factor_eq : ∃ h, powInt (ofNat 10) Settings.standard.decimals.toInt32.toInt =
    .finite false (1000 * stepsPerUnit) h :=
  ⟨by decide +kernel, by decide +kernel⟩

theorem mul_factor {steps : Nat} (hsteps : Representable steps)
    (hfactor : Representable (1000 * stepsPerUnit)) :
    (finite negative steps hsteps).mul (.finite false (1000 * stepsPerUnit) hfactor) =
      ofRatio negative (1000 * steps) 1 := by
  have hscale := @nearestSteps_mul_right (1000 * steps) 1 _ stepsPerUnit_pos
  unfold mul
  dsimp only
  rw [Bool.bne_false]
  refine ofRatio_congr (Eq.trans ?_ hscale) negative
  rw [Nat.one_mul, Nat.mul_left_comm, ← Nat.mul_assoc]

theorem div_factor {count : Nat} (hcount : Representable (count * stepsPerUnit))
    (hfactor : Representable (1000 * stepsPerUnit)) :
    (finite negative (count * stepsPerUnit) hcount).div
        (.finite false (1000 * stepsPerUnit) hfactor) =
      ofDecimal negative count (-3) := by
  have hscale := @nearestSteps_mul_right (count * stepsPerUnit) 1000 _ stepsPerUnit_pos
  have hpos : 1000 * stepsPerUnit ≠ 0 := Nat.ne_of_gt (Nat.mul_pos (by decide) stepsPerUnit_pos)
  unfold div
  dsimp only
  rw [Bool.bne_false, ofDecimal_thousandths, if_neg hpos]
  exact ofRatio_congr hscale negative

/-- Unless it overflows, rounding leads to the nearest whole number of thousandths. -/
theorem roundTo_eq {steps : Nat} (hsteps : Representable steps)
    (hfinite :
      ((finite negative steps hsteps).roundTo Settings.standard.decimals).isFinite = true) :
    (finite negative steps hsteps).roundTo Settings.standard.decimals =
      ofDecimal negative (thousandthsOf steps) (-3) := by
  obtain ⟨hfactor, hthousand⟩ := factor_eq
  unfold roundTo at hfinite ⊢
  dsimp only at hfinite ⊢
  rw [hthousand, mul_factor] at hfinite ⊢
  by_cases hscaled : nearestSteps (1000 * steps) 1 < overflowSteps
  · obtain ⟨hproduct, heq⟩ := ofRatio_of_lt hscaled negative
    rw [heq] at hfinite ⊢
    have hround : (finite negative (nearestSteps (1000 * steps) 1) hproduct).round =
        ofRatio negative (thousandthsOf steps * stepsPerUnit) 1 := rfl
    have hwhole : nearestSteps (thousandthsOf steps * stepsPerUnit) 1 =
        thousandthsOf steps * stepsPerUnit :=
      nearestSteps_one (IsShort.whole hproduct.2)
    rw [hround] at hfinite ⊢
    by_cases hrounded : nearestSteps (thousandthsOf steps * stepsPerUnit) 1 < overflowSteps
    · obtain ⟨hcount, heq⟩ := ofRatio_of_lt hrounded negative
      simp only [hwhole] at heq hcount
      rw [heq, div_factor hcount]
    · rw [ofRatio_of_not_lt hrounded] at hfinite
      cases hfinite
  · rw [ofRatio_of_not_lt hscaled] at hfinite
    cases hfinite

theorem exists_finite_of_roundTo {x : Double} {decimals : UInt32}
    (h : (x.roundTo decimals).isFinite = true) :
    ∃ negative steps hsteps, x = .finite negative steps hsteps := by
  cases x with
  | nan => cases h
  | infinite negative =>
    unfold roundTo at h
    dsimp only at h
    cases hfactor : powInt (ofNat 10) decimals.toInt32.toInt with
    | nan =>
      rw [hfactor] at h
      cases h
    | infinite other =>
      rw [hfactor] at h
      cases h
    | finite other steps hsteps =>
      rw [hfactor] at h
      unfold mul at h
      dsimp only at h
      split at h <;> cases h
  | finite negative steps hsteps => exact ⟨negative, steps, hsteps, rfl⟩

theorem ofDecimal_of_isFinite {count : Nat}
    (h : (ofDecimal negative count (-3)).isFinite = true) :
    ∃ hcount, ofDecimal negative count (-3) = .finite negative (thousandths count) hcount := by
  rw [ofDecimal_thousandths] at h ⊢
  exact ofRatio_of_lt (isFinite_ofRatio_iff.1 h) negative

/-! ## Near numbers -/

theorem exists_tolerance : ∃ bound hbound,
    Settings.standard.tolerance = .finite false bound hbound ∧ bound < powerOfTwo 1058 :=
  ⟨nearestSteps stepsPerUnit 100000, by decide +kernel, by decide +kernel, by decide +kernel⟩

section Near

variable {m n bound : Nat} {hm : Representable m} {hn : Representable n}
  {hbound : Representable bound}

theorem isNear_iff :
    IsNear (.finite false bound hbound) (.finite negative m hm) (.finite negative n hn) ↔
      ((m : Int) - n).natAbs < bound := by
  unfold IsNear steps?
  simp only [Option.mem_def, Option.some.injEq, exists_eq_left', Bool.false_eq_true, if_false]
  cases negative
  · simp only [Bool.false_eq_true, if_false]
    omega
  · simp only [if_true]
    omega

/-- The sign of the other number can only bring it nearer. -/
theorem IsNear.natAbs_lt {other : Bool}
    (h : IsNear (.finite false bound hbound) (.finite other m hm) (.finite negative n hn)) :
    ((m : Int) - n).natAbs < bound := by
  obtain ⟨a, ha, b, hb, d, hd, hlt⟩ := h
  obtain rfl := Option.some.inj ha
  obtain rfl := Option.some.inj hb
  obtain rfl := Option.some.inj hd
  simp only [Bool.false_eq_true, if_false] at hlt
  split at hlt <;> split at hlt <;> omega

end Near

theorem IsNear.isFinite {distance x y : Double} (h : IsNear distance x y) :
    x.isFinite = true := by
  obtain ⟨a, ha, -⟩ := h
  cases x with
  | finite negative steps hsteps => rfl
  | _ => cases ha

/-- The rounding moves the number by less than the tolerance. -/
def SurvivesRounding (x : Double) : Prop :=
  IsNear Settings.standard.tolerance (x.roundTo Settings.standard.decimals) x

variable {x : Double}

theorem passes_iff_survivesRounding
    (h : (x.roundTo Settings.standard.decimals).isFinite = true) {test : NumberTest}
    (htest : NumberTest.build .equal x .standard = .ok test) :
    test.passes x = true ↔ x.SurvivesRounding := by
  obtain ⟨negative, steps, hsteps, rfl⟩ := exists_finite_of_roundTo h
  obtain ⟨bound, hbound, htolerance, hsmall⟩ := exists_tolerance
  have hrounded := roundTo_eq hsteps h
  obtain ⟨hcount, hdecimal⟩ := ofDecimal_of_isFinite (hrounded ▸ h)
  rw [NumberTest.passes_of_build_equal htest, Settings.distance, SurvivesRounding, hrounded,
    hdecimal, htolerance, abs_sub_lt_iff, isNear_iff]
  constructor
  · intro hlt
    by_contra hfar
    have hkept := le_nearestSteps hbound.2 Nat.one_pos
      (Nat.le_trans (Nat.le_of_eq (Nat.mul_one bound)) (Nat.le_of_not_lt hfar))
    exact absurd hlt (Nat.not_lt.2 hkept)
  · intro hlt
    have hless : powerOfTwo 1058 < powerOfTwo 1063 := powerOfTwo_lt (by decide)
    have hbelow := Nat.lt_trans hlt (Nat.lt_trans hsmall hless)
    rw [nearestSteps_one (isShort_difference hsteps.2 hcount.2 hbelow)]
    exact hlt

/-- Up to this size the rounding leads to any number of thousandths that is so near. -/
theorem survivesRounding_of_isNear (hsize : x.abs.le (.ofNat (powerOfTwo 40)) = true)
    (h : (x.roundTo Settings.standard.decimals).isFinite = true) {other : Bool} {count : Nat}
    (hnear : IsNear Settings.standard.tolerance (.ofDecimal other count (-3)) x) :
    x.SurvivesRounding := by
  obtain ⟨negative, steps, hsteps, rfl⟩ := exists_finite_of_roundTo h
  obtain ⟨bound, hbound, htolerance, hsmall⟩ := exists_tolerance
  obtain ⟨hcount, hdecimal⟩ := ofDecimal_of_isFinite hnear.isFinite
  have hrounded := roundTo_eq hsteps h
  obtain ⟨hwhole, hown⟩ := ofDecimal_of_isFinite (hrounded ▸ h)
  have hle : steps ≤ powerOfTwo 40 * stepsPerUnit := by
    obtain ⟨hrange, hlimit⟩ := ofNat_eq (Nat.le_of_lt (powerOfTwo_lt (by decide : 40 < 53)))
    rw [hlimit, abs, le, compareBy_of_place rfl rfl] at hsize
    exact Int.ofNat_le.1 (of_decide_eq_true hsize)
  rw [htolerance, hdecimal] at hnear
  have hdistance := hnear.natAbs_lt
  have hsame := thousandthsOf_eq hle (Nat.lt_trans hdistance hsmall)
  unfold SurvivesRounding
  rw [hrounded, hown, htolerance, isNear_iff, hsame]
  exact hdistance

end Double

/-! ## Rules that ask for a number -/

namespace Rule

variable {rule : Rule} {x : Double}

theorem isNumber_of_numericValue (h : rule.numericValue = .ok x) : Literal.IsNumber rule.value := by
  by_contra hnone
  rw [numericValue_of_not_isNumber hnone] at h
  cases h

/-- A rule that asks for a number tests every number of its parameter against that number. -/
theorem Grammatical.selects_equal (h : rule.Grammatical) (hcategory : rule.category = .parameter)
    (hproperty : rule.property ≠ "") (hcondition : rule.condition = .equal)
    (hvalue : rule.numericValue = .ok x) (settings : Settings) (model : Model) :
    ∃ filter test, rule.compile settings model = .ok filter ∧
      NumberTest.build .equal x settings = .ok test ∧
      ∀ (element : Element) (value : ParamValue) (y : Double),
        element.parameter? rule.property = some value → value.asNumber? = some y →
        filter.selects element = test.passes y := by
  have hlike : rule.category.isParameterLike = true := by rw [hcategory]; rfl
  have hread : rule.unread? = none :=
    unread?_of_parameter hlike (fun _ => isNumber_of_numericValue hvalue) fun hmem => by
      rw [hcondition] at hmem
      exact absurd hmem (by decide)
  have hnone : rule.failure? = none := by
    rw [failure?_eq_patternFailure?_of_read (not_lacksFilter_of_parameter hlike hproperty) hread]
    exact patternFailure?_eq_none (by rw [hcondition]; decide)
  obtain ⟨filter, hfilter⟩ := (h.failsWith_compile settings model).ok_iff.2 hnone
  obtain ⟨threshold?, test?, text, hthreshold, htest, -, rfl⟩ :=
    eq_compare_of_compile hcategory (by rw [hcondition]; decide) hfilter
  obtain rfl := (numericValue_eq_ok_iff hthreshold x).1 hvalue
  rw [hcondition, Option.mapM_some] at htest
  obtain ⟨test, hbuilt, rfl⟩ := eq_ok_of_map htest
  refine ⟨_, test, hfilter, hbuilt, ?_⟩
  intro element value y hdefined hnumber
  rw [Filter.selects, Predicate.holds, ParameterTest.passes_compare_number hdefined hnumber]

/-- A rule that asks for an elevation tests every level of the model against it. -/
theorem Grammatical.finds_elevation (h : rule.Grammatical) (hcategory : rule.category = .level)
    (hproperty : rule.property = PropertyName.elevation) (hcondition : rule.condition = .equal)
    (hvalue : Literal.number rule.value = .ok x) (settings : Settings) (model : Model) :
    ∃ found test, NumberTest.build .equal x settings = .ok test ∧
      rule.levelsByElevation settings model = .ok found ∧
      rule.compile settings model =
        .ok (Filter.anyHolds (found.flatMap (levelPredicates settings))) ∧
      ∀ level ∈ model.levels, level ∈ found ↔ test.passes level.elevation = true := by
  have hnumeric : Condition.equal.isNumeric = true := rfl
  obtain ⟨test, htest⟩ := numberTest_ok hnumeric x settings
  have hlevels : rule.levelsByElevation settings model =
      .ok (model.levels.filter fun level => test.passes level.elevation) := by
    unfold levelsByElevation
    rw [hvalue, hcondition]
    simp only [bind, Except.bind, htest]
  refine ⟨_, test, htest, hlevels, ?_, ?_⟩
  · unfold compile
    rw [h.validate_eq_ok, hcategory]
    dsimp only
    unfold compileLevel
    rw [hproperty, if_neg (by decide), if_pos (by decide), hlevels]
    rfl
  · intro level hmem
    rw [List.mem_filter, and_iff_right hmem]

/-- **A number finds itself exactly if it survives rounding**, with the standard settings and
wherever the rounding does not overflow. Such a number is near to a whole number of thousandths, and
up to 2 to the 40 every number that is near to one is such a number. So these are the values for
which a rule on a parameter, in any unit, selects an element with that very value, and for which a
rule on elevations finds a level at that very place. -/
theorem equal_finds_itself :
    (∀ x : Double, (x.roundTo Settings.standard.decimals).isFinite = true →
      (∃ test, NumberTest.build .equal x .standard = .ok test ∧
        (test.passes x = true ↔ x.SurvivesRounding)) ∧
      (x.SurvivesRounding → ∃ negative count,
        Double.IsNear Settings.standard.tolerance (.ofDecimal negative count (-3)) x) ∧
      (x.abs.le (.ofNat (powerOfTwo 40)) = true → ∀ negative count,
        Double.IsNear Settings.standard.tolerance (.ofDecimal negative count (-3)) x →
          x.SurvivesRounding)) ∧
    ∀ rule : Rule, rule.Reachable → rule.condition = .equal →
      ∀ (model : Model) (x : Double), (x.roundTo Settings.standard.decimals).isFinite = true →
        (rule.category = .parameter → rule.property ≠ "" → rule.numericValue = .ok x →
          ∃ filter, rule.compile .standard model = .ok filter ∧
            ∀ (element : Element) (value : ParamValue),
              element.parameter? rule.property = some value → value.asNumber? = some x →
              (filter.selects element = true ↔ x.SurvivesRounding)) ∧
        (rule.category = .level → rule.property = PropertyName.elevation →
          Literal.number rule.value = .ok x →
          ∃ found, rule.levelsByElevation .standard model = .ok found ∧
            rule.compile .standard model =
              .ok (Filter.anyHolds (found.flatMap (levelPredicates .standard))) ∧
            ∀ level ∈ model.levels, level.elevation = x →
              (level ∈ found ↔ x.SurvivesRounding)) := by
  constructor
  · intro x hrounded
    refine ⟨?_, ?_, ?_⟩
    · have hnumeric : Condition.equal.isNumeric = true := rfl
      obtain ⟨test, htest⟩ := numberTest_ok hnumeric x .standard
      exact ⟨test, htest, Double.passes_iff_survivesRounding hrounded htest⟩
    · intro hnear
      obtain ⟨negative, steps, hsteps, rfl⟩ := Double.exists_finite_of_roundTo hrounded
      refine ⟨negative, thousandthsOf steps, ?_⟩
      rwa [← Double.roundTo_eq hsteps hrounded]
    · intro hsize negative count hnear
      exact Double.survivesRounding_of_isNear hsize hrounded hnear
  · intro rule hreachable hcondition model x hrounded
    have h := hreachable.grammatical
    constructor
    · intro hcategory hproperty hvalue
      obtain ⟨filter, test, hfilter, htest, hselects⟩ :=
        h.selects_equal hcategory hproperty hcondition hvalue .standard model
      refine ⟨filter, hfilter, ?_⟩
      intro element value hdefined hnumber
      rw [hselects element value x hdefined hnumber]
      exact Double.passes_iff_survivesRounding hrounded htest
    · intro hcategory hproperty hvalue
      obtain ⟨found, test, htest, hlevels, hcompile, hfound⟩ :=
        h.finds_elevation hcategory hproperty hcondition hvalue .standard model
      refine ⟨found, hlevels, hcompile, ?_⟩
      rintro level hmem rfl
      rw [hfound level hmem]
      exact Double.passes_iff_survivesRounding hrounded htest

/-- *Length equals so many metres.* -/
def metersRule (value : String) : Rule :=
  (((((create (.ofNat 1) .parameter).apply (.property "Length")).1.apply
    (.unitClass .length)).1.apply (.unit .meters)).1.apply (.value value)).1

theorem metersRule_reachable (value : String) : (metersRule value).Reachable :=
  .changed _ (.changed _ (.changed _ (.changed _ (.created _ _))))

/-- *Elevation equals 9.* -/
def roofRule : Rule :=
  (((create (.ofNat 1) .level).apply (.property "Elevation")).1.apply (.value "9")).1

/-- The roof of the house. -/
def houseRoof : Level := ⟨⟨2⟩, "Roof", .ofNat 9⟩

/-- So many feet long. -/
def beamOfLength (x : Double) : Element :=
  { Element.named "Beam" with parameters := Parameters.empty.insert "Length" (.number x) }

/-- A beam of ten feet is found by its length in metres, and the roof by its elevation. -/
theorem tenFeet_found :
    (∃ x filter, (metersRule "3.048").numericValue = .ok x ∧
      (metersRule "3.048").compile .standard .empty = .ok filter ∧
      filter.selects (beamOfLength x) = true) ∧
    ∃ found, roofRule.levelsByElevation .standard house = .ok found ∧ houseRoof ∈ found := by
  obtain ⟨hnumbers, hrules⟩ := equal_finds_itself
  have hsurvives {x : Double} (hrounded : (x.roundTo Settings.standard.decimals).isFinite = true)
      (hnear : ((x.roundTo Settings.standard.decimals).sub x).abs.lt Settings.standard.tolerance =
        true) : x.SurvivesRounding := by
    obtain ⟨⟨test, htest, hpasses⟩, -⟩ := hnumbers x hrounded
    exact hpasses.1 ((NumberTest.passes_of_build_equal htest x).trans hnear)
  constructor
  · have hvalue : (metersRule "3.048").numericValue =
        .ok (Measure.meters.toInternal (.ofDecimal false 3048 (-3))) := by decide +kernel
    have hrounded : ((Measure.meters.toInternal (.ofDecimal false 3048 (-3))).roundTo
        Settings.standard.decimals).isFinite = true := by decide +kernel
    obtain ⟨hparameter, -⟩ := hrules _ (metersRule_reachable "3.048") (by decide +kernel) .empty _
      hrounded
    obtain ⟨filter, hfilter, hselects⟩ :=
      hparameter (by decide +kernel) (by decide +kernel) hvalue
    refine ⟨_, filter, hvalue, hfilter, ?_⟩
    refine (hselects _ (.number _) (by decide +kernel) rfl).2 ?_
    exact hsurvives hrounded (by decide +kernel)
  · have hrounded : ((Double.ofNat 9).roundTo Settings.standard.decimals).isFinite = true := by
      decide +kernel
    obtain ⟨-, hlevel⟩ := hrules roofRule (.changed _ (.changed _ (.created _ _)))
      (by decide +kernel) house _ hrounded
    obtain ⟨found, hfound, -, hmem⟩ :=
      hlevel (by decide +kernel) (by decide +kernel) (by decide +kernel)
    refine ⟨found, hfound, (hmem houseRoof (by decide +kernel) (by decide +kernel)).2 ?_⟩
    exact hsurvives hrounded (by decide +kernel)

/-- A metre in feet is not found by equality with one metre: it is rounded, and one metre is not. -/
theorem meter_missed :
    ∃ x filter, (metersRule "1").numericValue = .ok x ∧
      (x.roundTo Settings.standard.decimals).isFinite = true ∧
      (metersRule "1").compile .standard .empty = .ok filter ∧
      (beamOfLength x).parameter? (metersRule "1").property = some (.number x) ∧
      filter.selects (beamOfLength x) = false := by
  have hcompiles : ((metersRule "1").compile .standard .empty).map
      (·.selects (beamOfLength (Measure.meters.toInternal (.ofNat 1)))) = .ok false := by
    decide +kernel
  obtain ⟨filter, hfilter, hselects⟩ := eq_ok_of_map hcompiles
  exact ⟨Measure.meters.toInternal (.ofNat 1), filter, by decide +kernel, by decide +kernel,
    hfilter, by decide +kernel, hselects.symm⟩

end Rule

end ElementRules
