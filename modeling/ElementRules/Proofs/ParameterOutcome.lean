import ElementRules.Proofs.EntityOutcome

/-!
# Rules on parameters

A parameter rule can fail in three ways besides a missing name: it needs a number and has none, it
compares with a parameter without a name, or it searches for a pattern that is none. Equality is
the case with a way out: without a unit, a value that is no number is compared as text.
-/

namespace ElementRules.Rule

theorem not_lacksFilter_of_parameter {rule : Rule} (hlike : rule.category.isParameterLike = true)
    (hproperty : rule.property ≠ "") : ¬ rule.LacksFilter := by
  rintro (hmem | ⟨-, hempty⟩)
  · have hapart : ∀ category ∈ [Category.room, .space, .redundant],
        category.isParameterLike = false := by decide
    rw [hapart _ hmem] at hlike
    exact Bool.false_ne_true hlike
  · exact hproperty hempty

theorem needsNumber_iff_of_parameter {rule : Rule} (hlike : rule.category.isParameterLike = true) :
    rule.NeedsNumber ↔ rule.condition.isOrdering = true ∨
      rule.condition ∈ [Condition.equal, .notEqual] ∧ rule.unitClass ≠ .none := by
  constructor
  · rintro (⟨hlevel, -⟩ | ⟨-, hneeds⟩)
    · rw [hlevel] at hlike
      exact absurd hlike Bool.false_ne_true
    · exact hneeds
  · intro hneeds
    exact Or.inr ⟨hlike, hneeds⟩

/-- Without an order, a parameter rule needs a number for equality only. -/
theorem not_needsNumber_of_parameter {rule : Rule} (hlike : rule.category.isParameterLike = true)
    (hordering : rule.condition.isOrdering = false)
    (hequality : rule.condition ∈ [Condition.equal, .notEqual] → rule.unitClass = .none) :
    ¬ rule.NeedsNumber := by
  rw [needsNumber_iff_of_parameter hlike]
  rintro (horder | ⟨hmem, hunit⟩)
  · rw [hordering] at horder
    exact Bool.false_ne_true horder
  · exact hunit (hequality hmem)

theorem unread?_of_parameter {rule : Rule} (hlike : rule.category.isParameterLike = true)
    (hnumber : rule.NeedsNumber → Literal.IsNumber rule.value)
    (hmatching : rule.condition ∈ [Condition.matchesParameter, .doesNotMatchParameter] →
      ¬ Text.IsBlankText rule.value) : rule.unread? = none := by
  apply unread?_eq_none hnumber hmatching
  intro hclass
  rw [hclass] at hlike
  exact absurd hlike Bool.false_ne_true

theorem numericValue_of_isNumber {rule : Rule} (h : Literal.IsNumber rule.value) :
    ∃ x, rule.numericValue = .ok x := by
  obtain ⟨x, hx⟩ := Literal.number_of_isNumber h
  unfold numericValue
  rw [hx]
  exact ⟨_, rfl⟩

theorem numericValue_of_not_isNumber {rule : Rule} (h : ¬ Literal.IsNumber rule.value) :
    rule.numericValue = .error (.unreadable rule.value .number) := by
  unfold numericValue
  rw [Literal.number_of_not_isNumber h]
  rfl

theorem comparedNumber_of_isNumber {rule : Rule} (h : Literal.IsNumber rule.value) :
    ∃ x, rule.comparedNumber = .ok (some x) := by
  obtain ⟨x, hx⟩ := numericValue_of_isNumber h
  unfold comparedNumber
  rw [hx]
  exact ⟨x, rfl⟩

/-- Without a unit, a value that is no number is compared as text. -/
theorem comparedNumber_of_not_isNumber {rule : Rule} (h : ¬ Literal.IsNumber rule.value) :
    rule.comparedNumber =
      if rule.unitClass ≠ .none then .error (.unreadable rule.value .number) else .ok none := by
  unfold comparedNumber allowsUnits
  rw [numericValue_of_not_isNumber h]
  simp only [bne_iff_ne]

/-- Equality needs a number only where a unit is chosen. -/
theorem failsWith_equalityTest {rule : Rule} (settings : Settings)
    (hlacks : ¬ rule.LacksFilter) (hlike : rule.category.isParameterLike = true)
    (hcondition : rule.condition ∈ [Condition.equal, .notEqual]) :
    FailsWith rule.failure? (do
      let number ← rule.comparedNumber
      let number ← number.mapM fun x => NumberTest.build rule.condition x settings
      let text ← rule.textTest settings
      .ok (ParameterTest.compare text number)) := by
  have hfacts : ∀ condition ∈ [Condition.equal, .notEqual],
      condition.isNumeric = true ∧ condition.isTextual = true ∧
        condition ∉ [Condition.matchesParameter, .doesNotMatchParameter] ∧
        condition ∉ [Condition.wildCard, .wildCardNoMatch] ∧ condition.isOrdering = false := by
    decide
  obtain ⟨hnumeric, htextual, hmatching, hplain, hordering⟩ := hfacts _ hcondition
  obtain ⟨text, htext⟩ : ∃ text, rule.textTest settings = .ok text := by
    have htest := failsWith_textTest settings htextual
    rwa [patternFailure?_eq_none hplain] at htest
  by_cases hnumber : Literal.IsNumber rule.value
  · obtain ⟨x, hx⟩ := comparedNumber_of_isNumber hnumber
    obtain ⟨test, htest⟩ := numberTest_ok hnumeric x settings
    rw [failure?_eq_patternFailure?_of_read hlacks
        (unread?_of_parameter hlike (fun _ => hnumber) fun hmem => absurd hmem hmatching),
      patternFailure?_eq_none hplain, hx]
    simp only [bind, Except.bind, Option.mapM_some, htest, Functor.map, Except.map, htext]
    exact .ok _
  · rw [comparedNumber_of_not_isNumber hnumber]
    by_cases hunits : rule.unitClass = .none
    -- The value is compared as text, and the failure of its reading is forgotten.
    · have hneeds : ¬ rule.NeedsNumber :=
        not_needsNumber_of_parameter hlike hordering fun _ => hunits
      rw [failure?_eq_patternFailure?_of_read hlacks
          (unread?_of_parameter hlike (fun h => absurd h hneeds) fun hmem => absurd hmem hmatching),
        patternFailure?_eq_none hplain, if_neg (not_not.2 hunits)]
      simp only [bind, Except.bind, Option.mapM_none, pure, Except.pure, htext]
      exact .ok _
    · have hneeds : rule.NeedsNumber :=
        (needsNumber_iff_of_parameter hlike).2 (Or.inr ⟨hcondition, hunits⟩)
      rw [failure?_of_unread hlacks (if_pos ⟨hneeds, hnumber⟩), if_pos hunits]
      exact .error _

theorem failsWith_orderTest {rule : Rule} (settings : Settings)
    (hlacks : ¬ rule.LacksFilter) (hlike : rule.category.isParameterLike = true)
    (hcondition : rule.condition.isOrdering = true) :
    FailsWith rule.failure? (do
      let threshold ← rule.numericValue
      let test ← NumberTest.build rule.condition threshold settings
      .ok (ParameterTest.order test)) := by
  have hfacts : ∀ condition : Condition, condition.isOrdering = true →
      condition.isNumeric = true ∧
        condition ∉ [Condition.matchesParameter, .doesNotMatchParameter] ∧
        condition ∉ [Condition.wildCard, .wildCardNoMatch] := by
    intro condition
    cases condition <;> decide
  obtain ⟨hnumeric, hmatching, hplain⟩ := hfacts _ hcondition
  by_cases hnumber : Literal.IsNumber rule.value
  · obtain ⟨threshold, hthreshold⟩ := numericValue_of_isNumber hnumber
    obtain ⟨test, htest⟩ := numberTest_ok hnumeric threshold settings
    rw [failure?_eq_patternFailure?_of_read hlacks
        (unread?_of_parameter hlike (fun _ => hnumber) fun hmem => absurd hmem hmatching),
      patternFailure?_eq_none hplain, hthreshold]
    simp only [bind, Except.bind, htest]
    exact .ok _
  · have hneeds : rule.NeedsNumber := (needsNumber_iff_of_parameter hlike).2 (Or.inl hcondition)
    rw [failure?_of_unread hlacks (if_pos ⟨hneeds, hnumber⟩), numericValue_of_not_isNumber hnumber]
    exact .error _

/-- The name of the other parameter must not be blank. -/
theorem failsWith_otherParameter {rule : Rule} (hlacks : ¬ rule.LacksFilter)
    (hlike : rule.category.isParameterLike = true)
    (hcondition : rule.condition ∈ [Condition.matchesParameter, .doesNotMatchParameter])
    (negated : Bool) :
    FailsWith rule.failure?
      (if (Text.trim rule.value).isEmpty then .error (.unreadable rule.value .parameterName)
        else .ok (ParameterTest.sameAs negated (Text.trim rule.value) rule.ignoreCase)) := by
  have hfacts : ∀ condition ∈ [Condition.matchesParameter, .doesNotMatchParameter],
      condition.isOrdering = false ∧ condition ∉ [Condition.equal, .notEqual] ∧
        condition ∉ [Condition.wildCard, .wildCardNoMatch] := by
    decide
  obtain ⟨hordering, hequality, hplain⟩ := hfacts _ hcondition
  have hneeds : ¬ rule.NeedsNumber :=
    not_needsNumber_of_parameter hlike hordering fun hmem => absurd hmem hequality
  by_cases hblank : Text.IsBlankText rule.value
  · have hunread : rule.unread? = some .parameterName := by
      unfold unread?
      rw [if_neg fun hfails => hneeds hfails.1, if_pos ⟨hcondition, hblank⟩]
    rw [failure?_of_unread hlacks hunread, if_pos ((Text.isEmpty_trim_iff _).2 hblank)]
    exact .error _
  · have hread : rule.unread? = none :=
      unread?_of_parameter hlike (fun h => absurd h hneeds) fun _ => hblank
    rw [failure?_eq_patternFailure?_of_read hlacks hread, patternFailure?_eq_none hplain,
      if_neg fun hempty => hblank ((Text.isEmpty_trim_iff _).1 hempty)]
    exact .ok _

/-- Presence, and search in the text, ask nothing of the value but a pattern. -/
theorem failure?_of_unmeasured {rule : Rule} (hlacks : ¬ rule.LacksFilter)
    (hlike : rule.category.isParameterLike = true) (hordering : rule.condition.isOrdering = false)
    (hequality : rule.condition ∉ [Condition.equal, .notEqual])
    (hmatching : rule.condition ∉ [Condition.matchesParameter, .doesNotMatchParameter]) :
    rule.failure? = rule.patternFailure? := by
  have hneeds : ¬ rule.NeedsNumber :=
    not_needsNumber_of_parameter hlike hordering fun hmem => absurd hmem hequality
  exact failure?_eq_patternFailure?_of_read hlacks
    (unread?_of_parameter hlike (fun h => absurd h hneeds) fun hmem => absurd hmem hmatching)

theorem Grammatical.failsWith_parameterTest {rule : Rule} (h : rule.Grammatical)
    (hlacks : ¬ rule.LacksFilter) (hlike : rule.category.isParameterLike = true)
    (hduplicated : rule.condition ≠ .duplicated) (settings : Settings) :
    FailsWith rule.failure? (rule.parameterTest settings) := by
  unfold parameterTest
  cases hcondition : rule.condition with
  | defined | undefined | hasValue | hasNoValue =>
    rw [failure?_of_unmeasured hlacks hlike (by rw [hcondition]; rfl) (by rw [hcondition]; decide)
        (by rw [hcondition]; decide),
      patternFailure?_of_existence (by rw [hcondition]; rfl)]
    exact .ok _
  | equal | notEqual =>
    have htest := failsWith_equalityTest settings hlacks hlike (by rw [hcondition]; decide)
    rwa [hcondition] at htest
  | greaterThan | lessThan | greaterOrEqual | lessOrEqual =>
    have htest := failsWith_orderTest settings hlacks hlike (by rw [hcondition]; rfl)
    rwa [hcondition] at htest
  | contains | doesNotContain | wildCard | wildCardNoMatch =>
    rw [failure?_of_unmeasured hlacks hlike (by rw [hcondition]; rfl) (by rw [hcondition]; decide)
      (by rw [hcondition]; decide)]
    exact (failsWith_textTest settings (by rw [hcondition]; rfl)).map _
  | matchesParameter | doesNotMatchParameter =>
    exact failsWith_otherParameter hlacks hlike (by rw [hcondition]; decide) _
  | duplicated => exact absurd hcondition hduplicated
  | included =>
    have hoffered : rule.condition ≠ .included := by
      apply h.condition_satisfies rfl (· ≠ .included)
      revert hlike
      cases rule.category <;> decide
    exact absurd hcondition hoffered

/-- What parameter rules and host parameter rules have in common. -/
theorem Grammatical.failsWith_parameter {rule : Rule} (h : rule.Grammatical)
    (hlike : rule.category.isParameterLike = true) (settings : Settings) (duplicated : Filter)
    (build : ParameterTest → Filter) :
    FailsWith rule.failure?
      (if rule.property.isEmpty then .error rule.unsupported
        else if rule.condition == .duplicated then .ok duplicated
        else (rule.parameterTest settings).map build) := by
  split
  · next hempty =>
    have hnamed : ∀ category : Category, category.isParameterLike = true →
        category ∈ [Category.parameter, .hostParameter, .apiParameter, .phaseStatus] := by
      intro category
      cases category <;> decide
    rw [failure?_of_lacksFilter (Or.inr ⟨hnamed _ hlike, String.isEmpty_iff.1 hempty⟩)]
    exact .error _
  · next hempty =>
    have hlacks : ¬ rule.LacksFilter :=
      not_lacksFilter_of_parameter hlike fun hproperty => hempty (String.isEmpty_iff.2 hproperty)
    split
    · next hduplicated =>
      rw [beq_iff_eq] at hduplicated
      rw [failure?_of_unmeasured hlacks hlike (by rw [hduplicated]; rfl)
          (by rw [hduplicated]; decide) (by rw [hduplicated]; decide),
        patternFailure?_of_existence (by rw [hduplicated]; rfl)]
      exact .ok _
    · next hduplicated =>
      rw [beq_iff_eq] at hduplicated
      exact (h.failsWith_parameterTest hlacks hlike hduplicated settings).map build

end ElementRules.Rule
