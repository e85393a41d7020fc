import ElementRules.Proofs.Verdict

/-!
# Rules on entities and literals

Each compilation that looks for named entities, or reads a literal of a fixed vocabulary, fails as
the verdict on the rule says. The grammar leaves little that can fail here: a literal is one of its
vocabulary (`Grammatical.value_known`), and a condition is one that the compilation knows.
-/

namespace ElementRules.Rule

/-! ## Tests -/

theorem failsWith_ofPattern? {rule : Rule} (negated : Bool)
    (h : rule.condition ∈ [Condition.wildCard, .wildCardNoMatch]) :
    FailsWith rule.patternFailure?
      (TextTest.ofPattern? negated rule.value rule.ignoreCase) := by
  unfold TextTest.ofPattern?
  split
  · next wildcard hread =>
    have hgood : ¬ rule.HasBadPattern := by
      rintro ⟨-, hnone⟩
      rw [hread] at hnone
      exact Bool.false_ne_true hnone
    rw [show rule.patternFailure? = none from if_neg hgood]
    exact .ok _
  · next hread =>
    have hbad : rule.HasBadPattern := ⟨h, by rw [hread]; rfl⟩
    rw [show rule.patternFailure? = some (.badPattern rule.value) from if_pos hbad]
    exact .error _

theorem failsWith_textTest (settings : Settings) {rule : Rule}
    (h : rule.condition.isTextual = true) :
    FailsWith rule.patternFailure? (rule.textTest settings) := by
  unfold textTest
  rw [if_pos h]
  unfold TextTest.build
  cases hcondition : rule.condition with
  | equal | notEqual | contains | doesNotContain =>
    rw [patternFailure?_eq_none (by rw [hcondition]; decide)]
    exact .ok _
  | wildCard | wildCardNoMatch => exact failsWith_ofPattern? _ (by rw [hcondition]; decide)
  | _ =>
    rw [hcondition] at h
    exact absurd h (by decide)

theorem failsWith_matching {α : Type} (settings : Settings) {rule : Rule}
    (h : rule.condition.isTextual = true) (name : α → String) (entities : List α) :
    FailsWith rule.patternFailure? (rule.matching settings name entities) :=
  (failsWith_textTest settings h).map _

/-! ## Vocabulary values and their conditions -/

theorem Grammatical.truth_ok {rule : Rule} (h : rule.Grammatical)
    (hfixed : rule.allowsCustomValue = false)
    (hoptions : rule.valueOptions = Category.truthOptions) :
    ∃ flag, Literal.truth rule.value = .ok flag := by
  have hknown := h.value_known hfixed
  rw [hoptions] at hknown
  exact Literal.truth_of_known hknown

/-- The value of a rule whose category has a vocabulary is a member of it. -/
theorem Grammatical.value_known_of_fixed {rule : Rule} (h : rule.Grammatical) {category : Category}
    (hcategory : rule.category = category) (hfixed : category.grammar.fixedValues = true) :
    ∃ option ∈ category.valueOptions rule.property rule.condition,
      Text.equalUpToAsciiCase option rule.value = true := by
  subst hcategory
  exact h.value_known (Category.allowsCustomValue_eq_false_iff.2 (Or.inr (Or.inl hfixed)))

theorem inversion_ok {rule : Rule} (h : rule.condition ∈ Condition.equality) :
    ∃ inverted, rule.inversion = .ok inverted := by
  unfold inversion
  rcases List.mem_pair.1 h with hequal | hnotEqual
  · rw [hequal]
    exact ⟨false, rfl⟩
  · rw [hnotEqual]
    exact ⟨true, rfl⟩

theorem not_wildcard_of_equality {condition : Condition} (h : condition ∈ Condition.equality) :
    condition ∉ [Condition.wildCard, .wildCardNoMatch] := by
  revert condition
  decide

/-! ## Named entities -/

/-- A rule that takes its property for a category says whether to include it. -/
theorem Grammatical.inclusion {rule : Rule} (h : rule.Grammatical)
    (hcategory : rule.category = .modelCategory) (hproperty : rule.property ≠ PropertyName.name) :
    rule.condition = .included ∧ ∃ included, Literal.truth rule.value = .ok included := by
  have hoffered : rule.condition ∈
      if PropertyName.name = rule.property then Condition.text else [Condition.included] :=
    h.condition_mem_pair hcategory rfl
  rw [if_neg hproperty.symm, List.mem_singleton] at hoffered
  have hfixed : rule.allowsCustomValue = false :=
    Category.allowsCustomValue_eq_false_iff.2 (Or.inl ⟨hcategory, hproperty⟩)
  have hoptions : rule.valueOptions = Category.truthOptions := by
    unfold valueOptions
    rw [hcategory]
    exact if_pos (bne_iff_ne.2 hproperty)
  exact ⟨hoffered, h.truth_ok hfixed hoptions⟩

theorem Grammatical.failsWith_compileCategory {rule : Rule} (h : rule.Grammatical)
    (hcategory : rule.category = .modelCategory) (settings : Settings) (model : Model) :
    FailsWith rule.failure? (rule.compileCategory settings model) := by
  rw [h.failure?_of_alwaysFiltered (by rw [hcategory]; decide)]
  unfold compileCategory
  split
  · next hname =>
    have hoffered : rule.condition ∈
        if PropertyName.name = rule.property then Condition.text else [Condition.included] :=
      h.condition_mem_pair hcategory rfl
    rw [if_pos (beq_iff_eq.1 hname).symm] at hoffered
    have htextual : ∀ condition ∈ Condition.text, condition.isTextual = true := by decide
    exact (failsWith_matching settings (htextual _ hoffered) _ _).map _
  · next hname =>
    obtain ⟨hcondition, included, hincluded⟩ :=
      h.inclusion hcategory (mt beq_iff_eq.2 hname)
    rw [patternFailure?_eq_none (by rw [hcondition]; decide), if_pos (by rw [hcondition]; rfl),
      hincluded]
    exact .ok _

/-- A property whose values are yes and no, in a category without a vocabulary of its own. -/
theorem Grammatical.truth_ok_of_reserved {rule : Rule} (h : rule.Grammatical)
    (hcategory : rule.category ∈ [Category.family, .view, .host])
    (hproperty : rule.property = PropertyName.isInPlace ∨ rule.property = PropertyName.isDefined) :
    ∃ flag, Literal.truth rule.value = .ok flag := by
  have hfixed : rule.allowsCustomValue = false :=
    Category.allowsCustomValue_eq_false_iff.2 (Or.inr (Or.inr (Or.inr hproperty)))
  have hreserved : (rule.property == PropertyName.isInPlace ||
      rule.property == PropertyName.isDefined) = true := by
    rw [Bool.or_eq_true, beq_iff_eq, beq_iff_eq]
    exact hproperty
  apply h.truth_ok hfixed
  unfold valueOptions
  simp only [List.mem_cons, List.not_mem_nil, or_false] at hcategory
  rcases hcategory with hcategory | hcategory | hcategory <;> rw [hcategory] <;>
    exact if_pos hreserved

theorem Grammatical.failsWith_compileFamily {rule : Rule} (h : rule.Grammatical)
    (hcategory : rule.category = .family) (settings : Settings) (model : Model) :
    FailsWith rule.failure? (rule.compileFamily settings model) := by
  rw [h.failure?_of_alwaysFiltered (by rw [hcategory]; decide)]
  have hoffered : rule.condition ∈
      if PropertyName.isInPlace = rule.property then Condition.equality
      else Condition.text ++ Condition.wildcards :=
    h.condition_mem_pair hcategory rfl
  unfold compileFamily
  apply FailsWith.map
  split
  · next hproperty =>
    rw [beq_iff_eq] at hproperty
    rw [if_pos hproperty.symm] at hoffered
    obtain ⟨flag, hflag⟩ := h.truth_ok_of_reserved (by rw [hcategory]; decide) (Or.inl hproperty)
    obtain ⟨inverted, hinverted⟩ := inversion_ok hoffered
    rw [patternFailure?_eq_none (not_wildcard_of_equality hoffered), hflag, hinverted]
    exact .ok _
  · next hproperty =>
    have hother : rule.property ≠ PropertyName.isInPlace := mt beq_iff_eq.2 hproperty
    rw [if_neg hother.symm] at hoffered
    have htextual : ∀ condition ∈ Condition.text ++ Condition.wildcards,
        condition.isTextual = true := by decide
    exact failsWith_matching settings (htextual _ hoffered) _ _

/-- The conditions of types and worksets all test the name. -/
theorem Grammatical.isTextual_of_category {rule : Rule} (h : rule.Grammatical)
    (hcategory : rule.category = .elementType ∨ rule.category = .workset) :
    rule.condition.isTextual = true := by
  rcases hcategory with hcategory | hcategory <;>
    exact h.condition_satisfies hcategory (·.isTextual = true) (by decide)

theorem Grammatical.failsWith_compileType {rule : Rule} (h : rule.Grammatical)
    (hcategory : rule.category = .elementType) (settings : Settings) (model : Model) :
    FailsWith rule.failure? (rule.compileType settings model) := by
  rw [h.failure?_of_alwaysFiltered (by rw [hcategory]; decide)]
  exact (failsWith_matching settings (h.isTextual_of_category (Or.inl hcategory)) _ _).map _

theorem Grammatical.failsWith_compileWorkset {rule : Rule} (h : rule.Grammatical)
    (hcategory : rule.category = .workset) (settings : Settings) (model : Model) :
    FailsWith rule.failure? (rule.compileWorkset settings model) := by
  rw [h.failure?_of_alwaysFiltered (by rw [hcategory]; decide)]
  exact (failsWith_matching settings (h.isTextual_of_category (Or.inr hcategory)) _ _).map _

/-! ## Associations -/

theorem isTextual_of_association {condition : Condition} (h : condition ∈ Condition.association)
    (hdefined : condition ≠ .defined) (hundefined : condition ≠ .undefined) :
    condition.isTextual = true := by
  revert condition
  decide

theorem patternFailure?_of_existence {rule : Rule} (h : rule.condition.isExistence = true) :
    rule.patternFailure? = none := by
  apply patternFailure?_eq_none
  revert h
  cases rule.condition <;> decide

/-- All associations compile alike: two conditions on their existence, and tests of a name. -/
theorem failsWith_association {rule : Rule} (settings : Settings)
    (h : rule.condition ∈ Condition.association) {α : Type} (name : α → String) (entities : List α)
    (build : List α → Filter) (defined undefined : Filter) :
    FailsWith rule.patternFailure?
      (match rule.condition with
      | .defined => .ok defined
      | .undefined => .ok undefined
      | _ => (rule.matching settings name entities).map build) := by
  split
  · next hdefined =>
    rw [patternFailure?_of_existence (by rw [hdefined]; rfl)]
    exact .ok _
  · next hundefined =>
    rw [patternFailure?_of_existence (by rw [hundefined]; rfl)]
    exact .ok _
  · next hdefined hundefined =>
    have htextual := isTextual_of_association h hdefined hundefined
    exact (failsWith_matching settings htextual name entities).map build

theorem numberTest_ok {condition : Condition} (h : condition.isNumeric = true) (threshold : Double)
    (settings : Settings) : ∃ test, NumberTest.build condition threshold settings = .ok test :=
  ⟨_, if_pos h⟩

theorem failsWith_levelsByElevation {rule : Rule} (settings : Settings) (model : Model)
    (hlacks : ¬ rule.LacksFilter) (hcategory : rule.category = .level)
    (hproperty : rule.property = PropertyName.elevation)
    (hoffered : rule.condition ∈ Condition.ordering) :
    FailsWith rule.failure? (rule.levelsByElevation settings model) := by
  have hconditions : ∀ condition ∈ Condition.ordering, condition.isNumeric = true ∧
      condition ∉ [Condition.matchesParameter, .doesNotMatchParameter] ∧
      condition ∉ [Condition.wildCard, .wildCardNoMatch] := by decide
  obtain ⟨hnumeric, hmatching, hplain⟩ := hconditions _ hoffered
  have hneeds : rule.NeedsNumber := Or.inl ⟨hcategory, hproperty⟩
  unfold levelsByElevation
  by_cases hnumber : Literal.IsNumber rule.value
  · have hread : rule.unread? = none :=
      unread?_eq_none (fun _ => hnumber) (fun hmem => absurd hmem hmatching)
        (fun heq => absurd (hcategory.symm.trans heq) (by decide))
    obtain ⟨threshold, hthreshold⟩ := Literal.number_of_isNumber hnumber
    obtain ⟨test, htest⟩ := numberTest_ok hnumeric threshold settings
    rw [failure?_eq_patternFailure?_of_read hlacks hread, patternFailure?_eq_none hplain,
      hthreshold]
    dsimp only [bind, Except.bind]
    rw [htest]
    exact .ok _
  · have hunread : rule.unread? = some .number := if_pos ⟨hneeds, hnumber⟩
    rw [failure?_of_unread hlacks hunread, Literal.number_of_not_isNumber hnumber]
    exact .error _

theorem Grammatical.failsWith_compileLevel {rule : Rule} (h : rule.Grammatical)
    (hcategory : rule.category = .level) (settings : Settings) (model : Model) :
    FailsWith rule.failure? (rule.compileLevel settings model) := by
  have hoffered : rule.condition ∈
      if PropertyName.name = rule.property then Condition.association else Condition.ordering :=
    h.condition_mem_pair hcategory rfl
  have hlacks : ¬ rule.LacksFilter := by simp [LacksFilter, hcategory]
  unfold compileLevel
  split
  · next hname =>
    rw [beq_iff_eq] at hname
    rw [if_pos hname.symm] at hoffered
    rw [h.failure?_eq_patternFailure? hlacks (by rw [hcategory]; rfl) (by rw [hcategory]; decide)
      fun _ => by rw [hname]; decide]
    exact failsWith_association settings hoffered _ _ _ _ _
  · next hname =>
    have hother : rule.property ≠ PropertyName.name := mt beq_iff_eq.2 hname
    have helevation : rule.property = PropertyName.elevation := by
      have hproperty := h.property_offered (by unfold allowsCustomProperty; rw [hcategory]; rfl)
      unfold propertyOptions at hproperty
      rw [hcategory] at hproperty
      exact (List.mem_pair.1 hproperty).resolve_left hother
    rw [if_neg hother.symm] at hoffered
    rw [if_pos (beq_iff_eq.2 helevation)]
    exact (failsWith_levelsByElevation settings model hlacks hcategory helevation hoffered).map _

theorem Grammatical.failsWith_compilePhase {rule : Rule} (h : rule.Grammatical)
    (hcategory : rule.category = .phaseCreated ∨ rule.category = .phaseDemolished)
    (settings : Settings) (model : Model) (inPhase : ElementId → Predicate) (without : Predicate) :
    FailsWith rule.failure? (rule.compilePhase settings model inPhase without) := by
  have hoffered : rule.condition ∈ Condition.association := by
    rcases hcategory with hcategory | hcategory <;>
      exact h.condition_satisfies hcategory (· ∈ Condition.association) (by decide)
  rw [h.failure?_of_alwaysFiltered (by rcases hcategory with hc | hc <;> rw [hc] <;> decide)]
  exact failsWith_association settings hoffered _ _ _ _ _

theorem failsWith_outsideOptions (options : List Entity) :
    FailsWith none (outsideOptions options) := by
  cases options with
  | nil => exact .ok _
  | cons first rest =>
    unfold outsideOptions
    cases rest <;> exact .ok _

theorem Grammatical.failsWith_compileDesignOption {rule : Rule} (h : rule.Grammatical)
    (hcategory : rule.category = .designOption) (settings : Settings) (model : Model) :
    FailsWith rule.failure? (rule.compileDesignOption settings model) := by
  have hoffered : rule.condition ∈ Condition.association :=
    h.condition_satisfies hcategory (· ∈ Condition.association) (by decide)
  rw [h.failure?_of_alwaysFiltered (by rw [hcategory]; decide)]
  unfold compileDesignOption
  split
  · next hequal =>
    rw [patternFailure?_eq_none (by rw [hequal]; decide)]
    exact .ok _
  · next hnotEqual =>
    rw [patternFailure?_eq_none (by rw [hnotEqual]; decide)]
    exact failsWith_outsideOptions _
  · next hdefined =>
    rw [patternFailure?_of_existence (by rw [hdefined]; rfl)]
    exact .ok _
  · next hundefined =>
    rw [patternFailure?_of_existence (by rw [hundefined]; rfl)]
    exact .ok _
  · next hdefined hundefined =>
    have htextual := isTextual_of_association hoffered hdefined hundefined
    exact (failsWith_matching settings htextual _ _).map _

theorem Grammatical.failsWith_compileView {rule : Rule} (h : rule.Grammatical)
    (hcategory : rule.category = .view) (settings : Settings) (model : Model) :
    FailsWith rule.failure? (rule.compileView settings model) := by
  have hoffered : rule.condition ∈
      if PropertyName.isDefined = rule.property then Condition.equality
      else Condition.association :=
    h.condition_mem_pair hcategory rfl
  rw [h.failure?_of_alwaysFiltered (by rw [hcategory]; decide)]
  unfold compileView
  split
  · next hproperty =>
    rw [beq_iff_eq] at hproperty
    rw [if_pos hproperty.symm] at hoffered
    obtain ⟨flag, hflag⟩ := h.truth_ok_of_reserved (by rw [hcategory]; decide) (Or.inr hproperty)
    obtain ⟨inverted, hinverted⟩ := inversion_ok hoffered
    rw [patternFailure?_eq_none (not_wildcard_of_equality hoffered), hflag, hinverted]
    exact .ok _
  · next hproperty =>
    rw [if_neg fun heq => hproperty (beq_iff_eq.2 heq.symm)] at hoffered
    exact failsWith_association settings hoffered _ _ _ _ _

/-! ## Literals -/

theorem failsWith_compileTruth {rule : Rule} (hcondition : rule.condition = .equal)
    (htruth : ∃ flag, Literal.truth rule.value = .ok flag) (predicate : Bool → Predicate) :
    FailsWith none (rule.compileTruth predicate) := by
  obtain ⟨flag, hflag⟩ := htruth
  unfold compileTruth
  rw [if_pos (by rw [hcondition]; rfl), hflag]
  exact .ok _

theorem Grammatical.failsWith_typeOrInstance {rule : Rule} (h : rule.Grammatical)
    (hcategory : rule.category = .typeOrInstance) :
    FailsWith rule.failure? (rule.compileTruth .isType) := by
  have hcondition : rule.condition = .equal :=
    h.condition_satisfies hcategory (· = .equal) (by decide)
  have hknown := h.value_known_of_fixed hcategory rfl
  rw [h.failure?_of_alwaysFiltered (by rw [hcategory]; decide),
    patternFailure?_eq_none (by rw [hcondition]; decide)]
  exact failsWith_compileTruth hcondition (Literal.truth_of_known hknown) _

theorem Grammatical.failsWith_host {rule : Rule} (h : rule.Grammatical)
    (hcategory : rule.category = .host) :
    FailsWith rule.failure? (rule.compileTruth .hasHost) := by
  have hcondition : rule.condition = .equal :=
    h.condition_satisfies hcategory (· = .equal) (by decide)
  have hproperty : rule.property = PropertyName.isDefined := by
    have hoffered := h.property_offered (by unfold allowsCustomProperty; rw [hcategory]; rfl)
    unfold propertyOptions at hoffered
    rw [hcategory] at hoffered
    exact List.mem_singleton.1 hoffered
  rw [h.failure?_of_alwaysFiltered (by rw [hcategory]; decide),
    patternFailure?_eq_none (by rw [hcondition]; decide)]
  exact failsWith_compileTruth hcondition
    (h.truth_ok_of_reserved (by rw [hcategory]; decide) (Or.inr hproperty)) _

theorem Grammatical.failsWith_compileStructuralType {rule : Rule} (h : rule.Grammatical)
    (hcategory : rule.category = .structuralType) :
    FailsWith rule.failure? rule.compileStructuralType := by
  have hoffered : rule.condition ∈ Condition.equality :=
    h.condition_satisfies hcategory (· ∈ Condition.equality) (by decide)
  have hknown : ∃ option ∈ Category.structuralTypeOptions,
      Text.equalUpToAsciiCase option rule.value = true := h.value_known_of_fixed hcategory rfl
  obtain ⟨inverted, hinverted⟩ := inversion_ok hoffered
  obtain ⟨kind, hkind⟩ : ∃ kind : StructuralType, Literal.member? rule.value = some kind :=
    Literal.member?_of_known (by decide) (by decide) hknown
  rw [h.failure?_of_alwaysFiltered (by rw [hcategory]; decide),
    patternFailure?_eq_none (not_wildcard_of_equality hoffered)]
  unfold compileStructuralType
  rw [hinverted]
  dsimp only [bind, Except.bind]
  rw [hkind]
  exact .ok _

theorem Grammatical.failsWith_compilePhaseStatus {rule : Rule} (h : rule.Grammatical)
    (hcategory : rule.category = .phaseStatus) (model : Model) :
    FailsWith rule.failure? (rule.compilePhaseStatus model) := by
  unfold compilePhaseStatus
  split
  · next hempty =>
    have hlacks : rule.LacksFilter :=
      Or.inr ⟨by rw [hcategory]; decide, String.isEmpty_iff.1 hempty⟩
    rw [failure?_of_lacksFilter hlacks]
    exact .error _
  · next hempty =>
    have hlacks : ¬ rule.LacksFilter := by
      rintro (hmem | ⟨-, hproperty⟩)
      · rw [hcategory] at hmem
        exact absurd hmem (by decide)
      · exact hempty (String.isEmpty_iff.2 hproperty)
    have hoffered : rule.condition ∈ Condition.equality :=
      h.condition_satisfies hcategory (· ∈ Condition.equality) (by decide)
    have hknown : ∃ option ∈ Category.phaseStatusOptions,
        Text.equalUpToAsciiCase option rule.value = true := h.value_known_of_fixed hcategory rfl
    obtain ⟨inverted, hinverted⟩ := inversion_ok hoffered
    obtain ⟨status, hstatus⟩ : ∃ status : PhaseStatus, Literal.member? rule.value = some status :=
      Literal.member?_of_known (by decide) (by decide) hknown
    rw [h.failure?_eq_patternFailure? hlacks (by rw [hcategory]; rfl) (by rw [hcategory]; decide)
      (fun heq => absurd (hcategory.symm.trans heq) (by decide)),
      patternFailure?_eq_none (not_wildcard_of_equality hoffered), hinverted]
    dsimp only [bind, Except.bind]
    rw [hstatus]
    cases model.phases.findIdx? (·.name == rule.property) <;> exact .ok _

theorem Grammatical.failsWith_compileClass {rule : Rule} (h : rule.Grammatical)
    (hcategory : rule.category = .apiType) (model : Model) :
    FailsWith rule.failure? (rule.compileClass model) := by
  have hcondition : rule.condition = .equal :=
    h.condition_satisfies hcategory (· = .equal) (by decide)
  have hlacks : ¬ rule.LacksFilter := by simp [LacksFilter, hcategory]
  have hnumber : ¬ rule.NeedsNumber := by simp [NeedsNumber, hcategory, Category.isParameterLike]
  have hmatching : rule.condition ∉ [Condition.matchesParameter, .doesNotMatchParameter] := by
    rw [hcondition]
    decide
  unfold compileClass
  rw [if_pos (by rw [hcondition]; rfl)]
  by_cases hblank : Text.IsBlankText rule.value
  · have hunread : rule.unread? = some .className := by
      unfold unread?
      rw [if_neg fun hfails => hnumber hfails.1, if_neg fun hfails => hmatching hfails.1,
        if_pos ⟨hcategory, hblank⟩]
    rw [failure?_of_unread hlacks hunread, if_pos ((Text.isEmpty_trim_iff _).2 hblank)]
    exact .error _
  · have hread : rule.unread? = none :=
      unread?_eq_none (fun hneeds => absurd hneeds hnumber) (fun hmem => absurd hmem hmatching)
        fun _ => hblank
    rw [failure?_eq_patternFailure?_of_read hlacks hread,
      patternFailure?_eq_none (by rw [hcondition]; decide),
      if_neg fun hempty => hblank ((Text.isEmpty_trim_iff _).1 hempty)]
    split <;> exact .ok _

end ElementRules.Rule
