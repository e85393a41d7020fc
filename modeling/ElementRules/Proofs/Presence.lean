import ElementRules.Proofs.Hosts
import ElementRules.Proofs.NamedEntities

/-!
# Defined and undefined

*Defined* and *undefined* are no opposites. The undefined form reads the fields of the element; the
defined form, where it is about an entity, looks the entity up in the model (`IsDefined`,
`IsUndefined`). What falls between the two is known exactly (`PresenceForms.selects_split`):

    selected by both     ↔  element.CountsTwice settings model category
    selected by neither  ↔  element.IsLost settings model category

Only levels select twice: an element without a level may lie on the sketch plane of one. And only
references can be lost, those to an entity that the model does not have; where the host is missing,
so is everything that is asked of it. A parameter or an owner view is either there or not.
-/

namespace ElementRules

/-! ## Between the two forms -/

namespace Element

/-- The element is at no level by its ids, and at one by its sketch plane. -/
def CountsTwice (settings : Settings) (model : Model) (element : Element) : Category → Prop
  | .level =>
    element.level = none ∧ element.referenceLevel = none ∧
      ∃ level ∈ model.levels, element.sketchPlane = some (settings.sketchPlanePrefix ++ level.name)
  | _ => False

/-- The element refers to something of the kind, and the model does not have it. What is asked of
the host needs a host. -/
def IsLost (settings : Settings) (model : Model) (element : Element) : Category → Prop
  | .level =>
    (element.level ≠ none ∨ element.referenceLevel ≠ none) ∧
      ∀ level ∈ model.levels, element.level ≠ some level.id ∧
        element.referenceLevel ≠ some level.id ∧
        element.sketchPlane ≠ some (settings.sketchPlanePrefix ++ level.name)
  | .phaseDemolished =>
    ∃ id, element.phaseDemolished = some id ∧ ∀ phase ∈ model.phases, phase.id ≠ id
  | .designOption =>
    ∃ id, element.designOption = some id ∧ ∀ option ∈ model.designOptions, option.id ≠ id
  | .hostParameter => ∀ host ∈ model.elements, element.host ≠ some host.id
  | _ => False

end Element

namespace ParameterTest

theorem passes_defined_iff {element : Element} {name : String} :
    defined.passes element name = true ↔ element.parameter? name ≠ none := by
  unfold passes
  cases element.parameter? name <;> simp

theorem passes_undefined_iff {element : Element} {name : String} :
    undefined.passes element name = true ↔ element.parameter? name = none := by
  unfold passes
  cases element.parameter? name <;> simp

end ParameterTest

namespace Rule

/-- Two rules that ask of the same thing whether it is there, and whether it is not. -/
structure PresenceForms (defined undefined : Rule) : Prop where
  category : undefined.category = defined.category
  property : undefined.property = defined.property
  condition_defined : defined.condition = .defined
  condition_undefined : undefined.condition = .undefined

/-- What the defined form asks: an entity of the model, where it is about entities. -/
def IsDefined (settings : Settings) (model : Model) (rule : Rule) (element : Element) : Prop :=
  match rule.category with
  | .level => ∃ level ∈ model.levels, level.Bears settings element
  | .phaseCreated => ∃ phase ∈ model.phases, element.phaseCreated = some phase.id
  | .phaseDemolished => ∃ phase ∈ model.phases, element.phaseDemolished = some phase.id
  | .designOption => ∃ option ∈ model.designOptions, element.designOption = some option.id
  | .view => element.ownerView ≠ none
  | .parameter | .apiParameter => element.parameter? rule.property ≠ none
  | .hostParameter => ∃ host ∈ model.elements, element.host = some host.id ∧
      host.parameter? rule.property ≠ none
  | _ => False

/-- What the undefined form asks: that the element name nothing. -/
def IsUndefined (model : Model) (rule : Rule) (element : Element) : Prop :=
  match rule.category with
  | .level => element.level = none ∧ element.referenceLevel = none
  | .phaseDemolished => element.phaseDemolished = none
  | .designOption => element.designOption = none
  | .view => element.ownerView = none
  | .parameter | .apiParameter => element.parameter? rule.property = none
  | .hostParameter => ∃ host ∈ model.elements, element.host = some host.id ∧
      host.parameter? rule.property = none
  | _ => False

/-- The categories that offer both forms and have a filter for them. -/
def presenceCategories : List Category :=
  [.level, .phaseDemolished, .designOption, .view, .parameter, .apiParameter, .hostParameter]

/-! ## What the forms select -/

section Forms

variable {settings : Settings} {model : Model} {rule : Rule}

theorem Grammatical.mem_presenceCategories (h : rule.Grammatical) (hlacks : ¬ rule.LacksFilter)
    (hundefined : rule.condition = .undefined) : rule.category ∈ presenceCategories := by
  have htable : ∀ category : Category, category ∉ presenceCategories →
      category ∉ [.room, .space, .redundant] →
      ∀ row ∈ category.grammar.rules, ∀ condition ∈ row.conditions, condition ≠ .undefined := by
    intro category
    cases category <;> decide
  by_contra hother
  have hfiltered : rule.category ∉ [.room, .space, .redundant] := fun hmem => hlacks (.inl hmem)
  exact h.condition_satisfies rfl (· ≠ .undefined) (htable _ hother hfiltered) hundefined

/-- Of levels, only the name is asked for without a comparison. -/
theorem Grammatical.level_property (h : rule.Grammatical) (hcategory : rule.category = .level)
    (hcondition : rule.condition ∉ Condition.ordering) : rule.property = PropertyName.name := by
  have hoffered := h.condition_mem_pair hcategory rfl
  by_contra hother
  rw [if_neg (Ne.symm hother)] at hoffered
  exact hcondition hoffered

theorem Grammatical.view_property (h : rule.Grammatical) (hcategory : rule.category = .view)
    (hcondition : rule.condition ∉ Condition.equality) :
    rule.property ≠ PropertyName.isDefined := by
  have hoffered := h.condition_mem_pair hcategory rfl
  intro hproperty
  rw [if_pos hproperty.symm] at hoffered
  exact hcondition hoffered

theorem not_lacksFilter_iff_of_parameterLike (hlike : rule.category.isParameterLike = true) :
    ¬ rule.LacksFilter ↔ rule.property ≠ "" := by
  have hnamed : rule.category ∉ [.room, .space, .redundant] ∧
      rule.category ∈ [.parameter, .hostParameter, .apiParameter, .phaseStatus] := by
    revert hlike
    cases rule.category <;> decide
  unfold LacksFilter
  simp only [hnamed.1, hnamed.2, false_or, true_and, ne_eq]

/-! ## Each form -/

/-- A rule on hosts knows the elements of a numbered model, and every other rule any element. -/
def Knows (model : Model) (rule : Rule) (element : Element) : Prop :=
  rule.category = .hostParameter → model.Numbered ∧ element ∈ model.elements

/-- The rule compiles, and among the elements that it knows its filter selects these. -/
def Finds (settings : Settings) (model : Model) (rule : Rule) (found : Element → Prop) : Prop :=
  ∃ filter, rule.compile settings model = .ok filter ∧
    ∀ element, rule.Knows model element → (filter.selects element = true ↔ found element)

/-- A parameter with a name is tested element by element. -/
theorem Grammatical.finds_parameter (h : rule.Grammatical)
    (hcategory : rule.category ∈ [.parameter, .apiParameter]) (hlacks : ¬ rule.LacksFilter)
    (hcondition : rule.condition ≠ .duplicated) {test : ParameterTest}
    (htest : rule.parameterTest settings = .ok test) :
    rule.Finds settings model fun element => test.passes element rule.property = true := by
  have hproperty : ¬ rule.property.isEmpty = true := by
    rw [String.isEmpty_iff]
    refine (not_lacksFilter_iff_of_parameterLike ?_).1 hlacks
    rcases List.mem_pair.1 hcategory with hcase | hcase <;> rw [hcase] <;> rfl
  refine ⟨.leaf (.parameter rule.property test), ?_, fun element _ => Iff.rfl⟩
  rw [h.compile_parameter hcategory]
  unfold compileParameter
  rw [if_neg hproperty, if_neg (mt beq_iff_eq.1 hcondition), htest]
  rfl

/-- The parameter of a host is tested once for every element of the model. -/
theorem Grammatical.finds_hostParameter (h : rule.Grammatical)
    (hcategory : rule.category = .hostParameter) (hlacks : ¬ rule.LacksFilter)
    (hcondition : rule.condition ≠ .duplicated) {test : ParameterTest}
    (htest : rule.parameterTest settings = .ok test) :
    rule.Finds settings model fun element => ∃ host ∈ model.elements,
      element.host = some host.id ∧ test.passes host rule.property = true := by
  have hproperty : ¬ rule.property.isEmpty = true := by
    rw [String.isEmpty_iff]
    exact (not_lacksFilter_iff_of_parameterLike (by rw [hcategory]; rfl)).1 hlacks
  refine ⟨oneOf (hostedIds model fun host => test.passes host rule.property), ?_, ?_⟩
  · rw [h.compile_hostParameter hcategory]
    unfold compileHostParameter
    rw [if_neg hproperty, if_neg (mt beq_iff_eq.1 hcondition), htest]
    rfl
  · intro element hknown
    obtain ⟨hnumbered, hmem⟩ := hknown hcategory
    rw [selects_oneOf, List.contains_iff_mem, hnumbered.mem_hostedIds_iff hmem]

theorem Grammatical.finds_defined (h : rule.Grammatical) (hlacks : ¬ rule.LacksFilter)
    (hcategory : rule.category ∈ presenceCategories) (hcondition : rule.condition = .defined)
    (settings : Settings) (model : Model) :
    rule.Finds settings model (rule.IsDefined settings model) := by
  have hduplicated : rule.condition ≠ .duplicated := by
    rw [hcondition]
    decide
  have htest : rule.parameterTest settings = .ok .defined := by
    unfold parameterTest
    rw [hcondition]
  unfold IsDefined
  cases hcase : rule.category with
  | level =>
    have hproperty := h.level_property hcase (by rw [hcondition]; decide)
    refine ⟨Filter.anyHolds (model.levels.flatMap (levelPredicates settings)), ?_, ?_⟩
    · simp only [compile, h.validate_eq_ok, hcase, compileLevel, hproperty, hcondition,
        beq_self_eq_true, if_true]
    · intro element _
      rw [Filter.selects_anyHolds_flatMap_iff]
      simp only [levelPredicates_iff]
  | phaseDemolished =>
    refine ⟨Filter.anyHolds (model.phases.map fun phase => .demolishedIn phase.id), ?_, ?_⟩
    · simp only [compile, h.validate_eq_ok, hcase, compilePhase, hcondition]
    · intro element _
      rw [Filter.selects_anyHolds_map_iff]
      simp only [Predicate.holds, beq_iff_eq]
  | designOption =>
    refine ⟨Filter.anyHolds (model.designOptions.map fun option => .inDesignOption option.id false),
      ?_, ?_⟩
    · simp only [compile, h.validate_eq_ok, hcase, compileDesignOption, hcondition]
    · intro element _
      rw [Filter.selects_anyHolds_map_iff]
      simp only [Predicate.holds, Bool.bne_false, beq_iff_eq]
  | view =>
    have hproperty := h.view_property hcase (by rw [hcondition]; decide)
    refine ⟨.leaf (.hasOwnerView true), ?_, ?_⟩
    · simp only [compile, h.validate_eq_ok, hcase, compileView, beq_iff_eq, hproperty, if_false,
        hcondition]
    · intro element _
      simp [Filter.selects, Predicate.holds, Option.isSome_iff_ne_none]
  | parameter | apiParameter =>
    simpa only [ParameterTest.passes_defined_iff] using
      h.finds_parameter (by rw [hcase]; decide) hlacks hduplicated htest
  | hostParameter =>
    simpa only [ParameterTest.passes_defined_iff] using
      h.finds_hostParameter hcase hlacks hduplicated htest
  | _ =>
    rw [hcase] at hcategory
    exact absurd hcategory (by decide)

theorem Grammatical.finds_undefined (h : rule.Grammatical) (hlacks : ¬ rule.LacksFilter)
    (hcategory : rule.category ∈ presenceCategories) (hcondition : rule.condition = .undefined)
    (settings : Settings) (model : Model) :
    rule.Finds settings model (rule.IsUndefined model) := by
  have hduplicated : rule.condition ≠ .duplicated := by
    rw [hcondition]
    decide
  have htest : rule.parameterTest settings = .ok .undefined := by
    unfold parameterTest
    rw [hcondition]
  unfold IsUndefined
  cases hcase : rule.category with
  | level =>
    have hproperty := h.level_property hcase (by rw [hcondition]; decide)
    refine ⟨.leaf .withoutLevel, ?_, ?_⟩
    · simp only [compile, h.validate_eq_ok, hcase, compileLevel, hproperty, hcondition,
        beq_self_eq_true, if_true]
    · intro element _
      simp [Filter.selects, Predicate.holds]
  | phaseDemolished =>
    refine ⟨.leaf .withoutPhaseDemolished, ?_, ?_⟩
    · simp only [compile, h.validate_eq_ok, hcase, compilePhase, hcondition]
    · intro element _
      simp [Filter.selects, Predicate.holds]
  | designOption =>
    refine ⟨.leaf .withoutDesignOption, ?_, ?_⟩
    · simp only [compile, h.validate_eq_ok, hcase, compileDesignOption, hcondition]
    · intro element _
      simp [Filter.selects, Predicate.holds]
  | view =>
    have hproperty := h.view_property hcase (by rw [hcondition]; decide)
    refine ⟨.leaf (.hasOwnerView false), ?_, ?_⟩
    · simp only [compile, h.validate_eq_ok, hcase, compileView, beq_iff_eq, hproperty, if_false,
        hcondition]
    · intro element _
      simp [Filter.selects, Predicate.holds]
  | parameter | apiParameter =>
    simpa only [ParameterTest.passes_undefined_iff] using
      h.finds_parameter (by rw [hcase]; decide) hlacks hduplicated htest
  | hostParameter =>
    simpa only [ParameterTest.passes_undefined_iff] using
      h.finds_hostParameter hcase hlacks hduplicated htest
  | _ =>
    rw [hcase] at hcategory
    exact absurd hcategory (by decide)

end Forms

/-! ## The two forms together -/

section Split

variable {settings : Settings} {model : Model} {rule : Rule} {element : Element}

theorem isDefined_and_isUndefined_iff (hknown : rule.Knows model element) :
    rule.IsDefined settings model element ∧ rule.IsUndefined model element ↔
      element.CountsTwice settings model rule.category := by
  unfold IsDefined IsUndefined Element.CountsTwice
  cases hcase : rule.category with
  | level =>
    dsimp only
    constructor
    · rintro ⟨⟨level, hmem, hbears⟩, hlevel, hreference⟩
      unfold Level.Bears at hbears
      rw [hlevel, hreference] at hbears
      obtain hid | hid | hplane := hbears
      · cases hid
      · cases hid
      · exact ⟨hlevel, hreference, level, hmem, hplane⟩
    · rintro ⟨hlevel, hreference, level, hmem, hplane⟩
      exact ⟨⟨level, hmem, .inr (.inr hplane)⟩, hlevel, hreference⟩
  | phaseDemolished | designOption =>
    dsimp only
    rw [iff_false]
    rintro ⟨⟨entity, -, hrefers⟩, hnone⟩
    rw [hnone] at hrefers
    cases hrefers
  | view | parameter | apiParameter => exact not_and_self_iff _
  | hostParameter =>
    dsimp only
    rw [iff_false]
    rintro ⟨⟨host, hmem, hid, hdefined⟩, other, hother, hotherId, hundefined⟩
    -- Both ask the same host, as no two elements share an id.
    have hsame : host.id = other.id := Option.some.inj (hid.symm.trans hotherId)
    rw [List.inj_on_of_nodup_map (hknown hcase).1.nodup_elements hmem hother hsame] at hdefined
    exact hdefined hundefined
  | _ => exact iff_of_false (fun hboth => hboth.2) not_false

/-- A reference that is set, and is none of the entities. -/
theorem isDangling_iff {entities : List Entity} {reference? : Option ElementId} :
    (¬ ∃ entity ∈ entities, reference? = some entity.id) ∧ ¬ reference? = none ↔
      ∃ id, reference? = some id ∧ ∀ entity ∈ entities, entity.id ≠ id := by
  constructor
  · rintro ⟨hmissing, hset⟩
    obtain ⟨id, hid⟩ := Option.ne_none_iff_exists'.1 hset
    refine ⟨id, hid, ?_⟩
    rintro entity hmem rfl
    exact hmissing ⟨entity, hmem, hid⟩
  · rintro ⟨id, rfl, hmissing⟩
    refine ⟨?_, Option.some_ne_none id⟩
    rintro ⟨entity, hmem, hid⟩
    exact hmissing entity hmem (Option.some.inj hid).symm

theorem neither_isDefined_nor_isUndefined_iff (hcategory : rule.category ∈ presenceCategories) :
    ¬ rule.IsDefined settings model element ∧ ¬ rule.IsUndefined model element ↔
      element.IsLost settings model rule.category := by
  unfold IsDefined IsUndefined Element.IsLost
  cases hcase : rule.category with
  | level =>
    dsimp only
    unfold Level.Bears
    rw [not_and_or, and_comm]
    simp only [not_exists, not_and, not_or, ne_eq]
  | phaseDemolished => exact isDangling_iff
  | designOption => exact isDangling_iff
  | view | parameter | apiParameter =>
    exact iff_of_false (fun hneither => hneither.1 hneither.2) not_false
  | hostParameter =>
    dsimp only
    constructor
    · rintro ⟨hdefined, hundefined⟩ host hmem hid
      by_cases hvalue : host.parameter? rule.property = none
      · exact hundefined ⟨host, hmem, hid, hvalue⟩
      · exact hdefined ⟨host, hmem, hid, hvalue⟩
    · intro hmissing
      constructor
      · rintro ⟨host, hmem, hid, -⟩
        exact hmissing host hmem hid
      · rintro ⟨host, hmem, hid, -⟩
        exact hmissing host hmem hid
  | _ =>
    rw [hcase] at hcategory
    exact absurd hcategory (by decide)

theorem PresenceForms.isUndefined_iff {defined undefined : Rule}
    (h : PresenceForms defined undefined) :
    undefined.IsUndefined model element ↔ defined.IsUndefined model element := by
  unfold IsUndefined
  rw [h.category, h.property]

end Split

/-- **Between defined and undefined.** Two reachable rules ask whether the same thing is there, and
whether it is not. Unless the category has no filter at all, or nothing is named, both compile, in
every model and with all settings. Both select the elements that count twice, and neither selects
those that are lost; every other element is selected by exactly one of them. Rules on hosts are
asked about the elements of a model that is built by additions, and all others about any element. -/
theorem PresenceForms.selects_split {defined undefined : Rule} (h : PresenceForms defined undefined)
    (hdefined : defined.Reachable) (hundefined : undefined.Reachable)
    (hlacks : ¬ defined.LacksFilter) (settings : Settings) (model : Model)
    (hbuilt : defined.category = .hostParameter →
      ∃ additions : List Model.Addition, additions.length < UInt64.size ∧
        model = .ofAdditions additions) :
    ∃ filter others, defined.compile settings model = .ok filter ∧
      undefined.compile settings model = .ok others ∧
      ∀ element, (defined.category = .hostParameter → element ∈ model.elements) →
        (filter.selects element = true ∧ others.selects element = true ↔
          element.CountsTwice settings model defined.category) ∧
        (filter.selects element = false ∧ others.selects element = false ↔
          element.IsLost settings model defined.category) := by
  have hlacksToo : ¬ undefined.LacksFilter := by
    unfold LacksFilter
    rw [h.category, h.property]
    exact hlacks
  have hcategory : defined.category ∈ presenceCategories := by
    rw [← h.category]
    exact hundefined.grammatical.mem_presenceCategories hlacksToo h.condition_undefined
  obtain ⟨filter, hcompile, hselects⟩ := hdefined.grammatical.finds_defined hlacks hcategory
    h.condition_defined settings model
  obtain ⟨others, hothers, hothersSelect⟩ := hundefined.grammatical.finds_undefined hlacksToo
    (by rwa [h.category]) h.condition_undefined settings model
  refine ⟨filter, others, hcompile, hothers, ?_⟩
  intro element helement
  have hknown : defined.Knows model element := by
    intro hhost
    obtain ⟨additions, hroom, rfl⟩ := hbuilt hhost
    exact ⟨Model.numbered_ofAdditions hroom, helement hhost⟩
  have hknownToo : undefined.Knows model element := by
    unfold Knows
    rwa [h.category]
  rw [← Bool.not_eq_true, ← Bool.not_eq_true, hselects element hknown,
    hothersSelect element hknownToo, h.isUndefined_iff]
  exact ⟨isDefined_and_isUndefined_iff hknown, neither_isDefined_nor_isUndefined_iff hcategory⟩

/-- *Level is defined*, or undefined. -/
def levelPresence (condition : Condition) : Rule :=
  ((create (.ofNat 1) .level).apply (.condition condition)).1

/-- *Mark of the host is defined*, or undefined. -/
def hostMarkPresence (condition : Condition) : Rule :=
  (((create (.ofNat 1) .hostParameter).apply (.property "Mark")).1.apply (.condition condition)).1

/-- A beam on the sketch plane of the ground counts twice, and a slab at a level that is gone is
lost. A shutter without its host is lost too, and a door is not. -/
theorem levels_and_hosts_split :
    (PresenceForms (levelPresence .defined) (levelPresence .undefined) ∧
      (∀ condition, (levelPresence condition).Reachable) ∧
      ¬ (levelPresence .defined).LacksFilter ∧
      ∃ filter others, (levelPresence .defined).compile .standard house = .ok filter ∧
        (levelPresence .undefined).compile .standard house = .ok others ∧
        (filter.selects (beamOn "Ground") = true ∧ others.selects (beamOn "Ground") = true) ∧
        filter.selects { Element.named "Slab" with level := some ⟨9⟩ } = false ∧
        others.selects { Element.named "Slab" with level := some ⟨9⟩ } = false) ∧
    PresenceForms (hostMarkPresence .defined) (hostMarkPresence .undefined) ∧
      (∀ condition, (hostMarkPresence condition).Reachable) ∧
      ¬ (hostMarkPresence .defined).LacksFilter ∧ hostedParts.length < UInt64.size ∧
      ∃ filter others,
        (hostMarkPresence .defined).compile .standard (.ofAdditions hostedParts) = .ok filter ∧
        (hostMarkPresence .undefined).compile .standard (.ofAdditions hostedParts) = .ok others ∧
        (filter.selects { Element.named "Shutter" with id := ⟨3⟩, host := some ⟨9⟩ } = false ∧
          others.selects { Element.named "Shutter" with id := ⟨3⟩, host := some ⟨9⟩ } = false) ∧
        ¬ (filter.selects { Element.named "Door" with id := ⟨2⟩, host := some ⟨1⟩ } = false ∧
          others.selects { Element.named "Door" with id := ⟨2⟩, host := some ⟨1⟩ } = false) := by
  constructor
  · have hforms : PresenceForms (levelPresence .defined) (levelPresence .undefined) := by
      constructor <;> decide +kernel
    have hreachable (condition : Condition) : (levelPresence condition).Reachable :=
      .changed _ (.created _ _)
    have hlacks : ¬ (levelPresence .defined).LacksFilter := by decide +kernel
    have hcategory : (levelPresence .defined).category = .level := by decide +kernel
    have hother : (levelPresence .defined).category ≠ .hostParameter := by
      rw [hcategory]
      decide
    obtain ⟨filter, others, hcompile, hothers, hsplit⟩ := hforms.selects_split (hreachable _)
      (hreachable _) hlacks .standard house fun hhost => absurd hhost hother
    rw [hcategory] at hsplit
    refine ⟨hforms, hreachable, hlacks, filter, others, hcompile, hothers, ?_, ?_⟩
    · refine (hsplit (beamOn "Ground") nofun).1.2 ⟨rfl, rfl, ?_⟩
      exact ⟨⟨⟨1⟩, "Ground", .ofNat 0⟩, by decide +kernel, rfl⟩
    · refine (hsplit { Element.named "Slab" with level := some ⟨9⟩ } nofun).2.2 ⟨.inl nofun, ?_⟩
      decide +kernel
  · have hforms : PresenceForms (hostMarkPresence .defined) (hostMarkPresence .undefined) := by
      constructor <;> decide +kernel
    have hreachable (condition : Condition) : (hostMarkPresence condition).Reachable :=
      .changed _ (.changed _ (.created _ _))
    have hlacks : ¬ (hostMarkPresence .defined).LacksFilter := by decide +kernel
    have hcategory : (hostMarkPresence .defined).category = .hostParameter := by decide +kernel
    have hroom : hostedParts.length < UInt64.size := by decide
    obtain ⟨filter, others, hcompile, hothers, hsplit⟩ := hforms.selects_split (hreachable _)
      (hreachable _) hlacks .standard (.ofAdditions hostedParts) fun _ => ⟨hostedParts, hroom, rfl⟩
    rw [hcategory] at hsplit
    refine ⟨hforms, hreachable, hlacks, hroom, filter, others, hcompile, hothers, ?_, ?_⟩
    · rw [(hsplit _ fun _ => by decide +kernel).2]
      show ∀ host ∈ (Model.ofAdditions hostedParts).elements, some ⟨9⟩ ≠ some host.id
      decide +kernel
    · rw [(hsplit _ fun _ => by decide +kernel).2]
      show ¬ ∀ host ∈ (Model.ofAdditions hostedParts).elements, some ⟨1⟩ ≠ some host.id
      decide +kernel

end Rule

end ElementRules
