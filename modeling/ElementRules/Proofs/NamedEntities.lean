import ElementRules.Compilation
import ElementRules.Proofs.Selection

/-!
# Rules on named entities

A rule on named entities is compiled in two steps: the entities that pass its test are looked up in
the model, and each becomes a few predicates on ids. What comes out means what a reader of the rule
expects (`selects_iff_entity`):

    filter.selects element ↔ ∃ entity of the model, entity passes ∧ element belongs to entity

No entity is lost on the way, and none is added, be there none, one or many that pass. The element
need not be one of the model.
-/

namespace ElementRules

/-! ## What a rule asks of an entity -/

namespace Rule

/-- The name passes the test of the rule; where the rule asks only for an entity, any name does. -/
def PassesName (settings : Settings) (rule : Rule) (name : String) : Prop :=
  rule.condition = .defined ∨
    ∃ test, TextTest.build rule.condition rule.value rule.ignoreCase settings.locale = .ok test ∧
      test.passes name = true

/-- A family is in place, or is not, as the literal and the condition say. -/
def PassesInPlace (rule : Rule) (inPlace : Bool) : Prop :=
  ∃ literal, Literal.truth rule.value = .ok literal ∧
    (rule.condition = .equal ∧ inPlace = literal ∨
      rule.condition = .notEqual ∧ inPlace ≠ literal)

def PassesElevation (settings : Settings) (rule : Rule) (elevation : Double) : Prop :=
  ∃ threshold test, Literal.number rule.value = .ok threshold ∧
    NumberTest.build rule.condition threshold settings = .ok test ∧ test.passes elevation = true

end Rule

/-! ## What belongs to an entity -/

/-- A type of the family, or an instance of one of the types that the family lists. -/
def Family.Owns (family : Family) (element : Element) : Prop :=
  element.isType = true ∧ element.family = some family.id ∨
    element.isType = false ∧ ∃ type ∈ family.types, element.type = some type

/-- At the level, by its id, or on the sketch plane that bears its name. -/
def Level.Bears (settings : Settings) (level : Level) (element : Element) : Prop :=
  element.level = some level.id ∨ element.referenceLevel = some level.id ∨
    element.sketchPlane = some (settings.sketchPlanePrefix ++ level.name)

namespace Rule

/-- The rules that ask for an entity. The others of these categories ask that there be none, or
compare whole options, or read a literal. -/
def AsksForEntity (rule : Rule) : Prop :=
  match rule.category with
  | .modelCategory => rule.property = PropertyName.name
  | .family | .elementType | .level | .phaseCreated | .phaseDemolished | .workset =>
    rule.condition ≠ .undefined
  | .view => rule.property = PropertyName.name ∧ rule.condition ∉ [.defined, .undefined]
  | .designOption => rule.condition ∉ [.equal, .notEqual, .undefined]
  | _ => False

/-- Some entity of the model passes, and the element belongs to it. -/
def Describes (settings : Settings) (model : Model) (rule : Rule) (element : Element) : Prop :=
  match rule.category with
  | .modelCategory => ∃ category ∈ model.categories,
      rule.PassesName settings category.name ∧ element.category = some category.id
  | .family => ∃ family ∈ model.families,
      (if rule.property = PropertyName.isInPlace then rule.PassesInPlace family.inPlace
        else rule.PassesName settings family.name) ∧ family.Owns element
  | .elementType => ∃ type ∈ model.types,
      rule.PassesName settings type.name ∧ (element.id = type.id ∨ element.type = some type.id)
  | .level => ∃ level ∈ model.levels,
      (if rule.property = PropertyName.elevation then rule.PassesElevation settings level.elevation
        else rule.PassesName settings level.name) ∧ level.Bears settings element
  | .phaseCreated => ∃ phase ∈ model.phases,
      rule.PassesName settings phase.name ∧ element.phaseCreated = some phase.id
  | .phaseDemolished => ∃ phase ∈ model.phases,
      rule.PassesName settings phase.name ∧ element.phaseDemolished = some phase.id
  | .designOption => ∃ option ∈ model.designOptions,
      rule.PassesName settings (optionName settings option) ∧
        element.designOption = some option.id
  | .view => ∃ view ∈ model.views,
      rule.PassesName settings view.name ∧ element.ownerView = some view.id
  | .workset => ∃ workset ∈ model.worksets,
      rule.PassesName settings workset.name ∧ element.workset = some workset.id
  | _ => False

/-! ## Looking entities up -/

theorem eq_ok_of_map {α β : Type} {result : Except Failure α} {f : α → β} {value : β}
    (h : result.map f = .ok value) : ∃ found, result = .ok found ∧ value = f found := by
  cases hresult : result with
  | error failure =>
    rw [hresult] at h
    cases h
  | ok found =>
    rw [hresult] at h
    exact ⟨found, rfl, (Except.ok.inj h).symm⟩

theorem eq_ok_of_bind {α β : Type} {result : Except Failure α} {next : α → Except Failure β}
    {value : β} (h : (result >>= next) = .ok value) :
    ∃ found, result = .ok found ∧ next found = .ok value := by
  cases hresult : result with
  | error failure =>
    rw [hresult] at h
    cases h
  | ok found =>
    rw [hresult] at h
    exact ⟨found, rfl, h⟩

theorem passesName_iff_of_textTest {settings : Settings} {rule : Rule} {test : TextTest}
    (h : rule.textTest settings = .ok test) (name : String) :
    rule.PassesName settings name ↔ test.passes name = true := by
  unfold textTest at h
  split at h
  · next htextual =>
    constructor
    · rintro (hdefined | ⟨built, hbuilt, hpasses⟩)
      · rw [hdefined] at htextual
        exact absurd htextual (by decide)
      · rw [h] at hbuilt
        rwa [Except.ok.inj hbuilt]
    · intro hpasses
      exact Or.inr ⟨test, h, hpasses⟩
  · cases h

/-- What is found by name are the entities whose name passes. -/
theorem mem_found_iff {α : Type} {settings : Settings} {rule : Rule} {name : α → String}
    {entities found : List α} (h : rule.matching settings name entities = .ok found)
    (entity : α) :
    entity ∈ found ↔ entity ∈ entities ∧ rule.PassesName settings (name entity) := by
  obtain ⟨test, htest, rfl⟩ := eq_ok_of_map h
  rw [List.mem_filter, passesName_iff_of_textTest htest]

/-- The entities of an association: all of them where the rule asks only that there be one. -/
theorem found_of_association {α : Type} {settings : Settings} {rule : Rule} {name : α → String}
    {entities : List α} {build : List α → Filter} {filter : Filter} (without : Filter)
    (hcondition : rule.condition ≠ .undefined)
    (h : (match rule.condition with
      | .defined => Except.ok (build entities)
      | .undefined => Except.ok without
      | _ => (rule.matching settings name entities).map build) = .ok filter) :
    ∃ found, filter = build found ∧
      ∀ entity, entity ∈ found ↔ entity ∈ entities ∧ rule.PassesName settings (name entity) := by
  split at h
  · next hdefined =>
    refine ⟨entities, (Except.ok.inj h).symm, ?_⟩
    intro entity
    rw [iff_self_and]
    exact fun _ => Or.inl hdefined
  · next hundefined => exact absurd hundefined hcondition
  · obtain ⟨found, hfound, rfl⟩ := eq_ok_of_map h
    exact ⟨found, rfl, mem_found_iff hfound⟩

/-! ## From entities to elements -/

section Expansion

variable {α : Type} {entities found : List α} {passes : α → Prop} {belongs : α → Prop}
variable {element : Element}

/-- Each entity found stands for its predicates, and they say what belongs to it. -/
theorem selects_found_iff {predicates : α → List Predicate}
    (hfound : ∀ entity, entity ∈ found ↔ entity ∈ entities ∧ passes entity)
    (hbelongs : ∀ entity, (∃ predicate ∈ predicates entity, predicate.holds element = true) ↔
      belongs entity) :
    (Filter.anyHolds (found.flatMap predicates)).selects element = true ↔
      ∃ entity ∈ entities, passes entity ∧ belongs entity := by
  rw [Filter.selects_anyHolds_flatMap_iff]
  constructor
  · rintro ⟨entity, hmem, hholds⟩
    obtain ⟨hentity, hpasses⟩ := (hfound entity).1 hmem
    exact ⟨entity, hentity, hpasses, (hbelongs entity).1 hholds⟩
  · rintro ⟨entity, hentity, hpasses, hbelong⟩
    exact ⟨entity, (hfound entity).2 ⟨hentity, hpasses⟩, (hbelongs entity).2 hbelong⟩

theorem selects_found_map_iff {predicate : α → Predicate}
    (hfound : ∀ entity, entity ∈ found ↔ entity ∈ entities ∧ passes entity)
    (hbelongs : ∀ entity, (predicate entity).holds element = true ↔ belongs entity) :
    (Filter.anyHolds (found.map predicate)).selects element = true ↔
      ∃ entity ∈ entities, passes entity ∧ belongs entity := by
  rw [List.map_eq_flatMap]
  apply selects_found_iff hfound
  intro entity
  rw [← hbelongs entity]
  simp only [List.mem_singleton, exists_eq_left]

end Expansion

theorem familyPredicates_iff (family : Family) (element : Element) :
    (∃ predicate ∈ familyPredicates family, predicate.holds element = true) ↔
      family.Owns element := by
  unfold familyPredicates Family.Owns
  constructor
  · rintro ⟨predicate, hmem, hholds⟩
    rcases List.mem_cons.1 hmem with rfl | hmem
    · left
      simpa [Predicate.holds] using hholds
    · obtain ⟨type, htype, rfl⟩ := List.mem_map.1 hmem
      have hinstance : element.isType = false ∧ element.type = some type := by
        simpa [Predicate.holds] using hholds
      exact Or.inr ⟨hinstance.1, type, htype, hinstance.2⟩
  · rintro (⟨hisType, hfamily⟩ | ⟨hinstance, type, htype, heq⟩)
    · refine ⟨.typeInFamily family.id, List.mem_cons_self, ?_⟩
      simp [Predicate.holds, hisType, hfamily]
    · refine ⟨.instanceOf type, List.mem_cons_of_mem _ (List.mem_map_of_mem htype), ?_⟩
      simp [Predicate.holds, hinstance, heq]

theorem levelPredicates_iff (settings : Settings) (level : Level) (element : Element) :
    (∃ predicate ∈ levelPredicates settings level, predicate.holds element = true) ↔
      level.Bears settings element := by
  unfold levelPredicates Level.Bears
  simp only [List.mem_cons, List.not_mem_nil, or_false, exists_eq_or_imp, exists_eq_left,
    Predicate.holds, Bool.or_eq_true, beq_iff_eq, or_assoc]

/-! ## Tests that are not of names -/

theorem inPlace_iff {rule : Rule} {literal inverted : Bool}
    (hliteral : Literal.truth rule.value = .ok literal) (hinverted : rule.inversion = .ok inverted)
    (inPlace : Bool) :
    (inPlace == (literal != inverted)) = true ↔ rule.PassesInPlace inPlace := by
  have hcondition : inverted = false ∧ rule.condition = .equal ∨
      inverted = true ∧ rule.condition = .notEqual := by
    unfold inversion at hinverted
    split at hinverted
    · next hequal => exact Or.inl ⟨(Except.ok.inj hinverted).symm, hequal⟩
    · next hnotEqual => exact Or.inr ⟨(Except.ok.inj hinverted).symm, hnotEqual⟩
    · cases hinverted
  unfold PassesInPlace
  rw [hliteral]
  rcases hcondition with ⟨rfl, hequal⟩ | ⟨rfl, hnotEqual⟩
  · simp [hequal]
  · simp [hnotEqual, Bool.eq_not]

theorem eq_filter_of_levelsByElevation {settings : Settings} {model : Model} {rule : Rule}
    {found : List Level} (h : rule.levelsByElevation settings model = .ok found) :
    ∃ threshold test, Literal.number rule.value = .ok threshold ∧
      NumberTest.build rule.condition threshold settings = .ok test ∧
      found = model.levels.filter fun level => test.passes level.elevation := by
  unfold levelsByElevation at h
  obtain ⟨threshold, hthreshold, h⟩ := eq_ok_of_bind h
  split at h
  · next test htest => exact ⟨threshold, test, hthreshold, htest, (Except.ok.inj h).symm⟩
  · cases h

theorem mem_levelsByElevation_iff {settings : Settings} {model : Model} {rule : Rule}
    {found : List Level} (h : rule.levelsByElevation settings model = .ok found) (level : Level) :
    level ∈ found ↔ level ∈ model.levels ∧ rule.PassesElevation settings level.elevation := by
  obtain ⟨threshold, test, hthreshold, htest, rfl⟩ := eq_filter_of_levelsByElevation h
  rw [List.mem_filter, and_congr_right_iff]
  intro _
  unfold PassesElevation
  rw [hthreshold]
  constructor
  · intro hpasses
    exact ⟨threshold, test, rfl, htest, hpasses⟩
  · rintro ⟨read, built, hread, hbuilt, hpasses⟩
    rw [← Except.ok.inj hread, htest] at hbuilt
    rwa [Except.ok.inj hbuilt]

/-! ## Each category -/

section Categories

variable {settings : Settings} {model : Model} {rule : Rule} {filter : Filter}

theorem selects_category_iff (hproperty : rule.property = PropertyName.name)
    (h : rule.compileCategory settings model = .ok filter) (element : Element) :
    filter.selects element = true ↔ ∃ category ∈ model.categories,
      rule.PassesName settings category.name ∧ element.category = some category.id := by
  unfold compileCategory at h
  rw [if_pos (beq_iff_eq.2 hproperty)] at h
  obtain ⟨found, hfound, rfl⟩ := eq_ok_of_map h
  apply selects_found_map_iff (mem_found_iff hfound)
  intro category
  rw [Predicate.holds, Bool.bne_false, beq_iff_eq]

theorem found_of_family (h : rule.compileFamily settings model = .ok filter) :
    ∃ found : List Family, filter = Filter.anyHolds (found.flatMap familyPredicates) ∧
      ∀ family, family ∈ found ↔ family ∈ model.families ∧
        if rule.property = PropertyName.isInPlace then rule.PassesInPlace family.inPlace
        else rule.PassesName settings family.name := by
  unfold compileFamily at h
  obtain ⟨found, hfound, rfl⟩ := eq_ok_of_map h
  refine ⟨found, rfl, ?_⟩
  intro family
  split at hfound
  · next hproperty =>
    -- The literal is read before the condition; both are settled before a family is looked at.
    rw [if_pos (beq_iff_eq.1 hproperty)]
    obtain ⟨literal, hliteral, hfound⟩ := eq_ok_of_bind hfound
    obtain ⟨inverted, hinverted, hfound⟩ := eq_ok_of_bind hfound
    obtain rfl := Except.ok.inj hfound
    rw [List.mem_filter, inPlace_iff hliteral hinverted]
  · next hproperty =>
    rw [if_neg (mt beq_iff_eq.2 hproperty)]
    exact mem_found_iff hfound family

theorem selects_family_iff (h : rule.compileFamily settings model = .ok filter)
    (element : Element) :
    filter.selects element = true ↔ ∃ family ∈ model.families,
      (if rule.property = PropertyName.isInPlace then rule.PassesInPlace family.inPlace
        else rule.PassesName settings family.name) ∧ family.Owns element := by
  obtain ⟨found, rfl, hfound⟩ := found_of_family h
  exact selects_found_iff hfound fun family => familyPredicates_iff family element

theorem selects_type_iff (h : rule.compileType settings model = .ok filter) (element : Element) :
    filter.selects element = true ↔ ∃ type ∈ model.types,
      rule.PassesName settings type.name ∧
        (element.id = type.id ∨ element.type = some type.id) := by
  obtain ⟨found, hfound, rfl⟩ := eq_ok_of_map h
  apply selects_found_map_iff (mem_found_iff hfound)
  intro type
  rw [Predicate.holds, Bool.or_eq_true, beq_iff_eq, beq_iff_eq]

/-- The name and the elevation are tested apart; what is found is expanded in the same way. -/
theorem found_of_level (hcondition : rule.condition ≠ .undefined)
    (h : rule.compileLevel settings model = .ok filter) :
    ∃ found : List Level,
      filter = Filter.anyHolds (found.flatMap (levelPredicates settings)) ∧
        ∀ level, level ∈ found ↔ level ∈ model.levels ∧
          if rule.property = PropertyName.elevation then
            rule.PassesElevation settings level.elevation
          else rule.PassesName settings level.name := by
  unfold compileLevel at h
  split at h
  · next hname =>
    have helevation : rule.property ≠ PropertyName.elevation := by
      rw [beq_iff_eq.1 hname]
      decide
    simp only [if_neg helevation]
    exact found_of_association _ hcondition h
  · split at h
    · next helevation =>
      obtain ⟨found, hfound, rfl⟩ := eq_ok_of_map h
      refine ⟨found, rfl, ?_⟩
      simp only [if_pos (beq_iff_eq.1 helevation)]
      exact mem_levelsByElevation_iff hfound
    · cases h

theorem selects_level_iff (hcondition : rule.condition ≠ .undefined)
    (h : rule.compileLevel settings model = .ok filter) (element : Element) :
    filter.selects element = true ↔ ∃ level ∈ model.levels,
      (if rule.property = PropertyName.elevation then
          rule.PassesElevation settings level.elevation
        else rule.PassesName settings level.name) ∧ level.Bears settings element := by
  obtain ⟨found, rfl, hfound⟩ := found_of_level hcondition h
  exact selects_found_iff hfound fun level => levelPredicates_iff settings level element

/-- Phases of creation and of demolition alike. -/
theorem found_of_phase {inPhase : ElementId → Predicate} {without : Predicate}
    (hcondition : rule.condition ≠ .undefined)
    (h : rule.compilePhase settings model inPhase without = .ok filter) :
    ∃ found : List Entity,
      filter = Filter.anyHolds (found.map fun phase => inPhase phase.id) ∧
        ∀ phase, phase ∈ found ↔ phase ∈ model.phases ∧ rule.PassesName settings phase.name :=
  found_of_association _ hcondition h

theorem selects_phase_iff {inPhase : ElementId → Predicate} {without : Predicate}
    (hcondition : rule.condition ≠ .undefined)
    (h : rule.compilePhase settings model inPhase without = .ok filter) (element : Element) :
    filter.selects element = true ↔ ∃ phase ∈ model.phases,
      rule.PassesName settings phase.name ∧ (inPhase phase.id).holds element = true := by
  obtain ⟨found, rfl, hfound⟩ := found_of_phase hcondition h
  exact selects_found_map_iff hfound fun _ => Iff.rfl

theorem found_of_designOption (hcondition : rule.condition ∉ [.equal, .notEqual, .undefined])
    (h : rule.compileDesignOption settings model = .ok filter) :
    ∃ found : List Entity,
      filter = Filter.anyHolds (found.map fun option => .inDesignOption option.id false) ∧
        ∀ option, option ∈ found ↔
          option ∈ model.designOptions ∧ rule.PassesName settings (optionName settings option) := by
  have hundefined : rule.condition ≠ .undefined := by
    rintro heq
    exact hcondition (by rw [heq]; decide)
  apply found_of_association (.leaf .withoutDesignOption) hundefined
  unfold compileDesignOption at h
  split at h
  · next hequal => exact absurd (by rw [hequal]; decide) hcondition
  · next hnotEqual => exact absurd (by rw [hnotEqual]; decide) hcondition
  · next hdefined => rwa [hdefined]
  · next hnone => exact absurd hnone hundefined
  · next hequal hnotEqual hdefined hnone =>
    split
    · next heq => exact absurd heq hdefined
    · next heq => exact absurd heq hnone
    · exact h

theorem selects_designOption_iff (hcondition : rule.condition ∉ [.equal, .notEqual, .undefined])
    (h : rule.compileDesignOption settings model = .ok filter) (element : Element) :
    filter.selects element = true ↔ ∃ option ∈ model.designOptions,
      rule.PassesName settings (optionName settings option) ∧
        element.designOption = some option.id := by
  obtain ⟨found, rfl, hfound⟩ := found_of_designOption hcondition h
  apply selects_found_map_iff hfound
  intro option
  rw [Predicate.holds, Bool.bne_false, beq_iff_eq]

theorem selects_view_iff (hproperty : rule.property = PropertyName.name)
    (hcondition : rule.condition ∉ [.defined, .undefined])
    (h : rule.compileView settings model = .ok filter) (element : Element) :
    filter.selects element = true ↔ ∃ view ∈ model.views,
      rule.PassesName settings view.name ∧ element.ownerView = some view.id := by
  unfold compileView at h
  rw [if_neg (by rw [hproperty]; decide)] at h
  split at h
  · next hdefined => exact absurd (by rw [hdefined]; decide) hcondition
  · next hundefined => exact absurd (by rw [hundefined]; decide) hcondition
  · obtain ⟨found, hfound, rfl⟩ := eq_ok_of_map h
    apply selects_found_map_iff (mem_found_iff hfound)
    intro view
    rw [Predicate.holds, beq_iff_eq]

theorem selects_workset_iff (h : rule.compileWorkset settings model = .ok filter)
    (element : Element) :
    filter.selects element = true ↔ ∃ workset ∈ model.worksets,
      rule.PassesName settings workset.name ∧ element.workset = some workset.id := by
  obtain ⟨found, hfound, rfl⟩ := eq_ok_of_map h
  apply selects_found_map_iff (mem_found_iff hfound)
  intro workset
  rw [Predicate.holds, beq_iff_eq]

/-- A class is looked for among the elements. -/
theorem found_of_class (h : rule.compileClass model = .ok filter) :
    (∃ element ∈ model.elements, element.className = Text.trim rule.value) ∧
        filter = .leaf (.className (Text.trim rule.value)) ∨
      (∀ element ∈ model.elements, element.className ≠ Text.trim rule.value) ∧
        filter = .never := by
  unfold compileClass at h
  split at h
  · dsimp only at h
    split at h
    · cases h
    · split at h
      · next hknown =>
        obtain ⟨element, hmem, hclass⟩ := List.any_eq_true.1 hknown
        exact .inl ⟨⟨element, hmem, beq_iff_eq.1 hclass⟩, (Except.ok.inj h).symm⟩
      · next hunknown =>
        refine .inr ⟨?_, (Except.ok.inj h).symm⟩
        intro element hmem hclass
        exact hunknown (List.any_eq_true.2 ⟨element, hmem, beq_iff_eq.2 hclass⟩)
  · cases h

end Categories

/-- **A rule on named entities selects what it describes.** -/
theorem selects_iff_entity {settings : Settings} {model : Model} {rule : Rule} {filter : Filter}
    (hasks : rule.AsksForEntity) (h : rule.compile settings model = .ok filter)
    (element : Element) :
    filter.selects element = true ↔ rule.Describes settings model element := by
  unfold compile at h
  split at h
  · cases h
  · unfold AsksForEntity at hasks
    unfold Describes
    cases hcategory : rule.category with
    | modelCategory =>
      rw [hcategory] at h hasks
      exact selects_category_iff hasks h element
    | family =>
      rw [hcategory] at h
      exact selects_family_iff h element
    | elementType =>
      rw [hcategory] at h
      exact selects_type_iff h element
    | level =>
      rw [hcategory] at h hasks
      exact selects_level_iff hasks h element
    | phaseCreated =>
      rw [hcategory] at h hasks
      simp only [selects_phase_iff hasks h element, Predicate.holds, beq_iff_eq]
    | phaseDemolished =>
      rw [hcategory] at h hasks
      simp only [selects_phase_iff hasks h element, Predicate.holds, beq_iff_eq]
    | designOption =>
      rw [hcategory] at h hasks
      exact selects_designOption_iff hasks h element
    | view =>
      rw [hcategory] at h hasks
      exact selects_view_iff hasks.1 hasks.2 h element
    | workset =>
      rw [hcategory] at h
      exact selects_workset_iff h element
    | _ =>
      rw [hcategory] at hasks
      exact hasks.elim

def groundRule : Rule := ((create (RuleId.ofNat 1) .level).apply (.value "Ground")).1

def house : Model := .ofAdditions [.level "Ground" (.ofNat 0), .level "Roof" (.ofNat 9)]

/-- Not at any level, but on the sketch plane of one. -/
def beamOn (level : String) : Element :=
  { Element.named "Beam" with sketchPlane := some ("Level : " ++ level) }

theorem groundRule_selects :
    groundRule.AsksForEntity ∧ ∃ filter, groundRule.compile .standard house = .ok filter ∧
      groundRule.Describes .standard house (beamOn "Ground") ∧
      ¬ groundRule.Describes .standard house (beamOn "Roof") := by
  have hasks : groundRule.AsksForEntity := by
    show groundRule.condition ≠ .undefined
    decide +kernel
  have hselected : (groundRule.compile .standard house).map (fun filter =>
      (filter.selects (beamOn "Ground"), filter.selects (beamOn "Roof"))) = .ok (true, false) := rfl
  obtain ⟨filter, hcompile, hselects⟩ := eq_ok_of_map hselected
  rw [Prod.mk.injEq] at hselects
  refine ⟨hasks, filter, hcompile, ?_, ?_⟩
  · exact (selects_iff_entity hasks hcompile _).1 hselects.1.symm
  · rw [← selects_iff_entity hasks hcompile, ← hselects.2]
    exact Bool.false_ne_true

end Rule

end ElementRules
