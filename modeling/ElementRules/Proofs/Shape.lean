import Mathlib.Data.List.Duplicate
import ElementRules.Proofs.Duplicates
import ElementRules.Proofs.NamedEntities

/-!
# The shape of filters

Compilation builds flat trees: a leaf, or at least two leaves under *any*, or, for the inequality of
design options alone, under *all* (`Filter.Shaped`). What matters is that there is no empty node: an
empty *all* would select everything. Where nothing is found there is `never`, and there is no other
way to get it (`compile_shape`):

    filter = .never  ↔  rule.FindsNothing settings model

A rule that is compiled without a look at the model has the same filter for every model, and this is
not `never`.
-/

namespace ElementRules

/-! ## Shapes -/

namespace Filter

/-- Nothing, a leaf, or at least two leaves under one node. The node that asks for all of them has
to be allowed. -/
inductive Shaped (conjunction : Prop) : Filter → Prop
  | never : Shaped conjunction .never
  | leaf (predicate : Predicate) : Shaped conjunction (.leaf predicate)
  | anyOf {predicates : List Predicate} (several : 2 ≤ predicates.length) :
    Shaped conjunction (.anyOf (predicates.map .leaf))
  | allOf {predicates : List Predicate} (several : 2 ≤ predicates.length) (allowed : conjunction) :
    Shaped conjunction (.allOf (predicates.map .leaf))

/-- The filter is what a search comes to: of the shape, and `never` if there was nothing. -/
structure Answers (filter : Filter) (conjunction nothing : Prop) : Prop where
  shaped : filter.Shaped conjunction
  never_iff : filter = .never ↔ nothing

section Answers

variable {conjunction nothing : Prop}

theorem answers_never (h : nothing) : never.Answers conjunction nothing :=
  ⟨.never, iff_of_true rfl h⟩

theorem answers_leaf (predicate : Predicate) (h : ¬ nothing) :
    (leaf predicate).Answers conjunction nothing := by
  refine ⟨.leaf predicate, iff_of_false ?_ h⟩
  intro heq
  cases heq

theorem Answers.congr {filter : Filter} {other : Prop} (h : filter.Answers conjunction nothing)
    (hiff : nothing ↔ other) : filter.Answers conjunction other :=
  ⟨h.shaped, h.never_iff.trans hiff⟩

theorem answers_anyHolds (predicates : List Predicate) :
    (anyHolds predicates).Answers conjunction (predicates = []) := by
  rcases predicates with _ | ⟨first, _ | ⟨second, rest⟩⟩
  · exact answers_never rfl
  · exact answers_leaf first (List.cons_ne_nil _ _)
  · have several : 2 ≤ (first :: second :: rest).length := by
      simp
    refine ⟨.anyOf several, iff_of_false ?_ (List.cons_ne_nil _ _)⟩
    intro heq
    cases heq

/-- A conjunction has at least one member, and so it is not `never`. -/
theorem answers_all? {predicates : List Predicate} {filter : Filter} (hallowed : conjunction)
    (hnothing : ¬ nothing) (h : all? (predicates.map .leaf) = .ok filter) :
    filter.Answers conjunction nothing := by
  rcases predicates with _ | ⟨first, _ | ⟨second, rest⟩⟩
  · cases h
  · obtain rfl := Except.ok.inj h
    exact answers_leaf first hnothing
  · obtain rfl := Except.ok.inj h
    have several : 2 ≤ (first :: second :: rest).length := by
      simp
    refine ⟨.allOf several hallowed, iff_of_false ?_ hnothing⟩
    intro heq
    cases heq

variable {α : Type} {entities found : List α} {passes : α → Prop}

/-- A search for entities: each that is found stands for a few predicates. -/
theorem answers_found {predicates : α → List Predicate}
    (hstands : ∀ entity, predicates entity ≠ [])
    (hfound : ∀ entity, entity ∈ found ↔ entity ∈ entities ∧ passes entity) :
    (anyHolds (found.flatMap predicates)).Answers conjunction
      (∀ entity ∈ entities, ¬ passes entity) := by
  apply (answers_anyHolds _).congr
  rw [List.flatMap_eq_nil_iff]
  constructor
  · intro hnone entity hmem hpasses
    exact hstands entity (hnone entity ((hfound entity).2 ⟨hmem, hpasses⟩))
  · intro hnone entity hmem
    obtain ⟨hentity, hpasses⟩ := (hfound entity).1 hmem
    exact absurd hpasses (hnone entity hentity)

theorem answers_found_map {predicate : α → Predicate}
    (hfound : ∀ entity, entity ∈ found ↔ entity ∈ entities ∧ passes entity) :
    (anyHolds (found.map predicate)).Answers conjunction
      (∀ entity ∈ entities, ¬ passes entity) := by
  rw [List.map_eq_flatMap]
  exact answers_found (fun _ => List.cons_ne_nil _ _) hfound

end Answers

end Filter

/-! ## What can be missing -/

/-- The element has a value for the parameter, and at least two elements have this text. -/
def Model.SharesValue (model : Model) (name : String) (element : Element) : Prop :=
  ∃ text, Rule.valueText? name element = some text ∧
    (model.elements.filterMap (Rule.valueText? name)).Duplicate text

namespace Rule

/-- An option is compared as a whole for equality; inequality looks for the same options, to leave
them out. -/
def PassesOption (settings : Settings) (rule : Rule) (option : Entity) : Prop :=
  if rule.condition ∈ Condition.equality then
    Text.equal rule.ignoreCase (optionName settings option) (Text.trim rule.value) = true
  else rule.PassesName settings (optionName settings option)

/-- Shared values are known by the ids of the elements that share them. -/
def PassesHost (settings : Settings) (model : Model) (rule : Rule) (host : Element) : Prop :=
  if rule.condition = .duplicated then
    ∃ element ∈ model.elements, element.id = host.id ∧ model.SharesValue rule.property element
  else ∃ test, rule.parameterTest settings = .ok test ∧ test.passes host rule.property = true

/-- The rule looks for something in the model, and it is not there. -/
def FindsNothing (settings : Settings) (model : Model) (rule : Rule) : Prop :=
  match rule.category with
  | .modelCategory =>
    if rule.property = PropertyName.name then
      ∀ category ∈ model.categories, ¬ rule.PassesName settings category.name
    else ∀ category ∈ model.categories, category.name ≠ rule.property
  | .family => ∀ family ∈ model.families,
      ¬ if rule.property = PropertyName.isInPlace then rule.PassesInPlace family.inPlace
        else rule.PassesName settings family.name
  | .elementType => ∀ type ∈ model.types, ¬ rule.PassesName settings type.name
  | .level => rule.condition ≠ .undefined ∧ ∀ level ∈ model.levels,
      ¬ if rule.property = PropertyName.elevation then
          rule.PassesElevation settings level.elevation
        else rule.PassesName settings level.name
  | .phaseCreated | .phaseDemolished =>
    rule.condition ≠ .undefined ∧ ∀ phase ∈ model.phases, ¬ rule.PassesName settings phase.name
  | .phaseStatus => ∀ phase ∈ model.phases, phase.name ≠ rule.property
  | .designOption =>
    rule.condition ≠ .undefined ∧
      ∀ option ∈ model.designOptions, ¬ rule.PassesOption settings option
  | .view =>
    rule.property ≠ PropertyName.isDefined ∧ rule.condition ∉ [.defined, .undefined] ∧
      ∀ view ∈ model.views, ¬ rule.PassesName settings view.name
  | .workset => ∀ workset ∈ model.worksets, ¬ rule.PassesName settings workset.name
  | .apiType => ∀ element ∈ model.elements, element.className ≠ Text.trim rule.value
  | .parameter | .apiParameter =>
    rule.condition = .duplicated ∧
      ∀ element ∈ model.elements, ¬ model.SharesValue rule.property element
  | .hostParameter => ∀ element ∈ model.elements, ∀ host,
      element.host.bind model.element? = some host → ¬ rule.PassesHost settings model host
  | .typeOrInstance | .host | .structuralType | .room | .space | .redundant => False

/-- The rules whose filter does not depend on the model. -/
def IgnoresModel (rule : Rule) : Prop :=
  match rule.category with
  | .level | .phaseCreated | .phaseDemolished | .designOption => rule.condition = .undefined
  | .view => rule.property = PropertyName.isDefined ∨ rule.condition ∈ [.defined, .undefined]
  | .typeOrInstance | .host | .structuralType => True
  | .parameter | .apiParameter => rule.condition ≠ .duplicated
  | _ => False

/-! ## Sets of ids -/

section Categories

variable {settings : Settings} {model : Model} {rule : Rule} {filter : Filter}
variable {conjunction : Prop}

/-- A search that keeps the ids of the elements that are asked for. -/
theorem answers_oneOf {ids : List ElementId} {asked : Element → Prop}
    (hids : ∀ id, id ∈ ids ↔ ∃ element ∈ model.elements, element.id = id ∧ asked element) :
    (oneOf ids).Answers conjunction (∀ element ∈ model.elements, ¬ asked element) := by
  have hanswers : (oneOf ids).Answers conjunction (ids = []) := by
    cases ids with
    | nil => exact Filter.answers_never rfl
    | cons first rest => exact Filter.answers_leaf _ (List.cons_ne_nil _ _)
  apply hanswers.congr
  rw [List.eq_nil_iff_forall_not_mem]
  simp only [hids]
  constructor
  · intro hnone element hmem hasked
    exact hnone element.id ⟨element, hmem, rfl, hasked⟩
  · rintro hnone id ⟨element, hmem, -, hasked⟩
    exact hnone element hmem hasked

/-- The group of a text is as large as the text is frequent. -/
theorem length_idsWithText (name text : String) (elements : List Element) :
    (idsWithText name text elements).length =
      (elements.filterMap (valueText? name)).count text := by
  unfold idsWithText
  rw [List.length_map, List.count_filterMap, List.countP_eq_length_filter]

theorem mem_duplicatedIds_iff {name : String} {id : ElementId} :
    id ∈ duplicatedIds model name ↔
      ∃ element ∈ model.elements, element.id = id ∧ model.SharesValue name element := by
  rw [mem_duplicatedIds_iff_idsWithText]
  simp only [mem_idsWithText_iff, length_idsWithText, Model.SharesValue,
    List.duplicate_iff_two_le_count, Nat.succ_le_iff]
  constructor
  · rintro ⟨text, ⟨element, hmem, htext, hid⟩, hseveral⟩
    exact ⟨element, hmem, hid, text, htext, hseveral⟩
  · rintro ⟨element, hmem, hid, text, htext, hseveral⟩
    exact ⟨text, ⟨element, hmem, htext, hid⟩, hseveral⟩

/-! ## Each category -/

theorem answers_category (h : rule.compileCategory settings model = .ok filter) :
    filter.Answers conjunction
      (if rule.property = PropertyName.name then
        ∀ category ∈ model.categories, ¬ rule.PassesName settings category.name
      else ∀ category ∈ model.categories, category.name ≠ rule.property) := by
  unfold compileCategory at h
  split at h
  · next hname =>
    obtain ⟨found, hfound, rfl⟩ := eq_ok_of_map h
    rw [if_pos (beq_iff_eq.1 hname)]
    exact Filter.answers_found_map (mem_found_iff hfound)
  · next hname =>
    rw [if_neg (mt beq_iff_eq.2 hname)]
    split at h
    · obtain ⟨included, -, hfilter⟩ := eq_ok_of_map h
      rw [hfilter]
      split
      · next category hcategory =>
        apply Filter.answers_leaf
        intro hnone
        have hsame := List.find?_some hcategory
        exact hnone category (List.mem_of_find?_eq_some hcategory) (beq_iff_eq.1 hsame)
      · next hmissing =>
        apply Filter.answers_never
        intro category hmem heq
        exact List.find?_eq_none.1 hmissing category hmem (beq_iff_eq.2 heq)
    · cases h

theorem answers_family (h : rule.compileFamily settings model = .ok filter) :
    filter.Answers conjunction (∀ family ∈ model.families,
      ¬ if rule.property = PropertyName.isInPlace then rule.PassesInPlace family.inPlace
        else rule.PassesName settings family.name) := by
  obtain ⟨found, rfl, hfound⟩ := found_of_family h
  exact Filter.answers_found (fun _ => List.cons_ne_nil _ _) hfound

theorem answers_level (h : rule.compileLevel settings model = .ok filter) :
    filter.Answers conjunction (rule.condition ≠ .undefined ∧ ∀ level ∈ model.levels,
      ¬ if rule.property = PropertyName.elevation then
          rule.PassesElevation settings level.elevation
        else rule.PassesName settings level.name) := by
  by_cases hundefined : rule.condition = .undefined
  · unfold compileLevel at h
    rw [hundefined] at h
    split at h
    · obtain rfl := Except.ok.inj h
      exact Filter.answers_leaf _ fun hlooked => hlooked.1 hundefined
    · split at h
      · obtain ⟨found, hfound, -⟩ := eq_ok_of_map h
        unfold levelsByElevation at hfound
        obtain ⟨threshold, -, htested⟩ := eq_ok_of_bind hfound
        rw [hundefined] at htested
        cases htested
      · cases h
  · obtain ⟨found, rfl, hfound⟩ := found_of_level hundefined h
    apply (Filter.answers_found (fun _ => List.cons_ne_nil _ _) hfound).congr
    rw [iff_and_self]
    exact fun _ => hundefined

theorem answers_phase {inPhase : ElementId → Predicate} {without : Predicate}
    (h : rule.compilePhase settings model inPhase without = .ok filter) :
    filter.Answers conjunction (rule.condition ≠ .undefined ∧
      ∀ phase ∈ model.phases, ¬ rule.PassesName settings phase.name) := by
  by_cases hundefined : rule.condition = .undefined
  · unfold compilePhase at h
    rw [hundefined] at h
    obtain rfl := Except.ok.inj h
    exact Filter.answers_leaf _ fun hlooked => hlooked.1 hundefined
  · obtain ⟨found, rfl, hfound⟩ := found_of_phase hundefined h
    apply (Filter.answers_found_map hfound).congr
    rw [iff_and_self]
    exact fun _ => hundefined

theorem answers_phaseStatus (h : rule.compilePhaseStatus model = .ok filter) :
    filter.Answers conjunction (∀ phase ∈ model.phases, phase.name ≠ rule.property) := by
  unfold compilePhaseStatus at h
  split at h
  · cases h
  · obtain ⟨inverted, -, h⟩ := eq_ok_of_bind h
    split at h
    · cases h
    · split at h
      · next place hplace =>
        obtain rfl := Except.ok.inj h
        apply Filter.answers_leaf
        intro hnone
        have hsome : (model.phases.findIdx? (·.name == rule.property)).isSome = true := by
          rw [hplace]
          rfl
        obtain ⟨phase, hmem, hname⟩ := List.any_eq_true.1 (List.findIdx?_isSome ▸ hsome)
        exact hnone phase hmem (beq_iff_eq.1 hname)
      · next hmissing =>
        obtain rfl := Except.ok.inj h
        apply Filter.answers_never
        intro phase hmem heq
        have hother := List.findIdx?_eq_none_iff.1 hmissing phase hmem
        rw [beq_eq_false_iff_ne] at hother
        exact hother heq

/-- The options that are compared as a whole. -/
theorem mem_optionsNamed_iff (hequality : rule.condition ∈ Condition.equality) (option : Entity) :
    option ∈ rule.optionsNamed settings model ↔
      option ∈ model.designOptions ∧ rule.PassesOption settings option := by
  unfold optionsNamed PassesOption
  rw [List.mem_filter, if_pos hequality]

theorem answers_outsideOptions {options : List Entity} (hallowed : conjunction)
    (h : outsideOptions options = .ok filter) : filter.Answers conjunction (options = []) := by
  cases options with
  | nil =>
    obtain rfl := Except.ok.inj h
    exact Filter.answers_never rfl
  | cons first rest =>
    have hall : Filter.all? (((first :: rest).map fun option =>
        Predicate.inDesignOption option.id true).map .leaf) = .ok filter := by
      rw [List.map_map]
      exact h
    exact Filter.answers_all? hallowed (List.cons_ne_nil _ _) hall

theorem answers_designOption (hconjunction : rule.condition = .notEqual → conjunction)
    (h : rule.compileDesignOption settings model = .ok filter) :
    filter.Answers conjunction (rule.condition ≠ .undefined ∧
      ∀ option ∈ model.designOptions, ¬ rule.PassesOption settings option) := by
  by_cases hundefined : rule.condition = .undefined
  · unfold compileDesignOption at h
    rw [hundefined] at h
    obtain rfl := Except.ok.inj h
    exact Filter.answers_leaf _ fun hlooked => hlooked.1 hundefined
  · suffices hanswers : filter.Answers conjunction
        (∀ option ∈ model.designOptions, ¬ rule.PassesOption settings option) by
      apply hanswers.congr
      rw [iff_and_self]
      exact fun _ => hundefined
    by_cases hequality : rule.condition ∈ Condition.equality
    · have hnamed (option : Entity) : option ∈ rule.optionsNamed settings model ↔
          option ∈ model.designOptions ∧ rule.PassesOption settings option :=
        mem_optionsNamed_iff hequality option
      unfold compileDesignOption at h
      rcases List.mem_pair.1 hequality with hequal | hnotEqual
      · rw [hequal] at h
        obtain rfl := Except.ok.inj h
        exact Filter.answers_found_map hnamed
      · rw [hnotEqual] at h
        apply (answers_outsideOptions (hconjunction hnotEqual) h).congr
        rw [List.eq_nil_iff_forall_not_mem]
        simp only [hnamed, not_and]
    · have hother : rule.condition ∉ [.equal, .notEqual, .undefined] := by
        revert hequality hundefined
        cases rule.condition <;> decide
      obtain ⟨found, rfl, hfound⟩ := found_of_designOption hother h
      have hpasses (option : Entity) : rule.PassesOption settings option ↔
          rule.PassesName settings (optionName settings option) := by
        unfold PassesOption
        rw [if_neg hequality]
      simp only [hpasses]
      exact Filter.answers_found_map hfound

theorem answers_view (h : rule.compileView settings model = .ok filter) :
    filter.Answers conjunction (rule.property ≠ PropertyName.isDefined ∧
      rule.condition ∉ [.defined, .undefined] ∧
        ∀ view ∈ model.views, ¬ rule.PassesName settings view.name) := by
  unfold compileView at h
  split at h
  · next hisDefined =>
    obtain ⟨literal, -, h⟩ := eq_ok_of_bind h
    obtain ⟨inverted, -, h⟩ := eq_ok_of_bind h
    obtain rfl := Except.ok.inj h
    exact Filter.answers_leaf _ fun hlooked => hlooked.1 (beq_iff_eq.1 hisDefined)
  · next hisDefined =>
    split at h
    · next hdefined =>
      obtain rfl := Except.ok.inj h
      exact Filter.answers_leaf _ fun hlooked => hlooked.2.1 (by rw [hdefined]; decide)
    · next hundefined =>
      obtain rfl := Except.ok.inj h
      exact Filter.answers_leaf _ fun hlooked => hlooked.2.1 (by rw [hundefined]; decide)
    · next hdefined hundefined =>
      obtain ⟨found, hfound, rfl⟩ := eq_ok_of_map h
      apply (Filter.answers_found_map (mem_found_iff hfound)).congr
      have hother : rule.condition ∉ [.defined, .undefined] := by
        rw [List.mem_pair, not_or]
        exact ⟨hdefined, hundefined⟩
      constructor
      · exact fun hnone => ⟨mt beq_iff_eq.2 hisDefined, hother, hnone⟩
      · exact fun hlooked => hlooked.2.2

theorem answers_type (h : rule.compileType settings model = .ok filter) :
    filter.Answers conjunction (∀ type ∈ model.types, ¬ rule.PassesName settings type.name) := by
  obtain ⟨found, hfound, rfl⟩ := eq_ok_of_map h
  exact Filter.answers_found_map (mem_found_iff hfound)

theorem answers_workset (h : rule.compileWorkset settings model = .ok filter) :
    filter.Answers conjunction
      (∀ workset ∈ model.worksets, ¬ rule.PassesName settings workset.name) := by
  obtain ⟨found, hfound, rfl⟩ := eq_ok_of_map h
  exact Filter.answers_found_map (mem_found_iff hfound)

theorem answers_truth {predicate : Bool → Predicate}
    (h : rule.compileTruth predicate = .ok filter) : filter.Answers conjunction False := by
  unfold compileTruth at h
  split at h
  · obtain ⟨flag, -, rfl⟩ := eq_ok_of_map h
    exact Filter.answers_leaf _ not_false
  · cases h

theorem answers_structuralType (h : rule.compileStructuralType = .ok filter) :
    filter.Answers conjunction False := by
  unfold compileStructuralType at h
  obtain ⟨inverted, -, h⟩ := eq_ok_of_bind h
  split at h
  · obtain rfl := Except.ok.inj h
    exact Filter.answers_leaf _ not_false
  · cases h

theorem answers_class (h : rule.compileClass model = .ok filter) :
    filter.Answers conjunction
      (∀ element ∈ model.elements, element.className ≠ Text.trim rule.value) := by
  obtain ⟨⟨element, hmem, hclass⟩, rfl⟩ | ⟨hmissing, rfl⟩ := found_of_class h
  · exact Filter.answers_leaf _ fun hnone => hnone element hmem hclass
  · exact Filter.answers_never hmissing

theorem answers_parameter (h : rule.compileParameter settings model = .ok filter) :
    filter.Answers conjunction (rule.condition = .duplicated ∧
      ∀ element ∈ model.elements, ¬ model.SharesValue rule.property element) := by
  unfold compileParameter at h
  split at h
  · cases h
  · split at h
    · next hduplicated =>
      obtain rfl := Except.ok.inj h
      apply (answers_oneOf fun _ => mem_duplicatedIds_iff).congr
      rw [iff_and_self]
      exact fun _ => beq_iff_eq.1 hduplicated
    · next hduplicated =>
      obtain ⟨test, -, rfl⟩ := eq_ok_of_map h
      exact Filter.answers_leaf _ fun hlooked => hduplicated (beq_iff_eq.2 hlooked.1)

theorem answers_hosted {passes : Element → Bool}
    (hpasses : ∀ host, passes host = true ↔ rule.PassesHost settings model host) :
    (oneOf (hostedIds model passes)).Answers conjunction (∀ element ∈ model.elements, ∀ host,
      element.host.bind model.element? = some host → ¬ rule.PassesHost settings model host) := by
  apply (answers_oneOf fun _ => mem_hostedIds_iff).congr
  simp only [hpasses, not_exists, not_and]

theorem answers_hostParameter (h : rule.compileHostParameter settings model = .ok filter) :
    filter.Answers conjunction (∀ element ∈ model.elements, ∀ host,
      element.host.bind model.element? = some host → ¬ rule.PassesHost settings model host) := by
  unfold compileHostParameter at h
  split at h
  · cases h
  · split at h
    · next hduplicated =>
      obtain rfl := Except.ok.inj h
      apply answers_hosted
      intro host
      unfold PassesHost
      rw [if_pos (beq_iff_eq.1 hduplicated), List.contains_iff_mem, mem_duplicatedIds_iff]
    · next hduplicated =>
      obtain ⟨test, htest, rfl⟩ := eq_ok_of_map h
      apply answers_hosted
      intro host
      unfold PassesHost
      rw [if_neg (mt beq_iff_eq.2 hduplicated), htest]
      constructor
      · exact fun hholds => ⟨test, rfl, hholds⟩
      · rintro ⟨built, hbuilt, hholds⟩
        rwa [Except.ok.inj hbuilt]

/-! ## All categories -/

/-- What is looked for is not there, or the filter is another. -/
theorem answers_compile (h : rule.compile settings model = .ok filter) :
    filter.Answers (rule.category = .designOption ∧ rule.condition = .notEqual)
      (rule.FindsNothing settings model) := by
  unfold compile at h
  unfold FindsNothing
  split at h
  · cases h
  · cases hcategory : rule.category with
    | modelCategory =>
      rw [hcategory] at h
      exact answers_category h
    | family =>
      rw [hcategory] at h
      exact answers_family h
    | elementType =>
      rw [hcategory] at h
      exact answers_type h
    | typeOrInstance | host =>
      rw [hcategory] at h
      exact answers_truth h
    | apiType =>
      rw [hcategory] at h
      exact answers_class h
    | level =>
      rw [hcategory] at h
      exact answers_level h
    | phaseCreated | phaseDemolished =>
      rw [hcategory] at h
      exact answers_phase h
    | phaseStatus =>
      rw [hcategory] at h
      exact answers_phaseStatus h
    | designOption =>
      rw [hcategory] at h
      exact answers_designOption (fun hnotEqual => ⟨rfl, hnotEqual⟩) h
    | view =>
      rw [hcategory] at h
      exact answers_view h
    | workset =>
      rw [hcategory] at h
      exact answers_workset h
    | parameter | apiParameter =>
      rw [hcategory] at h
      exact answers_parameter h
    | hostParameter =>
      rw [hcategory] at h
      exact answers_hostParameter h
    | structuralType =>
      rw [hcategory] at h
      exact answers_structuralType h
    | room | space | redundant =>
      rw [hcategory] at h
      cases h

theorem IgnoresModel.not_findsNothing (h : rule.IgnoresModel) :
    ¬ rule.FindsNothing settings model := by
  unfold IgnoresModel at h
  unfold FindsNothing
  cases hcategory : rule.category with
  | level | phaseCreated | phaseDemolished | designOption =>
    rw [hcategory] at h
    exact fun hlooked => hlooked.1 h
  | view =>
    rw [hcategory] at h
    rintro ⟨hproperty, hcondition, -⟩
    exact h.elim hproperty hcondition
  | parameter | apiParameter =>
    rw [hcategory] at h
    exact fun hlooked => h hlooked.1
  | typeOrInstance | host | structuralType => exact not_false
  | _ =>
    rw [hcategory] at h
    exact h.elim

theorem IgnoresModel.compile_eq (h : rule.IgnoresModel) (settings : Settings)
    (model other : Model) : rule.compile settings model = rule.compile settings other := by
  unfold IgnoresModel at h
  unfold compile
  cases hcategory : rule.category with
  | level =>
    rw [hcategory] at h
    have hlevels : rule.levelsByElevation settings model =
        rule.levelsByElevation settings other := by
      unfold levelsByElevation
      rw [h]
      rfl
    simp only [compileLevel, hlevels, h]
  | phaseCreated | phaseDemolished =>
    rw [hcategory] at h
    simp only [compilePhase, h]
  | designOption =>
    rw [hcategory] at h
    simp only [compileDesignOption, h]
  | view =>
    rw [hcategory] at h
    have hview : rule.compileView settings model = rule.compileView settings other := by
      unfold compileView
      split
      · rfl
      · next hproperty =>
        have hcondition := h.resolve_left (mt beq_iff_eq.2 hproperty)
        rcases List.mem_pair.1 hcondition with hdefined | hundefined
        · rw [hdefined]
        · rw [hundefined]
    simp only [hview]
  | parameter | apiParameter =>
    rw [hcategory] at h
    have hduplicated : ¬ (rule.condition == .duplicated) = true := mt beq_iff_eq.1 h
    simp only [compileParameter, if_neg hduplicated]
  | typeOrInstance | host | structuralType | room | space | redundant => rfl
  | _ =>
    rw [hcategory] at h
    exact h.elim

end Categories

/-- **The shape of filters.** The filter of a rule is `never`, a leaf, or has at least two leaves
under one node, which asks for all of them only where design options are to be left out. It is
`never` exactly if the rule looks for something in the model and finds nothing. The filter of a rule
that ignores the model is another one, and the same for every model. -/
theorem compile_shape {settings : Settings} {model : Model} {rule : Rule} {filter : Filter}
    (h : rule.compile settings model = .ok filter) :
    filter.Shaped (rule.category = .designOption ∧ rule.condition = .notEqual) ∧
      (filter = .never ↔ rule.FindsNothing settings model) ∧
      (rule.IgnoresModel →
        filter ≠ .never ∧ ∀ other, rule.compile settings other = .ok filter) := by
  have hanswers := answers_compile h
  refine ⟨hanswers.shaped, hanswers.never_iff, ?_⟩
  intro hignores
  constructor
  · intro hnever
    exact hignores.not_findsNothing (hanswers.never_iff.1 hnever)
  · intro other
    rw [hignores.compile_eq settings other model, h]

/-- Two options of one name, up to the mark of the primary one. -/
def woodOptions : Model :=
  .ofAdditions [.designOption "Oak (primary)", .designOption "Ash", .designOption "Oak"]

/-- *Design option is not …* -/
def optionOtherThan (name : String) : Rule :=
  (((create (.ofNat 1) .designOption).apply (.condition .notEqual)).1.apply (.value name)).1

theorem optionOtherThan_shape :
    (∃ filter, (optionOtherThan "Oak").compile .standard woodOptions = .ok filter ∧
      filter.Shaped ((optionOtherThan "Oak").category = .designOption ∧
        (optionOtherThan "Oak").condition = .notEqual) ∧
      ¬ (optionOtherThan "Oak").FindsNothing .standard woodOptions) ∧
    (optionOtherThan "Elm").compile .standard woodOptions = .ok .never ∧
    (optionOtherThan "Elm").FindsNothing .standard woodOptions := by
  have hoak : ((optionOtherThan "Oak").compile .standard woodOptions).map Filter.isNever =
      .ok false := rfl
  obtain ⟨filter, hcompile, hother⟩ := eq_ok_of_map hoak
  have helm : (optionOtherThan "Elm").compile .standard woodOptions = .ok .never := rfl
  obtain ⟨hshaped, hnever, -⟩ := compile_shape hcompile
  refine ⟨⟨filter, hcompile, hshaped, ?_⟩, helm, (compile_shape helm).2.1.1 rfl⟩
  rw [← hnever]
  rintro rfl
  cases hother

end Rule

end ElementRules
