import ElementRules.Proofs.Additions
import ElementRules.Proofs.NamedEntities
import ElementRules.Proofs.Outcome
import ElementRules.Proofs.Reachable

/-!
# Opposite rules

A name contains a text or it does not: the tests of two opposite conditions disagree on every name
(`TextTest.passes_opposite`). It does not follow that the filters of two opposite rules disagree on
every element. A filter asks for an entity that passes, so an element without an entity of the model
is selected by neither, and all others by exactly one (`OppositeOf.splits_elements`):

    selected by both  →  False
    selected by one   ↔  ∃ entity of the model, the element belongs to entity

That no element belongs to two entities is due to the model: many entities may share a name, but no
two share an id (`Model.Numbered`).
-/

namespace ElementRules

/-- The two exclude each other, and one of them holds exactly under the condition. -/
def ExactlyOneWhen (condition a b : Prop) : Prop := ¬ (a ∧ b) ∧ (a ∨ b ↔ condition)

/-- Outside the condition, neither holds. -/
theorem exactlyOneWhen_of_neither {condition : Prop} (h : ¬ condition) :
    ExactlyOneWhen condition (false = true) (false = true) := by
  simp [ExactlyOneWhen, h]

/-- Under the condition, one is the negation of the other. -/
theorem exactlyOneWhen_of_not {condition : Prop} (h : condition) (a : Bool) :
    ExactlyOneWhen condition (a = true) ((!a) = true) := by
  cases a <;> simp [ExactlyOneWhen, h]

/-- A reference leads to one entity at most: to one that passes, or to one that does not. -/
theorem exactlyOne_referred {entities : List Entity} (hdistinct : (entities.map Entity.id).Nodup)
    (passes : Entity → Prop) (reference? : Option ElementId) :
    ExactlyOneWhen (∃ entity ∈ entities, reference? = some entity.id)
      (∃ entity ∈ entities, passes entity ∧ reference? = some entity.id)
      (∃ entity ∈ entities, ¬ passes entity ∧ reference? = some entity.id) := by
  constructor
  · rintro ⟨⟨entity, hmem, hpasses, hrefers⟩, other, hother, hfails, hrefersOther⟩
    have hid : entity.id = other.id := Option.some.inj (hrefers.symm.trans hrefersOther)
    rw [List.inj_on_of_nodup_map hdistinct hmem hother hid] at hpasses
    exact hfails hpasses
  · constructor
    · rintro (⟨entity, hmem, -, hrefers⟩ | ⟨entity, hmem, -, hrefers⟩)
      · exact ⟨entity, hmem, hrefers⟩
      · exact ⟨entity, hmem, hrefers⟩
    · rintro ⟨entity, hmem, hrefers⟩
      by_cases hpasses : passes entity
      · exact .inl ⟨entity, hmem, hpasses, hrefers⟩
      · exact .inr ⟨entity, hmem, hpasses, hrefers⟩

/-! ## Opposite tests -/

/-- The condition that turns the test of a name around. -/
def Condition.opposite? : Condition → Option Condition
  | .equal => some .notEqual
  | .contains => some .doesNotContain
  | .wildCard => some .wildCardNoMatch
  | _ => none

theorem TextTest.passes_ofPattern?_opposite {value : String} {ignoreCase : Bool}
    {test opposite : TextTest} (htest : ofPattern? false value ignoreCase = .ok test)
    (hopposite : ofPattern? true value ignoreCase = .ok opposite) (candidate : String) :
    opposite.passes candidate = !test.passes candidate := by
  unfold ofPattern? at htest hopposite
  cases hread : Wildcard.ofText? value ignoreCase with
  | none =>
    rw [hread] at htest
    cases htest
  | some wildcard =>
    rw [hread] at htest hopposite
    obtain rfl := Except.ok.inj htest
    obtain rfl := Except.ok.inj hopposite
    rw [passes, passes, Bool.bne_true, Bool.bne_false]

/-- Opposite tests disagree on every text. -/
theorem TextTest.passes_opposite {condition other : Condition} {value : String} {ignoreCase : Bool}
    {locale : Text.Locale} {test opposite : TextTest} (h : condition.opposite? = some other)
    (htest : build condition value ignoreCase locale = .ok test)
    (hopposite : build other value ignoreCase locale = .ok opposite) (candidate : String) :
    opposite.passes candidate = !test.passes candidate := by
  cases condition with
  | equal =>
    obtain rfl := Option.some.inj h
    obtain rfl := Except.ok.inj htest
    obtain rfl := Except.ok.inj hopposite
    rw [passes, passes, Bool.bne_true, Bool.bne_false]
  | contains =>
    obtain rfl := Option.some.inj h
    obtain rfl := Except.ok.inj htest
    obtain rfl := Except.ok.inj hopposite
    rw [passes, passes, Bool.bne_true, Bool.bne_false]
  | wildCard =>
    obtain rfl := Option.some.inj h
    exact passes_ofPattern?_opposite htest hopposite candidate
  | _ => cases h

theorem Condition.isTextual_of_opposite? {condition other : Condition}
    (h : condition.opposite? = some other) :
    condition.isTextual = true ∧ other.isTextual = true ∧
      (condition ∉ Condition.equality → other ∉ Condition.equality) := by
  revert h
  cases condition <;> cases other <;> decide

/-! ## Rules that test names -/

/-- The kind of entity whose names are tested under the category. -/
def Category.namedKind? : Category → Option EntityKind
  | .modelCategory => some .category
  | .phaseCreated | .phaseDemolished => some .phase
  | .designOption => some .designOption
  | .view => some .view
  | .workset => some .workset
  | _ => none

/-- The id that the element carries for the entity of the category. -/
def Element.reference? (element : Element) : Category → Option ElementId
  | .modelCategory => element.category
  | .phaseCreated => element.phaseCreated
  | .phaseDemolished => element.phaseDemolished
  | .designOption => element.designOption
  | .view => element.ownerView
  | .workset => element.workset
  | _ => none

namespace Rule

/-- The name under which a rule sees the entity. -/
def seenName (settings : Settings) (rule : Rule) (entity : Entity) : String :=
  if rule.category = .designOption then optionName settings entity else entity.name

/-- The rule looks for entities of the kind by testing their names one by one. Options are compared
as a whole where they are compared for equality. -/
structure TestsNames (rule : Rule) (kind : EntityKind) : Prop where
  category : rule.category.namedKind? = some kind
  condition : rule.condition.isTextual = true
  property : rule.category ∈ [.modelCategory, .view] → rule.property = PropertyName.name
  options : rule.category = .designOption → rule.condition ∉ Condition.equality

/-- Two rules that ask the opposite of the same entities. -/
structure OppositeOf (opposite rule : Rule) : Prop where
  category : opposite.category = rule.category
  property : opposite.property = rule.property
  condition : rule.condition.opposite? = some opposite.condition
  value : opposite.value = rule.value
  ignoreCase : opposite.ignoreCase = rule.ignoreCase

section Splitting

variable {settings : Settings} {model : Model} {rule opposite : Rule} {kind : EntityKind}
variable {filter : Filter}

theorem OppositeOf.testsNames (h : opposite.OppositeOf rule) (hnames : rule.TestsNames kind) :
    opposite.TestsNames kind := by
  obtain ⟨-, htextual, hequality⟩ := Condition.isTextual_of_opposite? h.condition
  constructor
  · rw [h.category]
    exact hnames.category
  · exact htextual
  · rw [h.category, h.property]
    exact hnames.property
  · rw [h.category]
    exact fun hoption => hequality (hnames.options hoption)

theorem TestsNames.selects_iff (h : rule.TestsNames kind)
    (hcompile : rule.compile settings model = .ok filter) (element : Element) :
    filter.selects element = true ↔ ∃ entity ∈ model.entities kind,
      rule.PassesName settings (rule.seenName settings entity) ∧
        element.reference? rule.category = some entity.id := by
  obtain ⟨hkind, htextual, hproperty, hoptions⟩ := h
  have hundefined : rule.condition ≠ .undefined := by
    intro heq
    rw [heq] at htextual
    cases htextual
  unfold compile at hcompile
  unfold seenName
  split at hcompile
  · cases hcompile
  · cases hcategory : rule.category with
    | modelCategory =>
      rw [hcategory] at hcompile hkind hproperty
      obtain rfl := Option.some.inj hkind
      exact selects_category_iff (hproperty (by decide)) hcompile element
    | phaseCreated =>
      rw [hcategory] at hcompile hkind
      obtain rfl := Option.some.inj hkind
      rw [selects_phase_iff hundefined hcompile]
      simp only [Predicate.holds, beq_iff_eq]
      rfl
    | phaseDemolished =>
      rw [hcategory] at hcompile hkind
      obtain rfl := Option.some.inj hkind
      rw [selects_phase_iff hundefined hcompile]
      simp only [Predicate.holds, beq_iff_eq]
      rfl
    | designOption =>
      rw [hcategory] at hcompile hkind hoptions
      obtain rfl := Option.some.inj hkind
      have hother : rule.condition ∉ [.equal, .notEqual, .undefined] := by
        have hequality := hoptions rfl
        revert hequality hundefined
        cases rule.condition <;> decide
      exact selects_designOption_iff hother hcompile element
    | view =>
      rw [hcategory] at hcompile hkind hproperty
      obtain rfl := Option.some.inj hkind
      have hname : rule.condition ∉ [.defined, .undefined] := by
        revert htextual
        cases rule.condition <;> decide
      exact selects_view_iff (hproperty (by decide)) hname hcompile element
    | workset =>
      rw [hcategory] at hcompile hkind
      obtain rfl := Option.some.inj hkind
      exact selects_workset_iff hcompile element
    | _ =>
      rw [hcategory] at hkind
      cases hkind

/-- A rule that compiles has a test of names. -/
theorem TestsNames.textTest_ok (h : rule.TestsNames kind) (hgrammatical : rule.Grammatical)
    (hcompile : rule.compile settings model = .ok filter) :
    ∃ test, rule.textTest settings = .ok test := by
  have hfiltered : rule.category ∈ alwaysFiltered := by
    have hnamed : ∀ category : Category, category.namedKind? = some kind →
        category ∈ alwaysFiltered := by
      intro category
      cases category <;> cases kind <;> decide
    exact hnamed _ h.category
  have hpattern : rule.patternFailure? = none := by
    rw [← hgrammatical.failure?_of_alwaysFiltered hfiltered]
    exact (hgrammatical.failsWith_compile settings model).ok_iff.1 ⟨filter, hcompile⟩
  have htest := failsWith_textTest settings h.condition
  rwa [hpattern] at htest

theorem OppositeOf.passes_textTest (h : opposite.OppositeOf rule) {test oppositeTest : TextTest}
    (htest : rule.textTest settings = .ok test)
    (hoppositeTest : opposite.textTest settings = .ok oppositeTest) (text : String) :
    oppositeTest.passes text = !test.passes text := by
  obtain ⟨htextual, hoppositeTextual, -⟩ := Condition.isTextual_of_opposite? h.condition
  unfold textTest at htest hoppositeTest
  rw [if_pos htextual] at htest
  rw [if_pos hoppositeTextual, h.value, h.ignoreCase] at hoppositeTest
  exact TextTest.passes_opposite h.condition htest hoppositeTest text

/-- Exactly one of two opposite rules passes a name. -/
theorem OppositeOf.passesName_iff (h : opposite.OppositeOf rule) {test oppositeTest : TextTest}
    (htest : rule.textTest settings = .ok test)
    (hoppositeTest : opposite.textTest settings = .ok oppositeTest) (name : String) :
    opposite.PassesName settings name ↔ ¬ rule.PassesName settings name := by
  rw [passesName_iff_of_textTest htest, passesName_iff_of_textTest hoppositeTest,
    h.passes_textTest htest hoppositeTest, Bool.not_eq_true', Bool.not_eq_true]

/-- **Opposite rules split the elements that have an entity.** Two reachable rules test the names of
the entities of one kind, by opposite conditions and with the same value. No element is selected by
both, and an element is selected by one of them exactly if what it refers to is an entity of the
model; without a reference, or with one that leads nowhere, it is selected by neither. The element
need not be one of the model. The ids of the model are distinct as long as its counter of 64 bits
has not come round. -/
theorem OppositeOf.splits_elements (h : opposite.OppositeOf rule) (hnames : rule.TestsNames kind)
    (hrule : rule.Reachable) (hopposite : opposite.Reachable)
    {additions : List Model.Addition} (hroom : additions.length < UInt64.size)
    (hcompile : rule.compile settings (.ofAdditions additions) = .ok filter)
    {oppositeFilter : Filter}
    (hoppositeCompile : opposite.compile settings (.ofAdditions additions) = .ok oppositeFilter)
    (element : Element) :
    let entities := (Model.ofAdditions additions).entities kind
    let reference? := element.reference? rule.category
    ExactlyOneWhen (∃ entity ∈ entities, reference? = some entity.id)
        (filter.selects element = true) (oppositeFilter.selects element = true) ∧
      ((reference? = none ∨ ∃ id, reference? = some id ∧ ∀ entity ∈ entities, entity.id ≠ id) →
        filter.selects element = false ∧ oppositeFilter.selects element = false) := by
  intro entities reference?
  have hdistinct : (entities.map Entity.id).Nodup :=
    (Model.numbered_ofAdditions hroom).nodup_entities kind
  obtain ⟨test, htest⟩ := hnames.textTest_ok hrule.grammatical hcompile
  obtain ⟨oppositeTest, hoppositeTest⟩ :=
    (h.testsNames hnames).textTest_ok hopposite.grammatical hoppositeCompile
  have hseen : opposite.seenName settings = rule.seenName settings := by
    unfold seenName
    rw [h.category]
  have hselects : filter.selects element = true ↔ ∃ entity ∈ entities,
      rule.PassesName settings (rule.seenName settings entity) ∧ reference? = some entity.id :=
    hnames.selects_iff hcompile element
  have hoppositeSelects : oppositeFilter.selects element = true ↔ ∃ entity ∈ entities,
      ¬ rule.PassesName settings (rule.seenName settings entity) ∧
        reference? = some entity.id := by
    rw [(h.testsNames hnames).selects_iff hoppositeCompile, hseen, h.category]
    simp only [h.passesName_iff htest hoppositeTest]
    rfl
  have hsplit : ExactlyOneWhen (∃ entity ∈ entities, reference? = some entity.id)
      (filter.selects element = true) (oppositeFilter.selects element = true) := by
    rw [hselects, hoppositeSelects]
    exact exactlyOne_referred hdistinct _ reference?
  refine ⟨hsplit, ?_⟩
  intro hlost
  rw [← Bool.not_eq_true, ← Bool.not_eq_true, ← not_or, hsplit.2]
  rintro ⟨entity, hmem, hrefers⟩
  rcases hlost with hnone | ⟨id, hid, hdangling⟩
  · rw [hrefers] at hnone
    cases hnone
  · exact hdangling entity hmem (Option.some.inj (hrefers.symm.trans hid))

end Splitting

/-- Two phases share a name. -/
def phasedParts : List Model.Addition := [.phase "Existing", .phase "New work", .phase "New work"]

/-- *Phase created contains New.* -/
def newWorkRule : Rule :=
  (((create (.ofNat 1) .phaseCreated).apply (.condition .contains)).1.apply (.value "New")).1

/-- *Phase created does not contain New.* -/
def oldWorkRule : Rule :=
  ((newWorkRule.duplicate (.ofNat 2)).apply (.condition .doesNotContain)).1

theorem newWorkRule_splits_elements :
    oldWorkRule.OppositeOf newWorkRule ∧ newWorkRule.TestsNames .phase ∧ newWorkRule.Reachable ∧
      oldWorkRule.Reachable ∧ phasedParts.length < UInt64.size ∧
      ∃ filter oppositeFilter,
        newWorkRule.compile .standard (.ofAdditions phasedParts) = .ok filter ∧
        oldWorkRule.compile .standard (.ofAdditions phasedParts) = .ok oppositeFilter ∧
        (filter.selects { Element.named "Wall" with phaseCreated := some ⟨3⟩ } = true ∨
          oppositeFilter.selects { Element.named "Wall" with phaseCreated := some ⟨3⟩ } = true) ∧
        filter.selects { Element.named "Ramp" with phaseCreated := some ⟨4⟩ } = false ∧
        oppositeFilter.selects { Element.named "Ramp" with phaseCreated := some ⟨4⟩ } = false := by
  have h : oldWorkRule.OppositeOf newWorkRule := by
    constructor <;> decide +kernel
  have hnames : newWorkRule.TestsNames .phase := by
    constructor <;> decide +kernel
  have hrule : newWorkRule.Reachable := .changed _ (.changed _ (.created _ _))
  have hopposite : oldWorkRule.Reachable := .changed _ (.duplicated _ hrule)
  have hroom : phasedParts.length < UInt64.size := by decide
  have hdecided : newWorkRule.failure? = none ∧ oldWorkRule.failure? = none := by
    constructor <;> decide +kernel
  obtain ⟨filter, hcompile⟩ :=
    (hrule.grammatical.failsWith_compile .standard (.ofAdditions phasedParts)).ok_iff.2 hdecided.1
  obtain ⟨oppositeFilter, hoppositeCompile⟩ :=
    (hopposite.grammatical.failsWith_compile .standard (.ofAdditions phasedParts)).ok_iff.2
      hdecided.2
  have hsplit (element : Element) :=
    h.splits_elements hnames hrule hopposite hroom hcompile hoppositeCompile element
  refine ⟨h, hnames, hrule, hopposite, hroom, filter, oppositeFilter, hcompile, hoppositeCompile,
    ?_, ?_⟩
  · obtain ⟨⟨-, hselected⟩, -⟩ := hsplit { Element.named "Wall" with phaseCreated := some ⟨3⟩ }
    rw [hselected]
    decide +kernel
  · obtain ⟨-, hlost⟩ := hsplit { Element.named "Ramp" with phaseCreated := some ⟨4⟩ }
    exact hlost (.inr ⟨⟨4⟩, by decide +kernel, by decide +kernel⟩)

end Rule

end ElementRules
