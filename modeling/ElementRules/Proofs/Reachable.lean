import ElementRules.Proofs.Settling
import ElementRules.Rule.Stored

/-!
# Editing sessions

A rule starts as the fresh rule of a category or is loaded from a record, and is then changed and
copied any number of times (`Reachable`). Every such rule keeps to its grammar:

    Grammatical rule → Grammatical (rule.edit change)                  (Grammatical.edit)
    Grammatical rule → Grammatical (changes.foldl edit rule)           (Grammatical.foldl_edit)
    Reachable rule → Grammatical rule ∧ validate rule = .ok ()         (Reachable.keeps_grammar)

What a change writes is of no importance, because the pass after it settles everything again; only
the property has to lose its blanks, and `write` sees to that.
-/

namespace ElementRules.Rule

/-- The rules that sessions of editing produce. -/
inductive Reachable : Rule → Prop
  | created (id : RuleId) (category : Category) : Reachable (create id category)
  /-- The record may be outside its grammar. -/
  | loaded (record : Record) : Reachable (ofRecord record)
  | changed {rule : Rule} (change : Change) : Reachable rule → Reachable (rule.apply change).1
  | duplicated {rule : Rule} (fresh : RuleId) : Reachable rule → Reachable (rule.duplicate fresh)

theorem reachable_of_parse? {source : String} {rule : Rule} (h : parse? source = some rule) :
    rule.Reachable := by
  unfold parse? at h
  obtain ⟨json, -, hjson⟩ := Option.bind_eq_some_iff.1 h
  unfold ofJson? at hjson
  obtain ⟨record, -, rfl⟩ := Option.map_eq_some_iff.1 hjson
  exact .loaded record

/-! ## One step -/

theorem isTrimmed_write {rule : Rule} (h : Text.IsTrimmed rule.property) (change : Change) :
    Text.IsTrimmed (rule.write change).property := by
  cases change with
  | property property => exact Text.isTrimmed_trim property
  | unitClass unitClass =>
    rw [write]
    split
    · exact h
    · exact h
  | _ =>
    rw [write]
    exact h

theorem grammatical_create (id : RuleId) (category : Category) :
    (create id category).Grammatical := by
  apply settle_grammatical
  show Text.IsTrimmed (category.propertyOptions.headD "")
  cases hoptions : category.propertyOptions with
  | nil => decide
  | cons first rest =>
    apply category.grammar_wellFormed.properties_trimmed first
    show first ∈ category.propertyOptions
    rw [hoptions]
    exact List.mem_cons_self

theorem id_create (id : RuleId) (category : Category) : (create id category).id = id := by
  unfold create
  rw [settle_eq]

theorem category_create (id : RuleId) (category : Category) :
    (create id category).category = category := by
  unfold create
  rw [settle_eq]

theorem Grammatical.edit {rule : Rule} (h : rule.Grammatical) (change : Change) :
    (rule.edit change).Grammatical :=
  settle_grammatical (isTrimmed_write h.property_trimmed change)

/-- No part of the invariant is about the identity of a rule. -/
theorem Grammatical.duplicate {rule : Rule} (h : rule.Grammatical) (fresh : RuleId) :
    (rule.duplicate fresh).Grammatical :=
  { property_trimmed := h.property_trimmed
    property_offered := h.property_offered
    conditions_ne_nil := h.conditions_ne_nil
    condition_offered := h.condition_offered
    unitClass_none := h.unitClass_none
    unit_offered := h.unit_offered
    values_ne_nil := h.values_ne_nil
    value_known := h.value_known
    ignoreCase_allowed := h.ignoreCase_allowed }

/-! ## Whole runs -/

theorem Grammatical.foldl_edit {rule : Rule} (h : rule.Grammatical) (changes : List Change) :
    (changes.foldl Rule.edit rule).Grammatical := by
  induction changes generalizing rule with
  | nil => exact h
  | cons change changes ih => exact ih (h.edit change)

theorem Reachable.foldl_edit {rule : Rule} (h : rule.Reachable) (changes : List Change) :
    (changes.foldl Rule.edit rule).Reachable := by
  induction changes generalizing rule with
  | nil => exact h
  | cons change changes ih => exact ih (.changed change h)

theorem Reachable.grammatical {rule : Rule} (h : rule.Reachable) : rule.Grammatical := by
  induction h with
  | created id category => exact grammatical_create id category
  | loaded record => exact (grammatical_create record.id record.category).foldl_edit record.changes
  | changed change _ ih => exact ih.edit change
  | duplicated fresh _ ih => exact ih.duplicate fresh

/-- **Every reachable rule keeps to its grammar**, and validation finds nothing to object to. -/
theorem Reachable.keeps_grammar {rule : Rule} (h : rule.Reachable) :
    rule.Grammatical ∧ rule.validate = .ok () :=
  ⟨h.grammatical, h.grammatical.validate_eq_ok⟩

/-- A record none of whose dependent fields fits its category. -/
def strayRecord : Record :=
  { id := RuleId.ofNat 7
    operator := .or
    category := .view
    property := " Is Defined\t"
    condition := .contains
    value := "perhaps"
    ignoreCase := true
    unitClass := .length
    unit := .meters
    indentLevel := 3
    selected := true
    userDefined := true }

/-- The record, loaded, made a rule on the parameter of a host in square metres, and copied. -/
def straySession : Rule :=
  ((((ofRecord strayRecord).apply (.category .hostParameter)).1.apply
    (.unitClass .area)).1.apply (.unit .squareMeters)).1.duplicate (RuleId.ofNat 8)

theorem straySession_keeps_grammar :
    straySession.Reachable ∧ (straySession.Grammatical ∧ straySession.validate = .ok ()) ∧
      straySession.property = "Is Defined" ∧ straySession.value = "True" ∧
      straySession.unit = .squareMeters := by
  have h : straySession.Reachable :=
    .duplicated _ (.changed _ (.changed _ (.changed _ (.loaded strayRecord))))
  exact ⟨h, h.keeps_grammar, by decide +kernel, by decide +kernel, by decide +kernel⟩

end ElementRules.Rule
