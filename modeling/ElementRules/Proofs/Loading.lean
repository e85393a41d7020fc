import ElementRules.Proofs.Editing

/-!
# Loading a record

A record is loaded by changes: the fresh rule of its category takes the stored fields one after the
other, and after each of them the pass may coerce what the next one is about to write. Still the
order is such that nothing is lost, and the result is one pass over the record as it was stored:

    ofRecord record = record.written.settle      (ofRecord_eq_settle)

The changes go two by two. A pair settles the fields that it writes, and what it coerces besides is
still to be written: after property and condition the value and the flag that ignores case
(`Grammatical.edit_property_condition`), after unit class and unit the flag again
(`Grammatical.edit_unitClass_unit`).
-/

namespace ElementRules

namespace Rule

/-! ## The changes of a record, two by two -/

section Pairs

variable {rule : Rule}

/-- The value and the flag may have been coerced on the way; both are still to be written. -/
theorem Grammatical.edit_property_condition (h : rule.Grammatical) (property : String)
    (condition : Condition) :
    ∃ value ignoreCase,
      (rule.edit (.property property)).edit (.condition condition) =
        { rule with
          property := rule.category.settledProperty (Text.trim property)
          condition := rule.category.settledCondition
            (rule.category.settledProperty (Text.trim property)) condition
          value
          ignoreCase } := by
  rw [(h.edit _).edit_condition, h.edit_property]
  exact ⟨_, _, rfl⟩

theorem Grammatical.edit_unitClass_unit (h : rule.Grammatical) (unitClass : UnitClass)
    (unit : Measure) :
    ∃ ignoreCase,
      (rule.edit (.unitClass unitClass)).edit (.unit unit) =
        { rule with
          unitClass := rule.category.settledUnitClass unitClass
          unit := (rule.category.settledUnitClass unitClass).settledUnit unit
          ignoreCase } := by
  rw [(h.edit _).edit_unit, h.edit_unitClass]
  exact ⟨_, rfl⟩

theorem Grammatical.edit_value_ignoreCase (h : rule.Grammatical) (value : String) (flag : Bool) :
    (rule.edit (.value value)).edit (.ignoreCase flag) =
      { rule with
        value := rule.category.settledValue rule.property rule.condition value
        ignoreCase := rule.category.settledIgnoreCase rule.property rule.condition rule.unitClass
          flag } := by
  rw [(h.edit _).edit_ignoreCase, h.edit_value]

/-- Notes are written as they are, whatever else has been. -/
theorem Grammatical.edit_notes (h : rule.Grammatical) (level : UInt32)
    (selected userDefined : Bool) :
    ((rule.edit (.indentLevel level)).edit (.selected selected)).edit (.userDefined userDefined) =
      { rule with indentLevel := level, selected, userDefined } := by
  rw [((h.edit _).edit _).edit_of_isNote rfl, (h.edit _).edit_of_isNote rfl, h.edit_of_isNote rfl]
  rfl

end Pairs

/-- All fields of a record at once, inside the grammar or not; only the property is trimmed. -/
def Record.written (record : Record) : Rule :=
  { id := record.id
    operator := record.operator
    category := record.category
    property := Text.trim record.property
    condition := record.condition
    value := record.value
    ignoreCase := record.ignoreCase
    unitClass := record.unitClass
    unit := record.unit
    indentLevel := record.indentLevel
    selected := record.selected
    userDefined := record.userDefined }

/-- What the changes of a record make of a rule of its category under its id. -/
theorem Grammatical.foldl_changes {rule : Rule} (h : rule.Grammatical) (record : Record)
    (hid : rule.id = record.id) (hcategory : rule.category = record.category) :
    record.changes.foldl Rule.edit rule = record.written.settle := by
  have hoperator : rule.edit (.operator record.operator) =
      { rule with operator := record.operator } := h.edit_of_isNote rfl
  have h := h.edit (.operator record.operator)
  obtain ⟨value, flag, hcondition⟩ :=
    h.edit_property_condition record.property record.condition
  have h := (h.edit (.property record.property)).edit (.condition record.condition)
  obtain ⟨flag', hunit⟩ := h.edit_unitClass_unit record.unitClass record.unit
  have h := (h.edit (.unitClass record.unitClass)).edit (.unit record.unit)
  have hvalue := h.edit_value_ignoreCase record.value record.ignoreCase
  have h := (h.edit (.value record.value)).edit (.ignoreCase record.ignoreCase)
  have hnotes := h.edit_notes record.indentLevel record.selected record.userDefined
  unfold Record.changes
  simp only [List.foldl_cons, List.foldl_nil]
  rw [hnotes, hvalue, hunit, hcondition, hoperator, settle_eq]
  simp only [hid, hcategory, Record.written]

theorem ofRecord_eq_settle (record : Record) : ofRecord record = record.written.settle := by
  apply (grammatical_create record.id record.category).foldl_changes record
  · exact id_create record.id record.category
  · exact category_create record.id record.category

end Rule

end ElementRules
