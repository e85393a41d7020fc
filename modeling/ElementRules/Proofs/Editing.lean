import ElementRules.Proofs.Reachable

/-!
# What a change reaches

A rule that keeps to its grammar is left alone by the pass (`Grammatical.settle_eq_self`). So after
a change the pass settles what the change reaches, and nothing else:

    property    →  property, condition, value, ignoreCase      (Grammatical.edit_property)
    condition   →  condition, value, ignoreCase                (Grammatical.edit_condition)
    unitClass   →  unitClass, unit, ignoreCase                 (Grammatical.edit_unitClass)
    unit        →  unit                                        (Grammatical.edit_unit)
    value       →  value                                       (Grammatical.edit_value)
    ignoreCase  →  ignoreCase                                  (Grammatical.edit_ignoreCase)

The other fields have no part in the grammar, and a change of one of them is only written
(`Grammatical.edit_of_isNote`).
-/

namespace ElementRules

/-! ## Settled fields -/

/-- Every class has the default unit. -/
theorem UnitClass.settledUnit_default (unitClass : UnitClass) :
    unitClass.settledUnit .default = .default := by
  unfold settledUnit
  rw [ite_self]

namespace Rule

theorem orFirst_of_acceptable {α : Type} {options : List α} {acceptable : α → Bool} {current : α}
    (h : acceptable current = true) : orFirst options acceptable current = current :=
  if_pos h

variable {rule : Rule}

theorem Grammatical.settledProperty_eq (h : rule.Grammatical) :
    rule.category.settledProperty rule.property = rule.property := by
  unfold Category.settledProperty
  cases hcustom : rule.category.allowsCustomProperty with
  | true => rfl
  | false =>
    have hoffered : rule.property ∈ rule.category.propertyOptions := h.property_offered hcustom
    rw [if_neg Bool.false_ne_true]
    exact orFirst_of_acceptable (List.contains_iff_mem.2 hoffered)

theorem Grammatical.settledCondition_eq (h : rule.Grammatical) :
    rule.category.settledCondition rule.property rule.condition = rule.condition := by
  have hoffered : rule.condition ∈ rule.category.conditionOptions rule.property :=
    h.condition_offered
  exact orFirst_of_acceptable (List.contains_iff_mem.2 hoffered)

theorem Grammatical.settledUnitClass_eq (h : rule.Grammatical) :
    rule.category.settledUnitClass rule.unitClass = rule.unitClass := by
  unfold Category.settledUnitClass
  cases hlike : rule.category.isParameterLike with
  | true => rfl
  | false =>
    rw [if_neg Bool.false_ne_true]
    exact (h.unitClass_none hlike).symm

theorem Grammatical.settledUnit_eq (h : rule.Grammatical) :
    rule.unitClass.settledUnit rule.unit = rule.unit := by
  have hoffered : rule.unit ∈ rule.unitClass.units := h.unit_offered
  exact if_pos (List.contains_iff_mem.2 hoffered)

theorem Grammatical.settledValue_eq (h : rule.Grammatical) :
    rule.category.settledValue rule.property rule.condition rule.value = rule.value := by
  unfold Category.settledValue
  cases hcustom : rule.category.allowsCustomValue rule.property rule.condition with
  | true => rfl
  | false =>
    rw [if_neg Bool.false_ne_true]
    exact orFirst_of_acceptable ((isKnownValue_iff _ _).2 (h.value_known hcustom))

theorem Grammatical.settledIgnoreCase_eq (h : rule.Grammatical) :
    rule.category.settledIgnoreCase rule.property rule.condition rule.unitClass rule.ignoreCase =
      rule.ignoreCase := by
  unfold Category.settledIgnoreCase
  split
  · rfl
  · next hforbidden =>
    cases hflag : rule.ignoreCase with
    | false => rfl
    | true => exact absurd (h.ignoreCase_allowed hflag) hforbidden

/-- Inside the grammar there is nothing to settle. -/
theorem Grammatical.settle_eq_self (h : rule.Grammatical) : rule.settle = rule := by
  rw [settle_eq]
  simp only [h.settledProperty_eq, h.settledCondition_eq, h.settledUnitClass_eq, h.settledUnit_eq,
    h.settledValue_eq, h.settledIgnoreCase_eq]

end Rule

/-! ## Changes -/

/-- The field that is written has no part in the grammar. -/
def Change.isNote : Change → Bool
  | .operator _ | .indentLevel _ | .selected _ | .userDefined _ => true
  | _ => false

namespace Rule

variable {rule : Rule}

/-- No change gives a rule another id. -/
theorem id_edit (rule : Rule) (change : Change) : (rule.edit change).id = rule.id := by
  unfold edit
  rw [settle_eq]
  cases change with
  | unitClass unitClass =>
    unfold write
    dsimp only
    split <;> rfl
  | _ => rfl

theorem id_foldl_edit (rule : Rule) (changes : List Change) :
    (changes.foldl edit rule).id = rule.id := by
  induction changes generalizing rule with
  | nil => rfl
  | cons change changes ih => exact (ih (rule.edit change)).trans (rule.id_edit change)

theorem Grammatical.edit_of_isNote (h : rule.Grammatical) {change : Change}
    (hnote : change.isNote = true) : rule.edit change = rule.write change := by
  have hwritten : (rule.write change).Grammatical := by
    cases change with
    | operator operator | indentLevel level | selected flag | userDefined flag =>
      exact
        { property_trimmed := h.property_trimmed
          property_offered := h.property_offered
          conditions_ne_nil := h.conditions_ne_nil
          condition_offered := h.condition_offered
          unitClass_none := h.unitClass_none
          unit_offered := h.unit_offered
          values_ne_nil := h.values_ne_nil
          value_known := h.value_known
          ignoreCase_allowed := h.ignoreCase_allowed }
    | _ => exact absurd hnote Bool.false_ne_true
  exact hwritten.settle_eq_self

theorem Grammatical.edit_property (h : rule.Grammatical) (property : String) :
    rule.edit (.property property) =
      let settled := rule.category.settledProperty (Text.trim property)
      let condition := rule.category.settledCondition settled rule.condition
      { rule with
        property := settled
        condition
        value := rule.category.settledValue settled condition rule.value
        ignoreCase :=
          rule.category.settledIgnoreCase settled condition rule.unitClass rule.ignoreCase } := by
  unfold Rule.edit Rule.write
  rw [settle_eq]
  simp only [h.settledUnitClass_eq, h.settledUnit_eq]

theorem Grammatical.edit_condition (h : rule.Grammatical) (condition : Condition) :
    rule.edit (.condition condition) =
      let settled := rule.category.settledCondition rule.property condition
      { rule with
        condition := settled
        value := rule.category.settledValue rule.property settled rule.value
        ignoreCase := rule.category.settledIgnoreCase rule.property settled rule.unitClass
          rule.ignoreCase } := by
  unfold Rule.edit Rule.write
  rw [settle_eq]
  simp only [h.settledProperty_eq, h.settledUnitClass_eq, h.settledUnit_eq]

/-- A class that is not the one before starts at the default unit. -/
theorem Grammatical.edit_unitClass (h : rule.Grammatical) (unitClass : UnitClass) :
    rule.edit (.unitClass unitClass) =
      let settled := rule.category.settledUnitClass unitClass
      { rule with
        unitClass := settled
        unit := if settled = rule.unitClass then rule.unit else .default
        ignoreCase := rule.category.settledIgnoreCase rule.property rule.condition settled
          rule.ignoreCase } := by
  unfold Rule.edit Rule.write
  dsimp only
  by_cases hsame : unitClass = rule.unitClass
  · subst hsame
    rw [if_pos (beq_self_eq_true _), h.settle_eq_self]
    simp only [h.settledUnitClass_eq, h.settledIgnoreCase_eq, if_pos]
  · rw [if_neg (mt beq_iff_eq.1 hsame), settle_eq]
    simp only [h.settledProperty_eq, h.settledCondition_eq, h.settledValue_eq,
      UnitClass.settledUnit_default]
    congr 1
    -- Without parameters no class is carried, and the only unit is the default one.
    cases hlike : rule.category.isParameterLike with
    | true =>
      have hsettled : rule.category.settledUnitClass unitClass = unitClass := if_pos hlike
      rw [hsettled, if_neg hsame]
    | false =>
      have hnone := h.unitClass_none hlike
      have hunit : rule.unit ∈ rule.unitClass.units := h.unit_offered
      rw [hnone, UnitClass.units, List.mem_singleton] at hunit
      rw [hunit, ite_self]

theorem Grammatical.edit_unit (h : rule.Grammatical) (unit : Measure) :
    rule.edit (.unit unit) = { rule with unit := rule.unitClass.settledUnit unit } := by
  unfold Rule.edit Rule.write
  rw [settle_eq]
  simp only [h.settledProperty_eq, h.settledCondition_eq, h.settledUnitClass_eq,
    h.settledValue_eq, h.settledIgnoreCase_eq]

theorem Grammatical.edit_value (h : rule.Grammatical) (value : String) :
    rule.edit (.value value) =
      { rule with
        value := rule.category.settledValue rule.property rule.condition value } := by
  unfold Rule.edit Rule.write
  rw [settle_eq]
  simp only [h.settledProperty_eq, h.settledCondition_eq, h.settledUnitClass_eq, h.settledUnit_eq,
    h.settledIgnoreCase_eq]

theorem Grammatical.edit_ignoreCase (h : rule.Grammatical) (flag : Bool) :
    rule.edit (.ignoreCase flag) =
      { rule with
        ignoreCase := rule.category.settledIgnoreCase rule.property rule.condition rule.unitClass
          flag } := by
  unfold Rule.edit Rule.write
  rw [settle_eq]
  simp only [h.settledProperty_eq, h.settledCondition_eq, h.settledUnitClass_eq, h.settledUnit_eq,
    h.settledValue_eq]

end Rule

end ElementRules
