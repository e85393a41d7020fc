import ElementRules.Proofs.RoundTrip

/-!
# Repair on load

What the pass makes of a rule, field by field: a field that fits beside the fields that the pass has
settled is kept, and any other takes the first choice there is (`settle_field`). Loading a record is
one such pass (`ofRecord_eq_settle`), so a stored field is lost only where it cannot stay, and what
has been loaded once is stored and loaded again without further repair:

    ofRecord record = record.written.settle
    parse? (ofRecord record).toJson.render = some (ofRecord record)      (ofRecord_repairs_once)
-/

namespace ElementRules

namespace Rule

/-! ## What is kept -/

/-- A field of one rule would be valid beside the fields of another. -/
def FitsIn (written rule : Rule) : Field → Prop
  | .property => rule.allowsCustomProperty = false → written.property ∈ rule.propertyOptions
  | .condition => written.condition ∈ rule.conditionOptions
  | .unitClass => rule.category.isParameterLike = false → written.unitClass = .none
  | .unit => written.unit ∈ rule.unitOptions
  | .value => rule.allowsCustomValue = false →
      ∃ option ∈ rule.valueOptions, Text.equalUpToAsciiCase option written.value = true
  | .ignoreCase => written.ignoreCase = true → rule.allowsIgnoringCase = true
  | .operator | .category | .indentLevel | .selected | .userDefined => True

instance (written rule : Rule) : (field : Field) → Decidable (written.FitsIn rule field)
  | .property | .unitClass | .value | .ignoreCase => inferInstanceAs (Decidable (_ → _))
  | .condition | .unit => inferInstanceAs (Decidable (_ ∈ _))
  | .operator | .category | .indentLevel | .selected | .userDefined =>
    inferInstanceAs (Decidable True)

/-- The field is what a rule has where nothing else was asked for: the first of its options. -/
def IsFirstChoice (rule : Rule) : Field → Prop
  | .property => rule.propertyOptions.head? = some rule.property
  | .condition => rule.conditionOptions.head? = some rule.condition
  | .unitClass => rule.unitClass = .none
  | .unit => rule.unit = .default
  | .value => rule.valueOptions.head? = some rule.value
  | .ignoreCase => rule.ignoreCase = false
  | .operator | .category | .indentLevel | .selected | .userDefined => False

/-- Where the field is not free, it is kept if it is acceptable, and otherwise becomes the first
option. -/
theorem orFirst_cases {α : Type} (free : Bool) {options : List α} (acceptable : α → Bool)
    (current : α) (hne : free = false → options ≠ []) :
    (free = false → acceptable current = true) ∧
        (if free then current else orFirst options acceptable current) = current ∨
      ¬ (free = false → acceptable current = true) ∧
        options.head? = some (if free then current else orFirst options acceptable current) := by
  cases free with
  | true =>
    left
    exact ⟨fun habsurd => absurd habsurd Bool.noConfusion, rfl⟩
  | false =>
    have hne := hne rfl
    rw [if_neg Bool.false_ne_true]
    unfold orFirst
    by_cases h : acceptable current = true
    · left
      exact ⟨fun _ => h, if_pos h⟩
    · right
      rw [if_neg h, List.headD_eq_head?_getD, List.head?_eq_some_head hne, Option.getD_some]
      exact ⟨fun hkept => h (hkept rfl), rfl⟩

end Rule

namespace Category

theorem settledProperty_cases (category : Category) (property : String) :
    (category.allowsCustomProperty = false → property ∈ category.propertyOptions) ∧
        category.settledProperty property = property ∨
      ¬ (category.allowsCustomProperty = false → property ∈ category.propertyOptions) ∧
        category.propertyOptions.head? = some (category.settledProperty property) := by
  have hcases := Rule.orFirst_cases category.allowsCustomProperty
    (category.propertyOptions.contains ·) property category.grammar_wellFormed.properties_ne_nil
  rwa [List.contains_iff_mem] at hcases

theorem settledCondition_cases (category : Category) (property : String) (condition : Condition) :
    condition ∈ category.conditionOptions property ∧
        category.settledCondition property condition = condition ∨
      condition ∉ category.conditionOptions property ∧
        (category.conditionOptions property).head? =
          some (category.settledCondition property condition) := by
  have hcases := Rule.orFirst_cases false ((category.conditionOptions property).contains ·)
    condition fun _ => category.conditionOptions_ne_nil property
  rwa [forall_prop_of_true rfl, List.contains_iff_mem] at hcases

theorem settledUnitClass_cases (category : Category) (unitClass : UnitClass) :
    (category.isParameterLike = false → unitClass = .none) ∧
        category.settledUnitClass unitClass = unitClass ∨
      ¬ (category.isParameterLike = false → unitClass = .none) ∧
        category.settledUnitClass unitClass = .none := by
  unfold settledUnitClass
  cases hlike : category.isParameterLike <;> by_cases hnone : unitClass = .none <;> simp [hnone]

theorem settledValue_cases (category : Category) (property : String) (condition : Condition)
    (value : String) :
    (category.allowsCustomValue property condition = false →
          ∃ option ∈ category.valueOptions property condition,
            Text.equalUpToAsciiCase option value = true) ∧
        category.settledValue property condition value = value ∨
      ¬ (category.allowsCustomValue property condition = false →
          ∃ option ∈ category.valueOptions property condition,
            Text.equalUpToAsciiCase option value = true) ∧
        (category.valueOptions property condition).head? =
          some (category.settledValue property condition value) := by
  have hcases := Rule.orFirst_cases (category.allowsCustomValue property condition)
    (Rule.isKnownValue (category.valueOptions property condition)) value valueOptions_ne_nil
  rwa [Rule.isKnownValue_iff] at hcases

theorem settledIgnoreCase_cases (category : Category) (property : String) (condition : Condition)
    (unitClass : UnitClass) (flag : Bool) :
    (flag = true → category.allowsIgnoringCase property condition unitClass = true) ∧
        category.settledIgnoreCase property condition unitClass flag = flag ∨
      ¬ (flag = true → category.allowsIgnoringCase property condition unitClass = true) ∧
        category.settledIgnoreCase property condition unitClass flag = false := by
  unfold settledIgnoreCase
  cases category.allowsIgnoringCase property condition unitClass <;> cases flag <;> simp

end Category

theorem UnitClass.settledUnit_cases (unitClass : UnitClass) (unit : Measure) :
    unit ∈ unitClass.units ∧ unitClass.settledUnit unit = unit ∨
      unit ∉ unitClass.units ∧ unitClass.settledUnit unit = .default := by
  unfold settledUnit
  rw [← List.contains_iff_mem]
  by_cases h : unitClass.units.contains unit = true
  · left
    exact ⟨h, if_pos h⟩
  · right
    exact ⟨h, if_neg h⟩

namespace Rule

/-- The pass keeps a field that fits into its result, and no other. -/
theorem settle_field (rule : Rule) (field : Field) :
    rule.FitsIn rule.settle field ∧ differsIn rule rule.settle field = false ∨
      ¬ rule.FitsIn rule.settle field ∧ rule.settle.IsFirstChoice field := by
  have hkept {α : Type} [DecidableEq α] {before after : α} (h : after = before) :
      (before != after) = false := bne_eq_false_iff_eq.2 h.symm
  rw [settle_eq]
  cases field with
  | operator | category | indentLevel | selected | userDefined =>
    left
    exact ⟨trivial, hkept rfl⟩
  | property => exact (Category.settledProperty_cases _ _).imp_left (And.imp_right hkept)
  | condition => exact (Category.settledCondition_cases _ _ _).imp_left (And.imp_right hkept)
  | unitClass => exact (Category.settledUnitClass_cases _ _).imp_left (And.imp_right hkept)
  | unit => exact (UnitClass.settledUnit_cases _ _).imp_left (And.imp_right hkept)
  | value => exact (Category.settledValue_cases _ _ _ _).imp_left (And.imp_right hkept)
  | ignoreCase =>
    exact (Category.settledIgnoreCase_cases _ _ _ _ _).imp_left (And.imp_right hkept)

/-- **Loading repairs once.** A loaded rule is one pass over the record as it was stored, with the
property trimmed: whatever fits into the result is kept, and only what does not is replaced. Stored
and loaded again, the rule stays as it is. -/
theorem ofRecord_repairs_once (record : Record) :
    ofRecord record = record.written.settle ∧
      (∀ field,
        record.written.FitsIn (ofRecord record) field ∧
            differsIn record.written (ofRecord record) field = false ∨
          ¬ record.written.FitsIn (ofRecord record) field ∧
            (ofRecord record).IsFirstChoice field) ∧
      (Text.IsTrimmed record.property → record.written.property = record.property) ∧
      parse? (ofRecord record).toJson.render = some (ofRecord record) := by
  have hloaded : (ofRecord record).Grammatical := (Reachable.loaded record).grammatical
  refine ⟨ofRecord_eq_settle record, ?_, ?_, hloaded.parse?_render⟩
  · intro field
    rw [ofRecord_eq_settle]
    exact record.written.settle_field field
  · intro htrimmed
    exact (Text.trim_eq_self_iff record.property).2 htrimmed

/-- A record written for another category. -/
def staleRecord : Record :=
  { id := RuleId.ofNat 9
    operator := .and
    category := .structuralType
    property := "Name"
    condition := .contains
    value := "Slab"
    ignoreCase := true
    unitClass := .none
    unit := .default
    indentLevel := 0
    selected := false
    userDefined := false }

theorem staleRecord_repaired :
    ofRecord staleRecord = staleRecord.written.settle ∧ Text.IsTrimmed staleRecord.property ∧
      staleRecord.written.property = "Name" ∧ (ofRecord staleRecord).property = "Value" ∧
      (ofRecord staleRecord).condition = .equal ∧
      (ofRecord staleRecord).value = "NonStructural" ∧ (ofRecord staleRecord).ignoreCase = false ∧
      parse? (ofRecord staleRecord).toJson.render = some (ofRecord staleRecord) := by
  have htrimmed : Text.IsTrimmed staleRecord.property := by decide
  obtain ⟨hsettle, -, hproperty, hparse⟩ := ofRecord_repairs_once staleRecord
  exact ⟨hsettle, htrimmed, hproperty htrimmed, by decide +kernel, by decide +kernel,
    by decide +kernel, by decide +kernel, hparse⟩

end Rule

end ElementRules
