import ElementRules.Proofs.Trimming
import ElementRules.Rule.Reading

/-!
# Settling

One pass brings a rule into its grammar, whatever the rule was before:

    settle rule = { rule with property := …, condition := …, … }       (settle_eq)
    IsTrimmed rule.property → Grammatical (settle rule)                (settle_grammatical)
    Grammatical rule → validate rule = .ok ()                          (Grammatical.validate_eq_ok)

Each field of `settle_eq` is a function of the fields settled before it (`settledProperty`,
`settledCondition`, …), so no later step can undo an earlier one. What the pass relies on in the
table of grammars is `Grammar.WellFormed`, and that a value has options exactly where it may not be
typed freely (`valueOptions_agree`).
-/

namespace ElementRules

/-! ## The table -/

/-- A grammar in which every step of the pass finds an option to fall back on. -/
structure Grammar.WellFormed (grammar : Grammar) : Prop where
  /-- Some rule applies whatever the property is. -/
  total : ∃ rule ∈ grammar.rules, rule.property = none
  conditions_ne_nil : ∀ rule ∈ grammar.rules, rule.conditions ≠ []
  properties_trimmed : ∀ property ∈ grammar.properties, Text.IsTrimmed property
  properties_ne_nil : grammar.customProperty = false → grammar.properties ≠ []

instance (grammar : Grammar) : Decidable grammar.WellFormed :=
  decidable_of_iff
    ((∃ rule ∈ grammar.rules, rule.property = none) ∧
      (∀ rule ∈ grammar.rules, rule.conditions ≠ []) ∧
      (∀ property ∈ grammar.properties, Text.IsTrimmed property) ∧
      (grammar.customProperty = false → grammar.properties ≠ []))
    ⟨fun ⟨total, conditions, trimmed, properties⟩ => ⟨total, conditions, trimmed, properties⟩,
      fun h => ⟨h.total, h.conditions_ne_nil, h.properties_trimmed, h.properties_ne_nil⟩⟩

theorem Grammar.conditionsFor_ne_nil {grammar : Grammar} (h : grammar.WellFormed)
    (property : String) : grammar.conditionsFor property ≠ [] := by
  unfold Grammar.conditionsFor
  cases hfind : grammar.rules.find? (·.appliesTo property) with
  | some rule => exact h.conditions_ne_nil rule (List.mem_of_find?_eq_some hfind)
  | none =>
    obtain ⟨rule, hmem, hany⟩ := h.total
    have happlies : rule.appliesTo property = true := by
      unfold ConditionRule.appliesTo
      rw [hany]
    exact absurd happlies (List.find?_eq_none.1 hfind rule hmem)

theorem Grammar.exists_row_of_mem_conditionsFor {grammar : Grammar} {property : String}
    {condition : Condition} (h : condition ∈ grammar.conditionsFor property) :
    ∃ row ∈ grammar.rules, condition ∈ row.conditions := by
  unfold Grammar.conditionsFor at h
  split at h
  · next row hfind => exact ⟨row, List.mem_of_find?_eq_some hfind, h⟩
  · cases h

/-- A row for one property, and a row for all others. -/
theorem Grammar.conditionsFor_pair (grammar : Grammar) {special : String}
    {conditions others : List Condition}
    (h : grammar.rules = [⟨some special, conditions⟩, ⟨none, others⟩]) (property : String) :
    grammar.conditionsFor property = if special = property then conditions else others := by
  unfold Grammar.conditionsFor
  rw [h]
  by_cases hproperty : special = property
  · rw [if_pos hproperty, List.find?_cons_of_pos (by rw [hproperty]; exact beq_self_eq_true _)]
  · rw [if_neg hproperty, List.find?_cons_of_neg (by exact mt beq_iff_eq.1 hproperty),
      List.find?_cons_of_pos rfl]

namespace Category

theorem grammar_wellFormed (category : Category) : category.grammar.WellFormed := by
  cases category <;> decide

theorem conditionOptions_ne_nil (category : Category) (property : String) :
    category.conditionOptions property ≠ [] :=
  Grammar.conditionsFor_ne_nil category.grammar_wellFormed property

theorem allowsCustomValue_eq_false_iff {category : Category} {property : String}
    {condition : Condition} :
    category.allowsCustomValue property condition = false ↔
      (category = .modelCategory ∧ property ≠ PropertyName.name) ∨
        category.grammar.fixedValues = true ∨ condition.isExistence = true ∨
        property = PropertyName.isInPlace ∨ property = PropertyName.isDefined := by
  unfold allowsCustomValue
  grind

/-- Where free text is not allowed there is a vocabulary to choose from. -/
theorem valueOptions_ne_nil {category : Category} {property : String} {condition : Condition}
    (h : category.allowsCustomValue property condition = false) :
    category.valueOptions property condition ≠ [] := by
  have hby : condition.isExistence = true ∨ property = PropertyName.isInPlace ∨
        property = PropertyName.isDefined →
      (if property == PropertyName.isInPlace || property == PropertyName.isDefined then truthOptions
        else if condition.isExistence then truthOptions else []) ≠ [] := by
    rintro (hexists | rfl | rfl) <;> simp [*, truthOptions]
  rw [allowsCustomValue_eq_false_iff] at h
  cases category with
  | phaseStatus | structuralType | typeOrInstance | redundant => exact List.cons_ne_nil _ _
  | modelCategory =>
    show (if property != PropertyName.name then truthOptions else _) ≠ []
    split
    · exact List.cons_ne_nil _ _
    · next hname =>
      apply hby
      rcases h with ⟨-, hother⟩ | hfixed | h
      · exact absurd (bne_iff_ne.2 hother) hname
      · exact absurd hfixed Bool.false_ne_true
      · exact h
  | _ =>
    apply hby
    rcases h with ⟨hcategory, -⟩ | hfixed | h
    · exact absurd hcategory (by decide)
    · exact absurd hfixed Bool.false_ne_true
    · exact h

/-- Where free text is allowed there is nothing to choose from. -/
theorem valueOptions_eq_nil {category : Category} {property : String} {condition : Condition}
    (h : category.allowsCustomValue property condition = true) :
    category.valueOptions property condition = [] := by
  have hfree : ¬ category.allowsCustomValue property condition = false := by simp [h]
  rw [allowsCustomValue_eq_false_iff] at hfree
  simp only [not_or, not_and, Decidable.not_not] at hfree
  obtain ⟨hmodel, hfixed, hexists, hplace, hdefined⟩ := hfree
  have hby : (if property == PropertyName.isInPlace || property == PropertyName.isDefined
      then truthOptions else if condition.isExistence then truthOptions else []) = [] := by
    simp [hplace, hdefined, hexists]
  cases category with
  | phaseStatus | structuralType | typeOrInstance | redundant => exact absurd rfl hfixed
  | modelCategory =>
    show (if property != PropertyName.name then truthOptions else _) = []
    rw [if_neg (by simp [hmodel rfl])]
    exact hby
  | _ => exact hby

end Category

/-! ## Falling back on the first option -/

namespace Rule

/-- With options to choose from, all of them acceptable, the outcome is acceptable. -/
theorem acceptable_orFirst {α : Type} {options : List α} (acceptable : α → Bool) (current : α)
    (hne : options ≠ []) (hoptions : ∀ option ∈ options, acceptable option = true) :
    acceptable (orFirst options acceptable current) = true := by
  unfold orFirst
  split
  · next h => exact h
  · cases options with
    | nil => exact absurd rfl hne
    | cons first rest => exact hoptions first List.mem_cons_self

theorem orFirst_contains_mem {α : Type} [BEq α] [LawfulBEq α] {options : List α} (current : α)
    (hne : options ≠ []) : orFirst options (options.contains ·) current ∈ options := by
  have h := acceptable_orFirst (options.contains ·) current hne
    fun option hmem => List.contains_iff_mem.2 hmem
  exact List.contains_iff_mem.1 h

theorem isKnownValue_iff (options : List String) (value : String) :
    isKnownValue options value = true ↔
      ∃ option ∈ options, Text.equalUpToAsciiCase option value = true := by
  unfold isKnownValue
  rw [List.any_eq_true]

end Rule

/-! ## The pass, field by field -/

namespace Category

/-- The property that a rule of the category settles on. -/
def settledProperty (category : Category) (property : String) : String :=
  if category.allowsCustomProperty then property
  else Rule.orFirst category.propertyOptions (category.propertyOptions.contains ·) property

/-- The condition that a rule on the property settles on. -/
def settledCondition (category : Category) (property : String) (condition : Condition) :
    Condition :=
  Rule.orFirst (category.conditionOptions property)
    ((category.conditionOptions property).contains ·) condition

def settledUnitClass (category : Category) (unitClass : UnitClass) : UnitClass :=
  if category.isParameterLike then unitClass else .none

def settledValue (category : Category) (property : String) (condition : Condition)
    (value : String) : String :=
  if category.allowsCustomValue property condition then value
  else Rule.orFirst (category.valueOptions property condition)
    (Rule.isKnownValue (category.valueOptions property condition)) value

def settledIgnoreCase (category : Category) (property : String) (condition : Condition)
    (unitClass : UnitClass) (ignoreCase : Bool) : Bool :=
  if category.allowsIgnoringCase property condition unitClass then ignoreCase else false

end Category

def UnitClass.settledUnit (unitClass : UnitClass) (unit : Measure) : Measure :=
  if unitClass.units.contains unit then unit else .default

namespace Category

theorem settledProperty_mem {category : Category} (property : String)
    (h : category.allowsCustomProperty = false) :
    category.settledProperty property ∈ category.propertyOptions := by
  unfold settledProperty
  rw [h, if_neg Bool.false_ne_true]
  exact Rule.orFirst_contains_mem property (category.grammar_wellFormed.properties_ne_nil h)

theorem isTrimmed_settledProperty (category : Category) {property : String}
    (h : Text.IsTrimmed property) : Text.IsTrimmed (category.settledProperty property) := by
  cases hcustom : category.allowsCustomProperty with
  | true =>
    unfold settledProperty
    rwa [if_pos hcustom]
  | false =>
    exact category.grammar_wellFormed.properties_trimmed _ (settledProperty_mem property hcustom)

theorem settledCondition_mem (category : Category) (property : String) (condition : Condition) :
    category.settledCondition property condition ∈ category.conditionOptions property :=
  Rule.orFirst_contains_mem condition (category.conditionOptions_ne_nil property)

theorem settledUnitClass_of_not_parameterLike {category : Category} (unitClass : UnitClass)
    (h : category.isParameterLike = false) : category.settledUnitClass unitClass = .none := by
  unfold settledUnitClass
  rw [h, if_neg Bool.false_ne_true]

theorem isKnownValue_settledValue {category : Category} {property : String} {condition : Condition}
    (value : String) (h : category.allowsCustomValue property condition = false) :
    Rule.isKnownValue (category.valueOptions property condition)
      (category.settledValue property condition value) = true := by
  unfold settledValue
  rw [h, if_neg Bool.false_ne_true]
  apply Rule.acceptable_orFirst _ value (valueOptions_ne_nil h)
  intro option hmem
  rw [Rule.isKnownValue_iff]
  exact ⟨option, hmem, Text.equalUpToAsciiCase_refl option⟩

theorem allowsIgnoringCase_of_settledIgnoreCase {category : Category} {property : String}
    {condition : Condition} {unitClass : UnitClass} {ignoreCase : Bool}
    (h : category.settledIgnoreCase property condition unitClass ignoreCase = true) :
    category.allowsIgnoringCase property condition unitClass = true := by
  unfold settledIgnoreCase at h
  split at h
  · next hallowed => exact hallowed
  · exact absurd h Bool.false_ne_true

end Category

theorem UnitClass.settledUnit_mem (unitClass : UnitClass) (unit : Measure) :
    unitClass.settledUnit unit ∈ unitClass.units := by
  unfold settledUnit
  split
  · next h => exact List.contains_iff_mem.1 h
  · cases unitClass <;> exact List.mem_cons_self

/-! ## The steps of the pass -/

namespace Rule

theorem settleProperty_eq (rule : Rule) :
    rule.settleProperty =
      { rule with property := rule.category.settledProperty rule.property } := by
  unfold settleProperty Category.settledProperty allowsCustomProperty
  split <;> rfl

theorem settleCondition_eq (rule : Rule) :
    rule.settleCondition =
      { rule with
        condition := rule.category.settledCondition rule.property rule.condition } := rfl

theorem settleUnitClass_eq (rule : Rule) :
    rule.settleUnitClass =
      { rule with unitClass := rule.category.settledUnitClass rule.unitClass } := by
  unfold settleUnitClass Category.settledUnitClass
  split <;> rfl

theorem settleUnit_eq (rule : Rule) :
    rule.settleUnit = { rule with unit := rule.unitClass.settledUnit rule.unit } := by
  unfold settleUnit UnitClass.settledUnit unitOptions
  split <;> rfl

theorem settleValue_eq (rule : Rule) :
    rule.settleValue =
      { rule with
        value := rule.category.settledValue rule.property rule.condition rule.value } := by
  unfold settleValue Category.settledValue allowsCustomValue
  split <;> rfl

theorem settleIgnoreCase_eq (rule : Rule) :
    rule.settleIgnoreCase =
      { rule with
        ignoreCase := rule.category.settledIgnoreCase rule.property rule.condition rule.unitClass
          rule.ignoreCase } := by
  unfold settleIgnoreCase Category.settledIgnoreCase allowsIgnoringCase
  split <;> rfl

/-- **The two tables of values agree.** For every category, property and condition, in or out of the
grammar, there are values to choose from exactly where free text is not allowed. So the pass could
go by the list alone: a value of the list stays, any other gives way to the first one, and without a
list every value stays. -/
theorem valueOptions_agree (category : Category) (property : String) (condition : Condition) :
    (category.valueOptions property condition ≠ [] ↔
      category.allowsCustomValue property condition = false) ∧
    ∀ rule : Rule, rule.settleValue =
      { rule with
        value := orFirst rule.valueOptions (isKnownValue rule.valueOptions) rule.value } := by
  constructor
  · constructor
    · intro hne
      by_contra hfree
      exact hne (Category.valueOptions_eq_nil (eq_true_of_ne_false hfree))
    · exact Category.valueOptions_ne_nil
  · intro rule
    unfold settleValue
    split
    · next hfree =>
      have hnone : rule.valueOptions = [] := Category.valueOptions_eq_nil hfree
      rw [hnone]
      rfl
    · rfl

/-- A parameter may bear the name of a yes-or-no property, and then its value is bound too. -/
example : Category.parameter.valueOptions "Is Defined" .equal = ["True", "False"] ∧
    Category.parameter.allowsCustomValue "Is Defined" .equal = false := by decide

/-- The whole pass. Every field is settled from fields that are settled already. -/
theorem settle_eq (rule : Rule) :
    rule.settle =
      let category := rule.category
      let property := category.settledProperty rule.property
      let condition := category.settledCondition property rule.condition
      let unitClass := category.settledUnitClass rule.unitClass
      { rule with
        property
        condition
        unitClass
        unit := unitClass.settledUnit rule.unit
        value := category.settledValue property condition rule.value
        ignoreCase :=
          category.settledIgnoreCase property condition unitClass rule.ignoreCase } := by
  unfold settle
  rw [settleProperty_eq, settleCondition_eq, settleUnitClass_eq, settleUnit_eq, settleValue_eq,
    settleIgnoreCase_eq]

/-! ## The invariant -/

/-- The rule keeps to its grammar. -/
structure Grammatical (rule : Rule) : Prop where
  property_trimmed : Text.IsTrimmed rule.property
  property_offered : rule.allowsCustomProperty = false → rule.property ∈ rule.propertyOptions
  conditions_ne_nil : rule.conditionOptions ≠ []
  condition_offered : rule.condition ∈ rule.conditionOptions
  /-- Only parameter rules have a class of units. -/
  unitClass_none : rule.category.isParameterLike = false → rule.unitClass = .none
  unit_offered : rule.unit ∈ rule.unitOptions
  values_ne_nil : rule.allowsCustomValue = false → rule.valueOptions ≠ []
  value_known : rule.allowsCustomValue = false →
    ∃ option ∈ rule.valueOptions, Text.equalUpToAsciiCase option rule.value = true
  ignoreCase_allowed : rule.ignoreCase = true → rule.allowsIgnoringCase = true

/-- The pass needs nothing of the rule but a property without blanks at its ends. -/
theorem settle_grammatical {rule : Rule} (h : Text.IsTrimmed rule.property) :
    rule.settle.Grammatical := by
  rw [settle_eq]
  exact
    { property_trimmed := Category.isTrimmed_settledProperty rule.category h
      property_offered := Category.settledProperty_mem rule.property
      conditions_ne_nil := Category.conditionOptions_ne_nil rule.category _
      condition_offered := Category.settledCondition_mem rule.category _ rule.condition
      unitClass_none := Category.settledUnitClass_of_not_parameterLike rule.unitClass
      unit_offered := UnitClass.settledUnit_mem _ rule.unit
      values_ne_nil := Category.valueOptions_ne_nil
      value_known := fun hfixed =>
        (isKnownValue_iff _ _).1 (Category.isKnownValue_settledValue rule.value hfixed)
      ignoreCase_allowed := Category.allowsIgnoringCase_of_settledIgnoreCase }

theorem Grammatical.propertyFits {rule : Rule} (h : rule.Grammatical) :
    rule.propertyFits = true := by
  unfold Rule.propertyFits
  cases hcustom : rule.allowsCustomProperty with
  | true => rfl
  | false =>
    rw [List.contains_iff_mem.2 (h.property_offered hcustom), Bool.or_true]

theorem Grammatical.conditionFits {rule : Rule} (h : rule.Grammatical) :
    rule.conditionFits = true := by
  unfold Rule.conditionFits
  rw [List.contains_iff_mem.2 h.condition_offered, Bool.or_true]

/-- What `validate` looks for is a part of the invariant. -/
theorem Grammatical.validate_eq_ok {rule : Rule} (h : rule.Grammatical) :
    rule.validate = .ok () := by
  have hcase : (rule.ignoreCase && !rule.allowsIgnoringCase) = false := by
    cases hflag : rule.ignoreCase with
    | false => rfl
    | true => rw [h.ignoreCase_allowed hflag]; rfl
  unfold validate
  rw [h.propertyFits, h.conditionFits, hcase]
  rfl

end Rule

end ElementRules
