import ElementRules.Grammar
import ElementRules.RuleId
import ElementRules.Text.Blank

/-!
A rule: select the elements whose property satisfies a condition against a value. Rules are changed
only through `Rule.apply`, which writes one field and then brings every dependent field back inside
the grammar:

1. the property, to the first option, unless it is free text;
2. the condition, to the first condition of category and property;
3. the unit class and the unit, which only parameter rules carry;
4. the value, to the first option, where free text is not allowed;
5. the flag that ignores case, off where the comparison cannot.

A step looks only at what the steps before it have settled, so one pass is enough.
-/

namespace ElementRules

structure Rule where
  id : RuleId
  operator : Operator
  category : Category
  property : String
  condition : Condition
  value : String
  ignoreCase : Bool
  unitClass : UnitClass
  unit : Measure
  /-- Depth of grouping on display. -/
  indentLevel : UInt32
  selected : Bool
  /-- The property was typed by the user and not picked from the model. -/
  userDefined : Bool
deriving DecidableEq

namespace Rule

/-! ## Options -/

def propertyOptions (rule : Rule) : List String := rule.category.propertyOptions

def conditionOptions (rule : Rule) : List Condition := rule.category.conditionOptions rule.property

def valueOptions (rule : Rule) : List String :=
  rule.category.valueOptions rule.property rule.condition

def unitOptions (rule : Rule) : List Measure := rule.unitClass.units

def allowsCustomProperty (rule : Rule) : Bool := rule.category.allowsCustomProperty

def allowsCustomValue (rule : Rule) : Bool :=
  rule.category.allowsCustomValue rule.property rule.condition

def allowsIgnoringCase (rule : Rule) : Bool :=
  rule.category.allowsIgnoringCase rule.property rule.condition rule.unitClass

def allowsUnits (rule : Rule) : Bool := rule.unitClass != .none

/-! ## Staying inside the grammar -/

/-- The member itself if it is acceptable, otherwise the first option, if there is one. -/
def orFirst {α : Type} (options : List α) (acceptable : α → Bool) (current : α) : α :=
  if acceptable current then current else options.headD current

def settleProperty (rule : Rule) : Rule :=
  if rule.allowsCustomProperty then rule
  else { rule with
    property := orFirst rule.propertyOptions (rule.propertyOptions.contains ·) rule.property }

def settleCondition (rule : Rule) : Rule :=
  { rule with
    condition := orFirst rule.conditionOptions (rule.conditionOptions.contains ·) rule.condition }

def settleUnitClass (rule : Rule) : Rule :=
  if rule.category.isParameterLike then rule else { rule with unitClass := .none }

def settleUnit (rule : Rule) : Rule :=
  if rule.unitOptions.contains rule.unit then rule else { rule with unit := .default }

/-- The value is one of the options, up to the case of its letters. -/
def isKnownValue (options : List String) (value : String) : Bool :=
  options.any fun option => Text.equalUpToAsciiCase option value

def settleValue (rule : Rule) : Rule :=
  if rule.allowsCustomValue then rule
  else { rule with value := orFirst rule.valueOptions (isKnownValue rule.valueOptions) rule.value }

def settleIgnoreCase (rule : Rule) : Rule :=
  if rule.allowsIgnoringCase then rule else { rule with ignoreCase := false }

/-- Brings every dependent field back inside the grammar. -/
def settle (rule : Rule) : Rule :=
  rule.settleProperty.settleCondition.settleUnitClass.settleUnit.settleValue.settleIgnoreCase

/-- A rule with the first property and condition of its category. -/
def create (id : RuleId) (category : Category) : Rule :=
  settle
    { id
      operator := .and
      category
      property := category.propertyOptions.headD ""
      condition := .equal
      value := ""
      ignoreCase := false
      unitClass := .none
      unit := .default
      indentLevel := 0
      selected := false
      userDefined := false }

/-- The same settings under another identity. -/
def duplicate (rule : Rule) (fresh : RuleId) : Rule := { rule with id := fresh }

end Rule

/-! ## Changes -/

/-- The fields of a rule that can change. -/
inductive Field
  | operator
  | category
  | property
  | condition
  | value
  | ignoreCase
  | unitClass
  | unit
  | indentLevel
  | selected
  | userDefined
deriving DecidableEq, Repr

instance : Tagged Field where
  all := [.operator, .category, .property, .condition, .value, .ignoreCase, .unitClass, .unit,
    .indentLevel, .selected, .userDefined]
  tag
    | .operator => "Operator"
    | .category => "Category"
    | .property => "Property"
    | .condition => "Condition"
    | .value => "Value"
    | .ignoreCase => "CaseInsensitive"
    | .unitClass => "UnitClass"
    | .unit => "Unit"
    | .indentLevel => "IndentLevel"
    | .selected => "Selected"
    | .userDefined => "FieldIsUserDefined"

/-- The list of options shown for a rule depends on the field. -/
def Field.affectsOptions : Field → Bool
  | .category | .property | .condition | .unitClass => true
  | _ => false

/-- A new value for one field. -/
inductive Change
  | operator (operator : Operator)
  | category (category : Category)
  | property (property : String)
  | condition (condition : Condition)
  | value (value : String)
  | ignoreCase (flag : Bool)
  | unitClass (unitClass : UnitClass)
  | unit (unit : Measure)
  | indentLevel (level : UInt32)
  | selected (flag : Bool)
  | userDefined (flag : Bool)
deriving DecidableEq

namespace Rule

/-- Writes one field and nothing else, except that another unit class starts at its default unit. -/
def write (rule : Rule) : Change → Rule
  | .operator operator => { rule with operator }
  | .category category => { rule with category }
  | .property property => { rule with property := Text.trim property }
  | .condition condition => { rule with condition }
  | .value value => { rule with value }
  | .ignoreCase ignoreCase => { rule with ignoreCase }
  | .unitClass unitClass =>
    if unitClass == rule.unitClass then rule else { rule with unitClass, unit := .default }
  | .unit unit => { rule with unit }
  | .indentLevel indentLevel => { rule with indentLevel }
  | .selected selected => { rule with selected }
  | .userDefined userDefined => { rule with userDefined }

/-- Two rules differ in a field. -/
def differsIn (a b : Rule) : Field → Bool
  | .operator => a.operator != b.operator
  | .category => a.category != b.category
  | .property => a.property != b.property
  | .condition => a.condition != b.condition
  | .value => a.value != b.value
  | .ignoreCase => a.ignoreCase != b.ignoreCase
  | .unitClass => a.unitClass != b.unitClass
  | .unit => a.unit != b.unit
  | .indentLevel => a.indentLevel != b.indentLevel
  | .selected => a.selected != b.selected
  | .userDefined => a.userDefined != b.userDefined

/-- The fields in which two rules differ, in declaration order. -/
def changedFields (before after : Rule) : List Field :=
  (Tagged.all : List Field).filter (differsIn before after)

/-- One change, carried through to the dependent fields. -/
def edit (rule : Rule) (change : Change) : Rule := settle (rule.write change)

/-- One change, with the fields whose value is now another. -/
def apply (rule : Rule) (change : Change) : Rule × List Field :=
  (rule.edit change, changedFields rule (rule.edit change))

end Rule

end ElementRules
