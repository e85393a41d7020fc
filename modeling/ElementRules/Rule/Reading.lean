import ElementRules.Literal
import ElementRules.Rule

/-!
What a rule shows and what its value means: the value with its unit, the value as a number in
internal units, and whether the rule keeps to its grammar.
-/

namespace ElementRules.Rule

/-- A unit may stand beside the value. -/
def showsUnit (rule : Rule) : Bool :=
  (rule.category == .parameter || rule.category == .hostParameter) && !rule.userDefined &&
    rule.condition.isNumeric

/-- The value with the mark of its unit; feet and inches follow it without a blank. -/
def displayValue (rule : Rule) : String :=
  if rule.unit == .default || !rule.showsUnit then rule.value
  else match rule.unit with
    | .feet | .inches => rule.value ++ rule.unit.mark
    | _ => rule.value ++ " " ++ rule.unit.mark

/-- The value as a number in internal units. -/
def numericValue (rule : Rule) : Except Failure Double :=
  (Literal.number rule.value).map rule.unit.toInternal

/-- The property is one of those whose values are yes and no. -/
def hasTruthProperty (rule : Rule) : Bool :=
  [PropertyName.isDefined, PropertyName.isInPlace, PropertyName.isElementType].contains
    rule.property

/-- The property is one that the category offers. -/
def propertyFits (rule : Rule) : Bool :=
  rule.allowsCustomProperty || rule.propertyOptions.isEmpty ||
    rule.propertyOptions.contains rule.property

def conditionFits (rule : Rule) : Bool :=
  rule.conditionOptions.isEmpty || rule.conditionOptions.contains rule.condition

/-- Finds what lies outside the grammar. After guarded edits there is nothing to find. -/
def validate (rule : Rule) : Except Failure Unit :=
  if !rule.propertyFits then .error (.defect (.propertyOutside rule.property rule.category))
  else if !rule.conditionFits then
    .error (.defect (.conditionOutside rule.condition rule.category rule.property))
  else if rule.ignoreCase && !rule.allowsIgnoringCase then
    .error (.defect (.ignoringCase rule.category rule.condition))
  else .ok ()

end ElementRules.Rule
