import ElementRules.Vocabulary
import ElementRules.Measure

/-!
The grammar of rules: which properties a category offers, which conditions each pair of category and
property accepts, and which values may be typed freely. `Category.grammar` is the table; everything
else reads it.

Lists are in display order, and where a rule falls outside a list its first entry is the default.
-/

namespace ElementRules

/-! ## Well-known properties -/

namespace PropertyName

def name : String := "Name"
def number : String := "Number"
def isDefined : String := "Is Defined"
def isInPlace : String := "Is In Place"
def isElementType : String := "Is Element Type"
def elevation : String := "Elevation"
def value : String := "Value"
def fullClassName : String := "Full Class Name"
def location : String := "Location"
def type : String := "Type"

end PropertyName

/-! ## Families of conditions -/

namespace Condition

def equality : List Condition := [.equal, .notEqual]

def text : List Condition := equality ++ [.contains, .doesNotContain]

def wildcards : List Condition := [.wildCard, .wildCardNoMatch]

def ordering : List Condition :=
  equality ++ [.greaterThan, .lessThan, .greaterOrEqual, .lessOrEqual]

/-- What an element association offers: text, and whether there is one at all. -/
def association : List Condition := text ++ [.defined, .undefined] ++ wildcards

/-- Everything that can be asked of one parameter. -/
def singleParameter : List Condition :=
  ordering ++ [.contains, .doesNotContain, .defined, .undefined, .hasValue, .hasNoValue] ++
    wildcards ++ [.duplicated]

/-- The same, and the comparisons with a second parameter. -/
def anyParameter : List Condition :=
  singleParameter ++ [.matchesParameter, .doesNotMatchParameter]

end Condition

/-! ## The table -/

/-- The conditions on one property, or on every property. -/
structure ConditionRule where
  property : Option String
  conditions : List Condition

def ConditionRule.appliesTo (rule : ConditionRule) (property : String) : Bool :=
  match rule.property with
  | some name => name == property
  | none => true

/-- What a category offers. -/
structure Grammar where
  properties : List String
  /-- The property may be free text. -/
  customProperty : Bool
  /-- The value comes from a fixed vocabulary, whatever the property. -/
  fixedValues : Bool
  /-- The first rule that applies to the property decides. -/
  rules : List ConditionRule

/-- Conditions on a property. -/
def Grammar.conditionsFor (grammar : Grammar) (property : String) : List Condition :=
  match grammar.rules.find? (·.appliesTo property) with
  | some rule => rule.conditions
  | none => []

namespace Category

open PropertyName Condition in
/-- The grammar of each category. -/
def grammar : Category → Grammar
  | .parameter => ⟨[], true, false, [⟨none, anyParameter⟩]⟩
  | .hostParameter => ⟨[], true, false, [⟨none, anyParameter⟩]⟩
  | .apiParameter => ⟨[], true, false, [⟨none, singleParameter⟩]⟩
  | .modelCategory => ⟨[name], true, false, [⟨some name, text⟩, ⟨none, [.included]⟩]⟩
  | .family =>
    ⟨[name, isInPlace], false, false, [⟨some isInPlace, equality⟩, ⟨none, text ++ wildcards⟩]⟩
  | .elementType => ⟨[name], false, false, [⟨none, text ++ wildcards⟩]⟩
  | .typeOrInstance => ⟨[isElementType], false, true, [⟨none, [.equal]⟩]⟩
  | .apiType => ⟨[fullClassName], false, false, [⟨none, [.equal]⟩]⟩
  | .level =>
    ⟨[name, elevation], false, false, [⟨some name, association⟩, ⟨none, ordering⟩]⟩
  | .phaseCreated => ⟨[name], false, false, [⟨none, text ++ [.defined] ++ wildcards⟩]⟩
  | .phaseDemolished => ⟨[name], false, false, [⟨none, association⟩]⟩
  | .phaseStatus => ⟨[], true, true, [⟨none, equality⟩]⟩
  | .designOption => ⟨[name], false, false, [⟨none, association⟩]⟩
  | .view =>
    ⟨[name, isDefined], false, false, [⟨some isDefined, equality⟩, ⟨none, association⟩]⟩
  | .workset => ⟨[name], false, false, [⟨none, text ++ wildcards⟩]⟩
  | .room =>
    ⟨[name, number, isDefined], false, false, [⟨some isDefined, equality⟩, ⟨none, association⟩]⟩
  | .space =>
    ⟨[name, number, isDefined], false, false, [⟨some isDefined, equality⟩, ⟨none, association⟩]⟩
  | .structuralType => ⟨[value], false, true, [⟨none, equality⟩]⟩
  | .redundant => ⟨[location, type], false, true, [⟨none, [.equal]⟩]⟩
  | .host => ⟨[isDefined], false, false, [⟨none, [.equal]⟩]⟩

/-- The properties to choose from; none where the property is free text. -/
def propertyOptions (category : Category) : List String := category.grammar.properties

/-- The conditions to choose from. -/
def conditionOptions (category : Category) (property : String) : List Condition :=
  category.grammar.conditionsFor property

/-- A property outside the fixed ones is accepted. -/
def allowsCustomProperty (category : Category) : Bool := category.grammar.customProperty

/-! ## Values -/

/-- The value may be free text. -/
def allowsCustomValue (category : Category) (property : String) (condition : Condition) : Bool :=
  if category == .modelCategory && property != PropertyName.name then false
  else if category.grammar.fixedValues then false
  else if condition.isExistence then false
  else property != PropertyName.isInPlace && property != PropertyName.isDefined

/-- The comparison may ignore case. -/
def allowsIgnoringCase (category : Category) (property : String) (condition : Condition)
    (unitClass : UnitClass) : Bool :=
  unitClass == .none && category.allowsCustomValue property condition && condition.isTextual

/-- The two literals of a yes-or-no value. -/
def truthOptions : List String := ["True", "False"]

def phaseStatusOptions : List String :=
  ["Existing", "New", "Demolished", "Temporary", "Future", "Past"]

def structuralTypeOptions : List String :=
  ["NonStructural", "Beam", "Brace", "Column", "Footing", "UnknownFraming"]

/-- The values to choose from; they bind where free text is not allowed. -/
def valueOptions (category : Category) (property : String) (condition : Condition) :
    List String :=
  let byProperty :=
    if property == PropertyName.isInPlace || property == PropertyName.isDefined then truthOptions
    else if condition.isExistence then truthOptions
    else []
  match category with
  | .phaseStatus => phaseStatusOptions
  | .structuralType => structuralTypeOptions
  | .typeOrInstance | .redundant => truthOptions
  | .modelCategory => if property != PropertyName.name then truthOptions else byProperty
  | _ => byProperty

end Category

end ElementRules
