import ElementRules.Tagged

/-!
The vocabulary of a rule: the kind of model entity it selects by (`Category`), the comparison it
makes (`Condition`), and how it joins the rule before it (`Operator`).
-/

namespace ElementRules

/-! ## Categories -/

inductive Category
  | parameter
  | hostParameter
  | apiParameter
  | modelCategory
  | family
  | elementType
  | typeOrInstance
  | apiType
  | level
  | phaseCreated
  | phaseDemolished
  | phaseStatus
  | designOption
  | view
  | workset
  | room
  | space
  | structuralType
  | redundant
  | host
deriving DecidableEq, Repr

namespace Category

instance : Tagged Category where
  all := [.parameter, .hostParameter, .apiParameter, .modelCategory, .family, .elementType,
    .typeOrInstance, .apiType, .level, .phaseCreated, .phaseDemolished, .phaseStatus, .designOption,
    .view, .workset, .room, .space, .structuralType, .redundant, .host]
  tag
    | .parameter => "Parameter"
    | .hostParameter => "HostParameter"
    | .apiParameter => "ApiParameter"
    | .modelCategory => "Category"
    | .family => "Family"
    | .elementType => "Type"
    | .typeOrInstance => "TypeOrInstance"
    | .apiType => "ApiType"
    | .level => "Level"
    | .phaseCreated => "PhaseCreated"
    | .phaseDemolished => "PhaseDemolished"
    | .phaseStatus => "PhaseStatus"
    | .designOption => "DesignOption"
    | .view => "View"
    | .workset => "Workset"
    | .room => "Room"
    | .space => "Space"
    | .structuralType => "StructuralType"
    | .redundant => "Redundant"
    | .host => "Host"

/-- The name shown to the user, and in messages. -/
def title : Category → String
  | .parameter => "Parameter"
  | .hostParameter => "Host Parameter"
  | .apiParameter => "API Parameter"
  | .modelCategory => "Category"
  | .family => "Family"
  | .elementType => "Type"
  | .typeOrInstance => "Type or Instance"
  | .apiType => "API Type"
  | .level => "Level"
  | .phaseCreated => "Phase Created"
  | .phaseDemolished => "Phase Demolished"
  | .phaseStatus => "Phase Status"
  | .designOption => "Design Option"
  | .view => "View"
  | .workset => "Workset"
  | .room => "Room"
  | .space => "Space"
  | .structuralType => "Structural Type"
  | .redundant => "Redundant"
  | .host => "Host"

/-- The property of such a rule is the name of a parameter. -/
def isParameterLike : Category → Bool
  | .parameter | .hostParameter | .apiParameter => true
  | _ => false

end Category

/-! ## Conditions -/

inductive Condition
  | equal
  | notEqual
  | greaterThan
  | lessThan
  | greaterOrEqual
  | lessOrEqual
  | contains
  | doesNotContain
  | defined
  | undefined
  | hasValue
  | hasNoValue
  | wildCard
  | wildCardNoMatch
  | duplicated
  | matchesParameter
  | doesNotMatchParameter
  | included
deriving DecidableEq, Repr

namespace Condition

/-- The tag is also the word for a condition in messages. -/
instance : Tagged Condition where
  all := [.equal, .notEqual, .greaterThan, .lessThan, .greaterOrEqual, .lessOrEqual, .contains,
    .doesNotContain, .defined, .undefined, .hasValue, .hasNoValue, .wildCard, .wildCardNoMatch,
    .duplicated, .matchesParameter, .doesNotMatchParameter, .included]
  tag
    | .equal => "Equal"
    | .notEqual => "NotEqual"
    | .greaterThan => "GreaterThan"
    | .lessThan => "LessThan"
    | .greaterOrEqual => "GreaterOrEqual"
    | .lessOrEqual => "LessOrEqual"
    | .contains => "Contains"
    | .doesNotContain => "DoesNotContain"
    | .defined => "Defined"
    | .undefined => "Undefined"
    | .hasValue => "HasValue"
    | .hasNoValue => "HasNoValue"
    | .wildCard => "WildCard"
    | .wildCardNoMatch => "WildCardNoMatch"
    | .duplicated => "Duplicated"
    | .matchesParameter => "MatchesParameter"
    | .doesNotMatchParameter => "DoesNotMatchParameter"
    | .included => "Included"

/-- The name shown to the user. -/
def title : Condition → String
  | .equal => "Equal"
  | .notEqual => "Not Equal"
  | .greaterThan => "Greater Than"
  | .lessThan => "Less Than"
  | .greaterOrEqual => "Greater or Equal"
  | .lessOrEqual => "Less or Equal"
  | .contains => "Contains"
  | .doesNotContain => "Does Not Contain"
  | .defined => "Defined"
  | .undefined => "Undefined"
  | .hasValue => "Has Value"
  | .hasNoValue => "Has No Value"
  | .wildCard => "Wildcard"
  | .wildCardNoMatch => "Wildcard No Match"
  | .duplicated => "Duplicated"
  | .matchesParameter => "Matches Parameter"
  | .doesNotMatchParameter => "Does Not Match Parameter"
  | .included => "Included"

/-- One of the four strict and weak orders. -/
def isOrdering : Condition → Bool
  | .greaterThan | .lessThan | .greaterOrEqual | .lessOrEqual => true
  | _ => false

/-- Can compare numbers, and so may carry a unit. -/
def isNumeric : Condition → Bool
  | .equal | .notEqual => true
  | condition => condition.isOrdering

/-- Tests presence and not content, and so takes no value. -/
def isExistence : Condition → Bool
  | .defined | .undefined | .hasValue | .hasNoValue | .duplicated => true
  | _ => false

/-- Compares text, and so can ignore case. -/
def isTextual : Condition → Bool
  | .equal | .notEqual | .contains | .doesNotContain | .wildCard | .wildCardNoMatch => true
  | _ => false

end Condition

/-! ## Operators -/

/-- How a rule joins the rule before it. -/
inductive Operator
  | and
  | or
deriving DecidableEq, Repr

instance : Tagged Operator where
  all := [.and, .or]
  tag
    | .and => "And"
    | .or => "Or"

end ElementRules
