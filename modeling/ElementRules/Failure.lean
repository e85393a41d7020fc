import ElementRules.Vocabulary

/-!
What can go wrong, by cause. Only a `Defect` points at a mistake in the program; every other failure
is about what the user typed or configured. `Failure.message` holds the wording.
-/

namespace ElementRules

/-- What a text was expected to be. -/
inductive Expected
  | number
  | truthValue
  | phaseStatus
  | structuralType
  | className
  | parameterName
deriving DecidableEq, Repr

def Expected.phrase : Expected → String
  | .number => "a number"
  | .truthValue => "True or False"
  | .phaseStatus => "a phase status"
  | .structuralType => "a structural type"
  | .className => "a class name"
  | .parameterName => "a parameter name"

/-- A state outside the grammar; the guarded edits never produce one. -/
inductive Defect
  | propertyOutside (property : String) (category : Category)
  | conditionOutside (condition : Condition) (category : Category) (property : String)
  | ignoringCase (category : Category) (condition : Condition)
  | notTextual (condition : Condition)
  | notNumeric (condition : Condition)
  | emptyConjunction
deriving DecidableEq, Repr

def Defect.message : Defect → String
  | .propertyOutside property category =>
    "property '" ++ property ++ "' is not valid for " ++ category.title
  | .conditionOutside condition category property =>
    "condition " ++ tag condition ++ " is not valid for " ++ category.title ++ " / '" ++ property ++
      "'"
  | .ignoringCase category condition =>
    "case-insensitive matching is not available for " ++ category.title ++ " / " ++ tag condition
  | .notTextual condition => tag condition ++ " is not a text comparison"
  | .notNumeric condition => tag condition ++ " is not a numeric comparison"
  | .emptyConjunction => "cannot AND an empty list of filters"

inductive Failure
  /-- A rule outside its own grammar. -/
  | defect (cause : Defect)
  /-- A value that cannot be read as what the rule needs. -/
  | unreadable (value : String) (expected : Expected)
  /-- A wildcard value that is no pattern. -/
  | badPattern (pattern : String)
  /-- The grammar offers the triple, and no filter exists for it. -/
  | unsupported (category : Category) (property : String) (condition : Condition)
  /-- Settings that cannot be loaded. -/
  | badSettings
deriving DecidableEq, Repr

namespace Failure

def message : Failure → String
  | .defect cause => "Invalid filter state: " ++ cause.message
  | .unreadable value expected => "Cannot read '" ++ value ++ "' as " ++ expected.phrase
  | .badPattern pattern => "Invalid wildcard pattern '" ++ pattern ++ "'"
  | .unsupported category property condition =>
    "No filter rule for " ++ category.title ++ " / '" ++ property ++ "' / " ++ tag condition
  | .badSettings => "Config error"

/-- The failure points at a mistake in the program. -/
def isDefect : Failure → Bool
  | .defect _ => true
  | _ => false

end Failure

end ElementRules
