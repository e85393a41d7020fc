import ElementRules.Json.Record
import ElementRules.Rule

/-!
The stored form of a rule: a record of all its fields. Only the id, the category and the condition
must be present. Reading starts from the fresh rule of the category and makes the stored fields its
changes, so a record that no longer fits the grammar is repaired and not refused.
-/

namespace ElementRules.Rule

def toJson (rule : Rule) : Json :=
  .object
    [Json.field "id" (.text rule.id.toText),
     Json.field "operator" (.ofMember rule.operator),
     Json.field "category" (.ofMember rule.category),
     Json.field "property" (.text rule.property),
     Json.field "condition" (.ofMember rule.condition),
     Json.field "value" (.text rule.value),
     Json.field "case_insensitive" (.bool rule.ignoreCase),
     Json.field "unit_class" (.ofMember rule.unitClass),
     Json.field "unit" (.ofMember rule.unit),
     Json.field "indent_level" (.ofNat rule.indentLevel.toNat),
     Json.field "selected" (.bool rule.selected),
     Json.field "field_is_user_defined" (.bool rule.userDefined)]

/-- The fields of a rule as they are stored, inside the grammar or not. -/
structure Record where
  id : RuleId
  operator : Operator
  category : Category
  property : String
  condition : Condition
  value : String
  ignoreCase : Bool
  unitClass : UnitClass
  unit : Measure
  indentLevel : UInt32
  selected : Bool
  userDefined : Bool

def Record.names : List String :=
  ["id", "operator", "category", "property", "condition", "value", "case_insensitive",
    "unit_class", "unit", "indent_level", "selected", "field_is_user_defined"]

def Record.ofJson? (json : Json) : Option Record := do
  let record ← json.toRecord? names
  let id ← record.required? "id" fun value => value.toText?.bind RuleId.ofText?
  let operator ← record.defaulted? "operator" .and Json.toMember?
  let category ← record.required? "category" Json.toMember?
  let property ← record.defaulted? "property" "" Json.toText?
  let condition ← record.required? "condition" Json.toMember?
  let value ← record.defaulted? "value" "" Json.toText?
  let ignoreCase ← record.defaulted? "case_insensitive" false Json.toBool?
  let unitClass ← record.defaulted? "unit_class" .none Json.toMember?
  let unit ← record.defaulted? "unit" .default Json.toMember?
  let indentLevel ← record.defaulted? "indent_level" 0 fun value =>
    (value.toNat? UInt32.size).map UInt32.ofNat
  let selected ← record.defaulted? "selected" false Json.toBool?
  let userDefined ← record.defaulted? "field_is_user_defined" false Json.toBool?
  some { id, operator, category, property, condition, value, ignoreCase, unitClass, unit,
         indentLevel, selected, userDefined }

/-- The stored fields as changes, in an order in which none is lost to a later one. -/
def Record.changes (record : Record) : List Change :=
  [.operator record.operator, .property record.property, .condition record.condition,
    .unitClass record.unitClass, .unit record.unit, .value record.value,
    .ignoreCase record.ignoreCase, .indentLevel record.indentLevel, .selected record.selected,
    .userDefined record.userDefined]

/-- The rule that a record describes, repaired where it is outside the grammar. -/
def ofRecord (record : Record) : Rule :=
  record.changes.foldl edit (create record.id record.category)

def ofJson? (json : Json) : Option Rule := (Record.ofJson? json).map ofRecord

/-- Reads the text of a stored rule. -/
def parse? (source : String) : Option Rule := (Json.parse? source).bind ofJson?

end ElementRules.Rule
