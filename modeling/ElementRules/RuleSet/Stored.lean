import ElementRules.Rule.Stored
import ElementRules.RuleSet

/-!
The stored form of a rule set: a record whose one field is the list of its rules.
-/

namespace ElementRules.RuleSet

def toJson (set : RuleSet) : Json :=
  .object [Json.field "specs" (.array (set.rules.map Rule.toJson))]

def ofJson? (json : Json) : Option RuleSet := do
  let record ← json.toRecord? ["specs"]
  let rules ← record.required? "specs" (Json.toList? Rule.ofJson?)
  some ⟨rules⟩

/-- Reads the text of a stored rule set. -/
def parse? (source : String) : Option RuleSet := (Json.parse? source).bind ofJson?

end ElementRules.RuleSet
