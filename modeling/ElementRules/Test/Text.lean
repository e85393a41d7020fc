import ElementRules.Failure
import ElementRules.Text.Fold
import ElementRules.Wildcard

/-!
Tests of a text: equality, search, and wildcards, each plain or negated.
-/

namespace ElementRules

inductive TextTest
  | equal (negated : Bool) (value : String) (ignoreCase : Bool)
  | contains (negated : Bool) (value : String) (ignoreCase : Bool) (locale : Text.Locale)
  | pattern (negated : Bool) (wildcard : Wildcard)

namespace TextTest

def ofPattern? (negated : Bool) (value : String) (ignoreCase : Bool) : Except Failure TextTest :=
  match Wildcard.ofText? value ignoreCase with
  | some wildcard => .ok (.pattern negated wildcard)
  | none => .error (.badPattern value)

/-- The test for a condition that compares text. -/
def build (condition : Condition) (value : String) (ignoreCase : Bool) (locale : Text.Locale) :
    Except Failure TextTest :=
  match condition with
  | .equal => .ok (.equal false value ignoreCase)
  | .notEqual => .ok (.equal true value ignoreCase)
  | .contains => .ok (.contains false value ignoreCase locale)
  | .doesNotContain => .ok (.contains true value ignoreCase locale)
  | .wildCard => ofPattern? false value ignoreCase
  | .wildCardNoMatch => ofPattern? true value ignoreCase
  | _ => .error (.defect (.notTextual condition))

def passes (test : TextTest) (candidate : String) : Bool :=
  match test with
  | .equal negated value ignoreCase => Text.equal ignoreCase candidate value != negated
  | .contains negated value ignoreCase locale =>
    Text.contains ignoreCase locale candidate value != negated
  | .pattern negated wildcard => wildcard.isIn candidate != negated

end TextTest

end ElementRules
