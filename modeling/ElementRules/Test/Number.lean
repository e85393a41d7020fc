import ElementRules.Failure
import ElementRules.Settings

/-!
Tests of a number of the model against a threshold. The number is rounded first; equality allows the
tolerance of the settings, and a number at exactly that distance is neither equal nor unequal.
-/

namespace ElementRules

structure NumberTest where
  condition : Condition
  /-- In internal units. -/
  threshold : Double
  tolerance : Double
  decimals : UInt32
deriving DecidableEq

namespace NumberTest

/-- The test for a condition that compares numbers. -/
def build (condition : Condition) (threshold : Double) (settings : Settings) :
    Except Failure NumberTest :=
  if condition.isNumeric then .ok ⟨condition, threshold, settings.tolerance, settings.decimals⟩
  else .error (.defect (.notNumeric condition))

def passes (test : NumberTest) (value : Double) : Bool :=
  let value := value.roundTo test.decimals
  let distance := (value.sub test.threshold).abs
  match test.condition with
  | .equal => distance.lt test.tolerance
  | .notEqual => test.tolerance.lt distance
  | .greaterThan => test.threshold.lt value
  | .lessThan => value.lt test.threshold
  | .greaterOrEqual => test.threshold.le value
  | .lessOrEqual => value.le test.threshold
  | _ => false

end NumberTest

end ElementRules
