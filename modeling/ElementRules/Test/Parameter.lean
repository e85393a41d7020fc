import ElementRules.Model.Element
import ElementRules.Test.Number
import ElementRules.Test.Text

/-!
Tests of one named parameter of an element. Except for the test that the parameter is undefined, an
element that does not define it passes none of them.
-/

namespace ElementRules

inductive ParameterTest
  | defined
  | undefined
  | hasValue
  | hasNoValue
  /-- Numbers are compared as numbers where there is a number to compare with, everything else as
  text. -/
  | compare (text : TextTest) (number : Option NumberTest)
  /-- Only numbers have an order. -/
  | order (test : NumberTest)
  /-- The same value as another parameter of the element. -/
  | sameAs (negated : Bool) (other : String) (ignoreCase : Bool)

namespace ParameterTest

/-- Two values are the same number, or, unless both are numbers, the same text. -/
def sameValue (ignoreCase : Bool) (a b : ParamValue) : Bool :=
  match a.asNumber?, b.asNumber? with
  | some x, some y => x.same y
  | _, _ => Text.equal ignoreCase a.asText b.asText

def passes (test : ParameterTest) (element : Element) (name : String) : Bool :=
  match test, element.parameter? name with
  | .undefined, value? => value?.isNone
  | _, none => false
  | .defined, some _ => true
  | .hasValue, some value => value.hasValue
  | .hasNoValue, some value => !value.hasValue
  | .compare text number, some value =>
    match value.asNumber?, number with
    | some x, some test => test.passes x
    | _, _ => text.passes value.asText
  | .order test, some value => value.asNumber?.any test.passes
  | .sameAs negated other ignoreCase, some value =>
    match element.parameter? other with
    | some otherValue => sameValue ignoreCase value otherValue != negated
    | none => false

end ParameterTest

end ElementRules
