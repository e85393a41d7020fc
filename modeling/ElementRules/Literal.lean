import ElementRules.Failure
import ElementRules.Tagged
import ElementRules.Text.Blank
import ElementRules.Double.Decimal

/-!
Reading the value of a rule as what its condition needs. Blanks around a literal are ignored, and so
is the case of its letters.
-/

namespace ElementRules.Literal

/-- A finite number. The failure repeats the value as it was typed. -/
def number (value : String) : Except Failure Double :=
  match Double.ofText? (Text.trim value) with
  | some x => if x.isFinite then .ok x else .error (.unreadable value .number)
  | none => .error (.unreadable value .number)

/-- True or False. The failure repeats the value without the blanks around it. -/
def truth (value : String) : Except Failure Bool :=
  let literal := Text.trim value
  if Text.equalUpToAsciiCase literal "true" then .ok true
  else if Text.equalUpToAsciiCase literal "false" then .ok false
  else .error (.unreadable literal .truthValue)

/-- A member of a vocabulary, by its tag. -/
def member? {α : Type} [Tagged α] (value : String) : Option α :=
  (Tagged.all : List α).find? fun member => Text.equalUpToAsciiCase (tag member) (Text.trim value)

end ElementRules.Literal
