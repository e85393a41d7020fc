import ElementRules.Tagged
import ElementRules.Double.Decimal

/-!
Display units. A value is typed in a unit of the chosen class, and the model keeps internal units:
feet, square feet, cubic feet and radians. `Measure.toInternal` leads from one to the other.
-/

namespace ElementRules

inductive UnitClass
  | none
  | length
  | area
  | volume
  | angle
deriving DecidableEq, Repr

instance : Tagged UnitClass where
  all := [.none, .length, .area, .volume, .angle]
  tag
    | .none => "None"
    | .length => "Length"
    | .area => "Area"
    | .volume => "Volume"
    | .angle => "Angle"

/-- A unit of measure; `default` is the internal unit of whatever is measured. -/
inductive Measure
  | default
  | feet
  | inches
  | meters
  | centimeters
  | millimeters
  | squareFeet
  | squareMeters
  | cubicFeet
  | cubicMeters
  | degrees
  | radians
deriving DecidableEq, Repr

instance : Tagged Measure where
  all := [.default, .feet, .inches, .meters, .centimeters, .millimeters, .squareFeet,
    .squareMeters, .cubicFeet, .cubicMeters, .degrees, .radians]
  tag
    | .default => "Default"
    | .feet => "Feet"
    | .inches => "Inches"
    | .meters => "Meters"
    | .centimeters => "Centimeters"
    | .millimeters => "Millimeters"
    | .squareFeet => "SquareFeet"
    | .squareMeters => "SquareMeters"
    | .cubicFeet => "CubicFeet"
    | .cubicMeters => "CubicMeters"
    | .degrees => "Degrees"
    | .radians => "Radians"

/-- The units of a class, `default` first. -/
def UnitClass.units : UnitClass → List Measure
  | .none => [.default]
  | .length => [.default, .feet, .inches, .meters, .centimeters, .millimeters]
  | .area => [.default, .squareFeet, .squareMeters]
  | .volume => [.default, .cubicFeet, .cubicMeters]
  | .angle => [.default, .degrees, .radians]

namespace Measure

/-- One foot is 0.3048 metres. -/
def feetPerMeter : Double := (Double.ofNat 1).div (Double.ofDecimal false 3048 (-4))

/-- The double nearest to the circle constant, over 180. -/
def radiansPerDegree : Double :=
  (Double.ofDecimal false 3141592653589793 (-15)).div (Double.ofNat 180)

/-- A value in this unit, converted to internal units, rounding after every factor. -/
def toInternal (measure : Measure) (value : Double) : Double :=
  match measure with
  | .default | .feet | .squareFeet | .cubicFeet | .radians => value
  | .inches => value.div (Double.ofNat 12)
  | .meters => value.mul feetPerMeter
  | .centimeters => (value.mul feetPerMeter).div (Double.ofNat 100)
  | .millimeters => (value.mul feetPerMeter).div (Double.ofNat 1000)
  | .squareMeters => (value.mul feetPerMeter).mul feetPerMeter
  | .cubicMeters => ((value.mul feetPerMeter).mul feetPerMeter).mul feetPerMeter
  | .degrees => value.mul radiansPerDegree

/-- The mark shown after a value. -/
def mark : Measure → String
  | .default => ""
  | .feet => "'"
  | .inches => "\""
  | .meters => "m"
  | .centimeters => "cm"
  | .millimeters => "mm"
  | .squareFeet => "ft²"
  | .squareMeters => "m²"
  | .cubicFeet => "ft³"
  | .cubicMeters => "m³"
  | .degrees => "°"
  | .radians => "rad"

end Measure

end ElementRules
