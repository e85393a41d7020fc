import ElementRules.Double.Decimal
import ElementRules.Text.Fold

/-!
What the user can configure, and rounding, which depends on it.
-/

namespace ElementRules

structure Settings where
  /-- How far apart two numbers may be and still be equal. -/
  tolerance : Double
  /-- To how many decimals a number of the model is rounded before it is compared. -/
  decimals : UInt32
  /-- Left out of the names of design options. -/
  primaryTag : String
  /-- What the name of a sketch plane of a level has before the name of the level. -/
  sketchPlanePrefix : String
  /-- A language tag. -/
  localeTag : String
deriving DecidableEq

namespace Settings

def standard : Settings :=
  { tolerance := Double.ofDecimal false 1 (-5)
    decimals := 3
    primaryTag := "(primary)"
    sketchPlanePrefix := "Level : "
    localeTag := "en" }

def locale (settings : Settings) : Text.Locale := .ofTag settings.localeTag

/-- Nothing differs from the standard settings; the tolerances are compared as numbers. -/
def isStandard (settings : Settings) : Bool :=
  settings.tolerance.same standard.tolerance && settings.decimals == standard.decimals &&
    settings.primaryTag == standard.primaryTag &&
    settings.sketchPlanePrefix == standard.sketchPlanePrefix &&
    settings.localeTag == standard.localeTag

end Settings

namespace Double

/-- Rounds to a number of decimals: scaled by a power of ten, rounded to a whole number, and scaled
back. A number of decimals from 2 to the 31 on stands for a negative one. -/
def roundTo (x : Double) (decimals : UInt32) : Double :=
  let factor := powInt (ofNat 10) decimals.toInt32.toInt
  ((x.mul factor).round).div factor

end Double

end ElementRules
