import ElementRules.Json.Record
import ElementRules.Settings

/-!
The stored form of settings: a record in which every field must be present.
-/

namespace ElementRules.Settings

def toJson (settings : Settings) : Json :=
  .object
    [Json.field "numeric_tolerance" (.ofDouble settings.tolerance),
     Json.field "rounding_decimals" (.ofNat settings.decimals.toNat),
     Json.field "design_option_primary_tag" (.text settings.primaryTag),
     Json.field "level_sketch_plane_prefix" (.text settings.sketchPlanePrefix),
     Json.field "locale" (.text settings.localeTag)]

def ofJson? [Numeral.Reader] (json : Json) : Option Settings := do
  let record ← json.toRecord?
    ["numeric_tolerance", "rounding_decimals", "design_option_primary_tag",
      "level_sketch_plane_prefix", "locale"]
  let tolerance ← record.required? "numeric_tolerance" Json.toDouble?
  let decimals ← record.required? "rounding_decimals" (Json.toNat? UInt32.size)
  let primaryTag ← record.required? "design_option_primary_tag" Json.toText?
  let sketchPlanePrefix ← record.required? "level_sketch_plane_prefix" Json.toText?
  let localeTag ← record.required? "locale" Json.toText?
  some { tolerance, decimals := UInt32.ofNat decimals, primaryTag, sketchPlanePrefix, localeTag }

end ElementRules.Settings
