import ElementRules.Failure
import ElementRules.Settings
import ElementRules.Text.Blank
import ElementRules.Toml.Reader

/-!
Loading settings in layers: an environment variable wins over the configuration file, and the file
over the standard settings. A variable or an entry of the wrong type fails, even where another layer
would win; only a variable that is empty and cannot be read counts as unset.
-/

namespace ElementRules.Settings

/-- Settings of which any may be open. -/
structure Layer where
  tolerance : Option Double
  decimals : Option UInt32
  primaryTag : Option String
  sketchPlanePrefix : Option String
  localeTag : Option String

/-! ## The file -/

/-- Numbers with and without a fraction are accepted, but no integer that 64 bits do not hold. -/
def tomlDouble? : Toml → Option Double
  | .float x => some x
  | .integer i =>
    if -(UInt64.size / 2 : Int) ≤ i ∧ i < UInt64.size then some (Double.ofInt i) else none
  | _ => none

def tomlWord? : Toml → Option UInt32
  | .integer i => if 0 ≤ i ∧ i < UInt32.size then some (UInt32.ofNat i.toNat) else none
  | _ => none

def tomlText? : Toml → Option String
  | .string s => some s
  | _ => none

/-- An entry that may be missing, but not of another type. -/
def readEntry {α : Type} (entries : Toml.Entries) (key : String) (read : Toml → Option α) :
    Except Failure (Option α) :=
  match Toml.find? entries key with
  | none => .ok none
  | some value =>
    match read value with
    | some x => .ok (some x)
    | none => .error .badSettings

/-- The layer of a configuration file with this text. -/
def fileLayer (source : String) : Except Failure Layer :=
  match Toml.parse? source with
  | none => .error .badSettings
  | some entries => do
    let tolerance ← readEntry entries "numeric_tolerance" tomlDouble?
    let decimals ← readEntry entries "rounding_decimals" tomlWord?
    let primaryTag ← readEntry entries "design_option_primary_tag" tomlText?
    let sketchPlanePrefix ← readEntry entries "level_sketch_plane_prefix" tomlText?
    let localeTag ← readEntry entries "locale" tomlText?
    .ok { tolerance, decimals, primaryTag, sketchPlanePrefix, localeTag }

/-! ## The environment -/

/-- A number without a minus, below 2 to the 32. -/
def word? (s : String) : Option UInt32 :=
  let digits := match s.toList with
    | '+' :: rest => rest
    | s => s
  let n := Double.digitsValue digits
  if !digits.isEmpty && digits.all Double.isDigit && n < UInt32.size then some (UInt32.ofNat n)
  else none

/-- A variable of which blanks at the ends do not count. -/
def readVariable {α : Type} (environment : String → Option String) (name : String)
    (read : String → Option α) : Except Failure (Option α) :=
  match environment name with
  | none => .ok none
  | some s =>
    match read (Text.trim s) with
    | some x => .ok (some x)
    | none => if s.isEmpty then .ok none else .error .badSettings

def environmentLayer (environment : String → Option String) : Except Failure Layer := do
  let tolerance ← readVariable environment "MCFILTER_NUMERIC_TOLERANCE" Double.ofText?
  let decimals ← readVariable environment "MCFILTER_ROUNDING_DECIMALS" word?
  .ok
    { tolerance
      decimals
      primaryTag := environment "MCFILTER_DESIGN_OPTION_PRIMARY_TAG"
      sketchPlanePrefix := environment "MCFILTER_LEVEL_SKETCH_PLANE_PREFIX"
      localeTag := environment "MCFILTER_LOCALE" }

/-! ## Layers -/

/-- The layer laid over the settings. -/
def Layer.over (layer : Layer) (settings : Settings) : Settings :=
  { tolerance := layer.tolerance.getD settings.tolerance
    decimals := layer.decimals.getD settings.decimals
    primaryTag := layer.primaryTag.getD settings.primaryTag
    sketchPlanePrefix := layer.sketchPlanePrefix.getD settings.sketchPlanePrefix
    localeTag := layer.localeTag.getD settings.localeTag }

/-- The settings under an environment and, if there is one, the text of a configuration file. -/
def load (environment : String → Option String) (file : Option String) :
    Except Failure Settings := do
  let fromEnvironment ← environmentLayer environment
  let fromFile ← match file with
    | some source => fileLayer source
    | none => .ok ⟨none, none, none, none, none⟩
  .ok (fromEnvironment.over (fromFile.over standard))

end ElementRules.Settings
