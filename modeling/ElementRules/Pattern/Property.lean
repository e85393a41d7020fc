import ElementRules.Pattern.Table.Binary
import ElementRules.Pattern.Table.GeneralCategory
import ElementRules.Pattern.Table.Name
import ElementRules.Pattern.Table.Script
import ElementRules.Pattern.Table.Segmentation

/-!
Character properties by name, as a pattern asks for them, and the sets of characters that have them.
Names are compared without blanks, hyphens, underscores, case and a leading *is*. A lone name is a
yes-or-no property, a general category or a script; a pair of names is a property and one of its
values.
-/

namespace ElementRules.Pattern

inductive Property
  | any
  | ascii
  | assigned
  | binary (set : CharSet)
  /-- The general category is one of these places in the list of codes. -/
  | generalCategory (values : List Nat)
  | script (value : Nat)
  /-- The script is one of those that use the character. -/
  | scriptExtension (value : Nat)
  | graphemeBreak (value : Nat)
  | wordBreak (value : Nat)
  | sentenceBreak (value : Nat)
  /-- Assigned in this version or an earlier one. -/
  | age (value : Nat)

namespace Property

def unassignedCode : Nat := generalCategoryCodes.idxOf "cn"

/-- The scripts that a value of `scriptExtensions` stands for include this one. -/
def usesScript (script value : Nat) : Bool :=
  if value < scriptNames.length then value == script
  else ((scriptSets[value - scriptNames.length]?).getD []).contains script

/-- The characters that have the property. -/
def members : Property → CharSet
  | .any => .everything
  | .ascii => .range '\x00' '\x7f'
  | .assigned => generalCategories.having (· != unassignedCode)
  | .binary set => set
  | .generalCategory values => generalCategories.having (values.contains ·)
  | .script value => scripts.having (· == value)
  | .scriptExtension value => scriptExtensions.having (usesScript value)
  | .graphemeBreak value => Pattern.graphemeBreak.having (· == value)
  | .wordBreak value => Pattern.wordBreak.having (· == value)
  | .sentenceBreak value => Pattern.sentenceBreak.having (· == value)
  | .age value => ages.having (· ≤ value)

/-! ## Names -/

/-- Names are equal when their canonical forms are. The category *other* keeps the one form in which
a leading *is* belongs to the name. -/
def canonicalName (name : List Char) : String :=
  let startsWithIs := (name.take 2).map Char.toLower == ['i', 's']
  let rest := if startsWithIs then name.drop 2 else name
  let kept := (rest.filter fun c =>
    c.toNat < 128 && c != ' ' && c != '_' && c != '-').map Char.toLower
  String.ofList (if startsWithIs && kept == ['c'] then ['i', 's', 'c'] else kept)

/-- The place of the first entry that has the name. -/
def placeOf? (names : List (List String)) (name : String) : Option Nat :=
  names.findIdx? (·.contains name)

def generalCategory? (name : String) : Option Property :=
  if name == "any" then some .any
  else if name == "ascii" then some .ascii
  else if name == "assigned" then some .assigned
  else
    let code? := match generalCategoryNames.find? (·.1 == name) with
      | some entry => some entry.2
      | none => if name != "cs" && generalCategoryCodes.contains name then some name else none
    match code? with
    | some code => some (.generalCategory [generalCategoryCodes.idxOf code])
    | none => (generalCategoryGroups.find? (·.1.contains name)).map fun group =>
      .generalCategory (group.2.map (generalCategoryCodes.idxOf ·))

def binary? (name : String) : Option Property :=
  (binaryProperties.find? (·.1.contains name)).map fun entry => .binary entry.2

/-- A lone name. Three abbreviations of yes-or-no properties stand for general categories. -/
def ofName? (name : List Char) : Option Property :=
  let canonical := canonicalName name
  let reserved := ["cf", "sc", "lc"].contains canonical
  (if reserved then none else binary? canonical)
    <|> generalCategory? canonical
    <|> (placeOf? scriptNames canonical).map .script

/-- A property and one of its values. -/
def ofNameAndValue? (name value : List Char) : Option Property :=
  let value := canonicalName value
  match canonicalName name with
  | "gc" | "generalcategory" => generalCategory? value
  | "sc" | "script" => (placeOf? scriptNames value).map .script
  | "scx" | "scriptextensions" => (placeOf? scriptNames value).map .scriptExtension
  | "gcb" | "graphemeclusterbreak" => (placeOf? graphemeBreakNames value).map .graphemeBreak
  | "wb" | "wordbreak" => (placeOf? wordBreakNames value).map .wordBreak
  | "sb" | "sentencebreak" => (placeOf? sentenceBreakNames value).map .sentenceBreak
  | "age" => (placeOf? ageNames value).map .age
  | _ => none

end Property

/-! ## Classes used by the pattern language itself -/

/-- The characters whose general category has one of these codes. -/
def ofCategories (codes : List String) : CharSet :=
  (Property.generalCategory (codes.map (generalCategoryCodes.idxOf ·))).members

/-- Decimal digits. -/
def digitSet : CharSet := ofCategories ["nd"]

/-- White space. -/
def blankSet : CharSet := whiteSpaceSet

/-- The characters of words: letters, marks, decimal digits, connecting punctuation and the two
joiners. -/
def wordSet : CharSet :=
  .unionAll [alphabeticSet, ofCategories ["mc", "me", "mn", "nd", "pc"], joinControlSet]

def isWordChar (c : Char) : Bool := wordSet.contains c

/-- Letters, digits and the underscore, of the first 128 characters only. -/
def isAsciiWordChar (c : Char) : Bool := c.isAlphanum || c == '_'

/-- A character of the name of a group. -/
def isNameChar (first : Bool) (c : Char) : Bool :=
  c == '_' || nameLetterSet.contains c ||
    (!first && (c == '.' || c == '[' || c == ']' || nameNumberSet.contains c))

end ElementRules.Pattern
