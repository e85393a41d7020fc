import ElementRules.Json
import ElementRules.Tagged

/-!
Records, variants and scalars as JSON values.

* A record is an object. Fields that it does not know are ignored, a field that it knows stands at
  most once, and all names are texts. A record is also an array of its fields in order.
* A variant is its tag, or, where it carries a value, an object of one field named for the tag. A
  variant without a value is also such an object with null.
-/

namespace ElementRules

namespace Json

/-! ## Scalars -/

def toText? : Json → Option String
  | .string content => content
  | _ => none

def toBool? : Json → Option Bool
  | .bool flag => some flag
  | _ => none

def toNat? (bound : Nat) : Json → Option Nat
  | .number numeral => numeral.toNat? bound
  | _ => none

def toInt? : Json → Option Int
  | .number numeral => numeral.toInt?
  | _ => none

def toDouble? [Numeral.Reader] : Json → Option Double
  | .number numeral => Numeral.Reader.toDouble? numeral
  | _ => none

def toList? {α : Type} (read : Json → Option α) : Json → Option (List α)
  | .array items => items.mapM read
  | _ => none

def ofNat (n : Nat) : Json := .number (.ofNat n)

def ofInt (i : Int) : Json := .number (.ofInt i)

/-- There is no numeral for a double that is not finite; it is written as null. -/
def ofDouble (x : Double) : Json :=
  match Numeral.ofDouble? x with
  | some numeral => .number numeral
  | none => .null

def ofOption {α : Type} (write : α → Json) : Option α → Json
  | some value => write value
  | none => .null

/-! ## Variants -/

/-- The tag of a variant and the value that it carries. -/
def toVariant? : Json → Option (String × Option Json)
  | .string (some tag) => some (tag, none)
  | .object [(some tag, value)] => some (tag, some value)
  | _ => none

/-- A member of a vocabulary. -/
def toMember? {α : Type} [Tagged α] (value : Json) : Option α :=
  match value.toVariant? with
  | some (name, none) => ofTag? name
  | some (name, some .null) => ofTag? name
  | _ => none

def ofMember {α : Type} [Tagged α] (member : α) : Json := .text (tag member)

/-! ## Records -/

/-- The fields of a record that are present. -/
structure Record where
  /-- The record was written as an array, where a missing field is not an absent one. -/
  positional : Bool
  fields : List (String × Json)

/-- The known fields of an object. -/
def knownFields? (names : List String) :
    List (Option String × Json) → Option (List (String × Json))
  | [] => some []
  | (none, _) :: _ => none
  | (some name, value) :: rest =>
    match knownFields? names rest with
    | none => none
    | some fields =>
      if !names.contains name then some fields
      else if fields.any (·.1 == name) then none
      else some ((name, value) :: fields)

def toRecord? (names : List String) : Json → Option Record
  | .object fields => (knownFields? names fields).map (⟨false, ·⟩)
  | .array items =>
    if items.length ≤ names.length then some ⟨true, names.zip items⟩ else none
  | _ => none

namespace Record

def find? (record : Record) (name : String) : Option Json :=
  (record.fields.find? (·.1 == name)).map (·.2)

/-- A field that must be present. -/
def required? {α : Type} (record : Record) (name : String) (read : Json → Option α) : Option α :=
  (record.find? name).bind read

/-- A field that takes a default when it is missing. -/
def defaulted? {α : Type} (record : Record) (name : String) (default : α)
    (read : Json → Option α) : Option α :=
  match record.find? name with
  | some value => read value
  | none => some default

/-- A field that may be null or, in an object, missing. -/
def nullable? {α : Type} (record : Record) (name : String) (read : Json → Option α) :
    Option (Option α) :=
  match record.find? name with
  | some .null => some none
  | some value => (read value).map some
  | none => if record.positional then none else some none

end Record

end Json

end ElementRules
