import ElementRules.Json.Record
import ElementRules.Model

/-!
The stored forms of elements, parameter values and entities. An id is a bare number, a missing
reference is null, and parameters are an object in ascending order of names. What holds a double is
read by way of a `Numeral.Reader`.
-/

namespace ElementRules

/-! ## Ids and parameters -/

def ElementId.toJson (id : ElementId) : Json := .ofNat id.val.toNat

def ElementId.ofJson? (json : Json) : Option ElementId :=
  (json.toNat? UInt64.size).map fun n => ⟨UInt64.ofNat n⟩

namespace ParamValue

def toJson : ParamValue → Json
  | .empty => .text "Empty"
  | .text s => .object [Json.field "Text" (.text s)]
  | .number x => .object [Json.field "Number" (.ofDouble x)]
  | .integer i => .object [Json.field "Integer" (.ofInt i.toInt)]
  | .reference id => .object [Json.field "Id" id.toJson]

def ofJson? [Numeral.Reader] (json : Json) : Option ParamValue :=
  match json.toVariant? with
  | some ("Empty", none) => some .empty
  | some ("Empty", some .null) => some .empty
  | some ("Text", some value) => value.toText?.map .text
  | some ("Number", some value) => value.toDouble?.map .number
  | some ("Integer", some value) => value.toInt?.map fun i => .integer (Int64.ofInt i)
  | some ("Id", some value) => (ElementId.ofJson? value).map .reference
  | _ => none

end ParamValue

namespace Parameters

def toJson (parameters : Parameters) : Json :=
  .object (parameters.entries.map fun entry => Json.field entry.1 entry.2.toJson)

/-- The entries of an object; every name must be a text. -/
def entriesOf? [Numeral.Reader] : List (Option String × Json) → Option (List (String × ParamValue))
  | [] => some []
  | (none, _) :: _ => none
  | (some name, value) :: rest => do
    let value ← ParamValue.ofJson? value
    let entries ← entriesOf? rest
    some ((name, value) :: entries)

def ofJson? [Numeral.Reader] : Json → Option Parameters
  | .object fields => (entriesOf? fields).map ofList
  | _ => none

end Parameters

/-! ## Elements -/

namespace Element

def toJson (element : Element) : Json :=
  let reference := Json.ofOption ElementId.toJson
  .object
    [Json.field "id" element.id.toJson,
     Json.field "name" (.text element.name),
     Json.field "class_name" (.text element.className),
     Json.field "category_id" (reference element.category),
     Json.field "is_element_type" (.bool element.isType),
     Json.field "type_id" (reference element.type),
     Json.field "family_id" (reference element.family),
     Json.field "level_id" (reference element.level),
     Json.field "reference_level_id" (reference element.referenceLevel),
     Json.field "sketch_plane" (Json.ofOption .text element.sketchPlane),
     Json.field "owner_view_id" (reference element.ownerView),
     Json.field "design_option_id" (reference element.designOption),
     Json.field "phase_created_id" (reference element.phaseCreated),
     Json.field "phase_demolished_id" (reference element.phaseDemolished),
     Json.field "workset_id" (reference element.workset),
     Json.field "host_id" (reference element.host),
     Json.field "structural_type" (.ofMember element.structuralType),
     Json.field "parameters" element.parameters.toJson]

def fieldNames : List String :=
  ["id", "name", "class_name", "category_id", "is_element_type", "type_id", "family_id",
    "level_id", "reference_level_id", "sketch_plane", "owner_view_id", "design_option_id",
    "phase_created_id", "phase_demolished_id", "workset_id", "host_id", "structural_type",
    "parameters"]

def ofJson? [Numeral.Reader] (json : Json) : Option Element := do
  let record ← json.toRecord? fieldNames
  let reference (name : String) := record.nullable? name ElementId.ofJson?
  let id ← record.required? "id" ElementId.ofJson?
  let name ← record.required? "name" Json.toText?
  let className ← record.required? "class_name" Json.toText?
  let category ← reference "category_id"
  let isType ← record.required? "is_element_type" Json.toBool?
  let type ← reference "type_id"
  let family ← reference "family_id"
  let level ← reference "level_id"
  let referenceLevel ← reference "reference_level_id"
  let sketchPlane ← record.nullable? "sketch_plane" Json.toText?
  let ownerView ← reference "owner_view_id"
  let designOption ← reference "design_option_id"
  let phaseCreated ← reference "phase_created_id"
  let phaseDemolished ← reference "phase_demolished_id"
  let workset ← reference "workset_id"
  let host ← reference "host_id"
  let structuralType ← record.required? "structural_type" Json.toMember?
  let parameters ← record.required? "parameters" Parameters.ofJson?
  some { id, name, className, category, isType, type, family, level, referenceLevel, sketchPlane,
         ownerView, designOption, phaseCreated, phaseDemolished, workset, host, structuralType,
         parameters }

/-- Reads the text of a stored element. -/
def parse? [Numeral.Reader] (source : String) : Option Element := (Json.parse? source).bind ofJson?

end Element

/-! ## Entities -/

namespace Entity

def toJson (entity : Entity) : Json :=
  .object [Json.field "id" entity.id.toJson, Json.field "name" (.text entity.name)]

def ofJson? (json : Json) : Option Entity := do
  let record ← json.toRecord? ["id", "name"]
  let id ← record.required? "id" ElementId.ofJson?
  let name ← record.required? "name" Json.toText?
  some { id, name }

end Entity

namespace Level

def toJson (level : Level) : Json :=
  .object
    [Json.field "id" level.id.toJson,
     Json.field "name" (.text level.name),
     Json.field "elevation" (.ofDouble level.elevation)]

def ofJson? [Numeral.Reader] (json : Json) : Option Level := do
  let record ← json.toRecord? ["id", "name", "elevation"]
  let id ← record.required? "id" ElementId.ofJson?
  let name ← record.required? "name" Json.toText?
  let elevation ← record.required? "elevation" Json.toDouble?
  some { id, name, elevation }

end Level

namespace Family

def toJson (family : Family) : Json :=
  .object
    [Json.field "id" family.id.toJson,
     Json.field "name" (.text family.name),
     Json.field "is_in_place" (.bool family.inPlace),
     Json.field "type_ids" (.array (family.types.map ElementId.toJson))]

def ofJson? (json : Json) : Option Family := do
  let record ← json.toRecord? ["id", "name", "is_in_place", "type_ids"]
  let id ← record.required? "id" ElementId.ofJson?
  let name ← record.required? "name" Json.toText?
  let inPlace ← record.required? "is_in_place" Json.toBool?
  let types ← record.required? "type_ids" (Json.toList? ElementId.ofJson?)
  some { id, name, inPlace, types }

end Family

end ElementRules
