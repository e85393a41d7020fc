import ElementRules.Literal

/-!
The elements of a building model: what a rule can select. An element carries what is tested on it
directly, and the ids of the entities it belongs to.

Parameters are keyed by name. One that is absent is *undefined*; one that is present but empty is
*defined without a value*.
-/

namespace ElementRules

structure ElementId where
  val : UInt64
deriving DecidableEq, Repr

def ElementId.toText (id : ElementId) : String := toString id.val.toNat

inductive StructuralType
  | nonStructural
  | beam
  | brace
  | column
  | footing
  | unknownFraming
deriving DecidableEq, Repr

instance : Tagged StructuralType where
  all := [.nonStructural, .beam, .brace, .column, .footing, .unknownFraming]
  tag
    | .nonStructural => "NonStructural"
    | .beam => "Beam"
    | .brace => "Brace"
    | .column => "Column"
    | .footing => "Footing"
    | .unknownFraming => "UnknownFraming"

/-! ## Phases -/

/-- What a phase sees of an element. -/
inductive PhaseStatus
  | existing
  | new
  | demolished
  | temporary
  | future
  /-- Created and demolished before the phase. -/
  | past
deriving DecidableEq, Repr

instance : Tagged PhaseStatus where
  all := [.existing, .new, .demolished, .temporary, .future, .past]
  tag
    | .existing => "Existing"
    | .new => "New"
    | .demolished => "Demolished"
    | .temporary => "Temporary"
    | .future => "Future"
    | .past => "Past"

/-- The status seen from a phase, by positions in the sequence of phases. An element that is not yet
created is future, whatever is said of its demolition. -/
def PhaseStatus.seenFrom (phase created : Nat) (demolished : Option Nat) : PhaseStatus :=
  if phase < created then .future
  else
    let standing : PhaseStatus := if created = phase then .new else .existing
    match demolished with
    | none => standing
    | some gone =>
      if gone = phase then if created = phase then .temporary else .demolished
      else if gone < phase then .past
      else standing

/-! ## Parameters -/

inductive ParamValue
  | empty
  | text (s : String)
  | number (x : Double)
  | integer (i : Int64)
  | reference (id : ElementId)
deriving DecidableEq

namespace ParamValue

def hasValue : ParamValue → Bool
  | .empty => false
  | .text s => !s.isEmpty
  | _ => true

def asNumber? : ParamValue → Option Double
  | .number x => some x
  | .integer i => some (Double.ofInt i.toInt)
  | _ => none

/-- The form in which text conditions see a value. -/
def asText : ParamValue → String
  | .empty => ""
  | .text s => s
  | .number x => x.toText
  | .integer i => toString i.toInt
  | .reference id => id.toText

end ParamValue

/-- Parameters by name, in ascending order of names. -/
structure Parameters where
  entries : List (String × ParamValue)
  ascending : entries.Pairwise fun a b => a.1 < b.1
deriving DecidableEq

namespace Parameters

def empty : Parameters := ⟨[], .nil⟩

def find? (parameters : Parameters) (name : String) : Option ParamValue :=
  (parameters.entries.find? fun entry => entry.1 == name).map (·.2)

/-- Puts an entry at its place, over an earlier one of the same name. -/
def insertEntry (name : String) (value : ParamValue) :
    List (String × ParamValue) → List (String × ParamValue)
  | [] => [(name, value)]
  | entry :: rest =>
    if name < entry.1 then (name, value) :: entry :: rest
    else if name = entry.1 then (name, value) :: rest
    else entry :: insertEntry name value rest

theorem mem_insertEntry {name : String} {value : ParamValue} {entries : List (String × ParamValue)}
    {entry : String × ParamValue} (h : entry ∈ insertEntry name value entries) :
    entry = (name, value) ∨ entry ∈ entries := by
  induction entries with
  | nil => simpa [insertEntry] using h
  | cons first rest ih =>
    unfold insertEntry at h
    grind

theorem insertEntry_ascending (name : String) (value : ParamValue)
    {entries : List (String × ParamValue)} (h : entries.Pairwise fun a b => a.1 < b.1) :
    (insertEntry name value entries).Pairwise fun a b => a.1 < b.1 := by
  induction entries with
  | nil => exact List.pairwise_singleton _ _
  | cons first rest ih =>
    unfold insertEntry
    have hrest := (List.pairwise_cons.1 h).2
    have hfirst := (List.pairwise_cons.1 h).1
    split
    · refine List.pairwise_cons.2 ⟨fun entry hmem => ?_, h⟩
      rcases List.mem_cons.1 hmem with rfl | hmem
      · assumption
      · exact String.lt_trans (by assumption) (hfirst entry hmem)
    · split
      · rename_i heq
        exact List.pairwise_cons.2 ⟨fun entry hmem => heq ▸ hfirst entry hmem, hrest⟩
      · refine List.pairwise_cons.2 ⟨fun entry hmem => ?_, ih hrest⟩
        rcases mem_insertEntry hmem with rfl | hmem
        · grind
        · exact hfirst entry hmem

def insert (parameters : Parameters) (name : String) (value : ParamValue) : Parameters :=
  ⟨insertEntry name value parameters.entries, insertEntry_ascending name value parameters.ascending⟩

/-- Entry after entry; of two with one name the later stays. -/
def ofList (entries : List (String × ParamValue)) : Parameters :=
  entries.foldl (fun parameters entry => parameters.insert entry.1 entry.2) empty

end Parameters

/-! ## Elements -/

structure Element where
  id : ElementId
  name : String
  className : String
  category : Option ElementId
  /-- The element is a type, of which others are instances. -/
  isType : Bool
  /-- The type of an instance. -/
  type : Option ElementId
  /-- The family of a type. -/
  family : Option ElementId
  level : Option ElementId
  referenceLevel : Option ElementId
  /-- The name of the sketch plane on which the element lies. -/
  sketchPlane : Option String
  ownerView : Option ElementId
  designOption : Option ElementId
  phaseCreated : Option ElementId
  phaseDemolished : Option ElementId
  workset : Option ElementId
  host : Option ElementId
  structuralType : StructuralType
  parameters : Parameters
deriving DecidableEq

/-- An element with a name and nothing else. -/
def Element.named (name : String) : Element :=
  { id := ⟨0⟩
    name
    className := ""
    category := none
    isType := false
    type := none
    family := none
    level := none
    referenceLevel := none
    sketchPlane := none
    ownerView := none
    designOption := none
    phaseCreated := none
    phaseDemolished := none
    workset := none
    host := none
    structuralType := .nonStructural
    parameters := Parameters.empty }

/-- A type, of a family if one is given. -/
def Element.typeNamed (name : String) (family : Option ElementId) : Element :=
  { Element.named name with isType := true, family }

def Element.parameter? (element : Element) (name : String) : Option ParamValue :=
  element.parameters.find? name

end ElementRules
