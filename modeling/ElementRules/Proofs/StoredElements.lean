import ElementRules.Model.Stored
import ElementRules.Proofs.JsonText
import ElementRules.Proofs.StoredFields
import ElementRules.Proofs.StoredNumbers

/-!
# Stored elements round trip

The text of an element is read as the element again, unless one of its numbers is not finite, by
every reader that reads numerals back (`Element.parse?_stored`):

    element.isStorable = true   →  Element.parse? element.toJson.render = some element
    element.isStorable = false  →  Element.parse? element.toJson.render = none

There is no numeral for an infinity, and what is written in its place is null, which no number is
read from; so one infinite parameter makes the whole element unreadable (`unboundedWall_refused`).
-/

namespace ElementRules

theorem ElementId.ofJson?_toJson (id : ElementId) : ofJson? id.toJson = some id := by
  have hread : id.toJson.toNat? UInt64.size = some id.val.toNat :=
    Numeral.toNat?_ofNat id.val.toNat_lt
  unfold ofJson?
  rw [hread, Option.map_some, UInt64.ofNat_toNat]

/-! ## Parameters -/

/-- A number has a numeral only if it is finite. -/
def ParamValue.isStorable : ParamValue → Bool
  | .number x => x.isFinite
  | _ => true

theorem Json.wellFormed_ofDouble (x : Double) : (Json.ofDouble x).WellFormed := by
  unfold ofDouble
  cases hfinite : x.isFinite with
  | true =>
    obtain ⟨numeral, hnumeral, hwellFormed, -⟩ := Numeral.exists_ofDouble? hfinite
    rw [hnumeral]
    exact .number hwellFormed
  | false =>
    rw [Numeral.ofDouble?_eq_none hfinite]
    exact .null

theorem Json.toDouble?_ofDouble [reader : Numeral.Reader] (hreader : reader.ReadsBack)
    (x : Double) : (Json.ofDouble x).toDouble? = if x.isFinite then some x else none := by
  unfold ofDouble
  cases hfinite : x.isFinite with
  | true =>
    obtain ⟨numeral, hnumeral, -, -⟩ := Numeral.exists_ofDouble? hfinite
    rw [hnumeral]
    exact hreader x numeral hnumeral
  | false =>
    rw [Numeral.ofDouble?_eq_none hfinite]
    rfl

namespace ParamValue

theorem wellFormed_toJson (value : ParamValue) : value.toJson.WellFormed := by
  have htagged (name : String) {payload : Json} (h : payload.WellFormed) :
      (Json.object [Json.field name payload]).WellFormed :=
    .object (by simp [Json.field]) (by simpa [Json.field] using h)
  cases value with
  | empty => exact .text _
  | text s => exact htagged _ (.text s)
  | number x => exact htagged _ (Json.wellFormed_ofDouble x)
  | integer i => exact htagged _ (.number (Numeral.wellFormed_ofInt i.toInt))
  | reference id => exact htagged _ (.number (Numeral.wellFormed_ofNat id.val.toNat))

theorem ofJson?_toJson [reader : Numeral.Reader] (hreader : reader.ReadsBack) (value : ParamValue) :
    ofJson? value.toJson = if value.isStorable then some value else none := by
  cases value with
  | empty => rfl
  | text s => rfl
  | number x =>
    show (Json.ofDouble x).toDouble?.map ParamValue.number = _
    rw [Json.toDouble?_ofDouble hreader, isStorable]
    cases x.isFinite <;> rfl
  | integer i =>
    have hread : (Json.ofInt i.toInt).toInt? = some i.toInt :=
      Numeral.toInt?_ofInt i.le_toInt i.toInt_lt
    show (Json.ofInt i.toInt).toInt?.map (fun i => ParamValue.integer (Int64.ofInt i)) = _
    rw [hread, Option.map_some, Int64.ofInt_toInt]
    rfl
  | reference id =>
    show (ElementId.ofJson? id.toJson).map ParamValue.reference = _
    rw [ElementId.ofJson?_toJson]
    rfl

end ParamValue

namespace Parameters

def isStorable (parameters : Parameters) : Bool :=
  parameters.entries.all fun entry => entry.2.isStorable

theorem wellFormed_toJson (parameters : Parameters) : parameters.toJson.WellFormed := by
  have hvalues : ∀ entry ∈ parameters.entries.map fun entry => (entry.1, entry.2.toJson),
      entry.2.WellFormed :=
    List.forall_mem_map.2 fun entry _ => entry.2.wellFormed_toJson
  have hfields := Json.WellFormed.ofFields hvalues
  rwa [List.map_map] at hfields

/-- What is greater than all names goes to the end. -/
theorem insertEntry_of_forall_lt {name : String} {entries : List (String × ParamValue)}
    (h : ∀ entry ∈ entries, entry.1 < name) (value : ParamValue) :
    insertEntry name value entries = entries ++ [(name, value)] := by
  induction entries with
  | nil => rfl
  | cons first rest ih =>
    obtain ⟨hfirst, hrest⟩ := List.forall_mem_cons.1 h
    unfold insertEntry
    have hother : name ≠ first.1 := fun heq => String.lt_irrefl _ (heq ▸ hfirst)
    rw [if_neg (String.lt_asymm hfirst), if_neg hother, ih hrest]
    rfl

/-- Entries that are in ascending order already are put in one after the other. -/
theorem entries_foldl_insert {parameters : Parameters} {entries : List (String × ParamValue)}
    (h : (parameters.entries ++ entries).Pairwise fun a b => a.1 < b.1) :
    (entries.foldl (fun parameters entry => parameters.insert entry.1 entry.2)
      parameters).entries = parameters.entries ++ entries := by
  induction entries generalizing parameters with
  | nil => rw [List.foldl_nil, List.append_nil]
  | cons entry entries ih =>
    have hgreater : ∀ earlier ∈ parameters.entries, earlier.1 < entry.1 := fun earlier hearlier =>
      (List.pairwise_append.1 h).2.2 earlier hearlier entry List.mem_cons_self
    have hinsert : (parameters.insert entry.1 entry.2).entries = parameters.entries ++ [entry] :=
      insertEntry_of_forall_lt hgreater entry.2
    rw [List.foldl_cons, ih, hinsert, List.append_assoc, List.singleton_append]
    rwa [hinsert, List.append_assoc, List.singleton_append]

theorem ofList_entries (parameters : Parameters) : ofList parameters.entries = parameters := by
  have hentries : (ofList parameters.entries).entries = parameters.entries :=
    entries_foldl_insert parameters.ascending
  obtain ⟨entries, hascending⟩ := parameters
  generalize ofList entries = read at hentries
  cases read
  cases hentries
  rfl

theorem entriesOf?_toJson [reader : Numeral.Reader] (hreader : reader.ReadsBack)
    (entries : List (String × ParamValue)) :
    entriesOf? (entries.map fun entry => Json.field entry.1 entry.2.toJson) =
      if entries.all (fun entry => entry.2.isStorable) then some entries else none := by
  induction entries with
  | nil => rfl
  | cons entry entries ih =>
    rw [List.map_cons, Json.field, entriesOf?, ih, ParamValue.ofJson?_toJson hreader, List.all_cons]
    cases entry.2.isStorable with
    | false => rfl
    | true => cases entries.all fun entry => entry.2.isStorable <;> rfl

theorem ofJson?_toJson [reader : Numeral.Reader] (hreader : reader.ReadsBack)
    (parameters : Parameters) :
    ofJson? parameters.toJson = if parameters.isStorable then some parameters else none := by
  unfold ofJson? toJson isStorable
  dsimp only
  rw [entriesOf?_toJson hreader]
  split
  · rw [Option.map_some, ofList_entries]
  · rfl

end Parameters

/-! ## Elements -/

instance : LawfulTagged StructuralType where
  mem_all member := by cases member <;> decide
  nodup_tags := by decide +kernel

namespace Element

/-- All numbers among the parameters are finite. -/
def isStorable (element : Element) : Bool := element.parameters.isStorable

/-- The fields of an element by the names under which they are stored. -/
def storedFields (element : Element) : List (String × Json) :=
  let reference := Json.ofOption ElementId.toJson
  [("id", element.id.toJson),
   ("name", .text element.name),
   ("class_name", .text element.className),
   ("category_id", reference element.category),
   ("is_element_type", .bool element.isType),
   ("type_id", reference element.type),
   ("family_id", reference element.family),
   ("level_id", reference element.level),
   ("reference_level_id", reference element.referenceLevel),
   ("sketch_plane", Json.ofOption .text element.sketchPlane),
   ("owner_view_id", reference element.ownerView),
   ("design_option_id", reference element.designOption),
   ("phase_created_id", reference element.phaseCreated),
   ("phase_demolished_id", reference element.phaseDemolished),
   ("workset_id", reference element.workset),
   ("host_id", reference element.host),
   ("structural_type", .ofMember element.structuralType),
   ("parameters", element.parameters.toJson)]

theorem toJson_eq (element : Element) :
    element.toJson = .object (element.storedFields.map fun entry => Json.field entry.1 entry.2) :=
  rfl

theorem storedFields_names (element : Element) :
    element.storedFields.map Prod.fst = fieldNames := rfl

theorem wellFormed_storedFields (element : Element) :
    ∀ entry ∈ element.storedFields, entry.2.WellFormed := by
  have hreference (id? : Option ElementId) : (Json.ofOption ElementId.toJson id?).WellFormed := by
    cases id? with
    | none => exact .null
    | some id => exact .number (Numeral.wellFormed_ofNat id.val.toNat)
  have htext (s? : Option String) : (Json.ofOption .text s?).WellFormed := by
    cases s? with
    | none => exact .null
    | some s => exact .text s
  unfold storedFields
  simp only [List.forall_mem_cons]
  exact ⟨.number (Numeral.wellFormed_ofNat _), .text _, .text _, hreference _, .bool _,
    hreference _, hreference _, hreference _, hreference _, htext _, hreference _, hreference _,
    hreference _, hreference _, hreference _, hreference _, .text _,
    element.parameters.wellFormed_toJson, List.forall_mem_nil _⟩

theorem wellFormed_toJson (element : Element) : element.toJson.WellFormed := by
  rw [toJson_eq]
  exact .ofFields element.wellFormed_storedFields

/-- Every field is found under its name and read as what was stored. -/
theorem ofJson?_toJson [reader : Numeral.Reader] (hreader : reader.ReadsBack) (element : Element) :
    ofJson? element.toJson = if element.isStorable then some element else none := by
  have hnames : (element.storedFields.map Prod.fst).Nodup := by
    rw [storedFields_names]
    decide +kernel
  have hknown : ∀ entry ∈ element.storedFields, entry.1 ∈ fieldNames := by
    intro entry hentry
    rw [← element.storedFields_names]
    exact List.mem_map_of_mem hentry
  have hrecord : element.toJson.toRecord? fieldNames = some ⟨false, element.storedFields⟩ := by
    rw [toJson_eq]
    exact Json.toRecord?_object hknown hnames
  have required {α : Type} {name : String} {value : Json} (place : Nat)
      (hstored : element.storedFields[place]? = some (name, value)) (read? : Json → Option α) :
      Json.Record.required? ⟨false, element.storedFields⟩ name read? = read? value :=
    Json.Record.required?_eq hnames (List.mem_of_getElem? hstored) read?
  have reference {name : String} {id? : Option ElementId} (place : Nat)
      (hstored : element.storedFields[place]? = some (name, Json.ofOption ElementId.toJson id?)) :
      Json.Record.nullable? ⟨false, element.storedFields⟩ name ElementId.ofJson? = some id? :=
    Json.Record.nullable?_eq hnames (List.mem_of_getElem? hstored) fun id =>
      ⟨nofun, id.ofJson?_toJson⟩
  have hsketch : Json.Record.nullable? ⟨false, element.storedFields⟩ "sketch_plane" Json.toText? =
      some element.sketchPlane :=
    Json.Record.nullable?_eq hnames (List.mem_of_getElem? (i := 9) rfl) fun s => ⟨nofun, rfl⟩
  have htext (s : String) : (Json.text s).toText? = some s := rfl
  have hflag (flag : Bool) : (Json.bool flag).toBool? = some flag := rfl
  have hbind {α β : Type} {x? : Option α} {x : α} (hx : x? = some x) (f : α → Option β) :
      (x? >>= f) = f x := by
    rw [hx]
    rfl
  -- The places are those of the fields in `storedFields`; each is found there under its own name.
  unfold ofJson?
  rw [hbind hrecord]
  dsimp only
  rw [required 0 rfl, hbind element.id.ofJson?_toJson, required 1 rfl, hbind (htext _),
    required 2 rfl, hbind (htext _), hbind (reference 3 rfl), required 4 rfl, hbind (hflag _),
    hbind (reference 5 rfl), hbind (reference 6 rfl), hbind (reference 7 rfl),
    hbind (reference 8 rfl), hbind hsketch, hbind (reference 10 rfl), hbind (reference 11 rfl),
    hbind (reference 12 rfl), hbind (reference 13 rfl), hbind (reference 14 rfl),
    hbind (reference 15 rfl), required 16 rfl, hbind (Json.toMember?_ofMember _), required 17 rfl,
    Parameters.ofJson?_toJson hreader, isStorable]
  cases element.parameters.isStorable with
  | true => rfl
  | false => rfl

/-- **Elements survive storage, unless they hold a number that is not finite.** Let the reader read
back the numerals of finite doubles. Whatever its names, ids and texts are, an element is then read
from its own text, if all numbers among its parameters are finite. Otherwise nothing is read. -/
theorem parse?_stored [reader : Numeral.Reader] (hreader : reader.ReadsBack) (element : Element) :
    parse? element.toJson.render = if element.isStorable then some element else none := by
  unfold parse?
  rw [Json.parse?_render element.wellFormed_toJson, Option.bind_some, ofJson?_toJson hreader]

/-- A wall with a parameter of every kind. -/
def measuredWall : Element :=
  let values : List (String × ParamValue) :=
    [("Comments", .empty), ("Mark", .text "\u03A9 \"1\""),
      ("Height", .number (.ofDecimal false 25 (-1))), ("Count", .integer (-3)),
      ("Top", .reference ⟨7⟩)]
  { Element.named "Wall" with category := some ⟨4⟩, parameters := Parameters.ofList values }

theorem measuredWall_stored :
    Numeral.nearestReader.ReadsBack ∧ measuredWall.isStorable = true ∧
      parse? measuredWall.toJson.render = some measuredWall := by
  have hstorable : measuredWall.isStorable = true := by decide +kernel
  refine ⟨Numeral.readsBack_nearest, hstorable, ?_⟩
  rw [parse?_stored Numeral.readsBack_nearest, if_pos hstorable]

/-- A wall of infinite height. -/
def unboundedWall : Element :=
  { Element.named "Wall" with
    parameters := Parameters.empty.insert "Height" (.number (.infinite false)) }

/-- An infinity is stored as null, and so the wall is not read back, though all numerals are. -/
theorem unboundedWall_refused :
    Numeral.nearestReader.ReadsBack ∧
      (∀ entry ∈ unboundedWall.parameters.entries, entry.2 ≠ .number .nan) ∧
      (ParamValue.number (.infinite false)).toJson.render = "\x7b\"Number\":null\x7d" ∧
      parse? unboundedWall.toJson.render = none := by
  refine ⟨Numeral.readsBack_nearest, by decide +kernel, by decide +kernel, ?_⟩
  unfold parse?
  rw [Json.parse?_render unboundedWall.wellFormed_toJson, Option.bind_some,
    ofJson?_toJson Numeral.readsBack_nearest]
  exact if_neg (by decide +kernel)

end Element

end ElementRules
