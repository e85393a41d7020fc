import ElementRules.Proofs.JsonText
import ElementRules.Proofs.Loading
import ElementRules.Proofs.StoredFields
import ElementRules.RuleSet.Stored

/-!
# Stored rules round trip

A rule writes all of its fields (`Rule.storedFields`), and reading its text gives them back as a
record (`Rule.Record.ofJson?_toJson`). Of a rule inside its grammar the record needs no repair, so
the rule that is loaded is the rule that was stored, and likewise for a set:

    Grammatical rule → Rule.parse? rule.toJson.render = some rule
                                                                  (Rule.Grammatical.parse?_render)
    (∀ rule ∈ set.rules, Grammatical rule) → RuleSet.parse? set.toJson.render = some set
                                                                            (RuleSet.parse?_render)
-/

namespace ElementRules

namespace Rule

/-! ## The stored form of a rule -/

/-- The fields of a rule by the names under which they are stored. -/
def storedFields (rule : Rule) : List (String × Json) :=
  [("id", .text rule.id.toText),
   ("operator", .ofMember rule.operator),
   ("category", .ofMember rule.category),
   ("property", .text rule.property),
   ("condition", .ofMember rule.condition),
   ("value", .text rule.value),
   ("case_insensitive", .bool rule.ignoreCase),
   ("unit_class", .ofMember rule.unitClass),
   ("unit", .ofMember rule.unit),
   ("indent_level", .ofNat rule.indentLevel.toNat),
   ("selected", .bool rule.selected),
   ("field_is_user_defined", .bool rule.userDefined)]

theorem toJson_eq (rule : Rule) :
    rule.toJson = .object (rule.storedFields.map fun entry => Json.field entry.1 entry.2) := rfl

theorem storedFields_names (rule : Rule) : rule.storedFields.map Prod.fst = Record.names := rfl

theorem wellFormed_storedFields (rule : Rule) :
    ∀ entry ∈ rule.storedFields, entry.2.WellFormed := by
  unfold storedFields
  simp only [List.forall_mem_cons]
  exact ⟨.text _, .text _, .text _, .text _, .text _, .text _, .bool _, .text _, .text _,
    .number (Numeral.wellFormed_ofNat _), .bool _, .bool _, List.forall_mem_nil _⟩

theorem wellFormed_toJson (rule : Rule) : rule.toJson.WellFormed := by
  rw [toJson_eq]
  exact .ofFields rule.wellFormed_storedFields

/-- What a rule stores. -/
def toRecord (rule : Rule) : Record :=
  { id := rule.id
    operator := rule.operator
    category := rule.category
    property := rule.property
    condition := rule.condition
    value := rule.value
    ignoreCase := rule.ignoreCase
    unitClass := rule.unitClass
    unit := rule.unit
    indentLevel := rule.indentLevel
    selected := rule.selected
    userDefined := rule.userDefined }

/-- Every field is found under its name and read as what was stored. -/
theorem Record.ofJson?_toJson (rule : Rule) : Record.ofJson? rule.toJson = some rule.toRecord := by
  have hnames : (rule.storedFields.map Prod.fst).Nodup := by
    rw [storedFields_names]
    decide +kernel
  have hknown : ∀ entry ∈ rule.storedFields, entry.1 ∈ Record.names := by
    intro entry hentry
    rw [← rule.storedFields_names]
    exact List.mem_map_of_mem hentry
  have hrecord : rule.toJson.toRecord? Record.names = some ⟨false, rule.storedFields⟩ := by
    rw [toJson_eq]
    exact Json.toRecord?_object hknown hnames
  have required {α : Type} {name : String} {value : Json} (place : Nat)
      (hstored : rule.storedFields[place]? = some (name, value)) (read : Json → Option α) :
      Json.Record.required? ⟨false, rule.storedFields⟩ name read = read value :=
    Json.Record.required?_eq hnames (List.mem_of_getElem? hstored) read
  have defaulted {α : Type} {name : String} {value : Json} {default : α} (place : Nat)
      (hstored : rule.storedFields[place]? = some (name, value)) (read : Json → Option α) :
      Json.Record.defaulted? ⟨false, rule.storedFields⟩ name default read = read value :=
    Json.Record.defaulted?_eq hnames (List.mem_of_getElem? hstored) default read
  have hid : (Json.text rule.id.toText).toText?.bind RuleId.ofText? = some rule.id := by
    rw [Json.text, Json.toText?, Option.bind_some, RuleId.ofText?_toText]
  have hlevel : (Json.ofNat rule.indentLevel.toNat).toNat? UInt32.size =
      some rule.indentLevel.toNat := by
    have hbound : rule.indentLevel.toNat < UInt32.size := rule.indentLevel.toNat_lt
    exact Numeral.toNat?_ofNat hbound
  -- The places are those of the fields in `storedFields`; each is found there under its own name.
  unfold Record.ofJson?
  simp only [hrecord, required 0 rfl, hid, defaulted 1 rfl, required 2 rfl, defaulted 3 rfl,
    required 4 rfl, defaulted 5 rfl, defaulted 6 rfl, defaulted 7 rfl, defaulted 8 rfl,
    defaulted 9 rfl, hlevel, defaulted 10 rfl, defaulted 11 rfl, Json.toMember?_ofMember,
    Option.bind_eq_bind, Option.bind_some, Option.map_some, UInt32.ofNat_toNat]
  rfl

/-! ## Round trips -/

section Grammatical

variable {rule : Rule}

/-- The stored property loses no blanks, and there is nothing to settle. -/
theorem Grammatical.ofRecord_toRecord (h : rule.Grammatical) : ofRecord rule.toRecord = rule := by
  have hproperty : Text.trim rule.property = rule.property :=
    (Text.trim_eq_self_iff _).2 h.property_trimmed
  have hwritten : rule.toRecord.written = rule := by
    unfold toRecord Record.written
    rw [hproperty]
  rw [ofRecord_eq_settle, hwritten, h.settle_eq_self]

theorem Grammatical.ofJson?_toJson (h : rule.Grammatical) : ofJson? rule.toJson = some rule := by
  unfold ofJson?
  rw [Record.ofJson?_toJson, Option.map_some, h.ofRecord_toRecord]

theorem Grammatical.parse?_render (h : rule.Grammatical) :
    parse? rule.toJson.render = some rule := by
  unfold parse?
  rw [Json.parse?_render rule.wellFormed_toJson, Option.bind_some, h.ofJson?_toJson]

end Grammatical

end Rule

namespace RuleSet

theorem wellFormed_toJson (set : RuleSet) : set.toJson.WellFormed := by
  have hrules : (Json.array (set.rules.map Rule.toJson)).WellFormed := by
    refine .array ?_
    intro item hitem
    obtain ⟨rule, -, rfl⟩ := List.mem_map.1 hitem
    exact rule.wellFormed_toJson
  refine .object ?_ ?_
  · intro entry hentry
    rw [List.mem_singleton.1 hentry]
    rfl
  · intro entry hentry
    rw [List.mem_singleton.1 hentry]
    exact hrules

theorem ofJson?_toJson {set : RuleSet} (h : ∀ rule ∈ set.rules, rule.Grammatical) :
    ofJson? set.toJson = some set := by
  have hrecord : set.toJson.toRecord? ["specs"] =
      some ⟨false, [("specs", .array (set.rules.map Rule.toJson))]⟩ :=
    @Json.toRecord?_object ["specs"] [("specs", _)] (by simp) (by simp)
  have hrules : Json.toList? Rule.ofJson? (.array (set.rules.map Rule.toJson)) = some set.rules :=
    mapM_map_eq_some fun rule hrule => (h rule hrule).ofJson?_toJson
  unfold ofJson?
  rw [hrecord, Option.bind_eq_bind, Option.bind_some,
    Json.Record.required?_eq (by simp) List.mem_cons_self, hrules]
  rfl

theorem parse?_render {set : RuleSet} (h : ∀ rule ∈ set.rules, rule.Grammatical) :
    parse? set.toJson.render = some set := by
  unfold parse?
  rw [Json.parse?_render set.wellFormed_toJson, Option.bind_some, ofJson?_toJson h]

/-- **Stored rules round trip**: a rule that a session produces is read from its text as it is, and
so is a set of such rules, in order, whether or not their ids differ. -/
theorem stored_round_trip :
    (∀ rule : Rule, rule.Reachable → Rule.parse? rule.toJson.render = some rule) ∧
      ∀ set : RuleSet, (∀ rule ∈ set.rules, rule.Reachable) →
        parse? set.toJson.render = some set := by
  constructor
  · intro rule h
    exact h.grammatical.parse?_render
  · intro set h
    exact parse?_render fun rule hrule => (h rule hrule).grammatical

/-- One rule and its copy under the same id. -/
def twins : RuleSet := ⟨[Rule.straySession, Rule.straySession]⟩

theorem twins_round_trip :
    Rule.straySession.Reachable ∧
      Rule.parse? Rule.straySession.toJson.render = some Rule.straySession ∧
      parse? twins.toJson.render = some twins := by
  have h : Rule.straySession.Reachable :=
    .duplicated _ (.changed _ (.changed _ (.changed _ (.loaded Rule.strayRecord))))
  refine ⟨h, stored_round_trip.1 _ h, stored_round_trip.2 twins ?_⟩
  intro rule hrule
  have hsame : rule = Rule.straySession := by simpa [twins] using hrule
  rw [hsame]
  exact h

end RuleSet

end ElementRules
