import ElementRules.Json.Record
import ElementRules.Proofs.Lookup
import ElementRules.Proofs.Numerals
import ElementRules.RuleId

/-!
# Stored fields read back

What a field stores is read back: a member of a vocabulary from its tag (`toMember?_ofMember`), an
identity from its groups of digits (`ofText?_toText`), a list from its items (`mapM_map_eq_some`).
An object all of whose names are known and distinct is a record of its fields
(`toRecord?_object`), and a field is found there by its name (`Record.find?_eq_some`).
-/

namespace ElementRules

/-- A list written item by item is read item by item. -/
theorem mapM_map_eq_some {α β : Type} {write : α → β} {read? : β → Option α} {items : List α}
    (h : ∀ item ∈ items, read? (write item) = some item) :
    (items.map write).mapM read? = some items := by
  induction items with
  | nil => rfl
  | cons item items ih =>
    have hitem := h item List.mem_cons_self
    have hitems := ih fun other hother => h other (List.mem_cons_of_mem item hother)
    rw [List.map_cons, List.mapM_cons, hitem, hitems]
    rfl

/-! ## Identities -/

namespace RuleId

theorem hexDigit?_digitChar : ∀ d : Fin 16, hexDigit? (digitChar d) = some d := by decide

theorem ofDigits?_digits (id : RuleId) : ofDigits? (id.digits.map digitChar) = some id := by
  unfold ofDigits?
  rw [mapM_map_eq_some fun d _ => hexDigit?_digitChar d]
  dsimp only
  rw [dif_pos id.length_digits]

/-- Five groups with hyphens between them are read as the digits without them. -/
theorem ofGroups?_groups {a b c d e : List Char} (ha : a.length = 8) (hb : b.length = 4)
    (hc : c.length = 4) (hd : d.length = 4) (he : e.length = 12) :
    ofGroups? (a ++ '-' :: b ++ '-' :: c ++ '-' :: d ++ '-' :: e) =
      ofDigits? (a ++ b ++ c ++ d ++ e) := by
  have hdrop {s : List Char} {n : Nat} (h : s.length ≤ n) : s.drop n = [] :=
    List.drop_eq_nil_of_le h
  unfold ofGroups?
  simp [List.drop_append, List.getElem?_append, ha, hb, hc, hd, he, hdrop]

/-- Only the text in groups has 36 characters. -/
theorem ofText?_of_length {s : List Char} (h : s.length = 36) :
    ofText? (String.ofList s) = ofGroups? s := by
  unfold ofText?
  rw [String.toList_ofList]
  dsimp only
  rw [h, if_neg (by decide), if_pos (by decide)]

theorem ofText?_toText (id : RuleId) : ofText? id.toText = some id := by
  have hlength : (id.digits.map digitChar).length = 32 := by
    rw [List.length_map, id.length_digits]
  have hdigits := ofDigits?_digits id
  unfold toText
  -- That the characters are digits is used already; what is left is cutting and joining.
  generalize id.digits.map digitChar = s at hlength hdigits
  have hjoined : s.take 8 ++ (s.drop 8).take 4 ++ (s.drop 12).take 4 ++ (s.drop 16).take 4 ++
      s.drop 20 = s := by
    have hcut (n k : Nat) : (s.drop n).take k ++ s.drop (n + k) = s.drop n := by
      rw [← List.drop_drop, List.take_append_drop]
    rw [List.append_assoc, hcut 16 4, List.append_assoc, hcut 12 4, List.append_assoc, hcut 8 4,
      List.take_append_drop]
  dsimp only
  rw [ofText?_of_length (by simp [hlength]), ofGroups?_groups (by simp [hlength])
    (by simp [hlength]) (by simp [hlength]) (by simp [hlength]) (by simp [hlength]), hjoined,
    hdigits]

end RuleId

/-! ## Records -/

namespace Json

theorem toMember?_ofMember {α : Type} [Tagged α] [LawfulTagged α] (member : α) :
    (ofMember member).toMember? = some member :=
  ofTag?_tag member

theorem knownFields?_map_field {names : List String} {fields : List (String × Json)}
    (hknown : ∀ entry ∈ fields, entry.1 ∈ names) (hdistinct : (fields.map Prod.fst).Nodup) :
    knownFields? names (fields.map fun entry => field entry.1 entry.2) = some fields := by
  induction fields with
  | nil => rfl
  | cons entry fields ih =>
    obtain ⟨hnew, hrest⟩ := List.nodup_cons.1 hdistinct
    have hfields := ih (fun other hother => hknown other (List.mem_cons_of_mem entry hother)) hrest
    have hname : names.contains entry.1 = true :=
      List.contains_iff_mem.2 (hknown entry List.mem_cons_self)
    have hrepeated : ¬ (fields.any (·.1 == entry.1)) = true := by
      intro hany
      obtain ⟨other, hother, heq⟩ := List.any_eq_true.1 hany
      rw [← beq_iff_eq.1 heq] at hnew
      exact hnew (List.mem_map_of_mem hother)
    rw [List.map_cons, field, knownFields?, hfields]
    dsimp only
    rw [hname, Bool.not_true, if_neg Bool.false_ne_true, if_neg hrepeated]

theorem toRecord?_object {names : List String} {fields : List (String × Json)}
    (hknown : ∀ entry ∈ fields, entry.1 ∈ names) (hdistinct : (fields.map Prod.fst).Nodup) :
    (Json.object (fields.map fun entry => field entry.1 entry.2)).toRecord? names =
      some ⟨false, fields⟩ := by
  rw [toRecord?, knownFields?_map_field hknown hdistinct, Option.map_some]

namespace Record

variable {record : Record} {name : String} {value : Json} {α : Type}

theorem find?_eq_some (hdistinct : (record.fields.map Prod.fst).Nodup)
    (h : (name, value) ∈ record.fields) : record.find? name = some value := by
  unfold find?
  rw [(find?_key_iff hdistinct).2 ⟨h, rfl⟩, Option.map_some]

theorem required?_eq (hdistinct : (record.fields.map Prod.fst).Nodup)
    (h : (name, value) ∈ record.fields) (read : Json → Option α) :
    record.required? name read = read value := by
  unfold required?
  rw [find?_eq_some hdistinct h, Option.bind_some]

theorem defaulted?_eq (hdistinct : (record.fields.map Prod.fst).Nodup)
    (h : (name, value) ∈ record.fields) (default : α) (read : Json → Option α) :
    record.defaulted? name default read = read value := by
  unfold defaulted?
  rw [find?_eq_some hdistinct h]

/-- What is absent is stored as null, and nothing else is. -/
theorem nullable?_eq {write : α → Json} {read : Json → Option α} {value? : Option α}
    (hdistinct : (record.fields.map Prod.fst).Nodup)
    (h : (name, ofOption write value?) ∈ record.fields)
    (hread : ∀ value, write value ≠ .null ∧ read (write value) = some value) :
    record.nullable? name read = some value? := by
  unfold nullable?
  rw [find?_eq_some hdistinct h]
  cases value? with
  | none => rfl
  | some value =>
    obtain ⟨hnull, hvalue⟩ := hread value
    rw [ofOption]
    split
    · next heq => exact absurd (Option.some.inj heq) hnull
    · next heq =>
      obtain rfl := Option.some.inj heq
      rw [hvalue, Option.map_some]
    · next heq => cases heq

end Record

end Json

end ElementRules
