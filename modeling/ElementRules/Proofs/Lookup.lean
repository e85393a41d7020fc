import Mathlib.Data.List.Nodup
import ElementRules.Measure
import ElementRules.Vocabulary

/-!
# Lookups by key

Lists are searched by key: rules, filters and elements by id, fields by name, vocabularies by tag.
Where the keys are distinct, a search finds the entry with the key, wherever it stands:

    entries.find? (key · == k) = some entry  ↔  entry ∈ entries ∧ key entry = k      (find?_key_iff)

The tags of a vocabulary are such keys (`LawfulTagged`), so a member is found by its tag.
-/

namespace ElementRules

theorem find?_key_iff {α κ : Type} [DecidableEq κ] {key : α → κ} {entries : List α}
    (hdistinct : (entries.map key).Nodup) {k : κ} {entry : α} :
    entries.find? (key · == k) = some entry ↔ entry ∈ entries ∧ key entry = k := by
  have hfirst {found : α} (h : entries.find? (key · == k) = some found) :
      found ∈ entries ∧ key found = k := by
    refine ⟨List.mem_of_find?_eq_some h, ?_⟩
    have hcompared := List.find?_some h
    exact beq_iff_eq.1 hcompared
  constructor
  · exact hfirst
  · rintro ⟨hmem, rfl⟩
    cases hfound : entries.find? (key · == key entry) with
    | none =>
      have hother := List.find?_eq_none.1 hfound entry hmem
      exact absurd (beq_self_eq_true _) hother
    | some found =>
      obtain ⟨hin, hkey⟩ := hfirst hfound
      rw [List.inj_on_of_nodup_map hdistinct hin hmem hkey]

/-! ## Vocabularies -/

/-- The list of a vocabulary leaves no member out, and no two members share a tag. -/
class LawfulTagged (α : Type) [Tagged α] : Prop where
  mem_all (member : α) : member ∈ (Tagged.all : List α)
  nodup_tags : ((Tagged.all : List α).map tag).Nodup

instance : LawfulTagged Operator where
  mem_all member := by cases member <;> decide
  nodup_tags := by decide +kernel

instance : LawfulTagged Category where
  mem_all member := by cases member <;> decide
  nodup_tags := by decide +kernel

instance : LawfulTagged Condition where
  mem_all member := by cases member <;> decide
  nodup_tags := by decide +kernel

instance : LawfulTagged UnitClass where
  mem_all member := by cases member <;> decide
  nodup_tags := by decide +kernel

instance : LawfulTagged Measure where
  mem_all member := by cases member <;> decide
  nodup_tags := by decide +kernel

theorem ofTag?_tag {α : Type} [Tagged α] [LawfulTagged α] (member : α) :
    ofTag? (tag member) = some member :=
  (find?_key_iff LawfulTagged.nodup_tags).2 ⟨LawfulTagged.mem_all member, rfl⟩

end ElementRules
