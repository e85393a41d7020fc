import Mathlib.Data.List.Induction
import ElementRules.Model
import ElementRules.Proofs.Lookup

/-!
# Models built by additions

Every addition takes the next id from the counter of the model and gives it to the one thing that it
adds (`ids_add`); an element goes to the end of the list, and its place into the index
(`add_cases`). So as long as the counter has room, no two things share an id and the index is in
step with the list of elements (`Numbered`):

    Numbered model → room for one more → Numbered (model.add addition)      (Numbered.add)
    additions.length < 2 ^ 64 → Numbered (ofAdditions additions)            (numbered_ofAdditions)
    model.element? id = some element ↔ element ∈ model.elements ∧ element.id = id
                                                                            (Numbered.element?_iff)

The counter has 64 bits. After so many additions ids would come round again.
-/

namespace ElementRules

/-- The entities that have a name and nothing else. -/
inductive EntityKind
  | category
  | phase
  | designOption
  | workset
  | view
deriving DecidableEq

namespace Model

def entities (model : Model) : EntityKind → List Entity
  | .category => model.categories
  | .phase => model.phases
  | .designOption => model.designOptions
  | .workset => model.worksets
  | .view => model.views

/-- The ids of the elements, and of each kind of entity. -/
def idsByKind (model : Model) : List (List ElementId) :=
  [model.elements.map Element.id, model.categories.map Entity.id, model.levels.map Level.id,
    model.phases.map Entity.id, model.designOptions.map Entity.id, model.worksets.map Entity.id,
    model.views.map Entity.id, model.families.map Family.id]

/-- The ids of everything in the model. -/
def ids (model : Model) : List ElementId := model.idsByKind.flatten

/-- The ids are distinct, none is beyond the counter, and the index has the place of every element
and nothing else. -/
structure Numbered (model : Model) : Prop where
  nodup_ids : model.ids.Nodup
  id_le_lastId : ∀ id ∈ model.ids, id.val ≤ model.lastId
  index_iff : ∀ id place, model.index.lookup id = some place ↔
    ∃ element, model.elements[place]? = some element ∧ element.id = id

theorem mem_ids_of_mem_kind {model : Model} {ids : List ElementId} (hkind : ids ∈ model.idsByKind)
    {id : ElementId} (h : id ∈ ids) : id ∈ model.ids :=
  List.mem_flatten_of_mem hkind h

theorem Numbered.nodup_kind {model : Model} (h : model.Numbered) {ids : List ElementId}
    (hkind : ids ∈ model.idsByKind) : ids.Nodup :=
  h.nodup_ids.sublist (List.sublist_flatten_of_mem hkind)

theorem Numbered.nodup_elements {model : Model} (h : model.Numbered) :
    (model.elements.map Element.id).Nodup :=
  h.nodup_kind List.mem_cons_self

theorem Numbered.nodup_entities {model : Model} (h : model.Numbered) (kind : EntityKind) :
    ((model.entities kind).map Entity.id).Nodup := by
  cases kind <;> exact h.nodup_kind (by simp [idsByKind, entities])

/-! ## One addition -/

theorem lastId_add (model : Model) (addition : Addition) :
    (model.add addition).lastId = model.nextId.val := by
  cases addition <;> rfl

/-- The counter does not come round. -/
theorem toNat_nextId {model : Model} (hroom : model.lastId.toNat + 1 < UInt64.size) :
    model.nextId.val.toNat = model.lastId.toNat + 1 := by
  unfold nextId
  rw [UInt64.toNat_add]
  exact Nat.mod_eq_of_lt hroom

theorem getElem?_concat_eq_some_iff {α : Type} {entries : List α} {last entry : α} {place : Nat} :
    (entries ++ [last])[place]? = some entry ↔
      entries[place]? = some entry ∨ place = entries.length ∧ last = entry := by
  grind

theorem map_id_registerType (type family : ElementId) (families : List Family) :
    (registerType type family families).map Family.id = families.map Family.id := by
  induction families with
  | nil => rfl
  | cons first rest ih =>
    unfold registerType
    split
    · rfl
    · rw [List.map_cons, List.map_cons, ih]

theorem map_id_families_add_type (model : Model) (name : String) (family : Option ElementId) :
    (model.add (.type name family)).families.map Family.id = model.families.map Family.id := by
  cases family with
  | none => rfl
  | some family => exact map_id_registerType model.nextId family model.families

/-- Whatever is added, there is one more id, the next one. -/
theorem ids_add (model : Model) (addition : Addition) :
    (model.add addition).ids.Perm (model.nextId :: model.ids) := by
  rw [List.perm_iff_count]
  intro id
  cases addition with
  | type name family =>
    unfold ids idsByKind
    rw [map_id_families_add_type]
    simp only [add, append, List.map_append, List.flatten_cons, List.count_append, List.count_cons,
      List.map_cons, List.map_nil, List.flatten_nil, List.count_nil]
    omega
  | _ =>
    simp only [ids, idsByKind, add, append, List.map_append, List.flatten_cons, List.count_append,
      List.count_cons, List.map_cons, List.map_nil, List.flatten_nil, List.count_nil]
    omega

/-- What an addition does to the elements and to their index. -/
theorem add_cases (model : Model) (addition : Addition) :
    (model.add addition).elements = model.elements ∧ (model.add addition).index = model.index ∨
      ∃ element : Element, element.id = model.nextId ∧
        (model.add addition).elements = model.elements ++ [element] ∧
        (model.add addition).index = (model.nextId, model.elements.length) :: model.index := by
  cases addition with
  | type name family =>
    exact .inr ⟨{ Element.typeNamed name family with id := model.nextId }, rfl, rfl, rfl⟩
  | element element => exact .inr ⟨{ element with id := model.nextId }, rfl, rfl, rfl⟩
  | _ => exact .inl ⟨rfl, rfl⟩

section Step

variable {model : Model} (h : model.Numbered) (hroom : model.lastId.toNat + 1 < UInt64.size)
include h hroom

theorem Numbered.lt_nextId : ∀ id ∈ model.ids, id.val < model.nextId.val := by
  intro id hmem
  have hle := UInt64.le_iff_toNat_le.1 (h.id_le_lastId id hmem)
  rw [UInt64.lt_iff_toNat_lt, toNat_nextId hroom]
  omega

theorem Numbered.nextId_not_mem : model.nextId ∉ model.ids := by
  intro hmem
  exact UInt64.lt_irrefl _ (h.lt_nextId hroom _ hmem)

theorem Numbered.id_ne_nextId {element : Element} (hmem : element ∈ model.elements) :
    element.id ≠ model.nextId := by
  intro heq
  have hin : element.id ∈ model.elements.map Element.id := List.mem_map_of_mem hmem
  rw [heq] at hin
  exact h.nextId_not_mem hroom (mem_ids_of_mem_kind List.mem_cons_self hin)

/-- An element at the end of the list leaves the places of the others. -/
theorem Numbered.index_add (addition : Addition) (id : ElementId) (place : Nat) :
    (model.add addition).index.lookup id = some place ↔
      ∃ element, (model.add addition).elements[place]? = some element ∧ element.id = id := by
  rcases add_cases model addition with ⟨helements, hindex⟩ | ⟨added, hid, helements, hindex⟩
  · rw [helements, hindex]
    exact h.index_iff id place
  · rw [helements, hindex, List.lookup_cons]
    simp only [getElem?_concat_eq_some_iff]
    by_cases hnew : id = model.nextId
    · rw [hnew, beq_self_eq_true, Option.some.injEq]
      constructor
      · rintro rfl
        exact ⟨added, .inr ⟨rfl, rfl⟩, hid⟩
      · rintro ⟨element, hplace | ⟨rfl, -⟩, heq⟩
        · exact absurd heq (h.id_ne_nextId hroom (List.mem_of_getElem? hplace))
        · rfl
    · rw [beq_false_of_ne hnew, h.index_iff]
      constructor
      · rintro ⟨element, hplace, heq⟩
        exact ⟨element, .inl hplace, heq⟩
      · rintro ⟨element, hplace | ⟨-, rfl⟩, heq⟩
        · exact ⟨element, hplace, heq⟩
        · exact absurd (heq.symm.trans hid) hnew

/-- A new id is beyond all ids before it, as long as the counter does not come round. -/
theorem Numbered.add (addition : Addition) : (model.add addition).Numbered where
  nodup_ids := by
    rw [(ids_add model addition).nodup_iff, List.nodup_cons]
    exact ⟨h.nextId_not_mem hroom, h.nodup_ids⟩
  id_le_lastId := by
    intro id hmem
    rw [lastId_add]
    rw [(ids_add model addition).mem_iff, List.mem_cons] at hmem
    rcases hmem with rfl | hmem
    · exact UInt64.le_refl _
    · exact UInt64.le_of_lt (h.lt_nextId hroom id hmem)
  index_iff := h.index_add hroom addition

end Step

/-! ## Whole sequences -/

theorem numbered_empty : empty.Numbered where
  nodup_ids := List.nodup_nil
  id_le_lastId := List.forall_mem_nil _
  index_iff := by simp [empty]

theorem ofAdditions_concat (additions : List Addition) (addition : Addition) :
    ofAdditions (additions ++ [addition]) = (ofAdditions additions).add addition :=
  List.foldl_concat ..

/-- The counter counts the additions, and what they make is numbered. -/
theorem lastId_ofAdditions {additions : List Addition} (h : additions.length < UInt64.size) :
    (ofAdditions additions).lastId.toNat = additions.length := by
  induction additions using List.reverseRecOn with
  | nil => rfl
  | append_singleton additions addition ih =>
    rw [List.length_append, List.length_singleton] at h ⊢
    have hcount := ih (by omega)
    rw [ofAdditions_concat, lastId_add, toNat_nextId (by omega), hcount]

theorem numbered_ofAdditions {additions : List Addition} (h : additions.length < UInt64.size) :
    (ofAdditions additions).Numbered := by
  induction additions using List.reverseRecOn with
  | nil => exact numbered_empty
  | append_singleton additions addition ih =>
    rw [List.length_append, List.length_singleton] at h
    have hcount : (ofAdditions additions).lastId.toNat = additions.length :=
      lastId_ofAdditions (by omega)
    rw [ofAdditions_concat]
    exact (ih (by omega)).add (by omega) addition

/-! ## Lookups -/

theorem Numbered.element?_iff {model : Model} (h : model.Numbered) {id : ElementId}
    {element : Element} :
    model.element? id = some element ↔ element ∈ model.elements ∧ element.id = id := by
  unfold element?
  rw [Option.bind_eq_some_iff, List.mem_iff_getElem?]
  simp only [h.index_iff]
  constructor
  · rintro ⟨place, ⟨other, hother, hid⟩, helement⟩
    rw [hother] at helement
    obtain rfl := Option.some.inj helement
    exact ⟨⟨place, hother⟩, hid⟩
  · rintro ⟨⟨place, helement⟩, hid⟩
    exact ⟨place, ⟨element, helement, hid⟩, helement⟩

end Model

end ElementRules
