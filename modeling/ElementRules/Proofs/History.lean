import ElementRules.Proofs.Additions

/-!
# The history of a model

A model forgets nothing of what was added to it. `history` gives every addition its id, counted from
1, and all lists of the model can be read off it, in the order of addition (`Records`):

    (ofAdditions additions).Records (history additions)                     (records_ofAdditions)

One addition extends the lists at their ends, and a type also enters its family (`keptBy`). Together
with the distinct ids and the index that is in step (`Numbered`) this is all that can be said of a
model that was built (`ofAdditions_keeps_history`).
-/

namespace ElementRules.Model

/-- The name that the addition gives to an entity of the kind. -/
def Addition.nameOf? : Addition → EntityKind → Option String
  | .category name, .category => some name
  | .phase name, .phase => some name
  | .designOption name, .designOption => some name
  | .workset name, .workset => some name
  | .view name, .view => some name
  | _, _ => none

/-! ## Reading a history -/

/-- What was added, each thing under its id. -/
abbrev History := List (ElementId × Addition)

/-- The ids count the additions. -/
def history (additions : List Addition) : History :=
  additions.mapIdx fun place addition => (⟨.ofNat (place + 1)⟩, addition)

namespace History

def entity? (kind : EntityKind) (entry : ElementId × Addition) : Option Entity :=
  (entry.2.nameOf? kind).map (Entity.mk entry.1)

def level? : ElementId × Addition → Option Level
  | (id, .level name elevation) => some ⟨id, name, elevation⟩
  | _ => none

/-- Types are elements too. The id that an element carried before is not kept. -/
def element? : ElementId × Addition → Option Element
  | (id, .type name family) => some { Element.typeNamed name family with id }
  | (id, .element element) => some { element with id }
  | _ => none

/-- A family as it is added, without types. -/
def family? : ElementId × Addition → Option Family
  | (id, .family name inPlace) => some ⟨id, name, inPlace, []⟩
  | _ => none

/-- The id of a type that is added to the family. -/
def typeOf? (family : ElementId) : ElementId × Addition → Option ElementId
  | (id, .type _ owner) => if owner = some family then some id else none
  | _ => none

/-- The types of a family are those that are added to it later. -/
def families : History → List Family
  | [] => []
  | entry :: later =>
    match family? entry with
    | some family => { family with types := later.filterMap (typeOf? family.id) } :: families later
    | none => families later

end History

/-- The lists of the model are those of the history. -/
structure Records (model : Model) (history : History) : Prop where
  entities : ∀ kind, model.entities kind = history.filterMap (History.entity? kind)
  levels : model.levels = history.filterMap History.level?
  elements : model.elements = history.filterMap History.element?
  families : model.families = history.families

/-! ## Types enter their families -/

theorem filterMap_concat {α β : Type} (f : α → Option β) (entries : List α) (entry : α) :
    (entries ++ [entry]).filterMap f = entries.filterMap f ++ (f entry).toList := by
  rw [List.filterMap_append]
  cases hentry : f entry <;> simp [hentry]

/-- The family after one more addition. -/
def History.enter (entry : ElementId × Addition) (family : Family) : Family :=
  { family with types := family.types ++ (typeOf? family.id entry).toList }

theorem History.families_concat (history : History) (entry : ElementId × Addition) :
    History.families (history ++ [entry]) =
      history.families.map (enter entry) ++ (family? entry).toList := by
  induction history with
  | nil =>
    obtain ⟨id, addition⟩ := entry
    cases addition <;> rfl
  | cons first later ih =>
    rw [List.cons_append, families, families]
    cases family? first with
    | none => exact ih
    | some family =>
      dsimp only
      rw [ih, filterMap_concat]
      rfl

theorem registerType_cases (type family : ElementId) (families : List Family) :
    registerType type family families = families ∨
      ∃ before owner after, owner.id = family ∧ families = before ++ owner :: after ∧
        registerType type family families =
          before ++ { owner with types := owner.types ++ [type] } :: after := by
  induction families with
  | nil => exact .inl rfl
  | cons first rest ih =>
    unfold registerType
    split
    · next hfirst => exact .inr ⟨[], first, rest, hfirst, rfl, rfl⟩
    · rcases ih with hsame | ⟨before, owner, after, howner, hrest, hregistered⟩
      · rw [hsame]
        exact .inl rfl
      · rw [hregistered, hrest]
        exact .inr ⟨first :: before, owner, after, howner, rfl, rfl⟩

theorem History.enter_type (type : ElementId) (name : String) (owner : Option ElementId)
    (family : Family) :
    enter (type, .type name owner) family =
      if owner = some family.id then { family with types := family.types ++ [type] }
      else family := by
  unfold enter
  by_cases howner : owner = some family.id
  · simp [typeOf?, howner]
  · simp [typeOf?, howner]

/-- What is no type enters no family. -/
theorem History.enter_of_typeOf?_eq_none {entry : ElementId × Addition}
    (h : ∀ family, typeOf? family entry = none) (families : List Family) :
    families.map (enter entry) = families := by
  have henter : enter entry = id := by
    funext family
    simp [enter, h]
  rw [henter, List.map_id]

/-- Where ids are distinct, the first family with the id is the only one. -/
theorem registerType_eq_map (type : ElementId) (name : String) (family : ElementId)
    {families : List Family} (hdistinct : (families.map Family.id).Nodup) :
    registerType type family families =
      families.map (History.enter (type, .type name (some family))) := by
  induction families with
  | nil => rfl
  | cons first rest ih =>
    rw [List.map_cons, List.nodup_cons] at hdistinct
    rw [List.map_cons, History.enter_type]
    unfold registerType
    split
    · next hfirst =>
      have hothers : ∀ other ∈ rest, some family ≠ some other.id := by
        intro other hmem heq
        rw [hfirst, Option.some.inj heq] at hdistinct
        exact hdistinct.1 (List.mem_map_of_mem hmem)
      have hrest : rest.map (History.enter (type, .type name (some family))) = rest.map id := by
        refine List.map_congr_left ?_
        intro other hmem
        rw [History.enter_type, if_neg (hothers other hmem), id]
      rw [hrest, List.map_id, if_pos (congrArg some hfirst.symm)]
    · next hfirst =>
      rw [ih hdistinct.2, if_neg (fun heq => hfirst (Option.some.inj heq).symm)]

/-! ## One addition -/

section Step

variable (model : Model) (addition : Addition)

theorem entities_add (kind : EntityKind) :
    (model.add addition).entities kind =
      model.entities kind ++ (History.entity? kind (model.nextId, addition)).toList := by
  cases addition <;> cases kind <;> first | rfl | exact (List.append_nil _).symm

theorem levels_add :
    (model.add addition).levels =
      model.levels ++ (History.level? (model.nextId, addition)).toList := by
  cases addition <;> first | rfl | exact (List.append_nil _).symm

theorem elements_add :
    (model.add addition).elements =
      model.elements ++ (History.element? (model.nextId, addition)).toList := by
  cases addition <;> first | rfl | exact (List.append_nil _).symm

theorem families_add (hdistinct : (model.families.map Family.id).Nodup) :
    (model.add addition).families =
      model.families.map (History.enter (model.nextId, addition)) ++
        (History.family? (model.nextId, addition)).toList := by
  cases addition with
  | type name owner =>
    have hnone : History.family? (model.nextId, .type name owner) = none := rfl
    rw [hnone, Option.toList_none, List.append_nil]
    cases owner with
    | some family => exact registerType_eq_map model.nextId name family hdistinct
    | none => exact (History.enter_of_typeOf?_eq_none (fun _ => rfl) _).symm
  | family name inPlace =>
    rw [History.enter_of_typeOf?_eq_none fun _ => rfl]
    rfl
  | _ =>
    rw [History.enter_of_typeOf?_eq_none fun _ => rfl]
    exact (List.append_nil _).symm

/-- What the addition leaves as it was: everything, except that a type enters at most one family. -/
structure KeptBy : Prop where
  entities : ∀ kind, model.entities kind <+: (model.add addition).entities kind
  levels : model.levels <+: (model.add addition).levels
  elements : model.elements <+: (model.add addition).elements
  families : model.families <+: (model.add addition).families ∨
    ∃ name before family after, addition = .type name (some family.id) ∧
      model.families = before ++ family :: after ∧
      (model.add addition).families =
        before ++ { family with types := family.types ++ [model.nextId] } :: after

theorem keptBy : model.KeptBy addition where
  entities kind := by
    rw [entities_add]
    exact List.prefix_append _ _
  levels := by
    rw [levels_add]
    exact List.prefix_append _ _
  elements := by
    rw [elements_add]
    exact List.prefix_append _ _
  families := by
    cases addition with
    | family name inPlace => exact .inl (List.prefix_append _ _)
    | type name owner =>
      cases owner with
      | none => exact .inl (List.prefix_refl _)
      | some id =>
        rcases registerType_cases model.nextId id model.families with
          hsame | ⟨before, family, after, rfl, hfamilies, hregistered⟩
        · exact .inl ⟨[], (List.append_nil _).trans hsame.symm⟩
        · exact .inr ⟨name, before, family, after, rfl, hfamilies, hregistered⟩
    | _ => exact .inl (List.prefix_refl _)

variable {model}

theorem Records.add {history : History} (h : model.Records history)
    (hdistinct : (model.families.map Family.id).Nodup) :
    (model.add addition).Records (history ++ [(model.nextId, addition)]) where
  entities kind := by rw [entities_add, h.entities, filterMap_concat]
  levels := by rw [levels_add, h.levels, filterMap_concat]
  elements := by rw [elements_add, h.elements, filterMap_concat]
  families := by rw [families_add model addition hdistinct, h.families, History.families_concat]

end Step

/-! ## Whole sequences -/

/-- Of so many additions, the next one gets the next number. -/
theorem toNat_nextId_ofAdditions {additions : List Addition}
    (h : additions.length + 1 < UInt64.size) :
    (ofAdditions additions).nextId.val.toNat = additions.length + 1 := by
  have hcount : (ofAdditions additions).lastId.toNat = additions.length :=
    lastId_ofAdditions (by omega)
  rw [toNat_nextId (by omega), hcount]

theorem history_concat {additions : List Addition} (h : additions.length + 1 < UInt64.size)
    (addition : Addition) :
    history (additions ++ [addition]) =
      history additions ++ [((ofAdditions additions).nextId, addition)] := by
  have hnext : (ofAdditions additions).nextId = ⟨.ofNat (additions.length + 1)⟩ := by
    rw [← toNat_nextId_ofAdditions h, UInt64.ofNat_toNat]
  unfold history
  rw [List.mapIdx_concat, hnext]

theorem records_ofAdditions {additions : List Addition} (h : additions.length < UInt64.size) :
    (ofAdditions additions).Records (history additions) := by
  induction additions using List.reverseRecOn with
  | nil => exact ⟨fun kind => by cases kind <;> rfl, rfl, rfl, rfl⟩
  | append_singleton additions addition ih =>
    rw [List.length_append, List.length_singleton] at h
    have hnumbered : (ofAdditions additions).Numbered := numbered_ofAdditions (by omega)
    have hdistinct : ((ofAdditions additions).families.map Family.id).Nodup :=
      hnumbered.nodup_kind (by simp [idsByKind])
    rw [ofAdditions_concat, history_concat h]
    exact (ih (by omega)).add addition hdistinct

end ElementRules.Model
