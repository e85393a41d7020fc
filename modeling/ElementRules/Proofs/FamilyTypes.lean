import ElementRules.Proofs.History
import ElementRules.Proofs.NamedEntities

/-!
# Families and their types

That a type belongs to a family is held twice: the type names the family, and the family lists the
type. A rule on families finds the types by the names they carry, and the instances by the list, so
the two should agree. The list never says more than the types do, but it may say less. It is written
only when something is added as a type, to the family that is there at the time. So a type is left
out if it is added as an element, or before its family (`mem_types_iff`):

    type ∈ family.types  ↔  type was added as a type of the family, after the family

and the list is that of the types that name the family only if this is so of all of them
(`types_eq_typesOf_iff`). A rule on families selects the instances of a type that it selects if the
type was entered so, and otherwise none of them (`families_list_entered`); `narrow_unlisted` is a
model in which instances get lost.
-/

namespace ElementRules

namespace Model

/-- The ids of the types that name the family, in the order of the model. -/
def typesOf (model : Model) (family : ElementId) : List ElementId :=
  (model.elements.filter fun element => element.isType && element.family == some family).map
    Element.id

theorem mem_typesOf_iff {model : Model} {family type : ElementId} :
    type ∈ model.typesOf family ↔ ∃ element ∈ model.elements,
      element.isType = true ∧ element.family = some family ∧ element.id = type := by
  unfold typesOf
  simp only [List.mem_map, List.mem_filter, Bool.and_eq_true, beq_iff_eq, and_assoc]

theorem typesOf_sublist (model : Model) (family : ElementId) :
    (model.typesOf family).Sublist (model.elements.map Element.id) :=
  List.filter_sublist.map _

/-! ## What was added to a family -/

def Addition.isType : Addition → Bool
  | .type .. => true
  | _ => false

namespace History

/-- The id of a type that names the family, be it added as a type or as an element. -/
def memberOf? (family : ElementId) (entry : ElementId × Addition) : Option ElementId :=
  ((element? entry).filter fun element =>
    element.isType && element.family == some family).map Element.id

/-- The type was added as a type of the family, when the family was there. -/
def Enters (history : History) (family type : ElementId) : Prop :=
  type ∈ history.filterMap (typeOf? family) ∧ family.val < type.val

instance (history : History) (family type : ElementId) : Decidable (history.Enters family type) :=
  inferInstanceAs (Decidable (_ ∧ _))

theorem typeOf?_eq (family : ElementId) (entry : ElementId × Addition) :
    typeOf? family entry = if entry.2.isType then memberOf? family entry else none := by
  obtain ⟨id, addition⟩ := entry
  cases addition with
  | type name owner =>
    show (if owner = some family then some id else none) = memberOf? family (id, .type name owner)
    by_cases howner : owner = some family
    · simp [memberOf?, element?, Element.typeNamed, Option.filter, howner]
    · simp [memberOf?, element?, Element.typeNamed, Option.filter, howner]
  | _ => rfl

theorem typeOf?_eq_some {family type : ElementId} {entry : ElementId × Addition}
    (h : typeOf? family entry = some type) : entry.1 = type := by
  obtain ⟨id, addition⟩ := entry
  cases addition with
  | type name owner =>
    have hentered : (if owner = some family then some id else none) = some type := h
    split at hentered
    · exact Option.some.inj hentered
    · cases hentered
  | _ => cases h

/-- What was added as a type of the family is among all that names it, in the same order. -/
theorem filterMap_typeOf?_sublist (history : History) (family : ElementId) :
    (history.filterMap (typeOf? family)).Sublist (history.filterMap (memberOf? family)) := by
  have hsplit : typeOf? family =
      fun entry => if entry.2.isType then memberOf? family entry else none :=
    funext (typeOf?_eq family)
  rw [hsplit, ← List.filterMap_filter]
  exact List.filter_sublist.filterMap _

/-- A family lists the types that were added to it after it. -/
theorem exists_split {history : History} {family : Family} (h : family ∈ history.families) :
    ∃ before entry later, history = before ++ entry :: later ∧ entry.1 = family.id ∧
      entry.2.isType = false ∧ family.types = later.filterMap (typeOf? family.id) := by
  induction history with
  | nil => cases h
  | cons entry later ih =>
    obtain ⟨id, addition⟩ := entry
    have hlater (hmem : family ∈ History.families later) :
        ∃ before entry rest, (id, addition) :: later = before ++ entry :: rest ∧
          entry.1 = family.id ∧ entry.2.isType = false ∧
          family.types = rest.filterMap (typeOf? family.id) := by
      obtain ⟨before, entry, rest, rfl, hid, htype, htypes⟩ := ih hmem
      exact ⟨(id, addition) :: before, entry, rest, rfl, hid, htype, htypes⟩
    cases addition with
    | family name inPlace =>
      rcases List.mem_cons.1 h with rfl | hmem
      · exact ⟨[], _, later, rfl, rfl, rfl, rfl⟩
      · exact hlater hmem
    | _ => exact hlater h

/-- Ids count upwards, so what is after the family has a larger one. -/
theorem mem_types_iff {history : History}
    (hascending : history.Pairwise fun earlier later => earlier.1.val < later.1.val)
    {family : Family} (h : family ∈ history.families) (type : ElementId) :
    type ∈ family.types ↔ history.Enters family.id type := by
  obtain ⟨before, entry, later, rfl, hid, htype, htypes⟩ := exists_split h
  obtain ⟨-, hfamily, hacross⟩ := List.pairwise_append.1 hascending
  have hnone : typeOf? family.id entry = none := by
    rw [typeOf?_eq, htype, if_neg Bool.false_ne_true]
  have hsplit : type ∈ (before ++ entry :: later).filterMap (typeOf? family.id) ↔
      type ∈ before.filterMap (typeOf? family.id) ∨ type ∈ family.types := by
    rw [List.filterMap_append, List.filterMap_cons_none hnone, List.mem_append, htypes]
  unfold Enters
  rw [hsplit]
  constructor
  · intro hmem
    refine ⟨.inr hmem, ?_⟩
    rw [htypes] at hmem
    obtain ⟨added, hadded, hentered⟩ := List.mem_filterMap.1 hmem
    rw [← hid, ← typeOf?_eq_some hentered]
    exact (List.pairwise_cons.1 hfamily).1 added hadded
  · rintro ⟨hbefore | hmem, hlt⟩
    · obtain ⟨added, hadded, hentered⟩ := List.mem_filterMap.1 hbefore
      have hearlier : added.1.val < entry.1.val := hacross added hadded entry List.mem_cons_self
      rw [typeOf?_eq_some hentered, hid] at hearlier
      exact absurd hearlier (UInt64.lt_asymm hlt)
    · exact hmem

end History

/-! ## The list and the types -/

theorem history_ascending {additions : List Addition} (h : additions.length < UInt64.size) :
    (history additions).Pairwise fun earlier later => earlier.1.val < later.1.val := by
  rw [List.pairwise_iff_getElem]
  intro i j hi hj hlt
  unfold history at hi hj ⊢
  rw [List.length_mapIdx] at hi hj
  rw [List.getElem_mapIdx, List.getElem_mapIdx, UInt64.lt_iff_toNat_lt,
    UInt64.toNat_ofNat_of_lt' (by omega), UInt64.toNat_ofNat_of_lt' (by omega)]
  omega

theorem Records.typesOf_eq {model : Model} {history : History} (h : model.Records history)
    (family : ElementId) :
    model.typesOf family = history.filterMap (History.memberOf? family) := by
  unfold typesOf
  rw [h.elements, List.filter_filterMap, List.map_filterMap]
  rfl

/-- The list of a family against the types of the model that name the family. -/
structure ListsEntered (model : Model) (history : History) (family : Family) : Prop where
  sublist : family.types.Sublist (model.typesOf family.id)
  nodup : (model.typesOf family.id).Nodup
  mem_iff : ∀ type, type ∈ family.types ↔ history.Enters family.id type

theorem listsEntered {additions : List Addition} (hroom : additions.length < UInt64.size)
    {family : Family} (h : family ∈ (ofAdditions additions).families) :
    (ofAdditions additions).ListsEntered (history additions) family := by
  have hrecords := records_ofAdditions hroom
  rw [hrecords.families] at h
  constructor
  · obtain ⟨before, entry, later, hsplit, -, -, htypes⟩ := History.exists_split h
    have hlater : later.Sublist (history additions) := by
      rw [hsplit]
      exact (List.sublist_cons_self _ _).trans (List.sublist_append_right _ _)
    rw [htypes, hrecords.typesOf_eq]
    exact (History.filterMap_typeOf?_sublist later _).trans (hlater.filterMap _)
  · exact (numbered_ofAdditions hroom).nodup_elements.sublist (typesOf_sublist _ _)
  · exact History.mem_types_iff (history_ascending hroom) h

/-- The two agree if nothing that names the family has entered otherwise. -/
theorem ListsEntered.types_eq_typesOf_iff {model : Model} {history : History} {family : Family}
    (h : model.ListsEntered history family) :
    family.types = model.typesOf family.id ↔
      ∀ type ∈ model.typesOf family.id, history.Enters family.id type := by
  constructor
  · intro heq type hmem
    rw [← heq] at hmem
    exact (h.mem_iff type).1 hmem
  · intro hentered
    have hlisted : model.typesOf family.id ⊆ family.types :=
      fun type hmem => (h.mem_iff type).2 (hentered type hmem)
    exact h.sublist.eq_of_length_le (h.nodup.length_le_of_subset hlisted)

end Model

/-! ## Rules on families -/

section Selection

variable {family : Family} {element : Element}

theorem Family.owns_type_iff (h : element.isType = true) :
    family.Owns element ↔ element.family = some family.id := by
  simp [Owns, h]

theorem Family.owns_instance_iff {type : ElementId} (h : element.isType = false)
    (htype : element.type = some type) : family.Owns element ↔ type ∈ family.types := by
  simp [Owns, h, htype]

namespace Rule

variable {settings : Settings} {rule : Rule} {filter : Filter} {additions : List Model.Addition}

theorem compileFamily_of_compile {model : Model} (hcategory : rule.category = .family)
    (h : rule.compile settings model = .ok filter) :
    rule.compileFamily settings model = .ok filter := by
  unfold compile at h
  split at h
  · cases h
  · rwa [hcategory] at h

/-- An instance is selected if its type is, provided that the type is listed. -/
theorem selects_instance_iff (hroom : additions.length < UInt64.size)
    (hcategory : rule.category = .family)
    (hcompile : rule.compile settings (.ofAdditions additions) = .ok filter) {type : Element}
    (htype : type ∈ (Model.ofAdditions additions).types) (hinstance : element.isType = false)
    (hnames : element.type = some type.id) :
    filter.selects element = true ↔ filter.selects type = true ∧
      ∃ family, type.family = some family ∧
        (Model.history additions).Enters family type.id := by
  obtain ⟨hmem, hisType⟩ := List.mem_filter.1 htype
  have hfamily := compileFamily_of_compile hcategory hcompile
  rw [selects_family_iff hfamily element, selects_family_iff hfamily type]
  simp only [Family.owns_instance_iff hinstance hnames, Family.owns_type_iff hisType]
  constructor
  · rintro ⟨family, hin, hpasses, hlisted⟩
    have hlists := Model.listsEntered hroom hin
    obtain ⟨other, hother, -, howner, hid⟩ :=
      Model.mem_typesOf_iff.1 (hlists.sublist.subset hlisted)
    -- The list holds the id of some type that names the family; ids are distinct.
    rw [List.inj_on_of_nodup_map (Model.numbered_ofAdditions hroom).nodup_elements hother hmem hid]
      at howner
    exact ⟨⟨family, hin, hpasses, howner⟩, family.id, howner, (hlists.mem_iff _).1 hlisted⟩
  · rintro ⟨⟨family, hin, hpasses, howner⟩, owner, hnamed, hentered⟩
    obtain rfl : family.id = owner := Option.some.inj (howner.symm.trans hnamed)
    exact ⟨family, hin, hpasses, ((Model.listsEntered hroom hin).mem_iff _).2 hentered⟩

/-- **Families list the types that were entered in them.** The list of a family is in the order of
the model and without repeats, and all types on it name the family. On it are those that were added
as types of the family, after the family; it is complete exactly if all types that name the family
were. A rule on families selects an instance of a type exactly if it selects the type and the type
was entered so. The ids of the model are distinct as long as its counter of 64 bits has not come
round. -/
theorem families_list_entered (hroom : additions.length < UInt64.size) :
    let model := Model.ofAdditions additions
    let history := Model.history additions
    (∀ family ∈ model.families,
      family.types.Sublist (model.typesOf family.id) ∧ (model.typesOf family.id).Nodup ∧
        (∀ type, type ∈ family.types ↔ history.Enters family.id type) ∧
        (family.types = model.typesOf family.id ↔
          ∀ type ∈ model.typesOf family.id, history.Enters family.id type)) ∧
      ∀ (settings : Settings) (rule : Rule) (filter : Filter), rule.category = .family →
        rule.compile settings model = .ok filter →
        ∀ type ∈ model.types, ∀ element : Element, element.isType = false →
          element.type = some type.id →
          (filter.selects element = true ↔ filter.selects type = true ∧
            ∃ family, type.family = some family ∧ history.Enters family type.id) := by
  intro model history
  constructor
  · intro family hmem
    have hlists := Model.listsEntered hroom hmem
    exact ⟨hlists.sublist, hlists.nodup, hlists.mem_iff, hlists.types_eq_typesOf_iff⟩
  · intro settings rule filter hcategory hcompile type htype element hinstance hnames
    exact selects_instance_iff hroom hcategory hcompile htype hinstance hnames

/-- Three types of one family: one from before it, one that is added as its type, and one that is
added as an element. -/
def doorTypes : List Model.Addition :=
  [.type "Early" (some ⟨2⟩), .family "Door" false, .type "Wide" (some ⟨2⟩),
    .element (Element.typeNamed "Narrow" (some ⟨2⟩))]

/-- *Family is Door.* -/
def doorRule : Rule := (create (.ofNat 1) .family).edit (.value "Door")

def doorOf (type : ElementId) : Element := { Element.named "Leaf" with type := some type }

theorem doorTypes_list_entered :
    doorTypes.length < UInt64.size ∧ doorRule.category = .family ∧
      ∃ filter, doorRule.compile .standard (.ofAdditions doorTypes) = .ok filter ∧
        ∃ wide ∈ (Model.ofAdditions doorTypes).types, wide.name = "Wide" ∧
          filter.selects wide = true ∧ filter.selects (doorOf wide.id) = true := by
  have hroom : doorTypes.length < UInt64.size := by decide
  have hcategory : doorRule.category = .family := by decide +kernel
  have hwide : ∃ wide ∈ (Model.ofAdditions doorTypes).types, wide.name = "Wide" ∧
      (doorRule.compile .standard (.ofAdditions doorTypes)).map (·.selects wide) = .ok true ∧
        wide.family = some ⟨2⟩ ∧ (Model.history doorTypes).Enters ⟨2⟩ wide.id := by
    decide +kernel
  obtain ⟨wide, hmem, hname, hselected, hfamily, hentered⟩ := hwide
  obtain ⟨filter, hcompile, hselects⟩ := eq_ok_of_map hselected
  obtain ⟨-, hinstances⟩ := families_list_entered hroom
  refine ⟨hroom, hcategory, filter, hcompile, wide, hmem, hname, hselects.symm, ?_⟩
  rw [hinstances .standard doorRule filter hcategory hcompile wide hmem (doorOf wide.id) rfl rfl]
  exact ⟨hselects.symm, ⟨2⟩, hfamily, hentered⟩

/-- The family lists one type of the three that name it. The rule selects all three, but of the door
leaves only the wide one. -/
theorem narrow_unlisted :
    (Model.ofAdditions doorTypes).families = [⟨⟨2⟩, "Door", false, [⟨3⟩]⟩] ∧
      (Model.ofAdditions doorTypes).typesOf ⟨2⟩ = [⟨1⟩, ⟨3⟩, ⟨4⟩] ∧
      ∃ filter, doorRule.compile .standard (.ofAdditions doorTypes) = .ok filter ∧
        (Model.ofAdditions doorTypes).types.map filter.selects = [true, true, true] ∧
        [doorOf ⟨1⟩, doorOf ⟨3⟩, doorOf ⟨4⟩].map filter.selects = [false, true, false] := by
  have hselected : (doorRule.compile .standard (.ofAdditions doorTypes)).map (fun filter =>
      ((Model.ofAdditions doorTypes).types.map filter.selects,
        [doorOf ⟨1⟩, doorOf ⟨3⟩, doorOf ⟨4⟩].map filter.selects)) =
      .ok ([true, true, true], [false, true, false]) := by
    decide +kernel
  obtain ⟨filter, hcompile, hselects⟩ := eq_ok_of_map hselected
  rw [Prod.mk.injEq] at hselects
  exact ⟨by decide +kernel, by decide +kernel, filter, hcompile, hselects.1.symm, hselects.2.symm⟩

end Rule

end Selection

end ElementRules
