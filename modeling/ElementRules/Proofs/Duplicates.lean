import Mathlib.Data.List.Perm.Subperm
import Mathlib.Data.List.Nodup
import Mathlib.Data.List.Induction
import ElementRules.Proofs.Hosts

/-!
# Duplicated values

Elements are grouped by the text of their value, in one pass over the model; the groups of more than
one are the duplicates. After any number of elements the groups are exact (`Grouped`): no text has
two groups, every text has one, and a group holds the ids of the elements with its text.

    Grouped name elements (groupsByText name elements)                  (grouped_groupsByText)

Which groups come first does not matter, as the ids are sorted (`sharedIds_perm`). Under distinct
ids a group of more than one is a pair of elements, and so the rule for duplicates selects what it
should (`Reachable.selects_duplicated`):

    filter.selects element  ↔  ∃ other ∈ model.elements,
                                 other.id ≠ element.id ∧ element.SharesText other name

A number, an integer, a reference and a text are in one group if they are written alike. What has no
value is in none.
-/

namespace ElementRules

/-! ## Ascending ids -/

namespace ElementId

theorem pairwise_insertAscending (id : ElementId) {ids : List ElementId}
    (h : ids.Pairwise fun a b => a.val < b.val) :
    (insertAscending id ids).Pairwise fun a b => a.val < b.val := by
  induction ids with
  | nil => exact List.pairwise_singleton _ _
  | cons first rest ih =>
    obtain ⟨hfirst, hrest⟩ := List.pairwise_cons.1 h
    unfold insertAscending
    split
    · next hbefore =>
      refine List.pairwise_cons.2 ⟨?_, h⟩
      intro other hmem
      rcases List.mem_cons.1 hmem with rfl | hmem
      · exact hbefore
      · exact UInt64.lt_trans hbefore (hfirst other hmem)
    · next hafter =>
      split
      · exact h
      · next hother =>
        refine List.pairwise_cons.2 ⟨?_, ih hrest⟩
        intro other hmem
        rcases mem_insertAscending.1 hmem with rfl | hmem
        · refine UInt64.lt_of_le_of_ne (UInt64.not_lt.1 hafter) ?_
          intro heq
          exact hother (congrArg ElementId.mk heq.symm)
        · exact hfirst other hmem

theorem pairwise_ascending (ids : List ElementId) :
    (ascending ids).Pairwise fun a b => a.val < b.val := by
  induction ids with
  | nil => exact List.Pairwise.nil
  | cons id ids ih => exact pairwise_insertAscending id ih

/-- The ascending list depends only on which ids there are. -/
theorem ascending_congr {ids others : List ElementId} (h : ∀ id, id ∈ ids ↔ id ∈ others) :
    ascending ids = ascending others := by
  have hnodup (ids : List ElementId) : (ascending ids).Nodup := by
    refine List.Pairwise.imp ?_ (pairwise_ascending ids)
    rintro a b hlt rfl
    exact UInt64.lt_irrefl _ hlt
  have hperm : (ascending ids).Perm (ascending others) := by
    rw [List.perm_ext_iff_of_nodup (hnodup ids) (hnodup others)]
    intro id
    rw [mem_ascending, mem_ascending, h]
  refine hperm.eq_of_pairwise ?_ (pairwise_ascending ids) (pairwise_ascending others)
  intro a b _ _ hab hba
  exact absurd (UInt64.lt_trans hab hba) (UInt64.lt_irrefl _)

end ElementId

/-! ## The text of a value -/

namespace Element

/-- The parameter has a value, neither empty nor an empty text, and it is written like this. -/
def HasText (element : Element) (name text : String) : Prop :=
  ∃ value, element.parameter? name = some value ∧ value ≠ .empty ∧ value ≠ .text "" ∧
    value.asText = text

/-- Both have values for the parameter, and these are written alike. -/
def SharesText (element other : Element) (name : String) : Prop :=
  ∃ text, element.HasText name text ∧ other.HasText name text

end Element

theorem ParamValue.hasValue_iff {value : ParamValue} :
    value.hasValue = true ↔ value ≠ .empty ∧ value ≠ .text "" := by
  cases value <;> simp [hasValue]

namespace Rule

theorem valueText?_eq_some_iff {name text : String} {element : Element} :
    valueText? name element = some text ↔ element.HasText name text := by
  unfold valueText? Element.HasText
  cases element.parameter? name with
  | none => simp
  | some value => simp [ParamValue.hasValue_iff, and_assoc]

/-! ## The groups -/

/-- The ids of the elements with the text, in the order of the elements. -/
def idsWithText (name text : String) (elements : List Element) : List ElementId :=
  (elements.filter fun element => valueText? name element == some text).map (·.id)

/-- The groups of the elements: exactly one for each text, with the ids of all elements that have
it. -/
structure Grouped (name : String) (elements : List Element) (groups : List TextGroup) : Prop where
  nodup_texts : (groups.map (·.text)).Nodup
  ids_eq : ∀ group ∈ groups, group.ids = idsWithText name group.text elements
  exists_group : ∀ element ∈ elements, ∀ text, valueText? name element = some text →
    text ∈ groups.map (·.text)

section Groups

variable {name text : String} {id : ElementId} {element : Element} {elements : List Element}
variable {groups others : List TextGroup}

theorem mem_idsWithText_iff :
    id ∈ idsWithText name text elements ↔
      ∃ element ∈ elements, valueText? name element = some text ∧ element.id = id := by
  unfold idsWithText
  simp only [List.mem_map, List.mem_filter, beq_iff_eq, and_assoc]

theorem idsWithText_concat_of_eq (h : valueText? name element = some text) :
    idsWithText name text (elements ++ [element]) =
      idsWithText name text elements ++ [element.id] := by
  simp [idsWithText, h]

theorem idsWithText_concat_of_ne (h : valueText? name element ≠ some text) :
    idsWithText name text (elements ++ [element]) = idsWithText name text elements := by
  simp [idsWithText, h]

/-- An id goes to the end of the group of its text, or into a new group after all others. -/
theorem enterGroup_cases (text : String) (id : ElementId) (groups : List TextGroup) :
    (∃ before ids after, groups = before ++ ⟨text, ids⟩ :: after ∧
        enterGroup text id groups = before ++ ⟨text, ids ++ [id]⟩ :: after) ∨
      text ∉ groups.map (·.text) ∧ enterGroup text id groups = groups ++ [⟨text, [id]⟩] := by
  induction groups with
  | nil => exact .inr ⟨List.not_mem_nil, rfl⟩
  | cons group rest ih =>
    unfold enterGroup
    split
    · next hsame =>
      obtain rfl := hsame
      exact .inl ⟨[], group.ids, rest, rfl, rfl⟩
    · next hother =>
      rcases ih with ⟨before, ids, after, hrest, henter⟩ | ⟨hnew, henter⟩
      · refine .inl ⟨group :: before, ids, after, ?_, ?_⟩
        · rw [hrest, List.cons_append]
        · rw [henter, List.cons_append]
      · refine .inr ⟨?_, ?_⟩
        · rw [List.map_cons, List.mem_cons, not_or]
          exact ⟨Ne.symm hother, hnew⟩
        · rw [henter, List.cons_append]

theorem texts_enterGroup (text : String) (id : ElementId) (groups : List TextGroup) :
    (enterGroup text id groups).map (·.text) =
      if text ∈ groups.map (·.text) then groups.map (·.text)
      else groups.map (·.text) ++ [text] := by
  rcases enterGroup_cases text id groups with ⟨before, ids, after, rfl, henter⟩ | ⟨hnew, henter⟩
  · rw [henter, if_pos (by simp)]
    simp only [List.map_append, List.map_cons]
  · rw [henter, if_neg hnew, List.map_append, List.map_singleton]

/-- Each group is an old one of another text, or it is that of the text, longer by one. -/
theorem cases_of_mem_enterGroup (hnodup : (groups.map (·.text)).Nodup) {group : TextGroup}
    (hmem : group ∈ enterGroup text id groups) :
    (group ∈ groups ∧ group.text ≠ text) ∨
      (∃ ids, ⟨text, ids⟩ ∈ groups ∧ group = ⟨text, ids ++ [id]⟩) ∨
      (text ∉ groups.map (·.text) ∧ group = ⟨text, [id]⟩) := by
  rcases enterGroup_cases text id groups with ⟨before, ids, after, rfl, henter⟩ | ⟨hnew, henter⟩
  · rw [List.map_append, List.map_cons, List.nodup_middle, List.nodup_cons,
      ← List.map_append] at hnodup
    rw [henter, List.mem_append, List.mem_cons] at hmem
    have hapart : text ∉ (before ++ after).map (·.text) := hnodup.1
    have hother (hrest : group ∈ before ++ after) : group.text ≠ text := by
      rintro rfl
      exact hapart (List.mem_map_of_mem hrest)
    rcases hmem with hbefore | rfl | hafter
    · exact .inl ⟨List.mem_append_left _ hbefore, hother (List.mem_append_left _ hbefore)⟩
    · exact .inr (.inl ⟨ids, by simp, rfl⟩)
    · exact .inl ⟨List.mem_append_right _ (List.mem_cons_of_mem _ hafter),
        hother (List.mem_append_right _ hafter)⟩
  · rw [henter, List.mem_append, List.mem_singleton] at hmem
    rcases hmem with hold | rfl
    · refine .inl ⟨hold, ?_⟩
      rintro rfl
      exact hnew (List.mem_map_of_mem hold)
    · exact .inr (.inr ⟨hnew, rfl⟩)

/-! ## The loop -/

/-- An element with a value enters its group, and the groups stay exact. -/
theorem Grouped.enter (h : Grouped name elements groups)
    (htext : valueText? name element = some text) :
    Grouped name (elements ++ [element]) (enterGroup text element.id groups) := by
  obtain ⟨hnodup, hids, hexists⟩ := h
  constructor
  · rw [texts_enterGroup]
    split
    · exact hnodup
    · next hnew =>
      rw [← List.concat_eq_append]
      exact hnodup.concat hnew
  · intro group hmem
    rcases cases_of_mem_enterGroup hnodup hmem with ⟨hold, hne⟩ | ⟨ids, hold, rfl⟩ | ⟨hnew, rfl⟩
    · rw [hids group hold, idsWithText_concat_of_ne]
      rw [htext]
      exact fun hsame => hne (Option.some.inj hsame).symm
    · rw [idsWithText_concat_of_eq htext, ← hids ⟨text, ids⟩ hold]
    · -- No element had the text before, or there would have been a group for it.
      have hnone : idsWithText name text elements = [] := by
        rw [List.eq_nil_iff_forall_not_mem]
        intro id hid
        obtain ⟨known, hknown, hsame, -⟩ := mem_idsWithText_iff.1 hid
        exact hnew (hexists known hknown text hsame)
      rw [idsWithText_concat_of_eq htext, hnone, List.nil_append]
  · intro known hknown knownText hknownText
    have hgrown : knownText ∈ groups.map (·.text) ∨ knownText = text := by
      rcases List.mem_append.1 hknown with hold | hnew
      · exact .inl (hexists known hold knownText hknownText)
      · rw [List.mem_singleton.1 hnew, htext] at hknownText
        exact .inr (Option.some.inj hknownText).symm
    rw [texts_enterGroup]
    split
    · next hin =>
      rcases hgrown with hold | rfl
      · exact hold
      · exact hin
    · rw [List.mem_append, List.mem_singleton]
      exact hgrown

/-- An element without a value enters no group. -/
theorem Grouped.skip (h : Grouped name elements groups) (hnone : valueText? name element = none) :
    Grouped name (elements ++ [element]) groups := by
  obtain ⟨hnodup, hids, hexists⟩ := h
  refine ⟨hnodup, ?_, ?_⟩
  · intro group hmem
    rw [idsWithText_concat_of_ne (by rw [hnone]; nofun), hids group hmem]
  · intro known hknown text htext
    rcases List.mem_append.1 hknown with hold | hnew
    · exact hexists known hold text htext
    · rw [List.mem_singleton.1 hnew, hnone] at htext
      cases htext

/-- One round of the loop. -/
theorem Grouped.step (h : Grouped name elements groups) (element : Element) :
    Grouped name (elements ++ [element]) (groupElement name groups element) := by
  unfold groupElement
  cases htext : valueText? name element with
  | none => exact h.skip htext
  | some text => exact h.enter htext

/-- The groups of a whole list are exact. The induction is from the end, where the loop is. -/
theorem grouped_groupsByText (name : String) (elements : List Element) :
    Grouped name elements (groupsByText name elements) := by
  induction elements using List.reverseRecOn with
  | nil =>
    exact ⟨List.nodup_nil, fun _ hmem => absurd hmem List.not_mem_nil,
      fun _ hmem => absurd hmem List.not_mem_nil⟩
  | append_singleton elements element ih =>
    unfold groupsByText at ih ⊢
    rw [List.foldl_append]
    exact ih.step element

/-- An id is shared if its element is not the only one with its text. -/
theorem Grouped.mem_sharedIds_iff (h : Grouped name elements groups) :
    id ∈ sharedIds groups ↔
      ∃ text, id ∈ idsWithText name text elements ∧
        1 < (idsWithText name text elements).length := by
  unfold sharedIds
  simp only [ElementId.mem_ascending, List.mem_flatMap, List.mem_filter, decide_eq_true_eq]
  constructor
  · rintro ⟨group, ⟨hmem, hseveral⟩, hid⟩
    rw [h.ids_eq group hmem] at hseveral hid
    exact ⟨group.text, hid, hseveral⟩
  · rintro ⟨text, hid, hseveral⟩
    obtain ⟨element, helement, htext, -⟩ := mem_idsWithText_iff.1 hid
    obtain ⟨group, hmem, rfl⟩ := List.mem_map.1 (h.exists_group element helement text htext)
    rw [← h.ids_eq group hmem] at hseveral hid
    exact ⟨group, ⟨hmem, hseveral⟩, hid⟩

/-- The order in which groups are listed leaves no trace. -/
theorem sharedIds_perm (h : others.Perm groups) : sharedIds others = sharedIds groups := by
  unfold sharedIds
  apply ElementId.ascending_congr
  intro id
  exact ((h.filter _).flatMap_right _).mem_iff

end Groups

/-! ## Duplicates -/

section Duplicates

variable {model : Model} {name text : String} {element : Element}

theorem mem_duplicatedIds_iff_idsWithText {id : ElementId} :
    id ∈ duplicatedIds model name ↔
      ∃ text, id ∈ idsWithText name text model.elements ∧
        1 < (idsWithText name text model.elements).length :=
  (grouped_groupsByText name model.elements).mem_sharedIds_iff

/-- Under distinct ids, several ids with a text are another element with it. -/
theorem one_lt_length_idsWithText_iff {elements : List Element}
    (hdistinct : (elements.map (·.id)).Nodup) {id : ElementId}
    (hid : id ∈ idsWithText name text elements) :
    1 < (idsWithText name text elements).length ↔
      ∃ other ∈ elements, other.id ≠ id ∧ valueText? name other = some text := by
  have hnodup : (idsWithText name text elements).Nodup :=
    hdistinct.sublist (List.filter_sublist.map _)
  have hrest : 1 < (idsWithText name text elements).length ↔
      ∃ otherId, otherId ∈ (idsWithText name text elements).erase id := by
    rw [← List.length_pos_iff_exists_mem, List.length_erase_of_mem hid, Nat.sub_pos_iff_lt]
  rw [hrest]
  simp only [hnodup.mem_erase_iff, mem_idsWithText_iff]
  constructor
  · rintro ⟨otherId, hother, other, hmem, htext, rfl⟩
    exact ⟨other, hmem, hother, htext⟩
  · rintro ⟨other, hmem, hother, htext⟩
    exact ⟨other.id, hother, other, hmem, htext, rfl⟩

/-- An element is a duplicate if another one has a value that is written alike. -/
theorem mem_duplicatedIds_iff_sharesText (hdistinct : (model.elements.map (·.id)).Nodup)
    (hmem : element ∈ model.elements) :
    element.id ∈ duplicatedIds model name ↔
      ∃ other ∈ model.elements, other.id ≠ element.id ∧ element.SharesText other name := by
  rw [mem_duplicatedIds_iff_idsWithText]
  constructor
  · rintro ⟨text, hid, hseveral⟩
    obtain ⟨other, hother, hne, hotherText⟩ :=
      (one_lt_length_idsWithText_iff hdistinct hid).1 hseveral
    obtain ⟨same, hsame, htext, hid⟩ := mem_idsWithText_iff.1 hid
    rw [List.inj_on_of_nodup_map hdistinct hsame hmem hid] at htext
    exact ⟨other, hother, hne, text, valueText?_eq_some_iff.1 htext,
      valueText?_eq_some_iff.1 hotherText⟩
  · rintro ⟨other, hother, hne, text, htext, hotherText⟩
    rw [← valueText?_eq_some_iff] at htext hotherText
    have hid : element.id ∈ idsWithText name text model.elements :=
      mem_idsWithText_iff.2 ⟨element, hmem, htext, rfl⟩
    exact ⟨text, hid, (one_lt_length_idsWithText_iff hdistinct hid).2
      ⟨other, hother, hne, hotherText⟩⟩

end Duplicates

/-- **Duplicates are pairs.** A reachable rule for the duplicated values of a parameter compiles in
every model that is built by additions, and with all settings. It selects the elements of the model
that have a value for which another element has one that is written alike; with an element, it
selects such a partner. Its filter is `never` exactly if there is no such pair, and it comes out the
same in whatever order the groups are visited. The ids of the model are distinct as long as its
counter of 64 bits has not come round. -/
theorem Reachable.selects_duplicated {rule : Rule} (h : rule.Reachable)
    (hcategory : rule.category ∈ [.parameter, .apiParameter])
    (hcondition : rule.condition = .duplicated) (hproperty : rule.property ≠ "")
    (settings : Settings) {additions : List Model.Addition}
    (hroom : additions.length < UInt64.size) :
    let name := rule.property
    let elements := (Model.ofAdditions additions).elements
    ∃ filter, rule.compile settings (.ofAdditions additions) = .ok filter ∧
      (∀ element ∈ elements, filter.selects element = true ↔
        ∃ other ∈ elements, other.id ≠ element.id ∧ element.SharesText other name) ∧
      (∀ element ∈ elements, filter.selects element = true →
        ∃ partner ∈ elements, partner.id ≠ element.id ∧ element.SharesText partner name ∧
          filter.selects partner = true) ∧
      (filter = .never ↔ ∀ element ∈ elements, ∀ other ∈ elements,
        other.id ≠ element.id → ¬ element.SharesText other name) ∧
      ∀ groups, groups.Perm (groupsByText name elements) → filter = oneOf (sharedIds groups) := by
  intro name elements
  set model := Model.ofAdditions additions
  have hnumbered : model.Numbered := Model.numbered_ofAdditions hroom
  have hselects (element : Element) (hmem : element ∈ elements) :
      (oneOf (duplicatedIds model name)).selects element = true ↔
        ∃ other ∈ elements, other.id ≠ element.id ∧ element.SharesText other name := by
    rw [selects_oneOf, List.contains_iff_mem]
    exact mem_duplicatedIds_iff_sharesText hnumbered.nodup_elements hmem
  refine ⟨oneOf (duplicatedIds model name), ?_, hselects, ?_, ?_, ?_⟩
  · rw [h.grammatical.compile_parameter hcategory]
    unfold compileParameter
    rw [if_neg (mt String.isEmpty_iff.1 hproperty), if_pos (beq_iff_eq.2 hcondition)]
  · intro element hmem hselected
    obtain ⟨partner, hpartner, hne, text, htext, hpartnerText⟩ :=
      (hselects element hmem).1 hselected
    have hback : partner.SharesText element name := ⟨text, hpartnerText, htext⟩
    exact ⟨partner, hpartner, hne, ⟨text, htext, hpartnerText⟩,
      (hselects partner hpartner).2 ⟨element, hmem, hne.symm, hback⟩⟩
  · rw [oneOf_eq_never_iff, List.eq_nil_iff_forall_not_mem]
    constructor
    · intro hnone element hmem other hother hne hshares
      refine hnone element.id ?_
      rw [mem_duplicatedIds_iff_sharesText hnumbered.nodup_elements hmem]
      exact ⟨other, hother, hne, hshares⟩
    · intro hnone id hid
      obtain ⟨text, hsame, -⟩ := mem_duplicatedIds_iff_idsWithText.1 hid
      obtain ⟨element, hmem, -, rfl⟩ := mem_idsWithText_iff.1 hsame
      rw [mem_duplicatedIds_iff_sharesText hnumbered.nodup_elements hmem] at hid
      obtain ⟨other, hother, hne, hshares⟩ := hid
      exact hnone element hmem other hother hne hshares
  · intro groups hperm
    rw [sharedIds_perm hperm]
    rfl

/-- An element with a mark. -/
def marked (mark : ParamValue) : Element :=
  { Element.named "Wall" with parameters := Parameters.empty.insert "Mark" mark }

/-- Three marks that are written alike, another one, and three that are no values. -/
def markedParts : List Model.Addition :=
  [.integer 3, .reference ⟨3⟩, .text "3", .text "4", .text "", .text "", .empty].map
    fun mark => .element (marked mark)

/-- *Mark is duplicated.* -/
def sharedMarkRule : Rule :=
  (((create (.ofNat 1) .parameter).apply (.property "Mark")).1.apply (.condition .duplicated)).1

theorem sharedMarkRule_selects_duplicated :
    sharedMarkRule.Reachable ∧ sharedMarkRule.category ∈ [.parameter, .apiParameter] ∧
      sharedMarkRule.condition = .duplicated ∧ sharedMarkRule.property ≠ "" ∧
      markedParts.length < UInt64.size ∧
      ∃ filter, sharedMarkRule.compile .standard (.ofAdditions markedParts) = .ok filter ∧
        filter.selects { marked (.integer 3) with id := ⟨1⟩ } = true ∧
        filter.selects { marked (.text "4") with id := ⟨4⟩ } = false ∧
        filter.selects { marked (.text "") with id := ⟨5⟩ } = false := by
  have hreachable : sharedMarkRule.Reachable := .changed _ (.changed _ (.created _ _))
  have hcategory : sharedMarkRule.category ∈ [.parameter, .apiParameter] := by decide +kernel
  have hcondition : sharedMarkRule.condition = .duplicated := by decide +kernel
  have hproperty : sharedMarkRule.property = "Mark" := by decide +kernel
  have hnamed : sharedMarkRule.property ≠ "" := by
    rw [hproperty]
    decide
  have hroom : markedParts.length < UInt64.size := by decide
  obtain ⟨filter, hcompile, hselects, -⟩ :=
    hreachable.selects_duplicated hcategory hcondition hnamed .standard hroom
  refine ⟨hreachable, hcategory, hcondition, hnamed, hroom, filter, hcompile, ?_, ?_, ?_⟩
  · rw [hselects _ (by decide +kernel), hproperty]
    refine ⟨{ marked (.reference ⟨3⟩) with id := ⟨2⟩ }, by decide +kernel, by decide, "3", ?_, ?_⟩
    · exact ⟨.integer 3, by decide +kernel, nofun, nofun, by decide +kernel⟩
    · exact ⟨.reference ⟨3⟩, by decide +kernel, nofun, nofun, by decide +kernel⟩
  · rw [← Bool.not_eq_true, hselects _ (by decide +kernel), hproperty]
    rintro ⟨other, hmem, hne, text, htext, hotherText⟩
    rw [← valueText?_eq_some_iff] at htext hotherText
    have halone : ∀ other ∈ (Model.ofAdditions markedParts).elements, other.id ≠ ⟨4⟩ →
        valueText? "Mark" other ≠ valueText? "Mark" { marked (.text "4") with id := ⟨4⟩ } := by
      decide +kernel
    exact halone other hmem hne (hotherText.trans htext.symm)
  · rw [← Bool.not_eq_true, hselects _ (by decide +kernel), hproperty]
    rintro ⟨other, -, -, text, htext, -⟩
    rw [← valueText?_eq_some_iff] at htext
    have hnone : valueText? "Mark" { marked (.text "") with id := ⟨5⟩ } = none := by
      decide +kernel
    rw [hnone] at htext
    cases htext

end Rule

end ElementRules
