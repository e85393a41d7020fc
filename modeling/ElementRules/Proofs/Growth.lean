import ElementRules.Proofs.FamilyTypes
import ElementRules.Proofs.Hosts

/-!
# Models that grow

A model may get more elements and types while rules are in use. The filters of some rules change by
that: a new type is a new leaf for a rule on types or families, a new element may be the first of
its class, or the host of others. But all of it is about the new element. What was in the model
before is selected by the new filter exactly if it was by the old one, unless it had named the new
id in advance (`Grammatical.selects_add`, `Grammatical.selects_ofAdditions_append`):

    element ∈ model.elements → ¬ element.DependsOn model.nextId →
      grownFilter.selects element = filter.selects element

Whether there is a filter at all is not for the model to decide, so either both compile or both fail
(`Reachable.verdicts_survive`). The search for duplicates is left out: a new element can make a
duplicate of an old one.
-/

namespace ElementRules

/-- The element goes by the one with this id: it is an instance of it, or it is hosted by it. -/
def Element.DependsOn (element : Element) (id : ElementId) : Prop :=
  element.type = some id ∨ element.host = some id

instance (element : Element) (id : ElementId) : Decidable (element.DependsOn id) :=
  inferInstanceAs (Decidable (_ ∨ _))

namespace Model

/-- What is added is an element or a type. -/
def Addition.IsElement : Addition → Prop
  | .type .. | .element _ => True
  | _ => False

section Step

variable {model : Model} {addition : Addition}

/-- The lists of named entities and of levels stay as they are. -/
theorem Addition.IsElement.keeps_entities (h : addition.IsElement) (model : Model) :
    (∀ kind, (model.add addition).entities kind = model.entities kind) ∧
      (model.add addition).levels = model.levels := by
  cases addition with
  | type | element => exact ⟨fun kind => by cases kind <;> rfl, rfl⟩
  | _ => exact h.elim

theorem exists_added (h : addition.IsElement) (model : Model) :
    ∃ added : Element, added.id = model.nextId ∧
      (model.add addition).elements = model.elements ++ [added] := by
  cases addition with
  | type name family => exact ⟨{ Element.typeNamed name family with id := model.nextId }, rfl, rfl⟩
  | element element => exact ⟨{ element with id := model.nextId }, rfl, rfl⟩
  | _ => exact h.elim

/-- A search among the elements that does not come upon the new one has the same outcome. -/
theorem exists_mem_elements_add (h : addition.IsElement) {asked : Element → Prop}
    (hnew : ∀ added : Element, added.id = model.nextId → ¬ asked added) :
    (∃ element ∈ (model.add addition).elements, asked element) ↔
      ∃ element ∈ model.elements, asked element := by
  obtain ⟨added, hid, helements⟩ := exists_added h model
  rw [helements]
  constructor
  · rintro ⟨element, hmem, hasked⟩
    rcases List.mem_append.1 hmem with hmem | hmem
    · exact ⟨element, hmem, hasked⟩
    · rw [List.mem_singleton.1 hmem] at hasked
      exact absurd hasked (hnew added hid)
  · rintro ⟨element, hmem, hasked⟩
    exact ⟨element, List.mem_append_left _ hmem, hasked⟩

/-- Elements stay, whatever is added. -/
theorem elements_ofAdditions_append (additions more : List Addition) :
    (ofAdditions additions).elements <+: (ofAdditions (additions ++ more)).elements := by
  induction more using List.reverseRecOn with
  | nil => simp
  | append_singleton more addition ih =>
    rw [← List.append_assoc, ofAdditions_concat]
    exact ih.trans (keptBy _ addition).elements

/-- What depends on nothing but the elements that are there does not depend on the next id. -/
theorem Numbered.not_dependsOn_nextId (h : model.Numbered)
    (hroom : model.lastId.toNat + 1 < UInt64.size) (haddition : addition.IsElement)
    {element : Element} (hfree : ∀ other ∈ (model.add addition).elements,
      element.DependsOn other.id → other ∈ model.elements) :
    ¬ element.DependsOn model.nextId := by
  obtain ⟨added, hid, helements⟩ := exists_added haddition model
  intro hdepends
  rw [← hid] at hdepends
  have hnew : added ∈ (model.add addition).elements := by simp [helements]
  exact h.id_ne_nextId hroom (hfree added hnew hdepends) hid

/-- A family that takes in a new type takes in nothing of what was there. -/
theorem History.owns_enter_iff {family : Family} {element : Element} {id : ElementId}
    (h : ¬ element.DependsOn id) :
    (enter (id, addition) family).Owns element ↔ family.Owns element := by
  have hlisted : (∃ type ∈ (enter (id, addition) family).types, element.type = some type) ↔
      ∃ type ∈ family.types, element.type = some type := by
    constructor
    · rintro ⟨type, hmem, hnames⟩
      rcases List.mem_append.1 hmem with hmem | hmem
      · exact ⟨type, hmem, hnames⟩
      · have hentered : id = type := typeOf?_eq_some (Option.mem_toList.1 hmem)
        rw [← hentered] at hnames
        exact absurd (.inl hnames) h
    · rintro ⟨type, hmem, hnames⟩
      exact ⟨type, List.mem_append_left _ hmem, hnames⟩
  unfold Family.Owns
  rw [hlisted]
  exact Iff.rfl

end Step

end Model

namespace Rule

section Growth

variable {settings : Settings} {model : Model} {addition : Model.Addition} {rule : Rule}
variable {filter grownFilter : Filter} {element : Element}

/-! ## Each category -/

/-- The categories that look at the elements or at the lists of families. -/
def elementCategories : List Category := [.family, .elementType, .apiType, .hostParameter]

/-- The other rules look at entities at most, unless they search for duplicates. -/
theorem compile_congr {other : Model}
    (hentities : ∀ kind, other.entities kind = model.entities kind)
    (hlevels : other.levels = model.levels) (hcategory : rule.category ∉ elementCategories)
    (hcondition : rule.condition ≠ .duplicated) :
    rule.compile settings other = rule.compile settings model := by
  have hphases : other.phases = model.phases := hentities .phase
  unfold compile
  cases hcase : rule.category with
  | modelCategory =>
    have hcategories : other.categories = model.categories := hentities .category
    simp only [compileCategory, hcategories]
  | level => simp only [compileLevel, levelsByElevation, hlevels]
  | phaseCreated | phaseDemolished => simp only [compilePhase, hphases]
  | phaseStatus => simp only [compilePhaseStatus, hphases]
  | designOption =>
    have hoptions : other.designOptions = model.designOptions := hentities .designOption
    simp only [compileDesignOption, optionsNamed, hoptions]
  | view =>
    have hviews : other.views = model.views := hentities .view
    simp only [compileView, hviews]
  | workset =>
    have hworksets : other.worksets = model.worksets := hentities .workset
    simp only [compileWorkset, hworksets]
  | parameter | apiParameter =>
    have hduplicated : ¬ (rule.condition == .duplicated) = true := mt beq_iff_eq.1 hcondition
    simp only [compileParameter, if_neg hduplicated]
  | typeOrInstance | host | structuralType | room | space | redundant => rfl
  | family | elementType | apiType | hostParameter =>
    rw [hcase] at hcategory
    exact absurd (by decide) hcategory

theorem selects_family_add (haddition : addition.IsElement)
    (hdistinct : (model.families.map Family.id).Nodup)
    (h : rule.compileFamily settings model = .ok filter)
    (hgrown : rule.compileFamily settings (model.add addition) = .ok grownFilter)
    (hfree : ¬ element.DependsOn model.nextId) :
    grownFilter.selects element = true ↔ filter.selects element = true := by
  have hnone : Model.History.family? (model.nextId, addition) = none := by
    cases addition with
    | type | element => rfl
    | _ => exact haddition.elim
  rw [selects_family_iff hgrown, selects_family_iff h, Model.families_add model addition hdistinct,
    hnone, Option.toList_none, List.append_nil]
  simp only [List.mem_map, exists_exists_and_eq_and, Model.History.owns_enter_iff hfree]
  exact Iff.rfl

theorem selects_type_add (haddition : addition.IsElement)
    (h : rule.compileType settings model = .ok filter)
    (hgrown : rule.compileType settings (model.add addition) = .ok grownFilter)
    (hold : element.id ≠ model.nextId) (hfree : ¬ element.DependsOn model.nextId) :
    grownFilter.selects element = true ↔ filter.selects element = true := by
  rw [selects_type_iff hgrown, selects_type_iff h]
  simp only [Model.types, List.mem_filter, and_assoc]
  apply Model.exists_mem_elements_add haddition
  rintro added hid ⟨-, -, hsame | hinstance⟩
  · exact hold (hsame.trans hid)
  · rw [hid] at hinstance
    exact hfree (.inl hinstance)

/-- Of a class that no element has, no element is selected. -/
theorem selects_class_iff (h : rule.compileClass model = .ok filter)
    (hmem : element ∈ model.elements) :
    filter.selects element = true ↔ element.className = Text.trim rule.value := by
  obtain ⟨-, rfl⟩ | ⟨hmissing, rfl⟩ := found_of_class h
  · exact beq_iff_eq
  · constructor
    · nofun
    · intro hclass
      exact absurd hclass (hmissing element hmem)

theorem selects_host_iff (hnumbered : model.Numbered) (hcondition : rule.condition ≠ .duplicated)
    (h : rule.compileHostParameter settings model = .ok filter)
    (hmem : element ∈ model.elements) :
    filter.selects element = true ↔ ∃ host ∈ model.elements, element.host = some host.id ∧
      ∃ test, rule.parameterTest settings = .ok test ∧
        test.passes host rule.property = true := by
  unfold compileHostParameter at h
  rw [if_neg (mt beq_iff_eq.1 hcondition)] at h
  split at h
  · cases h
  · obtain ⟨test, htest, rfl⟩ := eq_ok_of_map h
    rw [selects_oneOf, List.contains_iff_mem, hnumbered.mem_hostedIds_iff hmem, htest]
    simp only [Except.ok.injEq, exists_eq_left']

theorem selects_host_add (haddition : addition.IsElement) (hnumbered : model.Numbered)
    (hroom : model.lastId.toNat + 1 < UInt64.size) (hcondition : rule.condition ≠ .duplicated)
    (h : rule.compileHostParameter settings model = .ok filter)
    (hgrown : rule.compileHostParameter settings (model.add addition) = .ok grownFilter)
    (hmem : element ∈ model.elements) (hfree : ¬ element.DependsOn model.nextId) :
    grownFilter.selects element = true ↔ filter.selects element = true := by
  have hkept : element ∈ (model.add addition).elements :=
    (Model.keptBy model addition).elements.subset hmem
  rw [selects_host_iff (hnumbered.add hroom addition) hcondition hgrown hkept,
    selects_host_iff hnumbered hcondition h hmem]
  apply Model.exists_mem_elements_add haddition
  rintro added hid ⟨hhosted, -⟩
  rw [hid] at hhosted
  exact hfree (.inr hhosted)

/-! ## All categories -/

theorem Grammatical.selects_add (h : rule.Grammatical) (hcondition : rule.condition ≠ .duplicated)
    (haddition : addition.IsElement) (hnumbered : model.Numbered)
    (hroom : model.lastId.toNat + 1 < UInt64.size)
    (hcompile : rule.compile settings model = .ok filter)
    (hgrown : rule.compile settings (model.add addition) = .ok grownFilter)
    (hmem : element ∈ model.elements) (hfree : ¬ element.DependsOn model.nextId) :
    grownFilter.selects element = filter.selects element := by
  by_cases hcategory : rule.category ∈ elementCategories
  · rw [Bool.eq_iff_iff]
    unfold compile at hcompile hgrown
    rw [h.validate_eq_ok] at hcompile hgrown
    simp only [elementCategories, List.mem_cons, List.not_mem_nil, or_false] at hcategory
    rcases hcategory with hfamily | htype | hclass | hhost
    · rw [hfamily] at hcompile hgrown
      have hdistinct : (model.families.map Family.id).Nodup :=
        hnumbered.nodup_kind (by simp [Model.idsByKind])
      exact selects_family_add haddition hdistinct hcompile hgrown hfree
    · rw [htype] at hcompile hgrown
      exact selects_type_add haddition hcompile hgrown (hnumbered.id_ne_nextId hroom hmem) hfree
    · rw [hclass] at hcompile hgrown
      have hkept : element ∈ (model.add addition).elements :=
        (Model.keptBy model addition).elements.subset hmem
      rw [selects_class_iff hgrown hkept, selects_class_iff hcompile hmem]
    · rw [hhost] at hcompile hgrown
      exact selects_host_add haddition hnumbered hroom hcondition hcompile hgrown hmem hfree
  · obtain ⟨hentities, hlevels⟩ := haddition.keeps_entities model
    rw [compile_congr hentities hlevels hcategory hcondition, hcompile] at hgrown
    rw [Except.ok.inj hgrown]

/-- However many elements and types are added, an element keeps its verdict if all that it depends
on was there from the start. -/
theorem Grammatical.selects_ofAdditions_append (h : rule.Grammatical)
    (hcondition : rule.condition ≠ .duplicated) {additions more : List Model.Addition}
    (hroom : additions.length + more.length < UInt64.size)
    (hmore : ∀ addition ∈ more, addition.IsElement)
    (hcompile : rule.compile settings (.ofAdditions additions) = .ok filter)
    (hgrown : rule.compile settings (.ofAdditions (additions ++ more)) = .ok grownFilter)
    (hmem : element ∈ (Model.ofAdditions additions).elements)
    (hfree : ∀ other ∈ (Model.ofAdditions (additions ++ more)).elements,
      element.DependsOn other.id → other ∈ (Model.ofAdditions additions).elements) :
    grownFilter.selects element = filter.selects element := by
  induction more using List.reverseRecOn generalizing grownFilter with
  | nil =>
    rw [List.append_nil, hcompile] at hgrown
    rw [Except.ok.inj hgrown]
  | append_singleton more addition ih =>
    rw [List.length_append, List.length_singleton] at hroom
    have hbefore : (additions ++ more).length < UInt64.size := by
      rw [List.length_append]
      omega
    have hnumbered := Model.numbered_ofAdditions hbefore
    have hnext : (Model.ofAdditions (additions ++ more)).lastId.toNat + 1 < UInt64.size := by
      rw [Model.lastId_ofAdditions hbefore, List.length_append]
      omega
    have hearlier := (Model.elements_ofAdditions_append additions more).subset
    have hlater := (Model.keptBy (.ofAdditions (additions ++ more)) addition).elements.subset
    have haddition : addition.IsElement := hmore addition (by simp)
    -- Before the last addition the rule has a filter as well: the model has no say in that.
    have hnone := (h.failsWith_compile settings _).ok_iff.1 ⟨filter, hcompile⟩
    obtain ⟨between, hbetween⟩ :=
      (h.failsWith_compile settings (.ofAdditions (additions ++ more))).ok_iff.2 hnone
    rw [← List.append_assoc, Model.ofAdditions_concat] at hgrown hfree
    have hlast := hnumbered.not_dependsOn_nextId hnext haddition
      fun other hother hdepends => hearlier (hfree other hother hdepends)
    rw [h.selects_add hcondition haddition hnumbered hnext hbetween hgrown (hearlier hmem) hlast]
    exact ih (by omega) (fun other hother => hmore other (List.mem_append_left _ hother)) hbetween
      fun other hother => hfree other (hlater hother)

/-- **Verdicts survive growth.** A rule that does not look for duplicates is compiled against a
model, and again when one more element or type has been added. Both fail with the same failure, or
there are two filters, and they agree on every element of the model that was not an instance of the
new id, nor hosted by it, in advance. The ids of the model are distinct as long as its counter of 64
bits has not come round. -/
theorem Reachable.verdicts_survive (h : rule.Reachable) (hcondition : rule.condition ≠ .duplicated)
    (settings : Settings) {additions : List Model.Addition}
    (hroom : additions.length + 1 < UInt64.size) (haddition : addition.IsElement) :
    let model := Model.ofAdditions additions
    let grown := Model.ofAdditions (additions ++ [addition])
    (∃ failure, rule.compile settings model = .error failure ∧
        rule.compile settings grown = .error failure) ∨
      ∃ filter grownFilter, rule.compile settings model = .ok filter ∧
        rule.compile settings grown = .ok grownFilter ∧
        ∀ element ∈ model.elements, ¬ element.DependsOn model.nextId →
          grownFilter.selects element = filter.selects element := by
  intro model grown
  have hgrammatical := h.grammatical
  have houtcome := hgrammatical.failsWith_compile settings model
  have hgrownOutcome := hgrammatical.failsWith_compile settings grown
  have hgrown : grown = model.add addition := Model.ofAdditions_concat additions addition
  have hnext : model.lastId.toNat + 1 < UInt64.size := by
    rwa [Model.lastId_ofAdditions (by omega)]
  cases hfailure : rule.failure? with
  | some failure =>
    exact .inl ⟨failure, (houtcome.error_iff failure).2 hfailure,
      (hgrownOutcome.error_iff failure).2 hfailure⟩
  | none =>
    obtain ⟨filter, hfilter⟩ := houtcome.ok_iff.2 hfailure
    obtain ⟨grownFilter, hgrownFilter⟩ := hgrownOutcome.ok_iff.2 hfailure
    refine .inr ⟨filter, grownFilter, hfilter, hgrownFilter, ?_⟩
    rw [hgrown] at hgrownFilter
    intro element hmem hfree
    exact hgrammatical.selects_add hcondition haddition (Model.numbered_ofAdditions (by omega))
      hnext hfilter hgrownFilter hmem hfree

/-- A beam of pine, and one of a type that is still to come. -/
def beams : List Model.Addition :=
  [.type "Pine" none, .element { Element.named "Beam" with type := some ⟨1⟩ },
    .element { Element.named "Draft" with type := some ⟨4⟩ }]

/-- *Type name is Oak.* -/
def oakRule : Rule := ((create (.ofNat 1) .elementType).apply (.value "Oak")).1

/-- With the first type of that name the rule begins to select, but nothing that was there. -/
theorem oakRule_verdicts_survive :
    oakRule.Reachable ∧ oakRule.condition ≠ .duplicated ∧ beams.length + 1 < UInt64.size ∧
      (Model.Addition.type "Oak" none).IsElement ∧
      oakRule.compile .standard (.ofAdditions beams) = .ok .never ∧
      oakRule.compile .standard (.ofAdditions (beams ++ [.type "Oak" none])) =
        .ok (.leaf (.typeOrInstanceOf ⟨4⟩)) ∧
      ∀ element ∈ (Model.ofAdditions beams).elements, element.name ≠ "Draft" →
        (Filter.leaf (.typeOrInstanceOf ⟨4⟩)).selects element = false := by
  have hreachable : oakRule.Reachable := .changed _ (.created _ _)
  have hcondition : oakRule.condition ≠ .duplicated := by decide +kernel
  have hroom : beams.length + 1 < UInt64.size := by decide
  have haddition : (Model.Addition.type "Oak" none).IsElement := trivial
  have hnever : oakRule.compile .standard (.ofAdditions beams) = .ok .never := rfl
  have hleaf : oakRule.compile .standard (.ofAdditions (beams ++ [.type "Oak" none])) =
      .ok (.leaf (.typeOrInstanceOf ⟨4⟩)) := rfl
  have hfree : ∀ element ∈ (Model.ofAdditions beams).elements, element.name ≠ "Draft" →
      ¬ element.DependsOn (Model.ofAdditions beams).nextId := by
    decide +kernel
  refine ⟨hreachable, hcondition, hroom, haddition, hnever, hleaf, ?_⟩
  obtain ⟨failure, hfails, -⟩ | ⟨filter, grownFilter, hfilter, hgrownFilter, hsame⟩ :=
    hreachable.verdicts_survive hcondition .standard hroom haddition
  · rw [hnever] at hfails
    cases hfails
  · obtain rfl := Except.ok.inj (hnever.symm.trans hfilter)
    obtain rfl := Except.ok.inj (hleaf.symm.trans hgrownFilter)
    intro element hmem hname
    exact hsame element hmem (hfree element hmem hname)

end Growth

end Rule

end ElementRules
