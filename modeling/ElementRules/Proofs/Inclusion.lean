import ElementRules.Proofs.Additions
import ElementRules.Proofs.EntityOutcome
import ElementRules.Proofs.NamedEntities
import ElementRules.Proofs.Reachable

/-!
# Inclusion in a category

There are two ways to ask for the elements of a category. A rule on names looks up all categories
whose name passes its test. A rule with any other property takes the property for the name of a
category, and its value says if the elements of that category are to be selected or all others. It
looks up the first category of the name only:

    named.selects element      ↔  some category of the name is that of the element
    inclusion.selects element  ↔  the first category of the name is that of the element
                                  (or is not, as the value says)

So an inclusion and its opposite always divide the elements, but they agree with the equality of
names only where no two categories share the name (`inclusion_takes_first`). Nothing in a model
rules that out: in `secondWalls_missed` an inclusion misses the elements of the second category.
-/

namespace ElementRules

/-- The categories of the name, in the order of the model. -/
def Model.categoriesNamed (model : Model) (name : String) : List Entity :=
  model.categories.filter (·.name == name)

theorem Model.Numbered.nodup_categoriesNamed {model : Model} (h : model.Numbered) (name : String) :
    ((model.categoriesNamed name).map Entity.id).Nodup :=
  (h.nodup_entities .category).sublist (List.filter_sublist.map _)

namespace Filter

/-- In one of the categories. -/
def inAnyCategory (categories : List Entity) : Filter :=
  anyHolds (categories.map fun category => .inCategory category.id false)

/-- In the first of the categories, or outside it. -/
def inFirstCategory (included : Bool) : List Entity → Filter
  | [] => .never
  | first :: _ => .leaf (.inCategory first.id (!included))

section Categories

variable {included : Bool} {first : Entity} {others : List Entity}

theorem selects_inAnyCategory_iff {categories : List Entity} (element : Element) :
    (inAnyCategory categories).selects element = true ↔
      ∃ category ∈ categories, element.category = some category.id := by
  unfold inAnyCategory
  rw [selects_anyHolds_map_iff]
  simp only [Predicate.holds, Bool.bne_false, beq_iff_eq]

theorem selects_inFirstCategory_iff (element : Element) :
    (inFirstCategory included (first :: others)).selects element = true ↔
      (element.category = some first.id ↔ included = true) := by
  rw [inFirstCategory, selects, Predicate.holds]
  cases included <;> simp

/-- An element of any further category tells the first one from all. -/
theorem inFirstCategory_agrees_iff (hdistinct : ((first :: others).map Entity.id).Nodup) :
    (∀ element, (inFirstCategory included (first :: others)).selects element =
      ((inAnyCategory (first :: others)).selects element == included)) ↔ others = [] := by
  constructor
  · intro hagree
    by_contra hothers
    obtain ⟨other, hother⟩ := List.exists_mem_of_ne_nil others hothers
    have hapart : other.id ≠ first.id := by
      rw [List.map_cons, List.nodup_cons] at hdistinct
      intro heq
      exact hdistinct.1 (heq ▸ List.mem_map_of_mem hother)
    let stray : Element := { Element.named "" with category := some other.id }
    have hany : (inAnyCategory (first :: others)).selects stray = true :=
      (selects_inAnyCategory_iff stray).2 ⟨other, List.mem_cons_of_mem _ hother, rfl⟩
    have hfirst : (inFirstCategory included (first :: others)).selects stray = true ↔
        (some other.id = some first.id ↔ included = true) :=
      selects_inFirstCategory_iff stray
    rw [hagree stray, hany] at hfirst
    cases included <;> simp [hapart] at hfirst
  · rintro rfl element
    have hany : (inAnyCategory [first]).selects element = true ↔
        element.category = some first.id := by
      rw [selects_inAnyCategory_iff]
      simp only [List.mem_singleton, exists_eq_left]
    rw [Bool.eq_iff_iff, selects_inFirstCategory_iff, beq_iff_eq, ← hany]
    exact Bool.eq_iff_iff.symm

end Categories

end Filter

namespace Rule

/-- One rule asks for a category by its property, the other for all categories of that name. -/
structure InclusionOf (inclusion named : Rule) : Prop where
  category_inclusion : inclusion.category = .modelCategory
  property_inclusion : inclusion.property ≠ PropertyName.name
  category_named : named.category = .modelCategory
  property_named : named.property = PropertyName.name
  condition_named : named.condition = .equal
  value_named : named.value = inclusion.property
  ignoreCase_named : named.ignoreCase = false

section Forms

variable {inclusion named : Rule} (h : InclusionOf inclusion named)
include h

/-- An inclusion cannot fail, as its value is true or false. -/
theorem InclusionOf.compile_inclusion (hinclusion : inclusion.Grammatical) (settings : Settings)
    (model : Model) :
    ∃ included, Literal.truth inclusion.value = .ok included ∧
      inclusion.compile settings model =
        .ok (.inFirstCategory included (model.categoriesNamed inclusion.property)) := by
  obtain ⟨hcondition, included, hincluded⟩ :=
    hinclusion.inclusion h.category_inclusion h.property_inclusion
  refine ⟨included, hincluded, ?_⟩
  unfold compile
  rw [hinclusion.validate_eq_ok, h.category_inclusion]
  show inclusion.compileCategory settings model = _
  unfold compileCategory Model.categoriesNamed
  rw [if_neg (mt beq_iff_eq.1 h.property_inclusion), if_pos (beq_iff_eq.2 hcondition), hincluded,
    ← List.head?_filter]
  cases model.categories.filter (·.name == inclusion.property) <;> rfl

theorem InclusionOf.compile_named (hnamed : named.Grammatical) (settings : Settings)
    (model : Model) :
    named.compile settings model =
      .ok (.inAnyCategory (model.categoriesNamed inclusion.property)) := by
  have htest : named.textTest settings = .ok (.equal false inclusion.property false) := by
    unfold textTest
    rw [h.condition_named, h.value_named, h.ignoreCase_named]
    rfl
  have hpasses (name : String) :
      (TextTest.equal false inclusion.property false).passes name =
        (name == inclusion.property) :=
    Bool.bne_false _
  unfold compile
  rw [hnamed.validate_eq_ok, h.category_named]
  show named.compileCategory settings model = _
  unfold compileCategory matching Model.categoriesNamed Filter.inAnyCategory
  rw [if_pos (beq_iff_eq.2 h.property_named), htest]
  simp only [Except.map, hpasses]

/-- **An inclusion takes the first category of its name.** Both rules compile, in every model and
with all settings, and the value of the inclusion is true or false. If no category has the name,
both filters are `never`. Otherwise the inclusion selects the elements of the first such category,
or all others, as its value says, and the equality of names selects the elements of all such
categories. As long as ids are not reused, the inclusion or its opposite agrees with the equality of
names exactly if there is no further category of the name. -/
theorem inclusion_takes_first (hinclusion : inclusion.Reachable) (hnamed : named.Reachable)
    (settings : Settings) (additions : List Model.Addition) :
    ∃ included filter all, Literal.truth inclusion.value = .ok included ∧
      inclusion.compile settings (.ofAdditions additions) = .ok filter ∧
      named.compile settings (.ofAdditions additions) = .ok all ∧
      ((Model.ofAdditions additions).categoriesNamed inclusion.property = [] →
        filter = .never ∧ all = .never) ∧
      ∀ first others,
        (Model.ofAdditions additions).categoriesNamed inclusion.property = first :: others →
        (∀ element,
          (filter.selects element = true ↔
            (element.category = some first.id ↔ included = true)) ∧
          (all.selects element = true ↔
            ∃ category ∈ first :: others, element.category = some category.id)) ∧
        (additions.length < UInt64.size →
          ((∀ element, filter.selects element = (all.selects element == included)) ↔
            others = [])) := by
  obtain ⟨included, hincluded, hcompile⟩ :=
    h.compile_inclusion hinclusion.grammatical settings (.ofAdditions additions)
  have hall := h.compile_named hnamed.grammatical settings (.ofAdditions additions)
  refine ⟨included, _, _, hincluded, hcompile, hall, ?_, ?_⟩
  · intro hnone
    rw [hnone]
    exact ⟨rfl, rfl⟩
  · intro first others hsome
    have hdistinct (hroom : additions.length < UInt64.size) :=
      (Model.numbered_ofAdditions hroom).nodup_categoriesNamed inclusion.property
    rw [hsome] at hdistinct ⊢
    exact ⟨fun element => ⟨Filter.selects_inFirstCategory_iff element,
      Filter.selects_inAnyCategory_iff element⟩,
      fun hroom => Filter.inFirstCategory_agrees_iff (hdistinct hroom)⟩

end Forms

/-- *Category is not included: Walls.* -/
def notInWalls : Rule :=
  (((create (.ofNat 1) .modelCategory).apply (.property "Walls")).1.apply (.value "False")).1

/-- *Category is included: Walls.* -/
def inWalls : Rule := ((notInWalls.duplicate (.ofNat 2)).apply (.value "true")).1

/-- *Category's name is Walls.* -/
def namedWalls : Rule := ((create (.ofNat 3) .modelCategory).apply (.value "Walls")).1

theorem notInWalls_reachable : notInWalls.Reachable := .changed _ (.changed _ (.created _ _))

theorem inWalls_reachable : inWalls.Reachable := .changed _ (.duplicated _ notInWalls_reachable)

theorem namedWalls_reachable : namedWalls.Reachable := .changed _ (.created _ _)

/-- With one category of the name, what is not included is what the name does not select. -/
theorem notInWalls_takes_first :
    InclusionOf notInWalls namedWalls ∧
      ∃ filter all,
        notInWalls.compile .standard (.ofAdditions [.category "Doors", .category "Walls"]) =
          .ok filter ∧
        namedWalls.compile .standard (.ofAdditions [.category "Doors", .category "Walls"]) =
          .ok all ∧
        ∀ element, filter.selects element = !all.selects element := by
  have hforms : InclusionOf notInWalls namedWalls := by
    constructor <;> decide +kernel
  obtain ⟨included, filter, all, hincluded, hcompile, hall, -, hfirst⟩ :=
    inclusion_takes_first hforms notInWalls_reachable namedWalls_reachable .standard
      [.category "Doors", .category "Walls"]
  have hfalse : Literal.truth notInWalls.value = .ok false := by decide +kernel
  rw [hfalse] at hincluded
  obtain rfl := Except.ok.inj hincluded
  obtain ⟨-, hagree⟩ := hfirst ⟨⟨2⟩, "Walls"⟩ [] (by decide +kernel)
  refine ⟨hforms, filter, all, hcompile, hall, ?_⟩
  intro element
  rw [(hagree (by decide)).2 rfl element]
  cases all.selects element <;> rfl

/-- The inclusion misses the elements of the second category, and its opposite selects them. -/
theorem secondWalls_missed :
    InclusionOf inWalls namedWalls ∧ InclusionOf notInWalls namedWalls ∧
      inWalls.Reachable ∧ notInWalls.Reachable ∧ namedWalls.Reachable ∧
      [inWalls, notInWalls, namedWalls].map (fun rule =>
        (rule.compile .standard (.ofAdditions [.category "Walls", .category "Walls"])).map
          (·.selects { Element.named "Wall" with category := some ⟨2⟩ })) =
        [.ok false, .ok true, .ok true] := by
  refine ⟨?_, ?_, inWalls_reachable, notInWalls_reachable, namedWalls_reachable, ?_⟩
  · constructor <;> decide +kernel
  · constructor <;> decide +kernel
  · decide +kernel

end Rule

end ElementRules
