import ElementRules.Filter

/-!
# What trees of filters select

The builders `Filter.any` and `Filter.all?` leave out nodes with no child or with a lone one. That
makes no difference to what is selected:

    (any filters).selects element  =  filters.any (·.selects element)         (selects_any)
    (conjunction).selects element  =  filters.all (·.selects element)         (all?_eq_ok)

and so a tree over predicates can be asked predicate by predicate (`selects_anyHolds_iff`).
-/

namespace ElementRules.Filter

theorem selects_any (filters : List Filter) (element : Element) :
    (any filters).selects element = filters.any (·.selects element) := by
  unfold any
  split
  · rfl
  · next filter => rw [List.any_cons, List.any_nil, Bool.or_false]
  · rw [selects, anySelects_eq]

/-- A conjunction of at least one filter exists, and selects what all of them select. -/
theorem all?_eq_ok {filters : List Filter} (h : filters ≠ []) :
    ∃ filter, all? filters = .ok filter ∧
      ∀ element, filter.selects element = filters.all (·.selects element) := by
  unfold all?
  split
  · exact absurd rfl h
  · next filter =>
    refine ⟨filter, rfl, ?_⟩
    intro element
    rw [List.all_cons, List.all_nil, Bool.and_true]
  · refine ⟨.allOf filters, rfl, ?_⟩
    intro element
    rw [selects, allSelect_eq]

theorem selects_anyHolds_iff {predicates : List Predicate} {element : Element} :
    (anyHolds predicates).selects element = true ↔
      ∃ predicate ∈ predicates, predicate.holds element = true := by
  unfold anyHolds
  rw [selects_any, List.any_eq_true]
  constructor
  · rintro ⟨filter, hmem, hselects⟩
    obtain ⟨predicate, hpredicate, rfl⟩ := List.mem_map.1 hmem
    exact ⟨predicate, hpredicate, hselects⟩
  · rintro ⟨predicate, hpredicate, hholds⟩
    exact ⟨.leaf predicate, List.mem_map_of_mem hpredicate, hholds⟩

/-- One predicate for each entity. -/
theorem selects_anyHolds_map_iff {α : Type} {found : List α} {predicate : α → Predicate}
    {element : Element} :
    (anyHolds (found.map predicate)).selects element = true ↔
      ∃ entity ∈ found, (predicate entity).holds element = true := by
  rw [selects_anyHolds_iff]
  constructor
  · rintro ⟨held, hmem, hholds⟩
    obtain ⟨entity, hfound, rfl⟩ := List.mem_map.1 hmem
    exact ⟨entity, hfound, hholds⟩
  · rintro ⟨entity, hfound, hholds⟩
    exact ⟨predicate entity, List.mem_map_of_mem hfound, hholds⟩

/-- Predicates that stand for entities: one of them holds if one of its entity does. -/
theorem selects_anyHolds_flatMap_iff {α : Type} {found : List α} {predicates : α → List Predicate}
    {element : Element} :
    (anyHolds (found.flatMap predicates)).selects element = true ↔
      ∃ entity ∈ found, ∃ predicate ∈ predicates entity, predicate.holds element = true := by
  rw [selects_anyHolds_iff]
  constructor
  · rintro ⟨predicate, hmem, hholds⟩
    obtain ⟨entity, hfound, hpredicate⟩ := List.mem_flatMap.1 hmem
    exact ⟨entity, hfound, predicate, hpredicate, hholds⟩
  · rintro ⟨entity, hfound, predicate, hpredicate, hholds⟩
    exact ⟨predicate, List.mem_flatMap.2 ⟨entity, hfound, hpredicate⟩, hholds⟩

end ElementRules.Filter
