import ElementRules.Proofs.Lookup
import ElementRules.Proofs.OperatorFold

/-!
# What a rule set reports

Every rule is compiled on its own and reported once: its filter is entered under its id, or its
failure is (`Reported`). The two lists of a compiled set are the reports of its rules in order, and
no other lists are:

    Reported set.rules filters diagnostics
      ↔  filters and diagnostics are those of the compiled set            (reported_iff)

So the lists of joined sets are the joined lists (`filters_append`, `diagnostics_append`), and the
operators, which only the fold looks at, make no difference to them (`filters_withOperators`,
`diagnostics_withOperators`). Under distinct ids a filter is found by the id of its rule
(`filter?_eq_some_iff`).
-/

namespace ElementRules.RuleSet

section Reports

variable (settings : Settings) (model : Model)

/-- The reports of a list of rules, each compiled on its own. -/
inductive Reported : List Rule → List (RuleId × Filter) → List Diagnostic → Prop
  | nil : Reported [] [] []
  | compiled {rule : Rule} {filter : Filter} {rules : List Rule}
      {filters : List (RuleId × Filter)} {diagnostics : List Diagnostic} :
      rule.compile settings model = .ok filter → Reported rules filters diagnostics →
      Reported (rule :: rules) ((rule.id, filter) :: filters) diagnostics
  | failed {rule : Rule} {failure : Failure} {rules : List Rule}
      {filters : List (RuleId × Filter)} {diagnostics : List Diagnostic} :
      rule.compile settings model = .error failure → Reported rules filters diagnostics →
      Reported (rule :: rules) filters (⟨rule.id, failure⟩ :: diagnostics)

/-! ## The two lists -/

/-- The entry of a rule among the filters. -/
def reportedFilter? (rule : Rule) : Option (RuleId × Filter) :=
  match rule.compile settings model with
  | .ok filter => some (rule.id, filter)
  | .error _ => none

/-- The entry of a rule among the diagnostics. -/
def reportedFailure? (rule : Rule) : Option Diagnostic :=
  match rule.compile settings model with
  | .ok _ => none
  | .error failure => some ⟨rule.id, failure⟩

theorem filters_eq (set : RuleSet) :
    (set.compile settings model).filters = set.rules.filterMap (reportedFilter? settings model) := by
  unfold compile
  dsimp only
  rw [List.filterMap_map]
  rfl

theorem diagnostics_eq (set : RuleSet) :
    (set.compile settings model).diagnostics =
      set.rules.filterMap (reportedFailure? settings model) := by
  unfold compile
  dsimp only
  rw [List.filterMap_map]
  rfl

section Step

variable {settings model} {rule : Rule}

theorem entries_of_ok {filter : Filter} (h : rule.compile settings model = .ok filter) :
    reportedFilter? settings model rule = some (rule.id, filter) ∧
      reportedFailure? settings model rule = none := by
  unfold reportedFilter? reportedFailure?
  rw [h]
  exact ⟨rfl, rfl⟩

theorem entries_of_error {failure : Failure} (h : rule.compile settings model = .error failure) :
    reportedFilter? settings model rule = none ∧
      reportedFailure? settings model rule = some ⟨rule.id, failure⟩ := by
  unfold reportedFilter? reportedFailure?
  rw [h]
  exact ⟨rfl, rfl⟩

end Step

/-- One rule after the other is reported. -/
theorem reported_filterMap (rules : List Rule) :
    Reported settings model rules (rules.filterMap (reportedFilter? settings model))
      (rules.filterMap (reportedFailure? settings model)) := by
  induction rules with
  | nil => exact .nil
  | cons rule rules ih =>
    cases hcompile : rule.compile settings model with
    | ok filter =>
      obtain ⟨hentry, hdiagnostic⟩ := entries_of_ok hcompile
      rw [List.filterMap_cons_some hentry, List.filterMap_cons_none hdiagnostic]
      exact .compiled hcompile ih
    | error failure =>
      obtain ⟨hentry, hdiagnostic⟩ := entries_of_error hcompile
      rw [List.filterMap_cons_none hentry, List.filterMap_cons_some hdiagnostic]
      exact .failed hcompile ih

theorem Reported.eq_filterMap {settings : Settings} {model : Model} {rules : List Rule}
    {filters : List (RuleId × Filter)} {diagnostics : List Diagnostic}
    (h : Reported settings model rules filters diagnostics) :
    filters = rules.filterMap (reportedFilter? settings model) ∧
      diagnostics = rules.filterMap (reportedFailure? settings model) := by
  induction h with
  | nil => exact ⟨rfl, rfl⟩
  | compiled hcompile _ ih =>
    obtain ⟨hentry, hdiagnostic⟩ := entries_of_ok hcompile
    rw [List.filterMap_cons_some hentry, List.filterMap_cons_none hdiagnostic, ← ih.1]
    exact ⟨rfl, ih.2⟩
  | failed hcompile _ ih =>
    obtain ⟨hentry, hdiagnostic⟩ := entries_of_error hcompile
    rw [List.filterMap_cons_none hentry, List.filterMap_cons_some hdiagnostic, ← ih.2]
    exact ⟨ih.1, rfl⟩

/-- The ids among the filters are those of the rules, but for the rules that failed. -/
theorem Reported.sublist_ids {settings : Settings} {model : Model} {rules : List Rule}
    {filters : List (RuleId × Filter)} {diagnostics : List Diagnostic}
    (h : Reported settings model rules filters diagnostics) :
    (filters.map Prod.fst).Sublist (rules.map Rule.id) := by
  induction h with
  | nil => exact .slnil
  | compiled _ _ ih => exact ih.cons_cons _
  | failed _ _ ih => exact ih.cons _

/-- The lists of a compiled set are the reports of its rules, and no other lists are. -/
theorem reported_iff (set : RuleSet) (filters : List (RuleId × Filter))
    (diagnostics : List Diagnostic) :
    Reported settings model set.rules filters diagnostics ↔
      filters = (set.compile settings model).filters ∧
        diagnostics = (set.compile settings model).diagnostics := by
  rw [filters_eq, diagnostics_eq]
  constructor
  · exact Reported.eq_filterMap
  · rintro ⟨rfl, rfl⟩
    exact reported_filterMap settings model set.rules

/-! ## No influence on one another -/

theorem filters_append (before after : List Rule) :
    (compile settings model ⟨before ++ after⟩).filters =
      (compile settings model ⟨before⟩).filters ++ (compile settings model ⟨after⟩).filters := by
  rw [filters_eq, filters_eq, filters_eq, List.filterMap_append]

theorem diagnostics_append (before after : List Rule) :
    (compile settings model ⟨before ++ after⟩).diagnostics =
      (compile settings model ⟨before⟩).diagnostics ++
        (compile settings model ⟨after⟩).diagnostics := by
  rw [diagnostics_eq, diagnostics_eq, diagnostics_eq, List.filterMap_append]

/-- The same rules under other operators. -/
def withOperators (set : RuleSet) (operatorOf : Rule → Operator) : RuleSet :=
  ⟨set.rules.map fun rule => { rule with operator := operatorOf rule }⟩

theorem filterMap_withOperators {β : Type} {report? : Rule → Option β}
    (h : ∀ rule operator, report? { rule with operator } = report? rule) (set : RuleSet)
    (operatorOf : Rule → Operator) :
    (set.withOperators operatorOf).rules.filterMap report? = set.rules.filterMap report? := by
  unfold withOperators
  rw [List.filterMap_map]
  refine List.filterMap_congr ?_
  intro rule _
  exact h rule (operatorOf rule)

theorem filters_withOperators (set : RuleSet) (operatorOf : Rule → Operator) :
    ((set.withOperators operatorOf).compile settings model).filters =
      (set.compile settings model).filters := by
  rw [filters_eq, filters_eq]
  refine filterMap_withOperators ?_ set operatorOf
  intro rule operator
  unfold reportedFilter?
  rw [Rule.compile_with_operator]

theorem diagnostics_withOperators (set : RuleSet) (operatorOf : Rule → Operator) :
    ((set.withOperators operatorOf).compile settings model).diagnostics =
      (set.compile settings model).diagnostics := by
  rw [diagnostics_eq, diagnostics_eq]
  refine filterMap_withOperators ?_ set operatorOf
  intro rule operator
  unfold reportedFailure?
  rw [Rule.compile_with_operator]

/-! ## Lookups -/

theorem isComplete_iff (set : RuleSet) :
    (set.compile settings model).isComplete = true ↔
      ∀ rule ∈ set.rules, ∃ filter, rule.compile settings model = .ok filter := by
  unfold Compiled.isComplete
  rw [List.isEmpty_iff, diagnostics_eq, List.filterMap_eq_nil_iff]
  have hrule (rule : Rule) : reportedFailure? settings model rule = none ↔
      ∃ filter, rule.compile settings model = .ok filter := by
    cases hcompile : rule.compile settings model with
    | ok filter => simp [entries_of_ok hcompile]
    | error failure => simp [entries_of_error hcompile]
  simp only [hrule]

theorem mem_filters_iff (set : RuleSet) (id : RuleId) (filter : Filter) :
    (id, filter) ∈ (set.compile settings model).filters ↔
      ∃ rule ∈ set.rules, rule.id = id ∧ rule.compile settings model = .ok filter := by
  rw [filters_eq, List.mem_filterMap]
  have hrule (rule : Rule) : reportedFilter? settings model rule = some (id, filter) ↔
      rule.id = id ∧ rule.compile settings model = .ok filter := by
    cases hcompile : rule.compile settings model with
    | ok filter => simp [entries_of_ok hcompile]
    | error failure => simp [entries_of_error hcompile]
  simp only [hrule]

theorem filter?_eq_some_iff {set : RuleSet} (hdistinct : (set.rules.map Rule.id).Nodup)
    (id : RuleId) (filter : Filter) :
    (set.compile settings model).filter? id = some filter ↔
      ∃ rule, set.get? id = some rule ∧ rule.compile settings model = .ok filter := by
  have hreported := (reported_iff settings model set _ _).2 ⟨rfl, rfl⟩
  have hfilters := hdistinct.sublist hreported.sublist_ids
  unfold Compiled.filter? get?
  simp only [Option.map_eq_some_iff, find?_key_iff hfilters, find?_key_iff hdistinct]
  constructor
  · rintro ⟨⟨_, _⟩, ⟨hmem, rfl⟩, rfl⟩
    obtain ⟨rule, hrule, hid, hcompile⟩ := (mem_filters_iff settings model set _ _).1 hmem
    exact ⟨rule, ⟨hrule, hid⟩, hcompile⟩
  · rintro ⟨rule, ⟨hrule, hid⟩, hcompile⟩
    have hmem := (mem_filters_iff settings model set _ _).2 ⟨rule, hrule, hid, hcompile⟩
    exact ⟨(id, filter), ⟨hmem, rfl⟩, rfl⟩

/-- **Partial success**: every rule is reported once, as it compiles on its own, whatever stands
beside it and however it is joined. The set is complete when all of its rules compile, and under
distinct ids the filter under an id is that of the rule with the id, if it compiles. -/
theorem compile_reports (set : RuleSet) :
    (∀ filters diagnostics, Reported settings model set.rules filters diagnostics ↔
      filters = (set.compile settings model).filters ∧
        diagnostics = (set.compile settings model).diagnostics) ∧
    (∀ before after, set.rules = before ++ after →
      (set.compile settings model).filters =
          (compile settings model ⟨before⟩).filters ++ (compile settings model ⟨after⟩).filters ∧
        (set.compile settings model).diagnostics =
          (compile settings model ⟨before⟩).diagnostics ++
            (compile settings model ⟨after⟩).diagnostics) ∧
    (∀ operatorOf,
      ((set.withOperators operatorOf).compile settings model).filters =
          (set.compile settings model).filters ∧
        ((set.withOperators operatorOf).compile settings model).diagnostics =
          (set.compile settings model).diagnostics) ∧
    ((set.compile settings model).isComplete = true ↔
      ∀ rule ∈ set.rules, ∃ filter, rule.compile settings model = .ok filter) ∧
    ((set.rules.map Rule.id).Nodup → ∀ id filter,
      (set.compile settings model).filter? id = some filter ↔
        ∃ rule, set.get? id = some rule ∧ rule.compile settings model = .ok filter) := by
  refine ⟨reported_iff settings model set, ?_, ?_, isComplete_iff settings model set, ?_⟩
  · intro before after hrules
    obtain rfl : set = ⟨before ++ after⟩ := congrArg RuleSet.mk hrules
    exact ⟨filters_append settings model before after,
      diagnostics_append settings model before after⟩
  · intro operatorOf
    exact ⟨filters_withOperators settings model set operatorOf,
      diagnostics_withOperators settings model set operatorOf⟩
  · intro hdistinct id filter
    exact filter?_eq_some_iff settings model hdistinct id filter

/-- What has a host, then rooms, for which there is no filter. -/
def patchySet : RuleSet := ⟨[Rule.create (.ofNat 1) .host, Rule.create (.ofNat 2) .room]⟩

theorem patchySet_reports :
    (patchySet.rules.map Rule.id).Nodup ∧
      (∃ filter, (patchySet.compile .standard .empty).filter? (.ofNat 1) = some filter) ∧
      (patchySet.compile .standard .empty).filter? (.ofNat 2) = none ∧
      (patchySet.compile .standard .empty).isComplete = false := by
  obtain ⟨-, -, -, hcomplete, hfilter⟩ := compile_reports .standard .empty patchySet
  have hdistinct : (patchySet.rules.map Rule.id).Nodup := by decide +kernel
  have hhost : patchySet.get? (.ofNat 1) = some (.create (.ofNat 1) .host) := by decide +kernel
  have hroom : patchySet.get? (.ofNat 2) = some (.create (.ofNat 2) .room) := by decide +kernel
  have hcompiles : ((Rule.create (.ofNat 1) .host).compile .standard .empty).isOk = true := by
    decide +kernel
  have hfails : ((Rule.create (.ofNat 2) .room).compile .standard .empty).isOk = false := by
    decide +kernel
  refine ⟨hdistinct, ?_, ?_, ?_⟩
  · cases hcompile : (Rule.create (.ofNat 1) .host).compile .standard .empty with
    | ok filter => exact ⟨filter, (hfilter hdistinct _ _).2 ⟨_, hhost, hcompile⟩⟩
    | error failure =>
      rw [hcompile] at hcompiles
      cases hcompiles
  · rw [Option.eq_none_iff_forall_ne_some]
    intro filter hfound
    obtain ⟨rule, hrule, hcompile⟩ := (hfilter hdistinct _ _).1 hfound
    obtain rfl := Option.some.inj (hroom.symm.trans hrule)
    rw [hcompile] at hfails
    cases hfails
  · rw [← Bool.not_eq_true, hcomplete]
    intro hall
    obtain ⟨filter, hcompile⟩ := hall (.create (.ofNat 2) .room) (by simp [patchySet])
    rw [hcompile] at hfails
    cases hfails

end Reports

end ElementRules.RuleSet
