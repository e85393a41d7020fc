import ElementRules.Proofs.ParameterOutcome
import ElementRules.Proofs.Reachable
import ElementRules.RuleSet

/-!
# Outcomes of compilation

A reachable rule compiles exactly if nothing is found against it (`Reachable.compile_outcome`):

    rule.compile settings model = .error failure ↔ rule.failure? = some failure
    (∃ filter, rule.compile settings model = .ok filter) ↔ rule.failure? = none

What is found is never a defect (`isDefect_of_failure?`), so no set of reachable rules reports one.
-/

namespace ElementRules

namespace Rule

theorem Grammatical.failsWith_compile {rule : Rule} (h : rule.Grammatical) (settings : Settings)
    (model : Model) : FailsWith rule.failure? (rule.compile settings model) := by
  unfold compile
  rw [h.validate_eq_ok]
  cases hcategory : rule.category with
  | modelCategory => exact h.failsWith_compileCategory hcategory settings model
  | family => exact h.failsWith_compileFamily hcategory settings model
  | elementType => exact h.failsWith_compileType hcategory settings model
  | typeOrInstance => exact h.failsWith_typeOrInstance hcategory
  | apiType => exact h.failsWith_compileClass hcategory model
  | level => exact h.failsWith_compileLevel hcategory settings model
  | phaseCreated => exact h.failsWith_compilePhase (Or.inl hcategory) settings model _ _
  | phaseDemolished => exact h.failsWith_compilePhase (Or.inr hcategory) settings model _ _
  | phaseStatus => exact h.failsWith_compilePhaseStatus hcategory model
  | designOption => exact h.failsWith_compileDesignOption hcategory settings model
  | view => exact h.failsWith_compileView hcategory settings model
  | workset => exact h.failsWith_compileWorkset hcategory settings model
  | parameter | apiParameter | hostParameter =>
    exact h.failsWith_parameter (by rw [hcategory]; rfl) settings _ _
  | structuralType => exact h.failsWith_compileStructuralType hcategory
  | host => exact h.failsWith_host hcategory
  | room | space | redundant =>
    rw [failure?_of_lacksFilter (Or.inl (by rw [hcategory]; decide))]
    exact .error _

/-- What can be found against a rule is about what the user typed, never about the program. -/
theorem isDefect_of_failure? {rule : Rule} {failure : Failure} (h : rule.failure? = some failure) :
    failure.isDefect = false ∧ failure ≠ .badSettings := by
  unfold failure? at h
  split at h
  · obtain rfl := Option.some.inj h
    exact ⟨rfl, nofun⟩
  · split at h
    · obtain rfl := Option.some.inj h
      exact ⟨rfl, nofun⟩
    · unfold patternFailure? at h
      split at h
      · obtain rfl := Option.some.inj h
        exact ⟨rfl, nofun⟩
      · cases h

end Rule

/-- Every diagnostic is the failure of a rule of the set. -/
theorem RuleSet.exists_rule_of_diagnostic {settings : Settings} {model : Model} {set : RuleSet}
    {diagnostic : Diagnostic} (h : diagnostic ∈ (set.compile settings model).diagnostics) :
    ∃ rule ∈ set.rules, diagnostic.rule = rule.id ∧
      rule.compile settings model = .error diagnostic.failure := by
  simp only [RuleSet.compile, List.mem_filterMap, List.mem_map] at h
  obtain ⟨-, ⟨rule, hmem, rfl⟩, hreported⟩ := h
  dsimp only at hreported
  split at hreported
  · cases hreported
  · next failure hfails =>
    obtain rfl := Option.some.inj hreported
    exact ⟨rule, hmem, rfl, hfails⟩

namespace Rule

/-- **The rule alone decides whether it compiles, and if not, why**: no model and no settings change
the outcome. No set of reachable rules ever reports a defect. -/
theorem Reachable.compile_outcome (settings : Settings) (model : Model) :
    (∀ rule : Rule, rule.Reachable →
      (∀ failure, rule.compile settings model = .error failure ↔ rule.failure? = some failure) ∧
      ((∃ filter, rule.compile settings model = .ok filter) ↔ rule.failure? = none) ∧
      ∀ failure, rule.compile settings model = .error failure →
        failure.isDefect = false ∧ failure ≠ .badSettings) ∧
    ∀ set : RuleSet, (∀ rule ∈ set.rules, rule.Reachable) →
      ∀ diagnostic ∈ (set.compile settings model).diagnostics,
        diagnostic.failure.isDefect = false ∧ diagnostic.failure ≠ .badSettings := by
  constructor
  · intro rule h
    have houtcome := h.grammatical.failsWith_compile settings model
    refine ⟨houtcome.error_iff, houtcome.ok_iff, ?_⟩
    intro failure hfails
    exact isDefect_of_failure? ((houtcome.error_iff failure).1 hfails)
  · intro set h diagnostic hreported
    obtain ⟨rule, hmem, -, hfails⟩ := RuleSet.exists_rule_of_diagnostic hreported
    have houtcome := (h rule hmem).grammatical.failsWith_compile settings model
    exact isDefect_of_failure? ((houtcome.error_iff _).1 hfails)

/-- An area that is no number. -/
def areaDraft : Rule :=
  ((((create (RuleId.ofNat 2) .parameter).apply (.property "Area")).1.apply
    (.unitClass .area)).1.apply (.value "wide")).1

/-- A family name that is no pattern. -/
def patternDraft : Rule :=
  (((create (RuleId.ofNat 3) .family).apply (.condition .wildCard)).1.apply (.value "([")).1

/-- One rule for each cause of failure, and one that compiles. -/
def drafts : RuleSet :=
  ⟨[create (RuleId.ofNat 1) .room, areaDraft, patternDraft, create (RuleId.ofNat 4) .level]⟩

theorem drafts_reachable : ∀ rule ∈ drafts.rules, rule.Reachable := by
  simp only [drafts, List.forall_mem_cons]
  refine ⟨.created _ _, ?_, ?_, .created _ _, fun _ hmem => absurd hmem List.not_mem_nil⟩
  · exact .changed _ (.changed _ (.changed _ (.created _ _)))
  · exact .changed _ (.changed _ (.created _ _))

theorem drafts_outcome :
    drafts.rules.map failure? =
      [some (.unsupported .room "Name" .equal), some (.unreadable "wide" .number),
        some (.badPattern "(["), none] ∧
    areaDraft.compile .standard .empty = .error (.unreadable "wide" .number) ∧
    (∀ rule ∈ drafts.rules, rule.Reachable) ∧
    ∀ diagnostic ∈ (drafts.compile .standard .empty).diagnostics,
      diagnostic.failure.isDefect = false ∧ diagnostic.failure ≠ .badSettings := by
  obtain ⟨houtcome, hdiagnostics⟩ := Reachable.compile_outcome .standard .empty
  have harea : areaDraft.Reachable := drafts_reachable areaDraft (by simp [drafts])
  refine ⟨by decide +kernel, ?_, drafts_reachable, hdiagnostics drafts drafts_reachable⟩
  rw [(houtcome areaDraft harea).1]
  decide +kernel

end Rule

end ElementRules
