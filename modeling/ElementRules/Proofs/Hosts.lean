import ElementRules.Proofs.Additions
import ElementRules.Proofs.Editing
import ElementRules.Proofs.Outcome

/-!
# Asking the host

A rule on the parameter of the host is a parameter rule, asked of another element. A parameter rule
goes element by element; the rule on the host looks through the model once and keeps the ids of the
elements whose hosts pass. The two are built from the same test (`parameterTest_ofHost`), also where
the test is for duplicates:

    rule.compile settings model = .ok filter →
      rule.ofHost.compile settings model = .ok (oneOf (hostedIds model filter.selects))
                                                                        (Grammatical.compile_ofHost)

An id stands for one element of a model that is built by additions, so the set of ids selects an
element exactly if its host is selected (`Model.Numbered.mem_hostedIds_iff`, `Reachable.asks_host`).
What is found against one of the two rules is found against the other (`failure?_ofHost`).
-/

namespace ElementRules

/-! ## Filters by id -/

theorem Rule.selects_oneOf (ids : List ElementId) (element : Element) :
    (oneOf ids).selects element = ids.contains element.id := by
  cases ids with
  | nil => rfl
  | cons first rest => rfl

theorem Rule.oneOf_eq_never_iff {ids : List ElementId} : oneOf ids = .never ↔ ids = [] := by
  cases ids <;> simp [oneOf]

theorem Rule.hostedIds_eq (model : Model) (passes : Element → Bool) :
    hostedIds model passes =
      ElementId.ascending
        ((model.elements.filter fun element =>
          (element.host.bind model.element?).any passes).map (·.id)) := by
  refine congrArg (fun asked => ElementId.ascending ((model.elements.filter asked).map (·.id))) ?_
  funext element
  cases element.host.bind model.element? <;> rfl

theorem Rule.mem_hostedIds_iff {model : Model} {passes : Element → Bool} {id : ElementId} :
    id ∈ hostedIds model passes ↔ ∃ element ∈ model.elements, element.id = id ∧
      ∃ host, element.host.bind model.element? = some host ∧ passes host = true := by
  rw [hostedIds_eq, ElementId.mem_ascending, List.mem_map]
  simp only [List.mem_filter, Option.any_eq_true, and_assoc]
  constructor
  · rintro ⟨element, hmem, hhost, hid⟩
    exact ⟨element, hmem, hid, hhost⟩
  · rintro ⟨element, hmem, hid, hhost⟩
    exact ⟨element, hmem, hhost, hid⟩

theorem Model.Numbered.host?_iff {model : Model} (h : model.Numbered) {element host : Element} :
    element.host.bind model.element? = some host ↔
      host ∈ model.elements ∧ element.host = some host.id := by
  rw [Option.bind_eq_some_iff]
  simp only [h.element?_iff]
  constructor
  · rintro ⟨id, hhost, hmem, rfl⟩
    exact ⟨hmem, hhost⟩
  · rintro ⟨hmem, hhost⟩
    exact ⟨host.id, hhost, hmem, rfl⟩

/-- An element is among the hosted ones if its host is in the model and passes. -/
theorem Model.Numbered.mem_hostedIds_iff {model : Model} (h : model.Numbered)
    {passes : Element → Bool} {element : Element} (hmem : element ∈ model.elements) :
    element.id ∈ Rule.hostedIds model passes ↔
      ∃ host ∈ model.elements, element.host = some host.id ∧ passes host = true := by
  rw [Rule.mem_hostedIds_iff]
  simp only [h.host?_iff, and_assoc]
  constructor
  · rintro ⟨other, hother, hid, hhost⟩
    -- What is kept is the id of an element; it is the element itself, as ids are distinct.
    rwa [← List.inj_on_of_nodup_map h.nodup_elements hother hmem hid]
  · intro hhost
    exact ⟨element, hmem, rfl, hhost⟩

/-! ## The rule on the parameter of the host -/

/-- The failure, where it names a category, names this one. -/
def Failure.inCategory (category : Category) : Failure → Failure
  | .unsupported _ property condition => .unsupported category property condition
  | failure => failure

namespace Rule

/-- The rule on the same parameter of the host. -/
def ofHost (rule : Rule) : Rule := { rule with category := .hostParameter }

section OfHost

variable {rule : Rule}

/-- Parameters of hosts have the grammar of parameters. -/
theorem Grammatical.ofHost (h : rule.Grammatical) (hcategory : rule.category = .parameter) :
    rule.ofHost.Grammatical := by
  obtain ⟨id, operator, category, property, condition, value, ignoreCase, unitClass, unit, level,
    selected, userDefined⟩ := rule
  obtain rfl : category = .parameter := hcategory
  exact
    { property_trimmed := h.property_trimmed
      property_offered := h.property_offered
      conditions_ne_nil := h.conditions_ne_nil
      condition_offered := h.condition_offered
      unitClass_none := h.unitClass_none
      unit_offered := h.unit_offered
      values_ne_nil := h.values_ne_nil
      value_known := h.value_known
      ignoreCase_allowed := h.ignoreCase_allowed }

theorem Grammatical.apply_hostParameter (h : rule.Grammatical)
    (hcategory : rule.category = .parameter) :
    (rule.apply (.category .hostParameter)).1 = rule.ofHost :=
  (h.ofHost hcategory).settle_eq_self

/-- The same is found against both rules. -/
theorem failure?_ofHost (hcategory : rule.category = .parameter) :
    rule.ofHost.failure? = rule.failure?.map (Failure.inCategory .hostParameter) := by
  have hlacks : rule.ofHost.LacksFilter ↔ rule.LacksFilter := by
    simp [LacksFilter, Rule.ofHost, hcategory]
  have hneeds : rule.ofHost.NeedsNumber ↔ rule.NeedsNumber := by
    simp [NeedsNumber, Rule.ofHost, hcategory, Category.isParameterLike]
  have hunread : rule.ofHost.unread? = rule.unread? := by
    have hclass : rule.category ≠ .apiType := by
      rw [hcategory]
      decide
    have hhostClass : rule.ofHost.category ≠ .apiType := by
      show Category.hostParameter ≠ .apiType
      decide
    unfold unread?
    simp only [hneeds, hclass, hhostClass, false_and, if_false]
    rfl
  have hpattern : rule.ofHost.patternFailure? = rule.patternFailure? := rfl
  unfold failure?
  rw [hunread, hpattern]
  by_cases h : rule.LacksFilter
  · rw [if_pos h, if_pos (hlacks.2 h)]
    rfl
  · rw [if_neg h, if_neg (mt hlacks.1 h)]
    cases rule.unread? with
    | some expected => rfl
    | none =>
      unfold patternFailure?
      dsimp only
      split <;> rfl

/-- The tests of the two rules are built from the same fields. -/
theorem parameterTest_ofHost (settings : Settings) (hduplicated : rule.condition ≠ .duplicated)
    (hincluded : rule.condition ≠ .included) :
    rule.ofHost.parameterTest settings = rule.parameterTest settings := by
  have hnumber : rule.ofHost.comparedNumber = rule.comparedNumber := by
    have hvalue : rule.ofHost.numericValue = rule.numericValue := rfl
    have hunits : rule.ofHost.allowsUnits = rule.allowsUnits := rfl
    unfold comparedNumber
    rw [hvalue, hunits]
  have htext (htextual : rule.condition.isTextual = true) :
      rule.ofHost.textTest settings = rule.textTest settings := by
    have hhostTextual : rule.ofHost.condition.isTextual = true := htextual
    unfold textTest
    rw [if_pos htextual, if_pos hhostTextual]
    rfl
  have hcondition : rule.ofHost.condition = rule.condition := rfl
  have hmeasured : rule.ofHost.numericValue = rule.numericValue := rfl
  unfold parameterTest
  rw [hcondition, hnumber, hmeasured]
  cases hcase : rule.condition with
  | defined | undefined | hasValue | hasNoValue => rfl
  | equal | notEqual | contains | doesNotContain | wildCard | wildCardNoMatch =>
    dsimp only
    rw [htext (by rw [hcase]; rfl)]
  | greaterThan | lessThan | greaterOrEqual | lessOrEqual => rfl
  | matchesParameter | doesNotMatchParameter => rfl
  | duplicated => exact absurd hcase hduplicated
  | included => exact absurd hcase hincluded

theorem Grammatical.compile_parameter (h : rule.Grammatical)
    (hcategory : rule.category ∈ [.parameter, .apiParameter]) (settings : Settings)
    (model : Model) : rule.compile settings model = rule.compileParameter settings model := by
  unfold compile
  rcases List.mem_pair.1 hcategory with hcase | hcase
  · rw [h.validate_eq_ok, hcase]
  · rw [h.validate_eq_ok, hcase]

theorem Grammatical.compile_hostParameter (h : rule.Grammatical)
    (hcategory : rule.category = .hostParameter) (settings : Settings) (model : Model) :
    rule.compile settings model = rule.compileHostParameter settings model := by
  unfold compile
  rw [h.validate_eq_ok, hcategory]

/-- Where the rule has a filter, the rule on the host goes by the ids of the elements whose hosts
that filter selects. -/
theorem Grammatical.compile_ofHost (h : rule.Grammatical) (hcategory : rule.category = .parameter)
    {settings : Settings} {model : Model} {filter : Filter}
    (hcompile : rule.compile settings model = .ok filter) :
    rule.ofHost.compile settings model = .ok (oneOf (hostedIds model filter.selects)) := by
  have hproperty : rule.ofHost.property = rule.property := rfl
  have hcondition : rule.ofHost.condition = rule.condition := rfl
  rw [h.compile_parameter (by rw [hcategory]; decide)] at hcompile
  rw [(h.ofHost hcategory).compile_hostParameter rfl]
  unfold compileParameter at hcompile
  unfold compileHostParameter
  rw [hproperty, hcondition]
  by_cases hempty : rule.property.isEmpty = true
  · rw [if_pos hempty] at hcompile
    cases hcompile
  rw [if_neg hempty] at hcompile ⊢
  by_cases hduplicated : (rule.condition == .duplicated) = true
  · rw [if_pos hduplicated] at hcompile ⊢
    obtain rfl := Except.ok.inj hcompile
    have hselects : (oneOf (duplicatedIds model rule.property)).selects =
        fun host => (duplicatedIds model rule.property).contains host.id :=
      funext (selects_oneOf _)
    rw [hselects]
  · rw [if_neg hduplicated] at hcompile ⊢
    have hincluded : rule.condition ≠ .included :=
      h.condition_satisfies hcategory (· ≠ .included) (by decide)
    rw [parameterTest_ofHost settings (mt beq_iff_eq.2 hduplicated) hincluded]
    cases htest : rule.parameterTest settings with
    | error failure =>
      rw [htest] at hcompile
      cases hcompile
    | ok test =>
      rw [htest] at hcompile
      obtain rfl := Except.ok.inj hcompile
      rfl

/-- **A rule on the parameter of the host asks the host.** Changed to such a rule, a parameter rule
keeps its other fields. It compiles exactly if the parameter rule does, and fails with the same
failure, under its own category; its filter selects the elements of the model whose host is in the
model and is selected by the filter of the parameter rule. The ids of the model are distinct as long
as its counter of 64 bits has not come round. -/
theorem Reachable.asks_host (h : rule.Reachable) (hcategory : rule.category = .parameter)
    (settings : Settings) {additions : List Model.Addition}
    (hroom : additions.length < UInt64.size) :
    let model := Model.ofAdditions additions
    let onHost := (rule.apply (.category .hostParameter)).1
    onHost = { rule with category := .hostParameter } ∧
      ((∃ failure, rule.compile settings model = .error failure ∧
          onHost.compile settings model = .error (failure.inCategory .hostParameter)) ∨
        ∃ filter hostFilter, rule.compile settings model = .ok filter ∧
          onHost.compile settings model = .ok hostFilter ∧
          ∀ element ∈ model.elements, hostFilter.selects element = true ↔
            ∃ host ∈ model.elements,
              element.host = some host.id ∧ filter.selects host = true) := by
  intro model onHost
  have hgrammatical := h.grammatical
  have honHost : onHost = rule.ofHost := hgrammatical.apply_hostParameter hcategory
  have hnumbered : model.Numbered := Model.numbered_ofAdditions hroom
  refine ⟨honHost, ?_⟩
  rw [honHost]
  cases hcompile : rule.compile settings model with
  | error failure =>
    left
    have hfailure := ((hgrammatical.failsWith_compile settings model).error_iff failure).1 hcompile
    have hhost := (hgrammatical.ofHost hcategory).failsWith_compile settings model
    refine ⟨failure, rfl, (hhost.error_iff _).2 ?_⟩
    rw [failure?_ofHost hcategory, hfailure, Option.map_some]
  | ok filter =>
    right
    refine ⟨filter, _, rfl, hgrammatical.compile_ofHost hcategory hcompile, ?_⟩
    intro element hmem
    rw [selects_oneOf, List.contains_iff_mem, hnumbered.mem_hostedIds_iff hmem]

/-- A marked wall, a door in it, and a shutter whose host is not there. -/
def hostedParts : List Model.Addition :=
  [.element { Element.named "Wall" with parameters := Parameters.empty.insert "Mark" (.text "A") },
    .element { Element.named "Door" with host := some ⟨1⟩ },
    .element { Element.named "Shutter" with host := some ⟨9⟩ }]

/-- *Mark has a value.* -/
def markRule : Rule :=
  (((create (.ofNat 1) .parameter).apply (.property "Mark")).1.apply (.condition .hasValue)).1

theorem markRule_asks_host :
    markRule.Reachable ∧ markRule.category = .parameter ∧ hostedParts.length < UInt64.size ∧
      ∃ hostFilter,
        (markRule.apply (.category .hostParameter)).1.compile .standard
            (Model.ofAdditions hostedParts) = .ok hostFilter ∧
          hostFilter.selects { Element.named "Door" with id := ⟨2⟩, host := some ⟨1⟩ } = true ∧
          hostFilter.selects { Element.named "Shutter" with id := ⟨3⟩, host := some ⟨9⟩ } =
            false := by
  have hreachable : markRule.Reachable := .changed _ (.changed _ (.created _ _))
  have hcategory : markRule.category = .parameter := by decide +kernel
  have hroom : hostedParts.length < UInt64.size := by decide
  refine ⟨hreachable, hcategory, hroom, ?_⟩
  have hwall : ∃ wall ∈ (Model.ofAdditions hostedParts).elements, wall.id = ⟨1⟩ ∧
      (markRule.compile .standard (Model.ofAdditions hostedParts)).toOption.any
        (·.selects wall) = true := by
    decide +kernel
  obtain ⟨wall, hwall, hid, hmarked⟩ := hwall
  obtain ⟨-, ⟨failure, hfails, -⟩ | ⟨filter, hostFilter, hcompile, hhost, hselects⟩⟩ :=
    hreachable.asks_host hcategory .standard hroom
  · rw [hfails] at hmarked
    cases hmarked
  · rw [hcompile] at hmarked
    refine ⟨hostFilter, hhost, ?_, ?_⟩
    · rw [hselects _ (by decide +kernel)]
      exact ⟨wall, hwall, by rw [hid], hmarked⟩
    · rw [← Bool.not_eq_true, hselects _ (by decide +kernel)]
      rintro ⟨host, hmem, hasked, -⟩
      have hmissing : ∀ host ∈ (Model.ofAdditions hostedParts).elements, host.id ≠ ⟨9⟩ := by
        decide +kernel
      exact hmissing host hmem (Option.some.inj hasked).symm

end OfHost

end Rule

end ElementRules
