import ElementRules.Compilation
import ElementRules.Proofs.Settling

/-!
# The verdict on a rule

Whether a rule has a filter can be read off the rule: neither the model nor the settings have a part
in it. The causes of failure are looked for in a fixed order (`failure?`):

    no filter exists, or nothing is named    →  unsupported   (LacksFilter)
    the value is not what the rule compares  →  unreadable    (unread?)
    the value is no pattern                  →  badPattern    (HasBadPattern)

`FailsWith` says that a result is the failure that was read off, or a value where there was none.
-/

namespace ElementRules

/-! ## The verdict on a rule -/

/-- The text reads as a finite number; blanks at its ends do not matter. -/
def Literal.IsNumber (value : String) : Prop :=
  ∃ x, Double.ofText? (Text.trim value) = some x ∧ x.isFinite = true

instance (value : String) : Decidable (Literal.IsNumber value) :=
  decidable_of_iff ((Double.ofText? (Text.trim value)).any Double.isFinite = true)
    (Option.any_eq_true Double.isFinite (Double.ofText? (Text.trim value)))

namespace Rule

/-- No filter exists for the category, or the rule names no parameter or phase. -/
def LacksFilter (rule : Rule) : Prop :=
  rule.category ∈ [Category.room, .space, .redundant] ∨
    rule.category ∈ [Category.parameter, .hostParameter, .apiParameter, .phaseStatus] ∧
      rule.property = ""

instance (rule : Rule) : Decidable rule.LacksFilter :=
  inferInstanceAs (Decidable (_ ∨ _ ∧ _))

/-- The rule compares numbers and nothing else. -/
def NeedsNumber (rule : Rule) : Prop :=
  rule.category = .level ∧ rule.property = PropertyName.elevation ∨
    rule.category.isParameterLike = true ∧
      (rule.condition.isOrdering = true ∨
        rule.condition ∈ [Condition.equal, .notEqual] ∧ rule.unitClass ≠ .none)

instance (rule : Rule) : Decidable rule.NeedsNumber :=
  inferInstanceAs (Decidable (_ ∧ _ ∨ _ ∧ (_ ∨ _ ∧ _)))

/-- What the value should be and is not. -/
def unread? (rule : Rule) : Option Expected :=
  if rule.NeedsNumber ∧ ¬ Literal.IsNumber rule.value then some .number
  else if rule.condition ∈ [Condition.matchesParameter, .doesNotMatchParameter] ∧
      Text.IsBlankText rule.value then some .parameterName
  else if rule.category = .apiType ∧ Text.IsBlankText rule.value then some .className
  else none

/-- The rule searches for a pattern, and its value is none. -/
def HasBadPattern (rule : Rule) : Prop :=
  rule.condition ∈ [Condition.wildCard, .wildCardNoMatch] ∧
    (Wildcard.ofText? rule.value rule.ignoreCase).isNone = true

instance (rule : Rule) : Decidable rule.HasBadPattern :=
  inferInstanceAs (Decidable (_ ∧ _))

def patternFailure? (rule : Rule) : Option Failure :=
  if rule.HasBadPattern then some (.badPattern rule.value) else none

/-- Why the rule has no filter, in the order in which the causes are looked for. -/
def failure? (rule : Rule) : Option Failure :=
  if rule.LacksFilter then some rule.unsupported
  else match rule.unread? with
    | some expected => some (.unreadable rule.value expected)
    | none => rule.patternFailure?

end Rule

/-! ## Results that a failure decides -/

/-- The result is the failure, if there is one, and a value otherwise. -/
def FailsWith {α : Type} (failure? : Option Failure) (result : Except Failure α) : Prop :=
  match failure? with
  | some failure => result = .error failure
  | none => ∃ value, result = .ok value

namespace FailsWith

variable {α β : Type} {failure? : Option Failure} {result : Except Failure α}

theorem ok (value : α) : FailsWith none (.ok value : Except Failure α) := ⟨value, rfl⟩

theorem error (failure : Failure) :
    FailsWith (some failure) (.error failure : Except Failure α) := rfl

theorem map (f : α → β) (h : FailsWith failure? result) : FailsWith failure? (result.map f) := by
  cases failure? with
  | some failure =>
    have hresult : result = .error failure := h
    rw [hresult]
    exact error failure
  | none =>
    obtain ⟨value, hvalue⟩ := h
    rw [hvalue]
    exact ok (f value)

theorem error_iff (h : FailsWith failure? result) (failure : Failure) :
    result = .error failure ↔ failure? = some failure := by
  cases failure? with
  | some actual =>
    have hresult : result = .error actual := h
    rw [hresult, Except.error.injEq, Option.some.injEq]
  | none =>
    obtain ⟨value, hvalue⟩ := h
    rw [hvalue]
    constructor <;> intro habsurd <;> cases habsurd

theorem ok_iff (h : FailsWith failure? result) :
    (∃ value, result = .ok value) ↔ failure? = none := by
  cases failure? with
  | some actual =>
    have hresult : result = .error actual := h
    rw [hresult]
    constructor
    · rintro ⟨value, habsurd⟩
      cases habsurd
    · intro habsurd
      cases habsurd
  | none => exact ⟨fun _ => rfl, fun _ => h⟩

end FailsWith

/-! ## Reading values -/

namespace Literal

theorem number_of_isNumber {value : String} (h : IsNumber value) :
    ∃ x, number value = .ok x := by
  obtain ⟨x, hread, hfinite⟩ := h
  refine ⟨x, ?_⟩
  unfold number
  rw [hread]
  exact if_pos hfinite

theorem number_of_not_isNumber {value : String} (h : ¬ IsNumber value) :
    number value = .error (.unreadable value .number) := by
  unfold number
  split
  · next x hread => exact if_neg fun hfinite => h ⟨x, hread, hfinite⟩
  · rfl

/-- A member of a vocabulary, up to case, has no blanks to trim. -/
theorem trim_of_known {options : List String} {value : String}
    (htrimmed : ∀ option ∈ options, Text.IsTrimmed option)
    (hknown : ∃ option ∈ options, Text.equalUpToAsciiCase option value = true) :
    Text.trim value = value := by
  obtain ⟨option, hmem, hequal⟩ := hknown
  rw [Text.trim_eq_self_iff]
  exact Text.isTrimmed_of_equalUpToAsciiCase hequal (htrimmed option hmem)

theorem truth_of_known {value : String}
    (hknown : ∃ option ∈ Category.truthOptions,
      Text.equalUpToAsciiCase option value = true) : ∃ flag, truth value = .ok flag := by
  unfold truth
  rw [trim_of_known (by decide) hknown]
  obtain ⟨option, hmem, hequal⟩ := hknown
  rw [Text.equalUpToAsciiCase_iff] at hequal
  rcases List.mem_pair.1 hmem with rfl | rfl
  · have htrue : Text.equalUpToAsciiCase value "true" = true :=
      (Text.equalUpToAsciiCase_iff value "true").2 (hequal.symm.trans (by decide))
    exact ⟨true, if_pos htrue⟩
  · have htrue : ¬ Text.equalUpToAsciiCase value "true" = true := by
      rw [Text.equalUpToAsciiCase_iff, ← hequal]
      decide
    have hfalse : Text.equalUpToAsciiCase value "false" = true :=
      (Text.equalUpToAsciiCase_iff value "false").2 (hequal.symm.trans (by decide))
    exact ⟨false, (if_neg htrue).trans (if_pos hfalse)⟩

theorem member?_of_known {α : Type} [Tagged α] {options : List String} {value : String}
    (htags : options = (Tagged.all : List α).map tag)
    (htrimmed : ∀ option ∈ options, Text.IsTrimmed option)
    (hknown : ∃ option ∈ options, Text.equalUpToAsciiCase option value = true) :
    ∃ member : α, member? value = some member := by
  unfold member?
  rw [trim_of_known htrimmed hknown, ← Option.isSome_iff_exists, List.find?_isSome]
  obtain ⟨option, hmem, hequal⟩ := hknown
  rw [htags, List.mem_map] at hmem
  obtain ⟨member, hmember, rfl⟩ := hmem
  exact ⟨member, hmember, hequal⟩

end Literal

namespace Rule

/-! ## The verdict, read -/

theorem patternFailure?_eq_none {rule : Rule}
    (h : rule.condition ∉ [Condition.wildCard, .wildCardNoMatch]) :
    rule.patternFailure? = none :=
  if_neg fun hbad => h hbad.1

theorem unread?_eq_none {rule : Rule} (hnumber : rule.NeedsNumber → Literal.IsNumber rule.value)
    (hmatching : rule.condition ∈ [Condition.matchesParameter, .doesNotMatchParameter] →
      ¬ Text.IsBlankText rule.value)
    (hclass : rule.category = .apiType → ¬ Text.IsBlankText rule.value) : rule.unread? = none := by
  unfold unread?
  rw [if_neg fun hfails => hfails.2 (hnumber hfails.1),
    if_neg fun hfails => hmatching hfails.1 hfails.2, if_neg fun hfails => hclass hfails.1 hfails.2]

theorem failure?_of_lacksFilter {rule : Rule} (h : rule.LacksFilter) :
    rule.failure? = some rule.unsupported :=
  if_pos h

theorem failure?_eq_patternFailure?_of_read {rule : Rule} (hlacks : ¬ rule.LacksFilter)
    (hread : rule.unread? = none) : rule.failure? = rule.patternFailure? := by
  unfold failure?
  rw [if_neg hlacks, hread]

theorem failure?_of_unread {rule : Rule} {expected : Expected} (hlacks : ¬ rule.LacksFilter)
    (hunread : rule.unread? = some expected) :
    rule.failure? = some (.unreadable rule.value expected) := by
  unfold failure?
  rw [if_neg hlacks, hunread]

/-- What the table says of all conditions of a category holds of the condition of a rule. -/
theorem Grammatical.condition_satisfies {rule : Rule} (h : rule.Grammatical) {category : Category}
    (hcategory : rule.category = category) (accepted : Condition → Prop)
    (htable : ∀ row ∈ category.grammar.rules, ∀ condition ∈ row.conditions, accepted condition) :
    accepted rule.condition := by
  obtain ⟨row, hrow, hmem⟩ := Grammar.exists_row_of_mem_conditionsFor h.condition_offered
  rw [hcategory] at hrow
  exact htable row hrow rule.condition hmem

/-- Where one property has conditions of its own, the condition is one of these or of the others. -/
theorem Grammatical.condition_mem_pair {rule : Rule} (h : rule.Grammatical) {category : Category}
    (hcategory : rule.category = category) {special : String} {conditions others : List Condition}
    (hrules : category.grammar.rules = [⟨some special, conditions⟩, ⟨none, others⟩]) :
    rule.condition ∈ if special = rule.property then conditions else others := by
  rw [← Grammar.conditionsFor_pair category.grammar hrules, ← hcategory]
  exact h.condition_offered

/-- Only parameter rules compare two parameters. -/
theorem Grammatical.condition_not_matching {rule : Rule} (h : rule.Grammatical)
    (hcategory : rule.category.isParameterLike = false) :
    rule.condition ∉ [Condition.matchesParameter, .doesNotMatchParameter] := by
  apply h.condition_satisfies rfl (· ∉ [Condition.matchesParameter, .doesNotMatchParameter])
  revert hcategory
  cases rule.category <;> decide

/-- Outside parameters, elevations and classes a value is unreadable as a pattern only. -/
theorem Grammatical.failure?_eq_patternFailure? {rule : Rule} (h : rule.Grammatical)
    (hlacks : ¬ rule.LacksFilter) (hparameter : rule.category.isParameterLike = false)
    (hclass : rule.category ≠ .apiType)
    (helevation : rule.category = .level → rule.property ≠ PropertyName.elevation) :
    rule.failure? = rule.patternFailure? := by
  have hnumber : ¬ rule.NeedsNumber := by
    rintro (⟨hlevel, hproperty⟩ | ⟨hlike, -⟩)
    · exact helevation hlevel hproperty
    · rw [hparameter] at hlike
      exact Bool.false_ne_true hlike
  apply failure?_eq_patternFailure?_of_read hlacks
  exact unread?_eq_none (fun hneeds => absurd hneeds hnumber)
    (fun hmatching => absurd hmatching (h.condition_not_matching hparameter))
    (fun heq => absurd heq hclass)

/-- The categories of which every grammatical rule has a filter, whatever its value, unless the
value is a bad pattern. -/
def alwaysFiltered : List Category :=
  [.modelCategory, .family, .elementType, .typeOrInstance, .phaseCreated, .phaseDemolished,
    .designOption, .view, .workset, .structuralType, .host]

theorem Grammatical.failure?_of_alwaysFiltered {rule : Rule} (h : rule.Grammatical)
    (hcategory : rule.category ∈ alwaysFiltered) : rule.failure? = rule.patternFailure? := by
  have hapart : ∀ category ∈ alwaysFiltered,
      category ∉ [Category.room, .space, .redundant] ∧
        category ∉ [Category.parameter, .hostParameter, .apiParameter, .phaseStatus] ∧
        category.isParameterLike = false ∧ category ≠ .apiType ∧ category ≠ .level := by
    decide
  obtain ⟨hnone, hnamed, hparameter, hclass, hlevel⟩ := hapart _ hcategory
  apply h.failure?_eq_patternFailure? _ hparameter hclass fun heq => absurd heq hlevel
  rintro (hmem | ⟨hmem, -⟩)
  · exact hnone hmem
  · exact hnamed hmem

end Rule

end ElementRules
