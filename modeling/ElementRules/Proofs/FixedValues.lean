import ElementRules.Proofs.Outcome
import ElementRules.Proofs.PlainPatterns

/-!
# Values from the vocabulary

Where the value may not be typed freely it is one of a list, so it should always be readable. It is,
with one exception (`Reachable.fixedValue_failures`):

    the value is unreadable  ↔  a parameter is measured that is named like a yes-or-no property

The names Is In Place and Is Defined belong to properties of other categories, but they bind the
value of a parameter rule too, and leave it no more than True and False. The conditions of the rule
are those of any parameter, and some of them ask for a number.
-/

namespace ElementRules

/-! ## Words -/

/-- Every value that a rule without free text can have, up to the case of its letters. -/
def Category.vocabulary : List String :=
  truthOptions ++ phaseStatusOptions ++ structuralTypeOptions

theorem Category.valueOptions_subset (category : Category) (property : String)
    (condition : Condition) : category.valueOptions property condition ⊆ vocabulary := by
  have htruth : truthOptions ⊆ vocabulary := by decide
  have hphase : phaseStatusOptions ⊆ vocabulary := by decide
  have hstructural : structuralTypeOptions ⊆ vocabulary := by decide
  have hby : (if property == PropertyName.isInPlace || property == PropertyName.isDefined
      then truthOptions else if condition.isExistence then truthOptions else []) ⊆ vocabulary := by
    split
    · exact htruth
    · split
      · exact htruth
      · exact List.nil_subset _
  cases category with
  | phaseStatus => exact hphase
  | structuralType => exact hstructural
  | typeOrInstance | redundant => exact htruth
  | modelCategory =>
    show (if property != PropertyName.name then truthOptions else _) ⊆ vocabulary
    split
    · exact htruth
    · exact hby
  | _ => exact hby

/-- The value is a word of the vocabulary, up to the case of its letters. -/
def IsVocabularyWord (value : String) : Prop :=
  ∃ option ∈ Category.vocabulary, Text.equalUpToAsciiCase option value = true

namespace IsVocabularyWord

variable {value : String}

theorem isAlpha (h : IsVocabularyWord value) : ∀ c ∈ value.toList, c.isAlpha = true := by
  obtain ⟨option, hmem, hequal⟩ := h
  rw [Text.equalUpToAsciiCase_iff] at hequal
  have hletters : ∀ option ∈ Category.vocabulary, ∀ c ∈ option.toList.map Char.toLower,
      c.isAlpha = true := by decide
  intro c hc
  rw [← Text.isAlpha_toLower]
  apply hletters option hmem
  rw [hequal]
  exact List.mem_map_of_mem hc

theorem isAlphanum (h : IsVocabularyWord value) : ∀ c ∈ value.toList, c.isAlphanum = true := by
  intro c hc
  unfold Char.isAlphanum
  rw [h.isAlpha c hc, Bool.true_or]

theorem length_le (h : IsVocabularyWord value) : value.length ≤ 14 := by
  obtain ⟨option, hmem, hequal⟩ := h
  rw [Text.equalUpToAsciiCase_iff] at hequal
  have hshort : ∀ option ∈ Category.vocabulary, (option.toList.map Char.toLower).length ≤ 14 := by
    decide
  have hlength := hshort option hmem
  rwa [hequal, List.length_map, String.length_toList] at hlength

theorem trim_eq (h : IsVocabularyWord value) : Text.trim value = value :=
  Literal.trim_of_known (by decide) h

theorem not_blank (h : IsVocabularyWord value) : ¬ Text.IsBlankText value := by
  rw [← Text.isEmpty_trim_iff, h.trim_eq, String.isEmpty_iff]
  rintro rfl
  obtain ⟨option, hmem, hequal⟩ := h
  rw [Text.equalUpToAsciiCase_iff] at hequal
  have hfull : ∀ option ∈ Category.vocabulary, option.toList.map Char.toLower ≠ [] := by decide
  exact hfull option hmem hequal

end IsVocabularyWord

namespace Double

variable {s : List Char}

theorem isDigit_eq_false {c : Char} (h : c.isAlpha = true) : isDigit c = false := by
  rw [Text.isAlpha_iff] at h
  unfold isDigit
  by_contra hdigit
  simp only [Bool.not_eq_false, Bool.and_eq_true, decide_eq_true_eq] at hdigit
  have hlo : 48 ≤ c.toNat := hdigit.1
  have hhi : c.toNat ≤ 57 := hdigit.2
  omega

theorem ofUnsigned?_of_letters (h : ∀ c ∈ s, c.isAlpha = true) (negative : Bool) :
    ofUnsigned? negative s = none := by
  have hdigits : s.takeWhile isDigit = [] ∧ s.dropWhile isDigit = s := by
    cases s with
    | nil => exact ⟨rfl, rfl⟩
    | cons c rest =>
      have hc : isDigit c = false := isDigit_eq_false (h c List.mem_cons_self)
      simp [hc]
  unfold ofUnsigned?
  rw [hdigits.1, hdigits.2]
  dsimp only
  split
  · exact absurd (h '.' List.mem_cons_self) (by decide)
  · rfl

/-- Letters are read as an infinity or as not a number, or not at all. -/
theorem isFinite_of_letters (h : ∀ c ∈ s, c.isAlpha = true) {x : Double}
    (hread : ofChars? s = some x) : x.isFinite = false := by
  have hsign : splitSign s = (false, s) := by
    unfold splitSign
    split
    · exact absurd (h '-' List.mem_cons_self) (by decide)
    · exact absurd (h '+' List.mem_cons_self) (by decide)
    · rfl
  unfold ofChars? at hread
  rw [hsign] at hread
  dsimp only at hread
  split at hread
  · obtain rfl := Option.some.inj hread
    rfl
  · split at hread
    · obtain rfl := Option.some.inj hread
      rfl
    · rw [ofUnsigned?_of_letters h] at hread
      cases hread

end Double

theorem IsVocabularyWord.not_isNumber {value : String} (h : IsVocabularyWord value) :
    ¬ Literal.IsNumber value := by
  rintro ⟨x, hread, hfinite⟩
  rw [h.trim_eq] at hread
  rw [Double.isFinite_of_letters h.isAlpha hread] at hfinite
  exact Bool.false_ne_true hfinite

/-! ## Rules with fixed values -/

namespace Rule

/-- A number is asked of a parameter that is named like a yes-or-no property. -/
def MeasuresTruth (rule : Rule) : Prop :=
  rule.category.isParameterLike = true ∧
    (rule.property = PropertyName.isInPlace ∨ rule.property = PropertyName.isDefined) ∧
    (rule.condition.isOrdering = true ∨
      rule.condition ∈ [Condition.equal, .notEqual] ∧ rule.unitClass ≠ .none)

variable {rule : Rule}

theorem Grammatical.isVocabularyWord (h : rule.Grammatical)
    (hfixed : rule.allowsCustomValue = false) : IsVocabularyWord rule.value := by
  obtain ⟨option, hmem, hequal⟩ := h.value_known hfixed
  exact ⟨option, Category.valueOptions_subset _ _ _ hmem, hequal⟩

theorem MeasuresTruth.needsNumber (h : rule.MeasuresTruth) : rule.NeedsNumber :=
  (needsNumber_iff_of_parameter h.1).2 h.2.2

theorem MeasuresTruth.not_lacksFilter (h : rule.MeasuresTruth) : ¬ rule.LacksFilter := by
  obtain ⟨hlike, hproperty, -⟩ := h
  apply not_lacksFilter_of_parameter hlike
  rcases hproperty with hproperty | hproperty <;> rw [hproperty] <;> decide

/-- Elevations, and parameters of any other name, have values of their own. -/
theorem Grammatical.measuresTruth_of_needsNumber (h : rule.Grammatical)
    (hfixed : rule.allowsCustomValue = false) (hneeds : rule.NeedsNumber) : rule.MeasuresTruth := by
  have hmeasures : ∀ condition : Condition, condition.isExistence = true →
      condition.isOrdering = false ∧ condition ∉ [Condition.equal, .notEqual] := by
    intro condition
    cases condition <;> decide
  rcases hneeds with ⟨hlevel, helevation⟩ | ⟨hlike, hasks⟩
  · have hoffered : rule.condition ∈
        if PropertyName.name = rule.property then Condition.association else Condition.ordering :=
      h.condition_mem_pair hlevel rfl
    rw [helevation, if_neg (by decide)] at hoffered
    have htyped : ∀ condition ∈ Condition.ordering,
        Category.level.allowsCustomValue PropertyName.elevation condition = true := by decide
    have hcustom := htyped _ hoffered
    rw [← hlevel, ← helevation] at hcustom
    exact absurd (hcustom.symm.trans hfixed) Bool.noConfusion
  · refine ⟨hlike, ?_, hasks⟩
    have hown : ∀ category : Category, category.isParameterLike = true →
        category ≠ .modelCategory ∧ category.grammar.fixedValues ≠ true := by
      intro category
      cases category <;> decide
    obtain ⟨hcategory, hvalues⟩ := hown _ hlike
    rcases Category.allowsCustomValue_eq_false_iff.1 hfixed with
      ⟨hmodel, -⟩ | hvocabulary | hexists | hproperty
    · exact absurd hmodel hcategory
    · exact absurd hvocabulary hvalues
    · obtain ⟨hordering, hequality⟩ := hmeasures _ hexists
      rcases hasks with horder | ⟨hequal, -⟩
      · exact absurd (hordering.symm.trans horder) Bool.noConfusion
      · exact absurd hequal hequality
    · exact hproperty

theorem Grammatical.unread?_of_fixedValue (h : rule.Grammatical)
    (hfixed : rule.allowsCustomValue = false) (hmeasures : ¬ rule.MeasuresTruth) :
    rule.unread? = none := by
  have hword := h.isVocabularyWord hfixed
  refine unread?_eq_none ?_ (fun _ => hword.not_blank) fun _ => hword.not_blank
  intro hneeds
  exact absurd (h.measuresTruth_of_needsNumber hfixed hneeds) hmeasures

theorem Grammatical.patternFailure?_of_fixedValue (h : rule.Grammatical)
    (hfixed : rule.allowsCustomValue = false) : rule.patternFailure? = none := by
  have hword := h.isVocabularyWord hfixed
  have hpattern := Wildcard.isSome_ofText? rule.ignoreCase hword.isAlphanum
    (Nat.le_trans hword.length_le (by decide))
  refine if_neg ?_
  rintro ⟨-, hnone⟩
  rw [Option.isNone_iff_eq_none.1 hnone] at hpattern
  cases hpattern

/-- **A value from the list is read as it is asked**, in every reachable rule, unless a number is
asked of a parameter that is named like a yes-or-no property. Then no value of the list is one. -/
theorem Reachable.fixedValue_failures (h : rule.Reachable)
    (hfixed : rule.allowsCustomValue = false) (settings : Settings) (model : Model) :
    (∀ failure, rule.compile settings model = .error failure ↔
      rule.LacksFilter ∧ failure = rule.unsupported ∨
        rule.MeasuresTruth ∧ failure = .unreadable rule.value .number) ∧
    ((∃ filter, rule.compile settings model = .ok filter) ↔
      ¬ rule.LacksFilter ∧ ¬ rule.MeasuresTruth) := by
  have hgrammar := h.grammatical
  have houtcome := hgrammar.failsWith_compile settings model
  simp only [houtcome.error_iff, houtcome.ok_iff]
  by_cases hlacks : rule.LacksFilter
  · have hmeasures : ¬ rule.MeasuresTruth := fun hmeasures => hmeasures.not_lacksFilter hlacks
    rw [failure?_of_lacksFilter hlacks]
    simp [hlacks, hmeasures, eq_comm]
  · by_cases hmeasures : rule.MeasuresTruth
    · have hunread : rule.unread? = some .number :=
        if_pos ⟨hmeasures.needsNumber, (hgrammar.isVocabularyWord hfixed).not_isNumber⟩
      rw [failure?_of_unread hlacks hunread]
      simp [hlacks, hmeasures, eq_comm]
    · rw [failure?_eq_patternFailure?_of_read hlacks
          (hgrammar.unread?_of_fixedValue hfixed hmeasures),
        hgrammar.patternFailure?_of_fixedValue hfixed]
      simp [hlacks, hmeasures]

/-- *The parameter Is Defined equals True.* -/
def definedRule : Rule :=
  ((create (.ofNat 1) .parameter).apply (.property PropertyName.isDefined)).1

theorem definedRule_fixedValue :
    definedRule.Reachable ∧ definedRule.allowsCustomValue = false ∧ definedRule.value = "True" ∧
      ∃ filter, definedRule.compile .standard .empty = .ok filter := by
  have hreachable : definedRule.Reachable := .changed _ (.created _ _)
  have hfixed : definedRule.allowsCustomValue = false := by decide +kernel
  refine ⟨hreachable, hfixed, by decide +kernel, ?_⟩
  rw [(hreachable.fixedValue_failures hfixed .standard .empty).2]
  constructor
  · decide +kernel
  · rintro ⟨-, -, hasks⟩
    revert hasks
    decide +kernel

/-- With a unit the value has to be a number, and the list has none. -/
theorem measuredRule_unread :
    ∃ rule : Rule, rule.Reachable ∧ rule.allowsCustomValue = false ∧
      rule.valueOptions = ["True", "False"] ∧
      rule.compile .standard .empty = .error (.unreadable "True" .number) := by
  have hreachable : (definedRule.apply (.unitClass .length)).1.Reachable :=
    .changed _ (.changed _ (.created _ _))
  refine ⟨_, hreachable, by decide +kernel, by decide +kernel, ?_⟩
  rw [(hreachable.grammatical.failsWith_compile .standard .empty).error_iff]
  decide +kernel

end Rule

end ElementRules
