import ElementRules.Proofs.Tolerance

/-!
# Negation without a value

A condition on a parameter has three answers. Where the element defines what the rule compares, the
condition holds or its negation does; where it does not, there is nothing to compare, and neither of
the two selects the element (`NegationOf.selects_one`):

    selected by both     →  False
    selected by one      ↔  rule.Defines element

So no negative rule picks up the elements that lack the parameter. Only equality is not always
turned around by its negation: between numbers it has a tolerance, and the two forms may both fail.
-/

namespace ElementRules

/-- The condition that turns the test of a parameter around. -/
def Condition.negation? : Condition → Option Condition
  | .hasValue => some .hasNoValue
  | .matchesParameter => some .doesNotMatchParameter
  | condition => condition.opposite?

theorem Condition.cases_of_negation? {condition other : Condition}
    (h : condition.negation? = some other) :
    (condition = .hasValue ∧ other = .hasNoValue) ∨
      (condition = .matchesParameter ∧ other = .doesNotMatchParameter) ∨
      condition.opposite? = some other := by
  cases condition with
  | hasValue => exact .inl ⟨rfl, (Option.some.inj h).symm⟩
  | matchesParameter => exact .inr (.inl ⟨rfl, (Option.some.inj h).symm⟩)
  | _ => exact .inr (.inr h)

/-- Only equality has an opposite that compares whole values. -/
theorem Condition.eq_equal_of_opposite? {condition other : Condition}
    (h : condition.opposite? = some other)
    (hequality : condition ∈ equality ∨ other ∈ equality) : condition = .equal := by
  cases condition with
  | equal => rfl
  | contains | wildCard =>
    obtain rfl := Option.some.inj h
    exact absurd hequality (by decide)
  | _ => cases h

theorem Condition.ne_duplicated_of_negation? {condition other : Condition}
    (h : condition.negation? = some other) : condition ≠ .duplicated ∧ other ≠ .duplicated := by
  have hnever : ∀ condition : Condition, condition.negation? ≠ some .duplicated := by
    intro condition
    cases condition <;> decide
  constructor
  · rintro rfl
    cases h
  · rintro rfl
    exact hnever condition h

/-! ## Tests -/

namespace ParameterTest

variable {element : Element} {name : String}

/-- An absent parameter passes no test, negated or not, apart from the one that asks for this. -/
theorem passes_of_absent {test : ParameterTest} (htest : test ≠ .undefined)
    (habsent : element.parameter? name = none) : test.passes element name = false := by
  unfold passes
  rw [habsent]
  cases test with
  | undefined => exact absurd rfl htest
  | _ => rfl

theorem exactlyOne_of_absent {test negated : ParameterTest} {condition : Prop}
    (htest : test ≠ .undefined) (hnegated : negated ≠ .undefined)
    (habsent : element.parameter? name = none) (h : ¬ condition) :
    ExactlyOneWhen condition (test.passes element name = true)
      (negated.passes element name = true) := by
  rw [passes_of_absent htest habsent, passes_of_absent hnegated habsent]
  exact exactlyOneWhen_of_neither h

theorem exactlyOne_hasValue :
    ExactlyOneWhen (element.parameter? name ≠ none) (hasValue.passes element name = true)
      (hasNoValue.passes element name = true) := by
  cases hvalue : element.parameter? name with
  | none => exact exactlyOne_of_absent nofun nofun hvalue (· rfl)
  | some value =>
    have hnot : hasNoValue.passes element name = !hasValue.passes element name := by
      simp only [passes, hvalue]
    rw [hnot]
    exact exactlyOneWhen_of_not nofun _

/-- Opposite tests of text are opposite wherever they are used, that is, where no number is compared
with a number. -/
theorem exactlyOne_compare {text negated : TextTest} {number? negatedNumber? : Option NumberTest}
    (htexts : ∀ s, negated.passes s = !text.passes s)
    (hnumbers : ∀ value x, element.parameter? name = some value → value.asNumber? = some x →
      number? = none ∧ negatedNumber? = none) :
    ExactlyOneWhen (element.parameter? name ≠ none)
      ((compare text number?).passes element name = true)
      ((compare negated negatedNumber?).passes element name = true) := by
  cases hvalue : element.parameter? name with
  | none => exact exactlyOne_of_absent nofun nofun hvalue (· rfl)
  | some value =>
    have hnot : (compare negated negatedNumber?).passes element name =
        !(compare text number?).passes element name := by
      cases hnumber : value.asNumber? with
      | none => simp only [passes, hvalue, hnumber, htexts]
      | some x =>
        obtain ⟨rfl, rfl⟩ := hnumbers value x hvalue hnumber
        simp only [passes, hvalue, hnumber, htexts]
    rw [hnot]
    exact exactlyOneWhen_of_not nofun _

/-- Two parameters can be compared if both are there. -/
theorem exactlyOne_sameAs (other : String) (ignoreCase : Bool) :
    ExactlyOneWhen (element.parameter? name ≠ none ∧ element.parameter? other ≠ none)
      ((sameAs false other ignoreCase).passes element name = true)
      ((sameAs true other ignoreCase).passes element name = true) := by
  cases hvalue : element.parameter? name with
  | none => exact exactlyOne_of_absent nofun nofun hvalue (·.1 rfl)
  | some value =>
    cases hother : element.parameter? other with
    | none =>
      have hfails (negated : Bool) :
          (sameAs negated other ignoreCase).passes element name = false := by
        simp only [passes, hvalue, hother]
      rw [hfails, hfails]
      exact exactlyOneWhen_of_neither (·.2 rfl)
    | some otherValue =>
      have hnot : (sameAs true other ignoreCase).passes element name =
          !(sameAs false other ignoreCase).passes element name := by
        simp only [passes, hvalue, hother, Bool.bne_true, Bool.bne_false]
      rw [hnot]
      exact exactlyOneWhen_of_not ⟨nofun, nofun⟩ _

end ParameterTest

/-! ## Rules -/

namespace Rule

/-- Two rules on parameters that differ in that one has the negation of the condition of the
other. -/
structure NegationOf (negated rule : Rule) : Prop where
  category : negated.category = rule.category
  property : negated.property = rule.property
  condition : rule.condition.negation? = some negated.condition
  value : negated.value = rule.value
  ignoreCase : negated.ignoreCase = rule.ignoreCase
  unitClass : negated.unitClass = rule.unitClass
  unit : negated.unit = rule.unit

/-- The element defines what the rule compares: the parameter and, where this is compared with
another one, the other one too. -/
def Defines (rule : Rule) (element : Element) : Prop :=
  element.parameter? rule.property ≠ none ∧
    (rule.condition = .matchesParameter → element.parameter? (Text.trim rule.value) ≠ none)

/-- The rule compares a number of the element with a number. -/
def ComparesNumbers (rule : Rule) (element : Element) : Prop :=
  (∃ x, rule.numericValue = .ok x) ∧
    ∃ value y, element.parameter? rule.property = some value ∧ value.asNumber? = some y

section Negation

variable {settings : Settings} {model : Model} {rule negated : Rule} {element : Element}
variable {test opposite : ParameterTest}

/-- A text condition is compiled to a test of text. Beside it there is a test of numbers only for
equality with a number. -/
theorem eq_compare_of_textual (htextual : rule.condition.isTextual = true)
    (htest : rule.parameterTest settings = .ok test) :
    ∃ text number?, rule.textTest settings = .ok text ∧ test = .compare text number? ∧
      (number? ≠ none → rule.condition ∈ Condition.equality ∧ ∃ x, rule.numericValue = .ok x) := by
  by_cases hequality : rule.condition ∈ Condition.equality
  · obtain ⟨threshold?, number?, text, hthreshold, hnumber, htext, rfl⟩ :=
      eq_compare_of_parameterTest hequality htest
    refine ⟨text, number?, htext, rfl, ?_⟩
    intro hsome
    refine ⟨hequality, ?_⟩
    cases threshold? with
    | none => exact absurd (Except.ok.inj hnumber).symm hsome
    | some x => exact ⟨x, (numericValue_eq_ok_iff hthreshold x).2 rfl⟩
  · have hsearched :
        rule.condition ∈ [.contains, .doesNotContain, .wildCard, .wildCardNoMatch] := by
      revert htextual hequality
      cases rule.condition <;> decide
    have hsearch : (rule.textTest settings).map (ParameterTest.compare · none) = .ok test := by
      rw [← htest]
      unfold parameterTest
      cases hcase : rule.condition with
      | contains | doesNotContain | wildCard | wildCardNoMatch => rfl
      | _ =>
        rw [hcase] at hsearched
        exact absurd hsearched (by decide)
    obtain ⟨text, htext, rfl⟩ := eq_ok_of_map hsearch
    exact ⟨text, none, htext, rfl, fun hsome => absurd rfl hsome⟩

/-- A condition on two parameters is compiled to a test of both. -/
theorem eq_sameAs_of_parameterTest
    (hcondition : rule.condition ∈ [.matchesParameter, .doesNotMatchParameter])
    (htest : rule.parameterTest settings = .ok test) :
    test = .sameAs (rule.condition == .doesNotMatchParameter) (Text.trim rule.value)
      rule.ignoreCase := by
  unfold parameterTest at htest
  rcases List.mem_pair.1 hcondition with hcase | hcase
  · rw [hcase] at htest ⊢
    dsimp only at htest
    split at htest
    · cases htest
    · exact (Except.ok.inj htest).symm
  · rw [hcase] at htest ⊢
    dsimp only at htest
    split at htest
    · cases htest
    · exact (Except.ok.inj htest).symm

theorem NegationOf.numericValue_eq (h : negated.NegationOf rule) :
    negated.numericValue = rule.numericValue := by
  unfold numericValue
  rw [h.value, h.unit]

theorem NegationOf.oppositeOf (h : negated.NegationOf rule)
    (hopposite : rule.condition.opposite? = some negated.condition) : negated.OppositeOf rule :=
  ⟨h.category, h.property, hopposite, h.value, h.ignoreCase⟩

/-- The tests of the two rules, for conditions on texts. -/
theorem NegationOf.exactlyOne_of_textual (h : negated.NegationOf rule)
    (hopposite : rule.condition.opposite? = some negated.condition)
    (hnumbers : rule.condition = .equal → ¬ rule.ComparesNumbers element)
    (htest : rule.parameterTest settings = .ok test)
    (hnegated : negated.parameterTest settings = .ok opposite) :
    ExactlyOneWhen (element.parameter? rule.property ≠ none)
      (test.passes element rule.property = true)
      (opposite.passes element rule.property = true) := by
  obtain ⟨htextual, htextualToo, -⟩ := Condition.isTextual_of_opposite? hopposite
  obtain ⟨text, number?, htext, rfl, hnumber⟩ := eq_compare_of_textual htextual htest
  obtain ⟨negatedText, negatedNumber?, hnegatedText, rfl, hnegatedNumber⟩ :=
    eq_compare_of_textual htextualToo hnegated
  have hequal := Condition.eq_equal_of_opposite? hopposite
  refine ParameterTest.exactlyOne_compare
    ((h.oppositeOf hopposite).passes_textTest htext hnegatedText) ?_
  intro value y hvalue hy
  have hunread (hcase : rule.condition = .equal) : ¬ ∃ x, rule.numericValue = .ok x :=
    fun hread => hnumbers hcase ⟨hread, value, y, hvalue, hy⟩
  constructor
  · by_contra hsome
    obtain ⟨hmem, hread⟩ := hnumber hsome
    exact hunread (hequal (.inl hmem)) hread
  · by_contra hsome
    obtain ⟨hmem, hread⟩ := hnegatedNumber hsome
    rw [h.numericValue_eq] at hread
    exact hunread (hequal (.inr hmem)) hread

end Negation

/-- **Exactly one, or nothing to compare.** Two rules on a parameter differ in that one has the
negation of the condition of the other, and both compile, in some model and with some settings. No
element is selected by both. An element is selected by one of them exactly if it defines what the
rules compare; so an element that lacks the parameter is selected by neither. For equality this is
said of the elements and values that are not both numbers. -/
theorem NegationOf.selects_one {rule negated : Rule} (h : negated.NegationOf rule)
    (hcategory : rule.category ∈ [.parameter, .apiParameter]) {settings : Settings} {model : Model}
    {filter others : Filter} (hcompile : rule.compile settings model = .ok filter)
    (hnegated : negated.compile settings model = .ok others) (element : Element)
    (hnumbers : rule.condition = .equal → ¬ rule.ComparesNumbers element) :
    ExactlyOneWhen (rule.Defines element) (filter.selects element = true)
      (others.selects element = true) := by
  obtain ⟨hrule, hnot⟩ := Condition.ne_duplicated_of_negation? h.condition
  obtain ⟨test, htest, rfl⟩ := eq_parameter_of_compile hcategory hrule hcompile
  obtain ⟨opposite, hopposite, rfl⟩ :=
    eq_parameter_of_compile (by rwa [h.category]) hnot hnegated
  rw [h.property]
  show ExactlyOneWhen _ (test.passes element rule.property = true)
    (opposite.passes element rule.property = true)
  unfold Defines
  rcases Condition.cases_of_negation? h.condition with
    ⟨hcase, hother⟩ | ⟨hcase, hother⟩ | hother
  · rw [parameterTest, hcase] at htest
    rw [parameterTest, hother] at hopposite
    obtain rfl := Except.ok.inj htest
    obtain rfl := Except.ok.inj hopposite
    simpa [hcase] using ParameterTest.exactlyOne_hasValue
  · rw [eq_sameAs_of_parameterTest (by rw [hcase]; decide) htest,
      eq_sameAs_of_parameterTest (by rw [hother]; decide) hopposite, hcase, hother, h.value,
      h.ignoreCase]
    have hplain : (Condition.matchesParameter == .doesNotMatchParameter) = false := by decide
    simpa [hplain] using ParameterTest.exactlyOne_sameAs _ _
  · have hmatches : rule.condition ≠ .matchesParameter := by
      intro hcase
      rw [hcase] at hother
      cases hother
    simpa [hmatches] using h.exactlyOne_of_textual hother hnumbers htest hopposite

/-- A rule on the mark. -/
def markAgainst (condition : Condition) (value : String) : Rule :=
  ((((create (.ofNat 1) .parameter).apply (.property "Mark")).1.apply
    (.condition condition)).1.apply (.value value)).1

/-- A wall with a mark and no comments. -/
def uncommented : Element :=
  { Element.named "Wall" with parameters := Parameters.empty.insert "Mark" (.integer 3) }

/-- Without comments there is nothing that the mark could differ from; but it does differ from a
text, though it is a number. -/
theorem uncommented_selected_by_one :
    ((markAgainst .doesNotMatchParameter "Comments").NegationOf
        (markAgainst .matchesParameter "Comments") ∧
      ∃ filter others,
        (markAgainst .matchesParameter "Comments").compile .standard .empty = .ok filter ∧
        (markAgainst .doesNotMatchParameter "Comments").compile .standard .empty = .ok others ∧
        filter.selects uncommented = false ∧ others.selects uncommented = false) ∧
    (markAgainst .notEqual "A").NegationOf (markAgainst .equal "A") ∧
      ¬ (markAgainst .equal "A").ComparesNumbers uncommented ∧
      ∃ filter others, (markAgainst .equal "A").compile .standard .empty = .ok filter ∧
        (markAgainst .notEqual "A").compile .standard .empty = .ok others ∧
        (filter.selects uncommented = true ∨ others.selects uncommented = true) := by
  have hreachable (condition : Condition) (value : String) :
      (markAgainst condition value).Reachable :=
    .changed _ (.changed _ (.changed _ (.created _ _)))
  have hcompiles {rule : Rule} (h : rule.Reachable) (hdecided : rule.failure? = none) :
      ∃ filter, rule.compile .standard .empty = .ok filter :=
    (h.grammatical.failsWith_compile .standard .empty).ok_iff.2 hdecided
  constructor
  · have h : (markAgainst .doesNotMatchParameter "Comments").NegationOf
        (markAgainst .matchesParameter "Comments") := by
      constructor <;> decide +kernel
    have hequal : (markAgainst .matchesParameter "Comments").condition ≠ .equal := by
      decide +kernel
    have hundefined : ¬ (markAgainst .matchesParameter "Comments").Defines uncommented := by
      unfold Defines
      decide +kernel
    obtain ⟨filter, hcompile⟩ :=
      hcompiles (hreachable .matchesParameter "Comments") (by decide +kernel)
    obtain ⟨others, hothers⟩ :=
      hcompiles (hreachable .doesNotMatchParameter "Comments") (by decide +kernel)
    obtain ⟨-, hone⟩ := h.selects_one (by decide +kernel) hcompile hothers uncommented
      fun hcase => absurd hcase hequal
    obtain ⟨hfilter, hother⟩ := not_or.1 (mt hone.1 hundefined)
    exact ⟨h, filter, others, hcompile, hothers, Bool.eq_false_iff.2 hfilter,
      Bool.eq_false_iff.2 hother⟩
  · have h : (markAgainst .notEqual "A").NegationOf (markAgainst .equal "A") := by
      constructor <;> decide +kernel
    have hnumbers : ¬ (markAgainst .equal "A").ComparesNumbers uncommented := by
      rintro ⟨⟨x, hread⟩, -⟩
      have hunread : (markAgainst .equal "A").numericValue.isOk = false := by decide +kernel
      rw [hread] at hunread
      cases hunread
    have hdefines : (markAgainst .equal "A").Defines uncommented := by
      unfold Defines
      decide +kernel
    obtain ⟨filter, hcompile⟩ := hcompiles (hreachable .equal "A") (by decide +kernel)
    obtain ⟨others, hothers⟩ := hcompiles (hreachable .notEqual "A") (by decide +kernel)
    obtain ⟨-, hone⟩ := h.selects_one (by decide +kernel) hcompile hothers uncommented
      fun _ => hnumbers
    exact ⟨h, hnumbers, filter, others, hcompile, hothers, hone.2 hdefines⟩

end Rule

end ElementRules
