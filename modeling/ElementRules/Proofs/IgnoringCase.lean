import ElementRules.Proofs.EditLaws
import ElementRules.Proofs.Hosts
import ElementRules.Proofs.LowerCase
import ElementRules.Proofs.ParameterNegation

/-!
# Ignoring case

Switched on, the flag for ignoring case finds more: a rule that asks for a text selects at least
what it selected before, and a rule that excludes a text selects at most that. One kind of value is
excepted, and no other: one with a loose sigma, a capital sigma whose small form depends on the text
around the value (`ignoringCase_widens`). Two rules that differ in the flag alone compile in the
same way, unless they hold a pattern (`failure?_withIgnoreCase`), so all that counts is which names
and texts pass (`Grammatical.selects_of_passesName`).
-/

namespace ElementRules.Rule

/-- The rule with its flag set. -/
def withIgnoreCase (rule : Rule) (flag : Bool) : Rule := { rule with ignoreCase := flag }

/-- To change the flag is to set it, or to leave it off where the grammar does. -/
theorem Grammatical.apply_ignoreCase {rule : Rule} (h : rule.Grammatical) (flag : Bool) :
    ∃ settled, (rule.apply (.ignoreCase flag)).1 = rule.withIgnoreCase settled ∧
      (settled = flag ∨ settled = false ∧ rule.ignoreCase = false) := by
  rw [apply_fst, h.edit_ignoreCase]
  refine ⟨_, rfl, ?_⟩
  unfold Category.settledIgnoreCase
  split
  · exact .inl rfl
  · next hnever =>
    refine .inr ⟨rfl, ?_⟩
    by_contra hon
    exact hnever (h.ignoreCase_allowed (eq_true_of_ne_false hon))

/-- Without a pattern, nothing that is found against a rule depends on the flag. -/
theorem failure?_withIgnoreCase {rule : Rule}
    (hplain : rule.condition ∉ [Condition.wildCard, .wildCardNoMatch]) (flag : Bool) :
    (rule.withIgnoreCase flag).failure? = rule.failure? := by
  have hpattern : (rule.withIgnoreCase flag).patternFailure? = rule.patternFailure? := by
    rw [patternFailure?_eq_none hplain]
    exact patternFailure?_eq_none hplain
  unfold failure?
  rw [hpattern]
  rfl

/-- Where there is another property beside the name, it is not searched for a text. -/
theorem Grammatical.searches_name {rule : Rule} (h : rule.Grammatical)
    (hcondition : rule.condition ∈ [.contains, .doesNotContain])
    (hcategory : rule.category ∈ [.modelCategory, .family, .level, .view]) :
    rule.property = PropertyName.name := by
  by_contra hother
  have hsearch : ∀ condition ∈ [Condition.contains, .doesNotContain],
      condition ∉ [Condition.included] ∧ condition ∉ Condition.equality ∧
        condition ∉ Condition.ordering := by decide
  obtain ⟨hincluded, hequality, hordering⟩ := hsearch _ hcondition
  have hoffered (hfixed : rule.allowsCustomProperty = false) := h.property_offered hfixed
  unfold allowsCustomProperty propertyOptions at hoffered
  simp only [List.mem_cons, List.not_mem_nil, or_false] at hcategory
  rcases hcategory with hcase | hcase | hcase | hcase
  · have hconditions := h.condition_mem_pair hcase rfl
    rw [if_neg (Ne.symm hother)] at hconditions
    exact hincluded hconditions
  · have hconditions := h.condition_mem_pair hcase rfl
    rw [hcase] at hoffered
    have hinPlace := (List.mem_pair.1 (hoffered rfl)).resolve_left hother
    rw [if_pos hinPlace.symm] at hconditions
    exact hequality hconditions
  · have hconditions := h.condition_mem_pair hcase rfl
    rw [if_neg (Ne.symm hother)] at hconditions
    exact hordering hconditions
  · have hconditions := h.condition_mem_pair hcase rfl
    rw [hcase] at hoffered
    have hdefined := (List.mem_pair.1 (hoffered rfl)).resolve_left hother
    rw [if_pos hdefined.symm] at hconditions
    exact hequality hconditions

section Widening

variable {settings : Settings} {model : Model} {rule : Rule} {filter others : Filter}
variable {element : Element} {a b : Bool}

/-- Tests of texts that pass more pass more elements. -/
theorem passes_compare_mono {text other : TextTest} {name : String}
    (htexts : ∀ s, text.passes s = true → other.passes s = true)
    (hpasses : (ParameterTest.compare text none).passes element name = true) :
    (ParameterTest.compare other none).passes element name = true := by
  unfold ParameterTest.passes at hpasses ⊢
  cases hvalue : element.parameter? name with
  | none =>
    rw [hvalue] at hpasses
    cases hpasses
  | some value =>
    rw [hvalue] at hpasses
    cases hnumber : value.asNumber? with
    | none =>
      simp only [hnumber] at hpasses ⊢
      exact htexts _ hpasses
    | some x =>
      simp only [hnumber] at hpasses ⊢
      exact htexts _ hpasses

/-- A search in the text of a parameter compares texts alone. -/
theorem eq_search_of_parameterTest {test : ParameterTest}
    (hcondition : rule.condition ∈ [.contains, .doesNotContain])
    (htest : rule.parameterTest settings = .ok test) :
    ∃ text, rule.textTest settings = .ok text ∧ test = .compare text none := by
  have hsearch : ∀ condition ∈ [Condition.contains, .doesNotContain],
      condition.isTextual = true ∧ condition ∉ Condition.equality := by decide
  obtain ⟨htextual, hequality⟩ := hsearch _ hcondition
  obtain ⟨text, number?, htext, rfl, hnumber⟩ := eq_compare_of_textual htextual htest
  refine ⟨text, htext, ?_⟩
  rw [show number? = none by by_contra hsome; exact hequality (hnumber hsome).1]

/-- What a rule on a parameter of the host is compiled to. -/
theorem eq_oneOf_of_compile (hcategory : rule.category = .hostParameter)
    (hcondition : rule.condition ≠ .duplicated) (h : rule.compile settings model = .ok filter) :
    ∃ test, rule.parameterTest settings = .ok test ∧
      filter = oneOf (hostedIds model fun host => test.passes host rule.property) := by
  unfold compile at h
  split at h
  · cases h
  rw [hcategory] at h
  replace h : rule.compileHostParameter settings model = .ok filter := h
  unfold compileHostParameter at h
  split at h
  · cases h
  split at h
  · next hduplicated => exact absurd (beq_iff_eq.1 hduplicated) hcondition
  · exact eq_ok_of_map h

variable (hnames : ∀ name, (rule.withIgnoreCase a).PassesName settings name →
  (rule.withIgnoreCase b).PassesName settings name)
variable (hfilter : (rule.withIgnoreCase a).compile settings model = .ok filter)
variable (hothers : (rule.withIgnoreCase b).compile settings model = .ok others)

include hnames hfilter hothers

theorem selects_of_passesName_parameter (hlike : rule.category.isParameterLike = true)
    (hcondition : rule.condition ∈ [.contains, .doesNotContain])
    (hselects : filter.selects element = true) : others.selects element = true := by
  have hsearch (flag : Bool) :
      (rule.withIgnoreCase flag).condition ∈ [.contains, .doesNotContain] := hcondition
  have hduplicated (flag : Bool) : (rule.withIgnoreCase flag).condition ≠ .duplicated := by
    intro hcase
    have hmem := hsearch flag
    rw [hcase] at hmem
    exact absurd hmem (by decide)
  have htests {test other : ParameterTest}
      (htest : (rule.withIgnoreCase a).parameterTest settings = .ok test)
      (hother : (rule.withIgnoreCase b).parameterTest settings = .ok other) (asked : Element)
      (hpasses : test.passes asked rule.property = true) :
      other.passes asked rule.property = true := by
    obtain ⟨text, htext, rfl⟩ := eq_search_of_parameterTest (hsearch a) htest
    obtain ⟨otherText, hotherText, rfl⟩ := eq_search_of_parameterTest (hsearch b) hother
    refine passes_compare_mono (fun s hs => ?_) hpasses
    rw [← passesName_iff_of_textTest hotherText]
    exact hnames s ((passesName_iff_of_textTest htext s).2 hs)
  by_cases hhost : rule.category = .hostParameter
  · have hcategory (flag : Bool) : (rule.withIgnoreCase flag).category = .hostParameter := hhost
    obtain ⟨test, htest, rfl⟩ := eq_oneOf_of_compile (hcategory a) (hduplicated a) hfilter
    obtain ⟨other, hother, rfl⟩ := eq_oneOf_of_compile (hcategory b) (hduplicated b) hothers
    rw [selects_oneOf, List.contains_iff_mem, mem_hostedIds_iff] at hselects ⊢
    obtain ⟨hosted, hmem, hid, host, hhost, hpasses⟩ := hselects
    exact ⟨hosted, hmem, hid, host, hhost, htests htest hother host hpasses⟩
  · have hown (flag : Bool) :
        (rule.withIgnoreCase flag).category ∈ [.parameter, .apiParameter] := by
      change rule.category ∈ _
      revert hlike hhost
      cases rule.category <;> decide
    obtain ⟨test, htest, rfl⟩ := eq_parameter_of_compile (hown a) (hduplicated a) hfilter
    obtain ⟨other, hother, rfl⟩ := eq_parameter_of_compile (hown b) (hduplicated b) hothers
    exact htests htest hother element hselects

theorem Grammatical.selects_of_passesName_entity (h : rule.Grammatical)
    (hlike : rule.category.isParameterLike = false)
    (hcondition : rule.condition ∈ [.contains, .doesNotContain])
    (hselects : filter.selects element = true) : others.selects element = true := by
  have hapart : ∀ condition ∈ [Condition.contains, .doesNotContain],
      condition ≠ .undefined ∧ condition ∉ [.defined, .undefined] ∧
        condition ∉ [.equal, .notEqual, .undefined] ∧ condition ∉ Condition.equality := by decide
  have hsearch (flag : Bool) := hapart (rule.withIgnoreCase flag).condition hcondition
  have hname (hcategory : rule.category ∈ [.modelCategory, .family, .level, .view])
      (flag : Bool) : (rule.withIgnoreCase flag).property = PropertyName.name :=
    h.searches_name hcondition hcategory
  have hentities {Entity : Type} {entities : List Entity} {name : Entity → String}
      {belongs : Entity → Prop} :
      (∃ entity ∈ entities,
        (rule.withIgnoreCase a).PassesName settings (name entity) ∧ belongs entity) →
      ∃ entity ∈ entities,
        (rule.withIgnoreCase b).PassesName settings (name entity) ∧ belongs entity := by
    rintro ⟨entity, hmem, hpasses, hbelongs⟩
    exact ⟨entity, hmem, hnames _ hpasses, hbelongs⟩
  have hcategory (flag : Bool) : (rule.withIgnoreCase flag).category = rule.category := rfl
  unfold compile at hfilter hothers
  split at hfilter
  · cases hfilter
  split at hothers
  · cases hothers
  rw [hcategory] at hfilter hothers
  cases hcase : rule.category with
  | modelCategory =>
    rw [hcase] at hfilter hothers
    specialize hname (by rw [hcase]; decide)
    have hfound := (selects_category_iff (hname a) hfilter element).1 hselects
    exact (selects_category_iff (hname b) hothers element).2 (hentities hfound)
  | family =>
    rw [hcase] at hfilter hothers
    specialize hname (by rw [hcase]; decide)
    have hinPlace : PropertyName.name ≠ PropertyName.isInPlace := by decide
    have hfound := (selects_family_iff hfilter element).1 hselects
    rw [selects_family_iff hothers]
    simp only [hname, if_neg hinPlace] at hfound ⊢
    exact hentities hfound
  | elementType =>
    rw [hcase] at hfilter hothers
    have hfound := (selects_type_iff hfilter element).1 hselects
    exact (selects_type_iff hothers element).2 (hentities hfound)
  | level =>
    rw [hcase] at hfilter hothers
    specialize hname (by rw [hcase]; decide)
    have helevation : PropertyName.name ≠ PropertyName.elevation := by decide
    have hfound := (selects_level_iff (hsearch a).1 hfilter element).1 hselects
    rw [selects_level_iff (hsearch b).1 hothers]
    simp only [hname, if_neg helevation] at hfound ⊢
    exact hentities hfound
  | phaseCreated | phaseDemolished =>
    rw [hcase] at hfilter hothers
    have hfound := (selects_phase_iff (hsearch a).1 hfilter element).1 hselects
    exact (selects_phase_iff (hsearch b).1 hothers element).2 (hentities hfound)
  | designOption =>
    rw [hcase] at hfilter hothers
    have hfound := (selects_designOption_iff (hsearch a).2.2.1 hfilter element).1 hselects
    exact (selects_designOption_iff (hsearch b).2.2.1 hothers element).2 (hentities hfound)
  | view =>
    rw [hcase] at hfilter hothers
    specialize hname (by rw [hcase]; decide)
    have hfound := (selects_view_iff (hname a) (hsearch a).2.1 hfilter element).1 hselects
    exact (selects_view_iff (hname b) (hsearch b).2.1 hothers element).2 (hentities hfound)
  | workset =>
    rw [hcase] at hfilter hothers
    have hfound := (selects_workset_iff hfilter element).1 hselects
    exact (selects_workset_iff hothers element).2 (hentities hfound)
  | parameter | hostParameter | apiParameter =>
    rw [hcase] at hlike
    cases hlike
  | typeOrInstance | apiType | phaseStatus | structuralType | host =>
    have hoffered : rule.condition ∈ Condition.equality :=
      h.condition_satisfies hcase (· ∈ Condition.equality) (by decide)
    exact absurd hoffered (hsearch a).2.2.2
  | room | space | redundant =>
    rw [hcase] at hfilter
    cases hfilter

/-- Two rules that differ in the flag alone: the one that passes more names selects more. -/
theorem Grammatical.selects_of_passesName (h : rule.Grammatical)
    (hcondition : rule.condition ∈ [.contains, .doesNotContain])
    (hselects : filter.selects element = true) : others.selects element = true := by
  cases hlike : rule.category.isParameterLike with
  | true =>
    exact selects_of_passesName_parameter hnames hfilter hothers hlike hcondition hselects
  | false =>
    exact h.selects_of_passesName_entity hnames hfilter hothers hlike hcondition hselects

end Widening

/-- The tests of a rule that asks for a text, or excludes it, with the flag set. -/
theorem passesName_withIgnoreCase_iff {settings : Settings} {rule : Rule} (negated : Bool)
    {flag : Bool} (hcondition : rule.condition = if negated then .doesNotContain else .contains)
    (name : String) :
    (rule.withIgnoreCase flag).PassesName settings name ↔
      Text.contains flag settings.locale name rule.value = !negated := by
  have htest : (rule.withIgnoreCase flag).textTest settings =
      .ok (.contains negated rule.value flag settings.locale) := by
    have hsame : (rule.withIgnoreCase flag).condition =
        if negated then .doesNotContain else .contains := hcondition
    unfold textTest
    rw [hsame]
    cases negated <;> rfl
  rw [passesName_iff_of_textTest htest, TextTest.passes]
  cases negated <;> cases Text.contains flag settings.locale name rule.value <;> decide

/-- **Ignoring case widens a search**, unless a sigma is loose. In every locale, a text keeps all
its matches exactly if it has no loose sigma. So for a rule that searches for a value without one,
the flag, when it is switched on, changes nothing about whether the rule compiles; a rule that asks
for the value keeps what it selects, and a rule that excludes it selects nothing new. -/
theorem ignoringCase_widens :
    (∀ (needle : String) (locale : Text.Locale),
      (∀ haystack, Text.contains false locale haystack needle = true →
        Text.contains true locale haystack needle = true) ↔ ¬ Text.LooseSigma needle.toList) ∧
    ∀ rule : Rule, rule.Reachable → ¬ Text.LooseSigma rule.value.toList →
      rule.condition ∈ [.contains, .doesNotContain] →
      ∀ (settings : Settings) (model : Model),
        let switched := (rule.apply (.ignoreCase true)).1
        (∀ failure, switched.compile settings model = .error failure ↔
          rule.compile settings model = .error failure) ∧
        ∀ filter others, rule.compile settings model = .ok filter →
          switched.compile settings model = .ok others → ∀ element,
            (rule.condition = .contains → filter.selects element = true →
              others.selects element = true) ∧
            (rule.condition = .doesNotContain → others.selects element = true →
              filter.selects element = true) := by
  refine ⟨Text.contains_kept_iff, ?_⟩
  intro rule hreachable hsigma hcondition settings model switched
  have h := hreachable.grammatical
  obtain ⟨flag, hswitched, hflag⟩ : ∃ settled, switched = rule.withIgnoreCase settled ∧
    (settled = true ∨ settled = false ∧ rule.ignoreCase = false) := h.apply_ignoreCase true
  have hself : rule = rule.withIgnoreCase rule.ignoreCase := rfl
  have hkept (name : String) (hplain : Text.contains rule.ignoreCase settings.locale name rule.value
      = true) : Text.contains flag settings.locale name rule.value = true := by
    rcases hflag with rfl | ⟨rfl, hoff⟩
    · cases hcase : rule.ignoreCase with
      | true => rwa [hcase] at hplain
      | false =>
        rw [hcase] at hplain
        exact Text.contains_of_not_looseSigma hsigma hplain
    · rwa [hoff] at hplain
  constructor
  · intro failure
    have hplain : rule.condition ∉ [Condition.wildCard, .wildCardNoMatch] := by
      revert hcondition
      cases rule.condition <;> decide
    have hgrammatical : switched.Grammatical := (Reachable.changed _ hreachable).grammatical
    rw [(hgrammatical.failsWith_compile settings model).error_iff,
      (h.failsWith_compile settings model).error_iff, hswitched, failure?_withIgnoreCase hplain]
  · intro filter others hfilter hothers element
    rw [hswitched] at hothers
    rw [hself] at hfilter
    constructor
    · intro hcase hselects
      refine h.selects_of_passesName ?_ hfilter hothers hcondition hselects
      intro name
      rw [passesName_withIgnoreCase_iff false hcase, passesName_withIgnoreCase_iff false hcase]
      exact hkept name
    · intro hcase hselects
      refine h.selects_of_passesName ?_ hothers hfilter hcondition hselects
      intro name
      rw [passesName_withIgnoreCase_iff true hcase, passesName_withIgnoreCase_iff true hcase,
        Bool.not_true, ← Bool.not_eq_true, ← Bool.not_eq_true]
      exact mt (hkept name)

/-- *The name of the level contains Ground.* -/
def groundSearch : Rule :=
  ((create (.ofNat 1) .level).apply (.condition .contains)).1.apply (.value "Ground") |>.1

theorem groundSearch_widens :
    groundSearch.Reachable ∧ ¬ Text.LooseSigma groundSearch.value.toList ∧
      groundSearch.condition ∈ [.contains, .doesNotContain] ∧
      ∃ filter others, groundSearch.compile .standard house = .ok filter ∧
        (groundSearch.apply (.ignoreCase true)).1.compile .standard house = .ok others ∧
        filter.selects (beamOn "Ground") = true ∧ others.selects (beamOn "Ground") = true := by
  have hreachable : groundSearch.Reachable := .changed _ (.changed _ (.created _ _))
  have hsigma : ¬ Text.LooseSigma groundSearch.value.toList :=
    Text.not_looseSigma_of_not_mem (by decide +kernel)
  have hcondition : groundSearch.condition = .contains := by decide +kernel
  have hsearch : groundSearch.condition ∈ [.contains, .doesNotContain] := by
    rw [hcondition]
    decide
  obtain ⟨-, hkept⟩ := ignoringCase_widens.2 groundSearch hreachable hsigma hsearch .standard house
  have hselected : (groundSearch.compile .standard house).map
      (·.selects (beamOn "Ground")) = .ok true := rfl
  have hcompiles : ((groundSearch.apply (.ignoreCase true)).1.compile .standard house).map
      (fun _ => ()) = .ok () := rfl
  obtain ⟨filter, hfilter, hselects⟩ := eq_ok_of_map hselected
  obtain ⟨others, hothers, -⟩ := eq_ok_of_map hcompiles
  exact ⟨hreachable, hsigma, hsearch, filter, others, hfilter, hothers, hselects.symm,
    (hkept filter others hfilter hothers _).1 hcondition hselects.symm⟩

/-- At the end of the value the sigma is final, inside the word it is not. -/
theorem wordEnd_lost :
    Text.contains false .plain "ΑΣΑ" "ΑΣ" = true ∧
      Text.contains true .plain "ΑΣΑ" "ΑΣ" = false := by
  decide +kernel

end ElementRules.Rule
