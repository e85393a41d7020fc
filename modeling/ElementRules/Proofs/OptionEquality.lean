import ElementRules.Proofs.NamedEntities
import ElementRules.Proofs.Reachable

/-!
# Equality of design options

A negative condition on names looks for the entities that fail its test. The inequality of design
options does not: it looks for the same options as equality does, and leaves them out one by one. So
over elements the two forms are exact opposites (`OptionForms.selects_complement`), also for the
elements that are in no option, in an unknown one, or in one of several that share a name:

    filter.selects element  ↔  ∃ option of that name, the element is in it
    others.selects element  ↔  ¬ filter.selects element

This takes an option to leave out. Where no option goes by the name, there is nothing to turn
around, and both forms select nothing.
-/

namespace ElementRules.Rule

/-- An option of the model goes by the value of the rule: its name, after every mark is removed and
the blanks around the rest are trimmed, equals the value without the blanks around it. -/
structure NamesOption (settings : Settings) (model : Model) (rule : Rule) (option : Entity) :
    Prop where
  mem : option ∈ model.designOptions
  equal : Text.equal rule.ignoreCase
    (Text.trim (Text.removeAll settings.primaryTag option.name)) (Text.trim rule.value) = true

/-- One rule asks for the design options of a name, the other for all but these. -/
structure OptionForms (equal notEqual : Rule) : Prop where
  category_equal : equal.category = .designOption
  category_notEqual : notEqual.category = .designOption
  condition_equal : equal.condition = .equal
  condition_notEqual : notEqual.condition = .notEqual
  value : notEqual.value = equal.value
  ignoreCase : notEqual.ignoreCase = equal.ignoreCase

/-! ## Inside and outside -/

section Options

variable {settings : Settings} {model : Model} {options : List Entity}

theorem mem_optionsNamed_iff_namesOption {rule : Rule} {option : Entity} :
    option ∈ rule.optionsNamed settings model ↔ rule.NamesOption settings model option := by
  unfold optionsNamed
  rw [List.mem_filter]
  exact ⟨fun h => ⟨h.1, h.2⟩, fun h => ⟨h.mem, h.equal⟩⟩

theorem selects_insideOptions_iff (element : Element) :
    (Filter.anyHolds (options.map fun option => .inDesignOption option.id false)).selects element =
        true ↔
      ∃ option ∈ options, element.designOption = some option.id := by
  rw [Filter.selects_anyHolds_map_iff]
  simp only [Predicate.holds, Bool.bne_false, beq_iff_eq]

/-- An element is outside if it is in none of the options, be there one or many. -/
theorem outsideOptions_eq_ok (h : options ≠ []) :
    ∃ filter, outsideOptions options = .ok filter ∧ ∀ element, filter.selects element = true ↔
      ¬ ∃ option ∈ options, element.designOption = some option.id := by
  cases options with
  | nil => exact absurd rfl h
  | cons first rest =>
    have hsome : (first :: rest).map (fun option =>
        Filter.leaf (.inDesignOption option.id true)) ≠ [] := List.cons_ne_nil _ _
    obtain ⟨filter, hfilter, hselects⟩ := Filter.all?_eq_ok hsome
    refine ⟨filter, hfilter, ?_⟩
    intro element
    rw [hselects, List.all_map, List.all_eq_true, not_exists]
    simp only [Function.comp_apply, Filter.selects, Predicate.holds, Bool.bne_true,
      Bool.not_eq_true', beq_eq_false_iff_ne, not_and]

end Options

/-! ## The two forms -/

section Forms

variable {equal notEqual : Rule} (h : OptionForms equal notEqual)
include h

/-- Both forms look for the same options. -/
theorem OptionForms.optionsNamed_eq (settings : Settings) (model : Model) :
    notEqual.optionsNamed settings model = equal.optionsNamed settings model := by
  unfold optionsNamed
  rw [h.value, h.ignoreCase]

theorem OptionForms.compile_equal (hequal : equal.Grammatical) (settings : Settings)
    (model : Model) :
    equal.compile settings model = .ok (Filter.anyHolds
      ((equal.optionsNamed settings model).map fun option => .inDesignOption option.id false)) := by
  unfold compile
  rw [hequal.validate_eq_ok, h.category_equal]
  show equal.compileDesignOption settings model = _
  unfold compileDesignOption
  rw [h.condition_equal]

theorem OptionForms.compile_notEqual (hnotEqual : notEqual.Grammatical) (settings : Settings)
    (model : Model) :
    notEqual.compile settings model = outsideOptions (equal.optionsNamed settings model) := by
  unfold compile
  rw [hnotEqual.validate_eq_ok, h.category_notEqual]
  show notEqual.compileDesignOption settings model = _
  unfold compileDesignOption
  rw [h.condition_notEqual, h.optionsNamed_eq]

/-- **Equality and inequality of design options are opposite over elements.** Both forms compile, in
every model and with all settings. If no option of the model goes by the value, both filters are
`never`. Otherwise equality selects the elements whose option goes by the value, and inequality
selects all others. The element need not be one of the model. -/
theorem OptionForms.selects_complement (hequal : equal.Reachable) (hnotEqual : notEqual.Reachable)
    (settings : Settings) (model : Model) :
    ∃ filter others, equal.compile settings model = .ok filter ∧
      notEqual.compile settings model = .ok others ∧
      ((∀ option, ¬ equal.NamesOption settings model option) →
        filter = .never ∧ others = .never) ∧
      ((∃ option, equal.NamesOption settings model option) → ∀ element,
        (filter.selects element = true ↔
          ∃ option, equal.NamesOption settings model option ∧
            element.designOption = some option.id) ∧
        (others.selects element = true ↔ ¬ filter.selects element = true)) := by
  have hcompile := h.compile_equal hequal.grammatical settings model
  have hothers := h.compile_notEqual hnotEqual.grammatical settings model
  simp only [← mem_optionsNamed_iff_namesOption]
  generalize equal.optionsNamed settings model = options at hcompile hothers ⊢
  by_cases hempty : options = []
  · subst hempty
    refine ⟨_, _, hcompile, hothers, fun _ => ⟨rfl, rfl⟩, ?_⟩
    rintro ⟨option, hmem⟩
    exact absurd hmem List.not_mem_nil
  · obtain ⟨others, houtside, hselects⟩ := outsideOptions_eq_ok hempty
    refine ⟨_, others, hcompile, hothers.trans houtside, ?_, fun _ element => ⟨?_, ?_⟩⟩
    · intro hnone
      exact absurd (List.eq_nil_iff_forall_not_mem.2 hnone) hempty
    · exact selects_insideOptions_iff element
    · rw [hselects, selects_insideOptions_iff]

end Forms

/-- Two options of one name, up to the mark of the primary one, and another. -/
def finishes : Model :=
  .ofAdditions [.designOption "Walnut (primary)", .designOption "Ash", .designOption "Walnut"]

/-- *Design option is walnut*, in any case of letters. -/
def inWalnut : Rule :=
  (((create (.ofNat 1) .designOption).apply (.value "walnut ")).1.apply (.ignoreCase true)).1

/-- *Design option is not walnut.* -/
def notInWalnut : Rule := ((inWalnut.duplicate (.ofNat 2)).apply (.condition .notEqual)).1

/-- What is in no option, or in an unknown one, is not in walnut either. -/
theorem inWalnut_selects_complement :
    OptionForms inWalnut notInWalnut ∧ inWalnut.Reachable ∧ notInWalnut.Reachable ∧
      ∃ filter others, inWalnut.compile .standard finishes = .ok filter ∧
        notInWalnut.compile .standard finishes = .ok others ∧
        filter.selects { Element.named "Door" with designOption := some ⟨3⟩ } = true ∧
        others.selects { Element.named "Door" with designOption := some ⟨3⟩ } = false ∧
        ∀ option? ∈ [none, some ⟨2⟩, some ⟨9⟩],
          others.selects { Element.named "Door" with designOption := option? } = true := by
  have hforms : OptionForms inWalnut notInWalnut := by
    constructor <;> decide +kernel
  have hequal : inWalnut.Reachable := .changed _ (.changed _ (.created _ _))
  have hnotEqual : notInWalnut.Reachable := .changed _ (.duplicated _ hequal)
  have hwalnut : inWalnut.NamesOption .standard finishes ⟨⟨3⟩, "Walnut"⟩ := by
    constructor <;> decide +kernel
  have hothers : ∀ option, inWalnut.NamesOption .standard finishes option →
      option.id = ⟨1⟩ ∨ option.id = ⟨3⟩ := by
    have hchecked : ∀ option ∈ finishes.designOptions,
        Text.equal inWalnut.ignoreCase (Text.trim (Text.removeAll "(primary)" option.name))
          (Text.trim inWalnut.value) = true → option.id = ⟨1⟩ ∨ option.id = ⟨3⟩ := by
      decide +kernel
    exact fun option hnamed => hchecked option hnamed.mem hnamed.equal
  obtain ⟨filter, others, hcompile, hnotCompile, -, hsplit⟩ :=
    hforms.selects_complement hequal hnotEqual .standard finishes
  have hselects (element : Element) := hsplit ⟨_, hwalnut⟩ element
  have hdoor : filter.selects { Element.named "Door" with designOption := some ⟨3⟩ } = true := by
    rw [(hselects _).1]
    exact ⟨_, hwalnut, rfl⟩
  refine ⟨hforms, hequal, hnotEqual, filter, others, hcompile, hnotCompile, hdoor, ?_, ?_⟩
  · rw [← Bool.not_eq_true, (hselects _).2, not_not]
    exact hdoor
  · intro option? hoption
    rw [(hselects _).2, (hselects _).1]
    rintro ⟨option, hnamed, hid⟩
    have hapart : some option.id ∉ [none, some ⟨2⟩, some ⟨9⟩] := by
      rcases hothers option hnamed with h | h
      · rw [h]
        decide
      · rw [h]
        decide
    replace hid : option? = some option.id := hid
    rw [hid] at hoption
    exact hapart hoption

end ElementRules.Rule
