import ElementRules.Proofs.ChangeReports

/-!
# Laws of editing

What comes of a change depends on what it gives to its field and on the fields that judge, in the
order in which they are settled. So a change that is made again finds everything as it left it, and
two changes neither of which reaches the field of the other can be made in either order:

    (rule.edit change).edit change = rule.edit change                      (Grammatical.edit_again)
    (rule.edit first).edit second = (rule.edit second).edit first            (Grammatical.edit_comm)

Two such changes can still reach one field together, the flag that ignores case: the unit class
judges it, and so do property and condition. Each of the two may only switch it off, and it stays on
if and only if both would leave it on (`settledIgnoreCase_comm`).

Where one field is in the reach of the other, the order of the changes shows, except with category
and unit: a unit is judged by its class alone, and a category that takes the class away leaves no
unit to choose (`commutes_iff`).
-/

namespace ElementRules

namespace Rule

variable {rule : Rule}

theorem apply_fst (rule : Rule) (change : Change) : (rule.apply change).1 = rule.edit change := by
  rw [apply]

/-! ## The same change again -/

/-- A change finds in its own result what it asks for. -/
theorem Grammatical.edit_again (h : rule.Grammatical) (change : Change) :
    (rule.edit change).edit change = rule.edit change := by
  have hresult : (rule.edit change).Grammatical := h.edit change
  apply eq_of_content (id_edit _ _)
  intro field
  induction field using Field.judged_induction with
  | step field ih =>
    rw [hresult.content_edit, settled_congr ih]
    by_cases hfield : field = change.field
    · subst hfield
      rw [content_asked_self, ← content_asked_self rule change]
      exact (h.content_edit change change.field).symm
    · rw [content_asked_of_ne hfield]
      exact hresult.settled_content field

/-- **A change made twice is the change made once**, whatever it asks for: the second time nothing
is changed, and nothing reported. -/
theorem Reachable.apply_again (h : rule.Reachable) (change : Change) :
    (rule.apply change).1.apply change = ((rule.apply change).1, []) := by
  have hagain : (rule.edit change).edit change = rule.edit change := h.grammatical.edit_again change
  have hnone : changedFields (rule.edit change) (rule.edit change) = [] :=
    (changedFields_eq_nil_iff rfl).2 rfl
  rw [apply_fst, apply, hagain, hnone]

/-- A rule of levels that ignores case is asked for an order, which names do not have. -/
theorem apply_again_of_coerced :
    let rule := ((create (.ofNat 1) .level).apply (.ignoreCase true)).1
    let coerced := (rule.apply (.condition .greaterThan)).1
    rule.Reachable ∧ coerced.condition = .equal ∧
      coerced.apply (.condition .greaterThan) = (coerced, []) := by
  have h : ((create (.ofNat 1) .level).apply (.ignoreCase true)).1.Reachable :=
    .changed _ (.created _ _)
  exact ⟨h, by decide +kernel, h.apply_again (.condition .greaterThan)⟩

/-! ## Changes in either order -/

theorem eq_none_of_allowsIgnoringCase {category : Category} {property : String}
    {condition : Condition} {unitClass : UnitClass}
    (h : category.allowsIgnoringCase property condition unitClass = true) : unitClass = .none := by
  unfold Category.allowsIgnoringCase at h
  rw [Bool.and_eq_true, Bool.and_eq_true] at h
  exact beq_iff_eq.1 h.1.1

/-- Where the case may be ignored before and after, there is no unit class before and after, so
neither of the two states in between switches the flag off. -/
theorem settledIgnoreCase_comm {category : Category} {property property' : String}
    {condition condition' : Condition} {unitClass unitClass' : UnitClass} {flag : Bool}
    (h : flag = true → category.allowsIgnoringCase property condition unitClass = true) :
    category.settledIgnoreCase property' condition' unitClass'
        (category.settledIgnoreCase property' condition' unitClass flag) =
      category.settledIgnoreCase property' condition' unitClass'
        (category.settledIgnoreCase property condition unitClass' flag) := by
  unfold Category.settledIgnoreCase
  by_cases hafter : category.allowsIgnoringCase property' condition' unitClass' = true
  · cases flag with
    | false => simp only [ite_self]
    | true =>
      have hbefore := h rfl
      have hclass : unitClass = unitClass' :=
        (eq_none_of_allowsIgnoringCase hbefore).trans (eq_none_of_allowsIgnoringCase hafter).symm
      subst hclass
      simp only [if_pos hafter, if_pos hbefore]
  · rw [if_neg hafter, if_neg hafter]

/-- The unit class and what the conditions are read from reach the flag together. -/
theorem Grammatical.ignoreCase_comm (h : rule.Grammatical) (unitClass : UnitClass) {change : Change}
    (hchange : change.field = .property ∨ change.field = .condition) :
    ((rule.edit change).edit (.unitClass unitClass)).ignoreCase =
      ((rule.edit (.unitClass unitClass)).edit change).ignoreCase := by
  cases change with
  | property property =>
    rw [(h.edit _).edit_unitClass, (h.edit _).edit_property, h.edit_property, h.edit_unitClass]
    exact settledIgnoreCase_comm h.ignoreCase_allowed
  | condition condition =>
    rw [(h.edit _).edit_unitClass, (h.edit _).edit_condition, h.edit_condition, h.edit_unitClass]
    exact settledIgnoreCase_comm h.ignoreCase_allowed
  | _ => exact absurd hchange (by rintro (hfield | hfield) <;> cases hfield)

/-- What only the first change reaches is settled by it alone, whether it comes first or second. -/
theorem Grammatical.content_edit_comm (h : rule.Grammatical) {first second : Change} {field : Field}
    (hfield : field ∉ second.field.reach)
    (hjudges : ∀ judge ∈ field.judgedBy, ((rule.edit first).edit second).content judge =
      ((rule.edit second).edit first).content judge) :
    ((rule.edit first).edit second).content field =
      ((rule.edit second).edit first).content field := by
  have hunjudged := (Field.not_mem_reach hfield).2
  have hfirst : ∀ judge ∈ field.judgedBy,
      (rule.edit first).content judge = ((rule.edit second).edit first).content judge := by
    intro judge hjudge
    rw [← hjudges judge hjudge]
    exact ((h.edit first).content_edit_of_not_mem_reach second judge (hunjudged judge hjudge)).symm
  calc ((rule.edit first).edit second).content field
      = (rule.edit first).content field :=
        (h.edit first).content_edit_of_not_mem_reach second field hfield
    _ = (rule.edit first).settled field ((rule.asked first).content field) :=
        h.content_edit first field
    _ = ((rule.edit second).edit first).settled field ((rule.asked first).content field) :=
        settled_congr hfirst _
    _ = ((rule.edit second).edit first).settled field
          (((rule.edit second).asked first).content field) := by
        rw [content_asked_congr (h.content_edit_of_not_mem_reach second field hfield) first]
    _ = ((rule.edit second).edit first).content field :=
        ((h.edit second).content_edit first field).symm

/-- The flag is the one field that two changes can both reach without reaching each other's, and
one of the two is then a change of the unit class. -/
theorem reached_by_both : ∀ a b field : Field, a ∉ b.reach → b ∉ a.reach → field ∈ a.reach →
    field ∈ b.reach → field = .ignoreCase ∧
      ((a = .property ∨ a = .condition) ∧ b = .unitClass ∨
        a = .unitClass ∧ (b = .property ∨ b = .condition)) := by
  decide

theorem Grammatical.edit_comm (h : rule.Grammatical) {first second : Change}
    (hfirst : first.field ∉ second.field.reach) (hsecond : second.field ∉ first.field.reach) :
    (rule.edit first).edit second = (rule.edit second).edit first := by
  apply eq_of_content
  · simp only [id_edit]
  intro field
  induction field using Field.judged_induction with
  | step field ih =>
    by_cases htwo : field ∈ second.field.reach
    · by_cases hone : field ∈ first.field.reach
      · obtain ⟨rfl, ⟨hsources, hclass⟩ | ⟨hclass, hsources⟩⟩ :=
          reached_by_both _ _ field hfirst hsecond hone htwo
        · cases second with
          | unitClass unitClass => exact h.ignoreCase_comm unitClass hsources
          | _ => cases hclass
        · cases first with
          | unitClass unitClass => exact (h.ignoreCase_comm unitClass hsources).symm
          | _ => cases hclass
      · exact (h.content_edit_comm hone fun judge hjudge => (ih judge hjudge).symm).symm
    · exact h.content_edit_comm htwo ih

/-! ## Which changes commute -/

/-- A category keeps the class or takes it away, and then no unit is left but the default one. -/
theorem settledUnit_settledUnitClass (category : Category) (unitClass : UnitClass)
    (unit : Measure) :
    (category.settledUnitClass unitClass).settledUnit (unitClass.settledUnit unit) =
      (category.settledUnitClass unitClass).settledUnit unit := by
  cases hlike : category.isParameterLike with
  | true =>
    have hclass : category.settledUnitClass unitClass = unitClass := if_pos hlike
    rw [hclass]
    exact if_pos (List.contains_iff_mem.2 (unitClass.settledUnit_mem unit))
  | false =>
    have hdefault (given : Measure) : UnitClass.none.settledUnit given = .default :=
      List.mem_singleton.1 (UnitClass.none.settledUnit_mem given)
    rw [Category.settledUnitClass_of_not_parameterLike unitClass hlike, hdefault, hdefault]

theorem Grammatical.edit_category_unit (h : rule.Grammatical) (category : Category)
    (unit : Measure) :
    (rule.edit (.category category)).edit (.unit unit) =
      (rule.edit (.unit unit)).edit (.category category) := by
  rw [(h.edit _).edit_unit, h.edit_unit]
  unfold Rule.edit Rule.write
  rw [settle_eq, settle_eq]
  simp only [settledUnit_settledUnitClass]

end Rule

namespace Field

/-- Changes of the two fields end in the same rule, whichever comes first. -/
def Commutes (a b : Field) : Prop :=
  ∀ rule : Rule, rule.Reachable → ∀ first second : Change, first.field = a → second.field = b →
    ((rule.apply first).1.apply second).1 = ((rule.apply second).1.apply first).1

/-- Neither field is in the reach of the other, or they are category and unit. -/
def Independent (a b : Field) : Prop :=
  a ∉ b.reach ∧ b ∉ a.reach ∨ a = .category ∧ b = .unit ∨ a = .unit ∧ b = .category

instance (a b : Field) : Decidable (a.Independent b) :=
  inferInstanceAs (Decidable (_ ∧ _ ∨ _))

theorem commutes_of_independent {a b : Field} (hindependent : a.Independent b) : a.Commutes b := by
  rintro rule h first second rfl rfl
  have h := h.grammatical
  simp only [Rule.apply_fst]
  rcases hindependent with ⟨hfirst, hsecond⟩ | ⟨hfirst, hsecond⟩ | ⟨hfirst, hsecond⟩
  · exact h.edit_comm hfirst hsecond
  · cases first with
    | category category =>
      cases second with
      | unit unit => exact h.edit_category_unit category unit
      | _ => cases hsecond
    | _ => cases hfirst
  · cases first with
    | unit unit =>
      cases second with
      | category category => exact (h.edit_category_unit category unit).symm
      | _ => cases hsecond
    | _ => cases hfirst

/-- Two changes of a field, to be tried with others. -/
def trials : Field → List Change
  | .operator => [.operator .and, .operator .or]
  | .category => [.category .parameter, .category .elementType]
  | .property => [.property "Elevation", .property "Width"]
  | .condition => [.condition .equal, .condition .greaterThan]
  | .value => [.value "1", .value "2"]
  | .ignoreCase => [.ignoreCase true, .ignoreCase false]
  | .unitClass => [.unitClass .none, .unitClass .length]
  | .unit => [.unit .meters, .unit .feet]
  | .indentLevel => [.indentLevel 0, .indentLevel 1]
  | .selected => [.selected true, .selected false]
  | .userDefined => [.userDefined true, .userDefined false]

theorem field_of_mem_trials {field : Field} {change : Change} (h : change ∈ field.trials) :
    change.field = field := by
  cases field <;> revert change <;> simp [trials, Change.field]

/-- A rule on the levels that elements have, a rule on a parameter, and one on a length. -/
def triedRules : List Rule :=
  [[.condition .defined].foldl Rule.edit (.create (.ofNat 1) .level),
    .create (.ofNat 2) .parameter,
    [.unitClass .length].foldl Rule.edit (.create (.ofNat 3) .parameter)]

theorem reachable_of_mem_triedRules {rule : Rule} (h : rule ∈ triedRules) : rule.Reachable := by
  simp only [triedRules, List.mem_cons, List.not_mem_nil, or_false] at h
  obtain rfl | rfl | rfl := h
  · exact (Rule.Reachable.created _ _).foldl_edit _
  · exact .created _ _
  · exact (Rule.Reachable.created _ _).foldl_edit _

/-- For any other pair of fields, one of these rules tells which of two changes came first. -/
theorem exists_trial : ∀ a b : Field, ¬ a.Independent b →
    ∃ rule ∈ triedRules, ∃ first ∈ a.trials, ∃ second ∈ b.trials,
      (rule.edit first).edit second ≠ (rule.edit second).edit first := by
  decide +kernel

/-- Only where one field is in the reach of the other can the order of two changes be told, and
there it can, but for category and unit. -/
theorem commutes_iff (a b : Field) : a.Commutes b ↔ a.Independent b := by
  constructor
  · intro hcommutes
    by_contra hdependent
    obtain ⟨rule, hrule, first, hfirst, second, hsecond, hdiffers⟩ := exists_trial a b hdependent
    have hsame := hcommutes rule (reachable_of_mem_triedRules hrule) first second
      (field_of_mem_trials hfirst) (field_of_mem_trials hsecond)
    simp only [Rule.apply_fst] at hsame
    exact hdiffers hsame
  · exact commutes_of_independent

/-- **Independent changes commute.** A note goes with every change of another field; property,
condition and value go with unit class and unit; the flag that ignores case goes with value and
unit. Of all other pairs of fields only category and unit commute. -/
theorem edits_commute :
    (∀ note ∈ notes, ∀ other, other ≠ note → Commutes note other) ∧
      (∀ a ∈ [property, condition, value], ∀ b ∈ [unitClass, unit], Commutes a b) ∧
      (∀ other ∈ [value, unit], Commutes ignoreCase other) ∧
      ∀ a b : Field, a.Commutes b ↔ a.Independent b := by
  refine ⟨?_, ?_, ?_, commutes_iff⟩
  · simp only [commutes_iff]
    decide
  · simp only [commutes_iff]
    decide
  · simp only [commutes_iff]
    decide

/-- *The mark contains “a”*, in whatever case. The unit class takes the flag away at once, the
condition leaves it. -/
theorem edits_commute_on_flag :
    let rule := [.property "Mark", .condition .contains, .value "a",
      .ignoreCase true].foldl Rule.edit (.create (.ofNat 1) .parameter)
    let negated := (rule.apply (.condition .doesNotContain)).1
    let measured := (rule.apply (.unitClass .length)).1
    rule.Reachable ∧ negated.ignoreCase = true ∧ measured.ignoreCase = false ∧
      (negated.apply (.unitClass .length)).1 =
        (measured.apply (.condition .doesNotContain)).1 := by
  have h : ([.property "Mark", .condition .contains, .value "a",
      .ignoreCase true].foldl Rule.edit (.create (.ofNat 1) .parameter)).Reachable :=
    (Rule.Reachable.created _ _).foldl_edit _
  obtain ⟨-, hunits, -⟩ := edits_commute
  exact ⟨h, by decide +kernel, by decide +kernel,
    hunits condition (by decide) unitClass (by decide) _ h (.condition .doesNotContain)
      (.unitClass .length) rfl rfl⟩

end Field

end ElementRules
