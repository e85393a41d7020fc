import ElementRules.Proofs.Repair

/-!
# The least change

A change asks for one field, and for all others to stay as they are (`Rule.asked`). What comes of it
is as close to that as the grammar lets it be. Each field is judged by whether it fits into the
result (`Reachable.apply_least`):

    it fits         →  it is as asked for
    it does not     →  it is the first choice that the result offers

The pass itself does not look at the result: it judges a field by those that it has settled before,
and another unit class resets the unit whatever the unit was. Nothing is lost by that, because no
two classes share a unit but the default one (`UnitClass.eq_or_eq_default_of_mem_units`).
-/

namespace ElementRules

/-- The field that the change names. -/
def Change.field : Change → Field
  | .operator _ => .operator
  | .category _ => .category
  | .property _ => .property
  | .condition _ => .condition
  | .value _ => .value
  | .ignoreCase _ => .ignoreCase
  | .unitClass _ => .unitClass
  | .unit _ => .unit
  | .indentLevel _ => .indentLevel
  | .selected _ => .selected
  | .userDefined _ => .userDefined

/-- A unit other than the default one belongs to one class. -/
theorem UnitClass.eq_or_eq_default_of_mem_units {unitClass other : UnitClass} {unit : Measure}
    (hmem : unit ∈ unitClass.units) (hother : unit ∈ other.units) :
    unitClass = other ∨ unit = .default := by
  have hapart : ∀ unit ∈ unitClass.units, unit ∈ other.units →
      unitClass = other ∨ unit = .default := by
    cases unitClass <;> cases other <;> decide
  exact hapart unit hmem hother

namespace Rule

/-- The rule that a change asks for: the field that it names is the one given, a property without
the blanks at its ends, and every other field is as it was, be the whole in the grammar or not. -/
def asked (rule : Rule) : Change → Rule
  | .operator operator => { rule with operator }
  | .category category => { rule with category }
  | .property property => { rule with property := Text.trim property }
  | .condition condition => { rule with condition }
  | .value value => { rule with value }
  | .ignoreCase ignoreCase => { rule with ignoreCase }
  | .unitClass unitClass => { rule with unitClass }
  | .unit unit => { rule with unit }
  | .indentLevel indentLevel => { rule with indentLevel }
  | .selected selected => { rule with selected }
  | .userDefined userDefined => { rule with userDefined }

variable {rule : Rule}

theorem differsIn_asked {change : Change} {field : Field} (h : field ≠ change.field) :
    differsIn rule (rule.asked change) field = false := by
  cases change <;> cases field <;>
    first | exact absurd rfl h | simp only [asked, differsIn, bne_self_eq_false]

/-- What is written is what was asked for, but for the unit of another class. -/
theorem write_unitClass (rule : Rule) (unitClass : UnitClass) :
    rule.write (.unitClass unitClass) = rule.asked (.unitClass unitClass) ∨
      rule.write (.unitClass unitClass) =
        { rule.asked (.unitClass unitClass) with unit := .default } := by
  unfold write
  dsimp only
  split
  · next hsame =>
    left
    rw [beq_iff_eq.1 hsame]
    rfl
  · right
    rfl

/-- The unit is kept exactly if the class that is settled on has it. -/
theorem Grammatical.unit_edit_unitClass (h : rule.Grammatical) (unitClass : UnitClass) :
    let settled := (rule.edit (.unitClass unitClass)).unitClass
    rule.unit ∈ settled.units ∧ (rule.edit (.unitClass unitClass)).unit = rule.unit ∨
      rule.unit ∉ settled.units ∧ (rule.edit (.unitClass unitClass)).unit = .default := by
  have hoffered : rule.unit ∈ rule.unitClass.units := h.unit_offered
  rw [h.edit_unitClass]
  dsimp only
  by_cases hsame : rule.category.settledUnitClass unitClass = rule.unitClass
  · left
    rw [if_pos hsame, hsame]
    exact ⟨hoffered, rfl⟩
  · rw [if_neg hsame]
    by_cases hmem : rule.unit ∈ (rule.category.settledUnitClass unitClass).units
    · left
      have hdefault : rule.unit = .default :=
        (UnitClass.eq_or_eq_default_of_mem_units hmem hoffered).resolve_left hsame
      exact ⟨hmem, hdefault.symm⟩
    · right
      exact ⟨hmem, rfl⟩

/-- A field of the result is the one asked for, if that fits, and otherwise the first choice. -/
theorem Grammatical.edit_field (h : rule.Grammatical) (change : Change) (field : Field) :
    (rule.asked change).FitsIn (rule.edit change) field ∧
        differsIn (rule.asked change) (rule.edit change) field = false ∨
      ¬ (rule.asked change).FitsIn (rule.edit change) field ∧
        (rule.edit change).IsFirstChoice field := by
  have hwritten := (rule.write change).settle_field field
  cases change with
  | unitClass unitClass =>
    cases field with
    | unit =>
      refine (h.unit_edit_unitClass unitClass).imp_left (And.imp_right ?_)
      intro hkept
      exact bne_eq_false_iff_eq.2 hkept.symm
    | _ =>
      -- No other field is written otherwise than it was asked for.
      unfold Rule.edit
      rcases rule.write_unitClass unitClass with hasked | hasked
      · rw [hasked] at hwritten ⊢
        exact hwritten
      · rw [hasked] at hwritten ⊢
        exact hwritten
  | _ => exact hwritten

/-- **A change is the least change.** Whatever is asked for, only the field that the change names is
asked to be another. In the result every field that fits beside the other fields of the result is
the one that was asked for, and any other is the first choice that the result offers for it. -/
theorem Reachable.apply_least (h : rule.Reachable) (change : Change) :
    let result := (rule.apply change).1
    (∀ field, field ≠ change.field → differsIn rule (rule.asked change) field = false) ∧
      ∀ field,
        (rule.asked change).FitsIn result field ∧
            differsIn (rule.asked change) result field = false ∨
          ¬ (rule.asked change).FitsIn result field ∧ result.IsFirstChoice field :=
  ⟨fun _ => differsIn_asked, h.grammatical.edit_field change⟩

/-- *The width is greater than 3 metres.* -/
def wideRule : Rule :=
  [.property "Width", .condition .greaterThan, .unitClass .length, .unit .meters,
    .value "3"].foldl edit (create (.ofNat 1) .parameter)

/-- Asked of levels, the rule loses what levels do not have, and keeps its value. -/
theorem wideRule_apply_least :
    wideRule.Reachable ∧
      let result := (wideRule.apply (.category .level)).1
      result.property = "Name" ∧ result.condition = .equal ∧ result.unitClass = .none ∧
        result.unit = .default ∧ result.value = "3" := by
  have h : wideRule.Reachable := (Reachable.created _ _).foldl_edit _
  obtain ⟨-, hleast⟩ := h.apply_least (.category .level)
  have hfirst (field : Field)
      (hmisfit : ¬ (wideRule.asked (.category .level)).FitsIn
        (wideRule.apply (.category .level)).1 field) :
      (wideRule.apply (.category .level)).1.IsFirstChoice field :=
    ((hleast field).resolve_left fun hkept => hmisfit hkept.1).2
  have hproperties : (wideRule.apply (.category .level)).1.propertyOptions.head? = some "Name" := by
    decide +kernel
  have hconditions : (wideRule.apply (.category .level)).1.conditionOptions.head? =
      some .equal := by
    decide +kernel
  have hvalue : (wideRule.asked (.category .level)).FitsIn
      (wideRule.apply (.category .level)).1 .value := by
    intro hfixed
    exact absurd hfixed (by decide +kernel)
  have hkept := ((hleast .value).resolve_right fun hlost => hlost.1 hvalue).2
  refine ⟨h, ?_, ?_, ?_, ?_, ?_⟩
  · exact Option.some.inj ((hfirst .property (by decide +kernel)).symm.trans hproperties)
  · exact Option.some.inj ((hfirst .condition (by decide +kernel)).symm.trans hconditions)
  · exact hfirst .unitClass (by decide +kernel)
  · exact hfirst .unit (by decide +kernel)
  · exact (bne_eq_false_iff_eq.1 hkept).symm.trans (by decide +kernel)

end Rule

end ElementRules
