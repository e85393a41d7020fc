import ElementRules.Proofs.LeastChange
import ElementRules.Proofs.Lookup

/-!
# Fields, and what they are judged by

The pass settles a field by what it was given and by a few fields that are settled before it
(`Field.judgedBy`), and it looks at nothing else. Field by field, the outcome of a change is

    (rule.edit change).content field
      = (rule.edit change).settled field ((rule.asked change).content field)
                                                                         (Grammatical.content_edit)

where `rule.settled field` depends on the fields that judge `field` only (`settled_congr`). A change
of one field can therefore disturb the fields that are judged by it, directly or through others, and
no more (`Field.reach`):

    field ∉ change.field.reach → (rule.edit change).content field = rule.content field
                                                       (Grammatical.content_edit_of_not_mem_reach)

No field is judged by itself in the end, so what holds of a field as soon as it holds of all that
judge it holds of every field (`Field.judged_induction`).
-/

namespace ElementRules

/-! ## Fields -/

instance : LawfulTagged Field where
  mem_all member := by cases member <;> decide
  nodup_tags := by decide +kernel

instance {P : Field → Prop} [DecidablePred P] : Decidable (∀ field, P field) :=
  decidable_of_iff (∀ field ∈ (Tagged.all : List Field), P field)
    ⟨fun h field => h field (LawfulTagged.mem_all field), fun h field _ => h field⟩

namespace Field

/-- What a field holds. -/
def Content : Field → Type
  | .operator => Operator
  | .category => Category
  | .property | .value => String
  | .condition => Condition
  | .ignoreCase | .selected | .userDefined => Bool
  | .unitClass => UnitClass
  | .unit => Measure
  | .indentLevel => UInt32

/-- The fields on which it depends what a field may hold. -/
def judgedBy : Field → List Field
  | .property | .unitClass => [.category]
  | .condition => [.category, .property]
  | .unit => [.unitClass]
  | .value => [.category, .property, .condition]
  | .ignoreCase => [.category, .property, .condition, .unitClass]
  | .operator | .category | .indentLevel | .selected | .userDefined => []

/-- The fields that a change of this one may carry along, and the field itself. -/
def reach : Field → List Field
  | .category => [.category, .property, .condition, .value, .ignoreCase, .unitClass, .unit]
  | .property => [.property, .condition, .value, .ignoreCase]
  | .condition => [.condition, .value, .ignoreCase]
  | .unitClass => [.unitClass, .unit, .ignoreCase]
  | field => [field]

/-- The fields that have no part in the grammar. -/
def notes : List Field := [.operator, .indentLevel, .selected, .userDefined]

theorem mem_reach_self : ∀ field : Field, field ∈ field.reach := by decide

/-- What is judged by a field in reach is in reach. -/
theorem reach_closed : ∀ field judge judged : Field,
    judge ∈ field.reach → judge ∈ judged.judgedBy → judged ∈ field.reach := by
  decide

theorem not_mem_reach {field other : Field} (h : other ∉ field.reach) :
    other ≠ field ∧ ∀ judge ∈ other.judgedBy, judge ∉ field.reach := by
  constructor
  · rintro rfl
    exact h (mem_reach_self other)
  · intro judge hjudge hmem
    exact h (reach_closed field judge other hmem hjudge)

/-- No field reaches what it is judged by. -/
theorem not_mem_reach_of_mem_judgedBy : ∀ field judge : Field,
    judge ∈ field.judgedBy → judge ∉ field.reach := by
  decide

/-- What holds of a field as soon as it holds of its judges holds of every field. -/
theorem judged_induction {P : Field → Prop}
    (step : ∀ field : Field, (∀ judge ∈ field.judgedBy, P judge) → P field) (field : Field) :
    P field := by
  have hcategory : P .category := step _ (List.forall_mem_nil P)
  have hproperty : P .property := step _ (by simpa [judgedBy] using hcategory)
  have hcondition : P .condition := step _ (by simpa [judgedBy] using ⟨hcategory, hproperty⟩)
  have hunitClass : P .unitClass := step _ (by simpa [judgedBy] using hcategory)
  cases field with
  | operator | indentLevel | selected | userDefined => exact step _ (List.forall_mem_nil P)
  | category => exact hcategory
  | property => exact hproperty
  | condition => exact hcondition
  | unitClass => exact hunitClass
  | unit => exact step _ (by simpa [judgedBy] using hunitClass)
  | value => exact step _ (by simpa [judgedBy] using ⟨hcategory, hproperty, hcondition⟩)
  | ignoreCase =>
    exact step _ (by simpa [judgedBy] using ⟨hcategory, hproperty, hcondition, hunitClass⟩)

end Field

/-- What a change gives to its field; a property loses the blanks at its ends. -/
def Change.content : (change : Change) → change.field.Content
  | .property given => Text.trim given
  | .value given => given
  | .operator given => given
  | .category given => given
  | .condition given => given
  | .ignoreCase given => given
  | .unitClass given => given
  | .unit given => given
  | .indentLevel given => given
  | .selected given => given
  | .userDefined given => given

namespace Rule

/-! ## Rules field by field -/

/-- What a rule holds in a field. -/
def content (rule : Rule) : (field : Field) → field.Content
  | .operator => rule.operator
  | .category => rule.category
  | .property => rule.property
  | .condition => rule.condition
  | .value => rule.value
  | .ignoreCase => rule.ignoreCase
  | .unitClass => rule.unitClass
  | .unit => rule.unit
  | .indentLevel => rule.indentLevel
  | .selected => rule.selected
  | .userDefined => rule.userDefined

/-- What a field settles on in the company of the other fields of a rule, if it is given this. -/
def settled (rule : Rule) : (field : Field) → field.Content → field.Content
  | .property, property => rule.category.settledProperty property
  | .condition, condition => rule.category.settledCondition rule.property condition
  | .value, value => rule.category.settledValue rule.property rule.condition value
  | .ignoreCase, flag =>
    rule.category.settledIgnoreCase rule.property rule.condition rule.unitClass flag
  | .unitClass, unitClass => rule.category.settledUnitClass unitClass
  | .unit, unit => rule.unitClass.settledUnit unit
  | .operator, given | .category, given | .indentLevel, given | .selected, given
  | .userDefined, given => given

/-- A rule is its id and what it holds in its fields. -/
theorem eq_of_content {a b : Rule} (hid : a.id = b.id)
    (h : ∀ field, a.content field = b.content field) : a = b := by
  cases a
  cases b
  rw [mk.injEq]
  exact ⟨hid, h .operator, h .category, h .property, h .condition, h .value, h .ignoreCase,
    h .unitClass, h .unit, h .indentLevel, h .selected, h .userDefined⟩

theorem differsIn_iff (a b : Rule) (field : Field) :
    differsIn a b field = true ↔ a.content field ≠ b.content field := by
  cases field <;> exact bne_iff_ne

theorem settled_congr {a b : Rule} {field : Field}
    (h : ∀ judge ∈ field.judgedBy, a.content judge = b.content judge) (given : field.Content) :
    a.settled field given = b.settled field given := by
  have hcategory (hmem : .category ∈ field.judgedBy) : a.category = b.category := h .category hmem
  have hproperty (hmem : .property ∈ field.judgedBy) : a.property = b.property := h .property hmem
  have hcondition (hmem : .condition ∈ field.judgedBy) : a.condition = b.condition :=
    h .condition hmem
  have hunitClass (hmem : .unitClass ∈ field.judgedBy) : a.unitClass = b.unitClass :=
    h .unitClass hmem
  cases field with
  | operator | category | indentLevel | selected | userDefined => rfl
  | property | unitClass =>
    unfold settled
    rw [hcategory (by decide)]
  | condition =>
    unfold settled
    rw [hcategory (by decide), hproperty (by decide)]
  | unit =>
    unfold settled
    rw [hunitClass (by decide)]
  | value =>
    unfold settled
    rw [hcategory (by decide), hproperty (by decide), hcondition (by decide)]
  | ignoreCase =>
    unfold settled
    rw [hcategory (by decide), hproperty (by decide), hcondition (by decide),
      hunitClass (by decide)]

/-- The pass, field by field. -/
theorem content_settle (rule : Rule) (field : Field) :
    rule.settle.content field = rule.settle.settled field (rule.content field) := by
  rw [settle_eq]
  cases field <;> rfl

variable {rule : Rule}

theorem Grammatical.settled_content (h : rule.Grammatical) (field : Field) :
    rule.settled field (rule.content field) = rule.content field := by
  cases field with
  | operator | category | indentLevel | selected | userDefined => rfl
  | property => exact h.settledProperty_eq
  | condition => exact h.settledCondition_eq
  | value => exact h.settledValue_eq
  | ignoreCase => exact h.settledIgnoreCase_eq
  | unitClass => exact h.settledUnitClass_eq
  | unit => exact h.settledUnit_eq

/-! ## Changes field by field -/

theorem content_asked_self (rule : Rule) (change : Change) :
    (rule.asked change).content change.field = change.content := by
  cases change <;> rfl

theorem content_asked_of_ne {change : Change} {field : Field} (h : field ≠ change.field) :
    (rule.asked change).content field = rule.content field := by
  by_contra hcontent
  have hdiffers := (differsIn_iff rule (rule.asked change) field).2 (Ne.symm hcontent)
  rw [differsIn_asked h] at hdiffers
  exact Bool.false_ne_true hdiffers

theorem content_asked_congr {a b : Rule} {field : Field} (h : a.content field = b.content field)
    (change : Change) : (a.asked change).content field = (b.asked change).content field := by
  by_cases hfield : field = change.field
  · subst hfield
    rw [content_asked_self, content_asked_self]
  · rw [content_asked_of_ne hfield, content_asked_of_ne hfield, h]

/-- Every field settles on what was asked for it, in the company of the fields of the result. -/
theorem Grammatical.content_edit (h : rule.Grammatical) (change : Change) (field : Field) :
    (rule.edit change).content field =
      (rule.edit change).settled field ((rule.asked change).content field) := by
  cases change with
  | unitClass unitClass =>
    cases field with
    | unit =>
      show (rule.edit (.unitClass unitClass)).unit =
        (rule.edit (.unitClass unitClass)).unitClass.settledUnit rule.unit
      unfold UnitClass.settledUnit
      rcases h.unit_edit_unitClass unitClass with ⟨hmem, hunit⟩ | ⟨hmem, hunit⟩
      · rw [if_pos (List.contains_iff_mem.2 hmem), hunit]
      · rw [if_neg (mt List.contains_iff_mem.1 hmem), hunit]
    | _ =>
      -- No other field is written otherwise than it was asked for.
      have hwritten := content_settle (rule.write (.unitClass unitClass))
      unfold Rule.edit
      rcases rule.write_unitClass unitClass with hasked | hasked
      · rw [hasked] at hwritten ⊢
        exact hwritten _
      · rw [hasked] at hwritten ⊢
        exact hwritten _
  | _ => exact content_settle _ field

/-- A change leaves alone what is out of its reach. -/
theorem Grammatical.content_edit_of_not_mem_reach (h : rule.Grammatical) (change : Change)
    (field : Field) (hfield : field ∉ change.field.reach) :
    (rule.edit change).content field = rule.content field := by
  induction field using Field.judged_induction with
  | step field ih =>
    obtain ⟨hne, hjudges⟩ := Field.not_mem_reach hfield
    calc (rule.edit change).content field
        = (rule.edit change).settled field ((rule.asked change).content field) :=
          h.content_edit change field
      _ = (rule.edit change).settled field (rule.content field) := by
          rw [content_asked_of_ne hne]
      _ = rule.settled field (rule.content field) :=
          settled_congr (fun judge hjudge => ih judge hjudge (hjudges judge hjudge)) _
      _ = rule.content field := h.settled_content field

end Rule

end ElementRules
