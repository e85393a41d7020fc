import Mathlib.Data.List.Induction
import Mathlib.Data.List.Perm.Basic
import ElementRules.Proofs.Fields

/-!
# From any rule to any other

The grammar keeps no rule out of reach. To make a rule what another one is, give it the fields of
the other, one change for each (`Rule.changeTo`), in an order in which no change disturbs what the
ones before it have put in place. On the way the rule is coerced again and again, but each field,
when its turn comes, finds those that judge it as they are to be, and settles on what it is given:

    order.Perm Tagged.all → order.filter (· ∈ Field.settlingOrder) = Field.settlingOrder →
      (order.map target.changeTo).foldl edit rule = { target with id := rule.id }
                                                                       (Grammatical.foldl_changeTo)

So the rules that sessions produce are all the rules inside the grammar
(`steers_anywhere`).
-/

namespace ElementRules

namespace Field

/-- The fields of the grammar, each after those that judge it. -/
def settlingOrder : List Field :=
  [.category, .property, .condition, .unitClass, .unit, .value, .ignoreCase]

/-- A list of fields that can be given one after the other: a field comes before those that it
reaches, and after those that judge it. -/
structure InTurn (order : List Field) : Prop where
  apart : order.Pairwise fun earlier later => earlier ∉ later.reach
  judges_mem : ∀ field ∈ order, ∀ judge ∈ field.judgedBy, judge ∈ order

/-- The last field spares those before it, and its judges are among them. -/
theorem InTurn.of_concat {earlier : List Field} {last : Field}
    (h : InTurn (earlier ++ [last])) :
    InTurn earlier ∧ (∀ field ∈ earlier, field ∉ last.reach) ∧
      ∀ judge ∈ last.judgedBy, judge ∈ earlier := by
  obtain ⟨hearlier, -, hlast⟩ := List.pairwise_append.1 h.apart
  have hspared : ∀ field ∈ earlier, field ∉ last.reach := fun field hfield =>
    hlast field hfield last List.mem_cons_self
  have hbefore {judge : Field} (hmem : judge ∈ earlier ++ [last]) (hne : judge ≠ last) :
      judge ∈ earlier :=
    (List.mem_append.1 hmem).resolve_right fun hsame => hne (List.mem_singleton.1 hsame)
  refine ⟨⟨hearlier, ?_⟩, hspared, ?_⟩
  · intro field hfield judge hjudge
    apply hbefore (h.judges_mem field (List.mem_append_left _ hfield) judge hjudge)
    rintro rfl
    exact hspared field hfield (reach_closed judge judge field (mem_reach_self judge) hjudge)
  · intro judge hjudge
    apply hbefore (h.judges_mem last (List.mem_append_right _ List.mem_cons_self) judge hjudge)
    rintro rfl
    exact not_mem_reach_of_mem_judgedBy judge judge hjudge (mem_reach_self judge)

/-- A note reaches no other field, and no other field reaches it. -/
theorem mem_settlingOrder_of_mem_reach : ∀ field other : Field, other ∈ field.reach →
    other ≠ field → other ∈ settlingOrder ∧ field ∈ settlingOrder := by
  decide

/-- Wherever the notes stand, the fields come in turn. -/
theorem inTurn_of_settlingOrder {order : List Field}
    (hall : order.Perm (Tagged.all : List Field))
    (hsettings : order.filter (· ∈ settlingOrder) = settlingOrder) : InTurn order := by
  have hdistinct : order.Nodup := hall.nodup_iff.2 (by decide)
  have hsettled : (order.filter (· ∈ settlingOrder)).Pairwise
      fun earlier later => earlier ∉ later.reach := by
    rw [hsettings]
    decide
  rw [List.pairwise_filter] at hsettled
  refine ⟨hdistinct.imp₂ ?_ hsettled,
    fun _ _ judge _ => hall.mem_iff.2 (LawfulTagged.mem_all judge)⟩
  intro earlier later hne hapart hreach
  obtain ⟨hearlier, hlater⟩ := mem_settlingOrder_of_mem_reach later earlier hreach hne
  exact hapart (decide_eq_true hearlier) (decide_eq_true hlater) hreach

end Field

namespace Rule

/-- The change that makes a field what it is in this rule. -/
def changeTo (target : Rule) : Field → Change
  | .operator => .operator target.operator
  | .category => .category target.category
  | .property => .property target.property
  | .condition => .condition target.condition
  | .value => .value target.value
  | .ignoreCase => .ignoreCase target.ignoreCase
  | .unitClass => .unitClass target.unitClass
  | .unit => .unit target.unit
  | .indentLevel => .indentLevel target.indentLevel
  | .selected => .selected target.selected
  | .userDefined => .userDefined target.userDefined

theorem field_changeTo (target : Rule) (field : Field) : (target.changeTo field).field = field := by
  cases field <;> rfl

variable {rule target : Rule}

theorem content_asked_changeTo (rule : Rule) (htarget : Text.IsTrimmed target.property)
    (field : Field) :
    (rule.asked (target.changeTo field)).content field = target.content field := by
  cases field with
  | property => exact (Text.trim_eq_self_iff _).2 htarget
  | _ => rfl

/-- With its judges in place, a field takes what it is given. -/
theorem Grammatical.content_edit_changeTo (h : rule.Grammatical) (htarget : target.Grammatical)
    {field : Field}
    (hjudges : ∀ judge ∈ field.judgedBy, rule.content judge = target.content judge) :
    (rule.edit (target.changeTo field)).content field = target.content field := by
  have hkept : ∀ judge ∈ field.judgedBy,
      (rule.edit (target.changeTo field)).content judge = target.content judge := by
    intro judge hjudge
    rw [← hjudges judge hjudge]
    apply h.content_edit_of_not_mem_reach
    rw [field_changeTo]
    exact Field.not_mem_reach_of_mem_judgedBy field judge hjudge
  rw [h.content_edit, content_asked_changeTo rule htarget.property_trimmed, settled_congr hkept]
  exact htarget.settled_content field

/-- After each change the fields that have had their turn are in place. -/
theorem Grammatical.content_foldl_changeTo (h : rule.Grammatical) (htarget : target.Grammatical)
    {order : List Field} (hturn : Field.InTurn order) :
    ∀ field ∈ order,
      ((order.map target.changeTo).foldl Rule.edit rule).content field = target.content field := by
  induction order using List.reverseRecOn with
  | nil => exact List.forall_mem_nil _
  | append_singleton earlier last ih =>
    obtain ⟨hearlier, hspared, hjudges⟩ := hturn.of_concat
    have hplaced := ih hearlier
    have hresult := h.foldl_edit (earlier.map target.changeTo)
    intro field hfield
    rw [List.map_append, List.foldl_append, List.map_singleton, List.foldl_cons, List.foldl_nil]
    rcases List.mem_append.1 hfield with hfield | hfield
    · rw [← hplaced field hfield]
      apply hresult.content_edit_of_not_mem_reach
      rw [field_changeTo]
      exact hspared field hfield
    · rw [List.mem_singleton.1 hfield]
      exact hresult.content_edit_changeTo htarget fun judge hjudge =>
        hplaced judge (hjudges judge hjudge)

theorem Grammatical.foldl_changeTo (h : rule.Grammatical) (htarget : target.Grammatical)
    {order : List Field} (hall : order.Perm (Tagged.all : List Field))
    (hsettings : order.filter (· ∈ Field.settlingOrder) = Field.settlingOrder) :
    (order.map target.changeTo).foldl Rule.edit rule = { target with id := rule.id } := by
  have hplaced := h.content_foldl_changeTo htarget (Field.inTurn_of_settlingOrder hall hsettings)
  apply eq_of_content
  · rw [id_foldl_edit]
  · intro field
    rw [hplaced field (hall.mem_iff.2 (LawfulTagged.mem_all field))]
    cases field <;> rfl

/-- A fresh rule of the category can be made any rule of it. -/
theorem Grammatical.reachable (h : rule.Grammatical) : rule.Reachable := by
  have hall : (Field.settlingOrder ++ Field.notes).Perm (Tagged.all : List Field) := by decide
  have hsteered := (grammatical_create rule.id rule.category).foldl_changeTo h hall (by decide)
  rw [id_create] at hsteered
  have hreached := (Reachable.created rule.id rule.category).foldl_edit
    ((Field.settlingOrder ++ Field.notes).map rule.changeTo)
  rw [hsteered] at hreached
  exact hreached

/-- **Every rule inside the grammar can be edited into from anywhere.** Category, property,
condition, unit class, unit, value and flag are given in this order, and each of the four notes at
any time; nothing of the rule before is left but its id. So sessions of editing produce exactly the
rules inside the grammar. -/
theorem steers_anywhere :
    (∀ rule target : Rule, rule.Reachable → target.Grammatical → ∀ order : List Field,
        order.Perm (Tagged.all : List Field) →
        order.filter (· ∈ Field.settlingOrder) = Field.settlingOrder →
        (order.map target.changeTo).foldl edit rule = { target with id := rule.id }) ∧
      ∀ rule : Rule, rule.Reachable ↔ rule.Grammatical := by
  constructor
  · intro rule target h htarget order hall hsettings
    exact h.grammatical.foldl_changeTo htarget hall hsettings
  · intro rule
    exact ⟨Reachable.grammatical, Grammatical.reachable⟩

/-- *or: the name of the level contains “Floor”*, in whatever case. -/
def floorRule : Rule :=
  { id := .ofNat 1
    operator := .or
    category := .level
    property := "Name"
    condition := .contains
    value := "Floor"
    ignoreCase := true
    unitClass := .none
    unit := .default
    indentLevel := 2
    selected := true
    userDefined := false }

/-- It is made from a rule that asks whether an element has a view. -/
theorem floorRule_steered :
    (ofRecord strayRecord).Reachable ∧ floorRule.Grammatical ∧ floorRule.Reachable ∧
      ([.selected, .category, .operator, .property, .condition, .unitClass, .indentLevel, .unit,
          .value, .userDefined, .ignoreCase].map floorRule.changeTo).foldl edit
            (ofRecord strayRecord) =
        { floorRule with id := (ofRecord strayRecord).id } := by
  have h : (ofRecord strayRecord).Reachable := .loaded strayRecord
  have hfloor : floorRule.Grammatical :=
    { property_trimmed := by decide
      property_offered := by decide
      conditions_ne_nil := by decide
      condition_offered := by decide
      unitClass_none := by decide
      unit_offered := by decide
      values_ne_nil := by decide
      value_known := by decide
      ignoreCase_allowed := by decide }
  obtain ⟨hsteers, hreachable⟩ := steers_anywhere
  exact ⟨h, hfloor, (hreachable floorRule).2 hfloor,
    hsteers (ofRecord strayRecord) floorRule h hfloor _ (by decide) (by decide)⟩

end Rule

end ElementRules
