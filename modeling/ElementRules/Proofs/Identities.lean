import Mathlib.Data.List.InsertIdx
import Mathlib.Data.List.Perm.Basic
import ElementRules.Proofs.RoundTrip

/-!
# Identities in a rule set

All operations on a rule set address a rule by its id, and find the first that has it. So a rule is
within reach only as long as no other rule has its id. No operation gives a rule another id, and
those that take rules out or move them leave the ids that remain apart; what matters is the id under
which a rule enters (`Operation.entering?`):

    (set.perform operation).ids.Nodup  ↔  what enters is new to the set     (perform_nodup_iff)

A copy enters under a fresh id. But a set takes in any rule that is pushed, and a stored set is
loaded as it is, so it is up to the user that ids stay apart. If each rule enters under a new id,
they do, over any session (`run_identifies`); if not, a rule may be lost behind another
(`sharedIds_hide_rule`).
-/

namespace ElementRules

namespace RuleSet

/-- The ids of the rules, in order. -/
def ids (set : RuleSet) : List RuleId := set.rules.map Rule.id

/-! ## Sessions -/

/-- What can be done to a set. A copy comes with its id. -/
inductive Operation
  | push (rule : Rule)
  | remove (id : RuleId)
  | duplicate (id fresh : RuleId)
  | moveUp (id : RuleId)
  | moveDown (id : RuleId)
  | edit (id : RuleId) (change : Change)

def perform (set : RuleSet) : Operation → RuleSet
  | .push rule => set.push rule
  | .remove id => set.remove id
  | .duplicate id fresh => set.duplicate id fresh
  | .moveUp id => (set.moveUp id).1
  | .moveDown id => (set.moveDown id).1
  | .edit id change => set.modify id (·.edit change)

/-- One operation after the other. -/
def run (set : RuleSet) (operations : List Operation) : RuleSet := operations.foldl perform set

/-- The id under which the operation brings a rule into the set. -/
def Operation.entering? (set : RuleSet) : Operation → Option RuleId
  | .push rule => some rule.id
  | .duplicate id fresh => if id ∈ set.ids then some fresh else none
  | _ => none

/-- Each operation of the session brings in what is new to the set that it is performed on. -/
def BringsNew (set : RuleSet) : List Operation → Prop
  | [] => True
  | operation :: later =>
    (∀ id ∈ operation.entering? set, id ∉ set.ids) ∧ (set.perform operation).BringsNew later

/-! ## The ids after an operation -/

section Ids

variable (set : RuleSet) (id : RuleId)

theorem ids_push (rule : Rule) : (set.push rule).ids = set.ids ++ [rule.id] :=
  List.map_append

theorem ids_remove : (set.remove id).ids = set.ids.erase id := by
  have hsame : (fun entry : RuleId => entry == id) ∘ Rule.id = fun rule => rule.id == id := rfl
  unfold remove ids
  rw [List.erase_eq_eraseP', List.eraseP_map, hsame]

theorem map_id_modify {change : Rule → Rule} (h : ∀ rule, (change rule).id = rule.id)
    (rules : List Rule) (place : Nat) :
    (rules.modify place change).map Rule.id = rules.map Rule.id := by
  induction rules generalizing place with
  | nil => rw [List.modify_nil]
  | cons rule rules ih =>
    cases place with
    | zero => rw [List.modify_zero_cons, List.map_cons, h, List.map_cons]
    | succ place => rw [List.modify_succ_cons, List.map_cons, ih, List.map_cons]

theorem ids_modify {change : Rule → Rule} (h : ∀ rule, (change rule).id = rule.id) :
    (set.modify id change).ids = set.ids := by
  unfold modify
  split
  · exact map_id_modify h _ _
  · rfl

theorem swapAt_perm {α : Type} (place : Nat) (entries : List α) :
    (swapAt place entries).Perm entries := by
  induction entries generalizing place with
  | nil => cases place <;> exact .refl _
  | cons first rest ih =>
    cases place with
    | zero =>
      cases rest with
      | nil => exact .refl _
      | cons second rest => exact .swap _ _ _
    | succ place => exact (ih place).cons _

/-- Moves lose no rule, and change none. -/
theorem rules_moveUp : (set.moveUp id).1.rules.Perm set.rules := by
  unfold moveUp
  split
  · exact swapAt_perm _ _
  · exact .refl _

theorem rules_moveDown : (set.moveDown id).1.rules.Perm set.rules := by
  unfold moveDown
  split
  · split
    · exact swapAt_perm _ _
    · exact .refl _
  · exact .refl _

theorem ids_moveUp : (set.moveUp id).1.ids.Perm set.ids := (rules_moveUp set id).map _

theorem ids_moveDown : (set.moveDown id).1.ids.Perm set.ids := (rules_moveDown set id).map _

theorem get?_eq_none_iff {set : RuleSet} {id : RuleId} : set.get? id = none ↔ id ∉ set.ids := by
  unfold get? ids
  rw [List.find?_eq_none, List.mem_map]
  simp only [beq_iff_eq, not_exists, not_and]

theorem place?_eq_none_iff {set : RuleSet} {id : RuleId} :
    set.place? id = none ↔ id ∉ set.ids := by
  unfold place? ids
  rw [List.findIdx?_eq_none_iff, List.mem_map]
  simp only [beq_eq_false_iff_ne, not_exists, not_and]

theorem duplicate_of_not_mem {set : RuleSet} {id : RuleId} (h : id ∉ set.ids) (fresh : RuleId) :
    set.duplicate id fresh = set := by
  unfold duplicate
  rw [place?_eq_none_iff.2 h]

theorem ids_duplicate {set : RuleSet} {id : RuleId} (h : id ∈ set.ids) (fresh : RuleId) :
    (set.duplicate id fresh).ids.Perm (fresh :: set.ids) := by
  cases hplace : set.place? id with
  | none => exact absurd h (place?_eq_none_iff.1 hplace)
  | some place =>
    cases hrule : set.get? id with
    | none => exact absurd h (get?_eq_none_iff.1 hrule)
    | some rule =>
      have hbound : place + 1 ≤ set.ids.length := by
        obtain ⟨hlt, -⟩ := List.findIdx?_eq_some_iff_getElem.1 hplace
        unfold ids
        rw [List.length_map]
        omega
      have hids : (set.duplicate id fresh).ids = set.ids.insertIdx (place + 1) fresh := by
        unfold duplicate ids
        rw [hplace, hrule]
        exact List.map_insertIdx ..
      rw [hids]
      exact List.perm_insertIdx fresh set.ids hbound

end Ids

/-! ## Whole sessions -/

section Sessions

variable {set : RuleSet}

/-- An operation keeps the ids apart exactly if what it brings in is new. -/
theorem perform_nodup_iff (h : set.ids.Nodup) (operation : Operation) :
    (set.perform operation).ids.Nodup ↔ ∀ id ∈ operation.entering? set, id ∉ set.ids := by
  cases operation with
  | push rule =>
    have hids : (set.push rule).ids.Perm (rule.id :: set.ids) := by
      rw [ids_push]
      exact List.perm_append_singleton _ _
    show (set.push rule).ids.Nodup ↔ ∀ id ∈ some rule.id, id ∉ set.ids
    rw [hids.nodup_iff, List.nodup_cons]
    simp [h]
  | duplicate id fresh =>
    show (set.duplicate id fresh).ids.Nodup ↔
      ∀ entering ∈ (if id ∈ set.ids then some fresh else none), entering ∉ set.ids
    by_cases hmem : id ∈ set.ids
    · rw [(ids_duplicate hmem fresh).nodup_iff, List.nodup_cons, if_pos hmem]
      simp [h]
    · rw [duplicate_of_not_mem hmem, if_neg hmem]
      simp [h]
  | remove id =>
    have hids : (set.perform (.remove id)).ids.Nodup := by
      show (set.remove id).ids.Nodup
      rw [ids_remove]
      exact h.erase id
    exact iff_of_true hids (by simp [Operation.entering?])
  | moveUp id =>
    exact iff_of_true ((ids_moveUp set id).nodup_iff.2 h) (by simp [Operation.entering?])
  | moveDown id =>
    exact iff_of_true ((ids_moveDown set id).nodup_iff.2 h) (by simp [Operation.entering?])
  | edit id change =>
    have hids : (set.perform (.edit id change)).ids = set.ids :=
      ids_modify set id (Rule.id_edit · change)
    rw [hids]
    exact iff_of_true h (by simp [Operation.entering?])

theorem nodup_run {operations : List Operation} (h : set.ids.Nodup)
    (hnew : set.BringsNew operations) : (set.run operations).ids.Nodup := by
  induction operations generalizing set with
  | nil => exact h
  | cons operation later ih => exact ih ((perform_nodup_iff h operation).2 hnew.1) hnew.2

/-- Under distinct ids every rule is found by its id, and a rule that is removed is gone. -/
theorem get?_eq_some_iff (h : set.ids.Nodup) {id : RuleId} {rule : Rule} :
    set.get? id = some rule ↔ rule ∈ set.rules ∧ rule.id = id :=
  find?_key_iff h

theorem get?_remove (h : set.ids.Nodup) (id : RuleId) : (set.remove id).get? id = none := by
  rw [get?_eq_none_iff, ids_remove, h.mem_erase_iff]
  exact fun hmem => hmem.1 rfl

/-- **Ids identify rules**, as long as no rule enters under an id that is taken. A session starts
from a set with distinct ids, be it empty or loaded, and each of its operations brings in what is
new to the set. Then the ids stay distinct, so that every rule is found by its id, and what is
removed is no longer found. The condition cannot be weakened: the next operation keeps the ids
distinct only if what it brings in is new. -/
theorem run_identifies {start : RuleSet} {operations : List Operation} (hstart : start.ids.Nodup)
    (hnew : start.BringsNew operations) :
    let set := start.run operations
    set.ids.Nodup ∧
      (∀ id removed, set.get? id = some removed → (set.remove id).get? id = none) ∧
      (∀ rule ∈ set.rules, set.get? rule.id = some rule) ∧
      ∀ operation : Operation, (set.perform operation).ids.Nodup ↔
        ∀ id ∈ operation.entering? set, id ∉ set.ids := by
  intro set
  have hdistinct : set.ids.Nodup := nodup_run hstart hnew
  refine ⟨hdistinct, ?_, ?_, perform_nodup_iff hdistinct⟩
  · intro id removed _
    exact get?_remove hdistinct id
  · intro rule hmem
    exact (get?_eq_some_iff hdistinct).2 ⟨hmem, rfl⟩

/-- *Level is …*, under the first id. -/
def levelNamed (name : String) : Rule := (Rule.create (.ofNat 1) .level).edit (.value name)

/-- A rule is copied, the copy is changed and moved to the front, and the rule is removed. -/
def copySession : List Operation :=
  [.push (levelNamed "Ground"), .duplicate (.ofNat 1) (.ofNat 2), .edit (.ofNat 2) (.value "Roof"),
    .moveUp (.ofNat 2), .remove (.ofNat 1)]

theorem copySession_identifies :
    empty.ids.Nodup ∧ empty.BringsNew copySession ∧
      ∃ rule, (empty.run copySession).get? (.ofNat 2) = some rule ∧ rule.value = "Roof" ∧
        ((empty.run copySession).remove (.ofNat 2)).get? (.ofNat 2) = none := by
  have hstart : empty.ids.Nodup := List.nodup_nil
  have hnew : empty.BringsNew copySession := by
    refine ⟨?_, ?_, ?_, ?_, ?_, trivial⟩ <;> decide +kernel
  obtain ⟨-, hremoved, hfound, -⟩ := run_identifies hstart hnew
  have hroof : ∃ rule ∈ (empty.run copySession).rules,
      rule.id = .ofNat 2 ∧ rule.value = "Roof" := by
    decide +kernel
  obtain ⟨rule, hmem, hid, hvalue⟩ := hroof
  have hrule : (empty.run copySession).get? (.ofNat 2) = some rule := hid ▸ hfound rule hmem
  exact ⟨hstart, hnew, rule, hrule, hvalue, hremoved _ rule hrule⟩

/-- Two rules are pushed under one id: the second is out of reach until the first is removed, and
then its id is still found. The set can be stored and loaded as it is. -/
theorem sharedIds_hide_rule :
    let set := empty.run [.push (levelNamed "Ground"), .push (levelNamed "Roof")]
    ¬ set.ids.Nodup ∧
      (levelNamed "Roof" ∈ set.rules ∧
        set.get? (levelNamed "Roof").id = some (levelNamed "Ground")) ∧
      (set.remove (.ofNat 1)).get? (.ofNat 1) = some (levelNamed "Roof") ∧
      parse? set.toJson.render = some set := by
  refine ⟨by decide +kernel, by decide +kernel, by decide +kernel, ?_⟩
  apply parse?_render
  have hgrammatical (name : String) : (levelNamed name).Grammatical :=
    (Rule.grammatical_create _ _).edit _
  intro rule hmem
  rcases List.mem_pair.1 hmem with rfl | rfl
  · exact hgrammatical "Ground"
  · exact hgrammatical "Roof"

end Sessions

end RuleSet

end ElementRules
