import ElementRules.Pattern.Program.Beginnings
import Mathlib.Algebra.Group.Action.Defs
import Mathlib.Algebra.Order.BigOperators.Group.List
import Mathlib.Algebra.Order.Ring.Nat

/-!
# Few beginnings

However large an expression is, the list of the texts that its matches begin with stays short, or
there is none (`Expression.isShort_beginnings`):

    expression.beginnings = some texts  →  texts.length ≤ mostTexts

So a search for the texts stays small where a program would be too large. A step either looks at
the length of what it makes, or lets no text become more than one; so one list that is short is
enough for the step to make a short one.
-/

namespace ElementRules.Pattern

theorem Beginning.length_merge_le (texts : List Beginning) :
    (merge texts).length ≤ texts.length := by
  induction texts with
  | nil => exact Nat.le_refl _
  | cons first rest ih =>
    unfold merge
    rw [List.length_cons]
    split
    · rw [List.length_singleton]
      omega
    · next next others hrest =>
      rw [hrest, List.length_cons] at ih
      split
      · rw [List.length_cons]
        omega
      · rw [List.length_cons, List.length_cons]
        omega

namespace Beginnings

/-- There are not too many texts. -/
def IsShort (beginnings : Beginnings) : Prop := ∀ texts ∈ beginnings, texts.length ≤ mostTexts

theorem isShort_none : IsShort none := nofun

theorem isShort_some {texts : List Beginning} (h : texts.length ≤ mostTexts) :
    IsShort (some texts) := by
  rintro _ ⟨⟩
  exact h

theorem isShort_nothing : nothing.IsShort := isShort_some (by decide)

/-! ## Sequences -/

section First

variable {first : Beginnings}

theorem IsShort.unfinished (h : first.IsShort) : first.unfinished.IsShort := by
  cases first with
  | none => exact isShort_none
  | some texts =>
    refine isShort_some ?_
    rw [List.length_map]
    exact h texts rfl

/-- A text that is whole becomes as many as there are to go on with, and another stays one. -/
theorem IsShort.followedBy (h : first.IsShort) (next : Beginnings) :
    (first.followedBy next).IsShort := by
  cases first with
  | none => exact isShort_none
  | some texts =>
    have htexts : texts.length ≤ mostTexts := h texts rfl
    unfold Beginnings.followedBy
    dsimp only
    split
    · split
      · exact isShort_none
      · exact h.unfinished
    · next further hnext =>
      have hproduct : texts.length * further.length ≤ mostTexts :=
        of_decide_eq_true (Option.filter_eq_some_iff.1 hnext).2
      have heach : ∀ count ∈ texts.map fun text =>
          (if text.isWhole then further.map text.append else [text]).length,
          count ≤ max 1 further.length := by
        rw [List.forall_mem_map]
        intro text _
        split
        · rw [List.length_map]
          exact Nat.le_max_right _ _
        · exact Nat.le_max_left _ _
      have hsum := List.sum_le_card_nsmul _ _ heach
      rw [List.length_map, smul_eq_mul, ← List.length_flatMap] at hsum
      refine isShort_some ?_
      rw [List.length_map]
      refine Nat.le_trans (Beginning.length_merge_le _) (Nat.le_trans hsum ?_)
      rcases Nat.le_total 1 further.length with hle | hle
      · rwa [Nat.max_eq_right hle]
      · rwa [Nat.max_eq_left hle, Nat.mul_one]

theorem IsShort.rounds (h : first.IsShort) (round : Beginnings) (count : Nat) :
    (rounds round count first).IsShort := by
  induction count generalizing first with
  | zero => exact h
  | succ count ih =>
    unfold Beginnings.rounds
    split
    · exact h
    · exact ih (h.followedBy round)

end First

/-! ## Choices -/

/-- Whatever there is on either side, both are counted together. -/
theorem isShort_beside (first other : Beginnings) : (first.beside other).IsShort := by
  have hjoined {texts others : List Beginning} (h : texts.length + others.length ≤ mostTexts) :
      IsShort (some (Beginning.merge (texts ++ others))) := by
    refine isShort_some (Nat.le_trans (Beginning.length_merge_le _) ?_)
    rwa [List.length_append]
  unfold beside
  split
  · dsimp only
    split
    · next h => exact hjoined h
    · split
      · next h => exact hjoined h
      · exact isShort_none
  · exact isShort_none

theorem length_members (ranges : List (Nat × Nat)) (count : Nat) :
    count + (ranges.flatMap fun range =>
        (List.range' range.1 (range.2 - range.1 + 1)).map fun code =>
          (⟨utf8Bytes code, true⟩ : Beginning)).length =
      ranges.foldl (fun count range => count + (range.2 - range.1 + 1)) count := by
  induction ranges generalizing count with
  | nil => rfl
  | cons range ranges ih =>
    rw [List.flatMap_cons, List.length_append, List.length_map, List.length_range', List.foldl_cons,
      ← ih, Nat.add_assoc count]

theorem isShort_ofSet (set : CharSet) : (ofSet set).IsShort := by
  unfold ofSet
  dsimp only
  split
  · exact isShort_none
  · next hfew =>
    have hlength := length_members set.ranges 0
    have hmost : mostMembers ≤ mostTexts := by decide
    refine isShort_some ?_
    omega

theorem isShort_repeated (least : Nat) (most : Option Nat) (isLazy : Bool) (round : Beginnings) :
    (repeated least most isLazy round).IsShort := by
  have hfollowed (count : Nat) : (rounds round count nothing).IsShort :=
    isShort_nothing.rounds round count
  unfold repeated
  dsimp only
  split
  · split
    · exact isShort_beside _ _
    · exact isShort_beside _ _
  · split
    · exact hfollowed _
    · exact (hfollowed _).unfinished

end Beginnings

/-! ## Expressions -/

namespace Expression

open Beginnings

theorem isShort_sequenceBeginnings (parts : List Expression) {before : Beginnings}
    (h : before.IsShort) : (sequenceBeginnings parts before).IsShort := by
  induction parts generalizing before with
  | nil =>
    rw [sequenceBeginnings]
    exact h
  | cons part parts ih =>
    rw [sequenceBeginnings]
    split
    · exact h
    · exact ih (h.followedBy _)

theorem isShort_choiceBeginnings (parts : List Expression) {before : Beginnings}
    (h : before.IsShort) : (choiceBeginnings parts before).IsShort := by
  induction parts generalizing before with
  | nil =>
    rw [choiceBeginnings]
    exact h
  | cons part parts ih =>
    rw [choiceBeginnings]
    exact ih (isShort_beside before _)

/-- **The list stays short.** However large an expression is, there are not too many texts for its
matches to begin with, or the list is given up. -/
theorem isShort_beginnings : (expression : Expression) → expression.beginnings.IsShort
  | .empty => by
    rw [beginnings]
    exact isShort_nothing
  | .look _ => by
    rw [beginnings]
    exact isShort_nothing
  | .literal _ => by
    rw [beginnings]
    refine isShort_some ?_
    rw [List.length_singleton]
    decide
  | .oneOf set => by
    rw [beginnings]
    exact isShort_ofSet set
  | .repetition .. => by
    rw [beginnings]
    exact isShort_repeated _ _ _ _
  | .group _ part => by
    rw [beginnings]
    exact isShort_beginnings part
  | .sequence parts => by
    rw [beginnings]
    exact isShort_sequenceBeginnings parts isShort_nothing
  | .choice parts => by
    rw [beginnings]
    exact isShort_choiceBeginnings parts (isShort_some (Nat.zero_le _))

end Expression

end ElementRules.Pattern
