import Mathlib.Data.List.Nodup
import Mathlib.Order.Monotone.Basic
import ElementRules.Filter

/-!
# The timeline of an element

The sequence of phases is a timeline. An element that is created in one of its phases has one status
at every place, and goes through them in this order, where some may be missing:

    future … future, new, existing … existing, demolished, past … past

`PhaseStatus.IsSeenFrom` gives each status a condition of its own, so that the order of the cases
does not matter, and the search through the cases finds the status whose condition holds
(`seenFrom_eq_iff`). No element goes back from one place to the next (`rank_seenFrom_succ`), so none
ever does (`monotone_rank_seenFrom`). That is so for inconsistent data too: what is demolished
before it is created is past from its creation on.

An element that is created in none of the phases has no status, and no predicate on its status holds
of it, inverted or not. `phaseStatus_timeline` has both kinds of element.
-/

namespace ElementRules

/-! ## The status at a place -/

namespace PhaseStatus

/-- When the status is seen from a place, by the places of creation and demolition. -/
def IsSeenFrom (place created : Nat) (demolished : Option Nat) : PhaseStatus → Prop
  | .future => place < created
  | .new => place = created ∧ ∀ gone, demolished = some gone → ¬ gone ≤ created
  | .temporary => place = created ∧ demolished = some created
  | .existing => created < place ∧ ∀ gone, demolished = some gone → place < gone
  | .demolished => created < place ∧ demolished = some place
  | .past => created ≤ place ∧ ∃ gone, demolished = some gone ∧ gone < place

section Status

variable {place created : Nat} {demolished : Option Nat} {status other : PhaseStatus}

theorem isSeenFrom_seenFrom (place created : Nat) (demolished : Option Nat) :
    (seenFrom place created demolished).IsSeenFrom place created demolished := by
  unfold seenFrom
  split
  · next hfuture => exact hfuture
  · next hfuture =>
    -- Demolition is looked at first; only what still stands is new or existing.
    cases demolished with
    | none =>
      dsimp only
      split
      · next hcreated => exact ⟨hcreated.symm, fun gone hgone => by cases hgone⟩
      · next hcreated => exact ⟨by omega, fun gone hgone => by cases hgone⟩
    | some gone =>
      dsimp only
      split
      · next hnow =>
        split
        · next hcreated => exact ⟨hcreated.symm, by rw [hnow, hcreated]⟩
        · next hcreated => exact ⟨by omega, by rw [hnow]⟩
      · next hnow =>
        split
        · next hgone => exact ⟨by omega, gone, rfl, hgone⟩
        · next hgone =>
          split
          · next hcreated =>
            refine ⟨hcreated.symm, ?_⟩
            rintro _ ⟨rfl⟩
            omega
          · next hcreated =>
            refine ⟨by omega, ?_⟩
            rintro _ ⟨rfl⟩
            omega

/-- No two statuses are seen from one place. -/
theorem IsSeenFrom.unique (h : status.IsSeenFrom place created demolished)
    (hother : other.IsSeenFrom place created demolished) : status = other := by
  cases status <;> cases other <;> first | rfl | grind [IsSeenFrom]

theorem seenFrom_eq_iff :
    seenFrom place created demolished = status ↔ status.IsSeenFrom place created demolished := by
  constructor
  · rintro rfl
    exact isSeenFrom_seenFrom place created demolished
  · intro h
    exact (isSeenFrom_seenFrom place created demolished).unique h

end Status

/-! ## From place to place -/

/-- How far along an element is. -/
def rank : PhaseStatus → Nat
  | .future => 0
  | .new => 1
  | .temporary => 1
  | .existing => 2
  | .demolished => 3
  | .past => 4

theorem rank_seenFrom_succ (place created : Nat) (demolished : Option Nat) :
    (seenFrom place created demolished).rank ≤ (seenFrom (place + 1) created demolished).rank := by
  have hhere := isSeenFrom_seenFrom place created demolished
  have hnext := isSeenFrom_seenFrom (place + 1) created demolished
  generalize seenFrom place created demolished = here at hhere ⊢
  generalize seenFrom (place + 1) created demolished = next at hnext ⊢
  -- A pair of statuses is in order, or its two conditions exclude each other.
  cases here <;> cases next <;> first | decide | grind [IsSeenFrom]

theorem monotone_rank_seenFrom (created : Nat) (demolished : Option Nat) :
    Monotone fun place => (seenFrom place created demolished).rank :=
  monotone_nat_of_le_succ fun place => rank_seenFrom_succ place created demolished

end PhaseStatus

/-! ## The places of the phases -/

/-- The place of a phase in the sequence; none if the phase is not in it, or not given. -/
def IsPlaceOf (phases : List ElementId) (phase? : Option ElementId) : Option Nat → Prop
  | some place => ∃ phase, phase? = some phase ∧ phases[place]? = some phase
  | none => ∀ phase, phase? = some phase → phase ∉ phases

section Places

variable {phases : List ElementId} {phase? : Option ElementId} {place? : Option Nat}

theorem isPlaceOf_search (phases : List ElementId) (phase? : Option ElementId) :
    IsPlaceOf phases phase? (phase?.bind (phases.idxOf? ·)) := by
  cases phase? with
  | none =>
    intro phase hphase
    cases hphase
  | some phase =>
    show IsPlaceOf phases (some phase) (phases.idxOf? phase)
    cases hsearch : phases.idxOf? phase with
    | none =>
      rintro _ ⟨rfl⟩
      exact List.idxOf?_eq_none_iff.1 hsearch
    | some place =>
      obtain ⟨hlt, hplace, -⟩ := List.idxOf?_eq_some_iff.1 hsearch
      exact ⟨phase, rfl, by rw [List.getElem?_eq_getElem hlt, hplace]⟩

/-- Where no phase is repeated, each is at one place. -/
theorem IsPlaceOf.unique (hdistinct : phases.Nodup) {other? : Option Nat}
    (h : IsPlaceOf phases phase? place?) (hother : IsPlaceOf phases phase? other?) :
    place? = other? := by
  cases place? with
  | none =>
    cases other? with
    | none => rfl
    | some other =>
      obtain ⟨phase, hphase, hat⟩ := hother
      exact absurd (List.mem_of_getElem? hat) (h phase hphase)
  | some place =>
    obtain ⟨phase, rfl, hat⟩ := h
    cases other? with
    | none => exact absurd (List.mem_of_getElem? hat) (hother phase rfl)
    | some other =>
      obtain ⟨_, ⟨rfl⟩, hatOther⟩ := hother
      obtain ⟨hlt, -⟩ := List.getElem?_eq_some_iff.1 hat
      rw [(List.getElem?_inj hlt hdistinct).1 (hat.trans hatOther.symm)]

theorem IsPlaceOf.search_eq (hdistinct : phases.Nodup) (h : IsPlaceOf phases phase? place?) :
    phase?.bind (phases.idxOf? ·) = place? :=
  (isPlaceOf_search phases phase?).unique hdistinct h

end Places

/-! ## Predicates on the status -/

namespace Predicate

variable {phases : List ElementId} {element : Element}

theorem hasStatus_of_not_created (hdistinct : phases.Nodup)
    (h : IsPlaceOf phases element.phaseCreated none) (place : Nat) (status : PhaseStatus)
    (inverted : Bool) : hasStatus phases place status inverted element = false := by
  unfold hasStatus
  simp only [h.search_eq hdistinct]

theorem hasStatus_of_created (hdistinct : phases.Nodup) {created : Nat} {demolished : Option Nat}
    (hcreated : IsPlaceOf phases element.phaseCreated (some created))
    (hdemolished : IsPlaceOf phases element.phaseDemolished demolished) (place : Nat)
    (status : PhaseStatus) (inverted : Bool) :
    hasStatus phases place status inverted element =
      ((PhaseStatus.seenFrom place created demolished == status) != inverted) := by
  unfold hasStatus
  simp only [hcreated.search_eq hdistinct, hdemolished.search_eq hdistinct]

/-- **Phase statuses form a timeline.** In a sequence of distinct phases each phase has one place.
No predicate on the status holds of an element that is created in none of the phases. An element
that is created in one of them has exactly one status at every place, the one that the places of
its creation and its demolition say; the inverted predicates hold where the plain ones do not; and
from a place to a later one, no element goes back. -/
theorem phaseStatus_timeline (hdistinct : phases.Nodup) (element : Element) :
    (∀ phase?, ∃! place?, IsPlaceOf phases phase? place?) ∧
    (IsPlaceOf phases element.phaseCreated none → ∀ place status inverted,
      (phaseStatus phases place status inverted).holds element = false) ∧
    ∀ created demolished, IsPlaceOf phases element.phaseCreated (some created) →
      IsPlaceOf phases element.phaseDemolished demolished →
      (∀ place, ∃! status, (phaseStatus phases place status false).holds element = true) ∧
      (∀ place status, (phaseStatus phases place status true).holds element = true ↔
        ¬ (phaseStatus phases place status false).holds element = true) ∧
      (∀ place status, (phaseStatus phases place status false).holds element = true ↔
        status.IsSeenFrom place created demolished) ∧
      ∀ earlier later before after, earlier ≤ later →
        (phaseStatus phases earlier before false).holds element = true →
        (phaseStatus phases later after false).holds element = true →
        before.rank ≤ after.rank := by
  refine ⟨?_, fun hnone => hasStatus_of_not_created hdistinct hnone, ?_⟩
  · intro phase?
    refine ⟨_, isPlaceOf_search phases phase?, ?_⟩
    intro place? hplace
    exact (hplace.search_eq hdistinct).symm
  · intro created demolished hcreated hdemolished
    have hholds (place : Nat) (status : PhaseStatus) :
        (phaseStatus phases place status false).holds element = true ↔
          PhaseStatus.seenFrom place created demolished = status := by
      rw [holds, hasStatus_of_created hdistinct hcreated hdemolished, Bool.bne_false, beq_iff_eq]
    have hinverted (place : Nat) (status : PhaseStatus) :
        (phaseStatus phases place status true).holds element = true ↔
          PhaseStatus.seenFrom place created demolished ≠ status := by
      rw [holds, hasStatus_of_created hdistinct hcreated hdemolished, Bool.bne_true,
        Bool.not_eq_true', beq_eq_false_iff_ne]
    refine ⟨?_, ?_, ?_, ?_⟩
    · intro place
      simp only [hholds]
      exact ⟨_, rfl, fun _ => Eq.symm⟩
    · intro place status
      rw [hinverted, hholds]
    · intro place status
      rw [hholds, PhaseStatus.seenFrom_eq_iff]
    · intro earlier later before after hle hbefore hafter
      obtain rfl := (hholds earlier before).1 hbefore
      obtain rfl := (hholds later after).1 hafter
      exact PhaseStatus.monotone_rank_seenFrom created demolished hle

/-- Created in the last of three phases and demolished in the second. -/
def misdatedWall : Element :=
  { Element.named "Wall" with phaseCreated := some ⟨3⟩, phaseDemolished := some ⟨2⟩ }

/-- The wall is in the future when it is demolished, and past as soon as it is created. Without its
phase in the sequence it has no status. -/
theorem misdatedWall_timeline :
    let phases : List ElementId := [⟨1⟩, ⟨2⟩, ⟨3⟩]
    phases.Nodup ∧ IsPlaceOf phases misdatedWall.phaseCreated (some 2) ∧
      IsPlaceOf phases misdatedWall.phaseDemolished (some 1) ∧
      (phaseStatus phases 1 .future false).holds misdatedWall = true ∧
      (phaseStatus phases 1 .demolished true).holds misdatedWall = true ∧
      (∀ place, 2 ≤ place → (phaseStatus phases place .past false).holds misdatedWall = true) ∧
      (phaseStatus [⟨1⟩, ⟨2⟩] 0 .past true).holds misdatedWall = false := by
  intro phases
  have hdistinct : phases.Nodup := by decide
  have hcreated : IsPlaceOf phases misdatedWall.phaseCreated (some 2) := ⟨⟨3⟩, rfl, rfl⟩
  have hdemolished : IsPlaceOf phases misdatedWall.phaseDemolished (some 1) := ⟨⟨2⟩, rfl, rfl⟩
  obtain ⟨-, -, htimeline⟩ := phaseStatus_timeline hdistinct misdatedWall
  obtain ⟨hone, hinverted, hseen, -⟩ := htimeline 2 (some 1) hcreated hdemolished
  have hfuture : (phaseStatus phases 1 .future false).holds misdatedWall = true := by
    rw [hseen]
    show 1 < 2
    omega
  refine ⟨hdistinct, hcreated, hdemolished, hfuture, ?_, ?_, ?_⟩
  · rw [hinverted]
    intro hdemolishedThere
    cases (hone 1).unique hfuture hdemolishedThere
  · intro place hplace
    rw [hseen]
    exact ⟨hplace, 1, rfl, by omega⟩
  · have hfew : [(⟨1⟩ : ElementId), ⟨2⟩].Nodup := by decide
    obtain ⟨-, hoff, -⟩ := phaseStatus_timeline hfew misdatedWall
    apply hoff
    rintro _ ⟨rfl⟩
    decide

end Predicate

end ElementRules
