import ElementRules.Pattern.CharSet
import Mathlib.Data.List.Sort

/-!
# Membership in sets of characters

A set is kept as the ascending places where membership changes, and a code point is a member if the
number of places up to it is odd. The search for this number halves the list, and finds it in every
ascending list (`rank_eq`). So a set built from code points has these members and no others:

    (ofCodes codes).containsCode code  ↔  code ∈ codes                    (containsCode_ofCodes_iff)
-/

namespace ElementRules.Pattern

/-! ## Ranks -/

/-- In an ascending list the numbers up to a bound come first. -/
theorem getD_le_iff {numbers : List Nat} (h : numbers.Pairwise (· ≤ ·)) (bound : Nat) {place : Nat}
    (hplace : place < numbers.length) :
    numbers.getD place 0 ≤ bound ↔ place < numbers.countP (· ≤ bound) := by
  induction numbers generalizing place with
  | nil => exact absurd hplace (Nat.not_lt_zero _)
  | cons first rest ih =>
    obtain ⟨hfirst, hrest⟩ := List.pairwise_cons.1 h
    have hnone (hlarge : ¬ first ≤ bound) : rest.countP (· ≤ bound) = 0 := by
      refine List.countP_eq_zero.2 ?_
      intro number hmem
      have := hfirst number hmem
      simp only [decide_eq_true_eq]
      omega
    cases place with
    | zero =>
      rw [List.getD_cons_zero, List.countP_cons]
      by_cases hsmall : first ≤ bound
      · simp [hsmall]
      · simp [hsmall, hnone hsmall]
    | succ place =>
      rw [List.getD_cons_succ, List.countP_cons, ih hrest (Nat.lt_of_succ_lt_succ hplace)]
      by_cases hsmall : first ≤ bound
      · simp [hsmall]
      · simp [hsmall, hnone hsmall]

/-- The part between `low` and `high` has the number looked for, and gets smaller by half. -/
theorem countUpTo_eq {numbers : Array Nat} (h : numbers.toList.Pairwise (· ≤ ·)) (bound : Nat)
    {fuel low high : Nat} (hfuel : high - low < Nat.pow 2 fuel)
    (hlow : low ≤ numbers.toList.countP (· ≤ bound))
    (hhigh : numbers.toList.countP (· ≤ bound) ≤ high) (hsize : high ≤ numbers.size) :
    countUpTo numbers bound fuel low high = numbers.toList.countP (· ≤ bound) := by
  induction fuel generalizing low high with
  | zero =>
    replace hfuel : high - low < 1 := hfuel
    rw [countUpTo]
    omega
  | succ fuel ih =>
    replace hfuel : high - low < Nat.pow 2 fuel * 2 := hfuel
    rw [countUpTo]
    split
    · next hlt =>
      have hplace : (low + high) / 2 < numbers.toList.length := by
        rw [Array.length_toList]
        omega
      have hmiddle := getD_le_iff h bound hplace
      rw [List.getD_eq_getElem?_getD, Array.getElem?_toList, ← Array.getD_eq_getD_getElem?]
        at hmiddle
      dsimp only
      split
      · next hle =>
        have := hmiddle.1 hle
        exact ih (by omega) (by omega) hhigh hsize
      · next hgt =>
        have := mt hmiddle.2 hgt
        exact ih (by omega) hlow (by omega) (by omega)
    · omega

theorem rank_eq {numbers : Array Nat} (h : numbers.toList.Pairwise (· ≤ ·)) (bound : Nat) :
    rank numbers bound = numbers.toList.countP (· ≤ bound) := by
  refine countUpTo_eq h bound ?_ (Nat.zero_le _) ?_ (Nat.le_refl _)
  · have hlog : numbers.size < Nat.pow 2 (numbers.size.log2 + 1) := Nat.lt_log2_self
    exact Nat.lt_of_le_of_lt (Nat.sub_le _ _)
      (Nat.lt_of_lt_of_le hlog (Nat.pow_le_pow_right (by decide) (Nat.le_succ _)))
  · exact Nat.le_trans List.countP_le_length (Nat.le_of_eq Array.length_toList)

namespace CharSet

/-! ## Sets of code points -/

/-- The places of change ascend, start at the least code point, and their parity tells the code
points apart. -/
structure Describes (changes codes : List Nat) : Prop where
  ascending : changes.Pairwise (· < ·)
  head : changes.head? = codes.head?
  parity : ∀ code, changes.countP (· ≤ code) % 2 = 1 ↔ code ∈ codes

/-- No place of change is up to a code point before all of them. -/
theorem countP_le_eq_zero {changes : List Nat} {code : Nat} (h : ∀ place ∈ changes, code < place) :
    changes.countP (· ≤ code) = 0 := by
  refine List.countP_eq_zero.2 ?_
  intro place hmem
  rw [decide_eq_true_eq]
  exact Nat.not_le.2 (h place hmem)

namespace Describes

variable {first next : Nat} {changes rest : List Nat}

/-- A code point that is the least one once more changes nothing. -/
theorem again (h : Describes (first :: changes) rest) :
    Describes (first :: changes) (first :: rest) := by
  refine ⟨h.ascending, rfl, ?_⟩
  intro code
  rw [h.parity, List.mem_cons, iff_or_self]
  rintro rfl
  exact List.mem_of_mem_head? h.head.symm

/-- With a code point next to the least one the first run starts earlier. -/
theorem earlier (h : Describes ((first + 1) :: changes) rest) :
    Describes (first :: changes) (first :: rest) := by
  obtain ⟨hnext, hlater⟩ := List.pairwise_cons.1 h.ascending
  have hafter : ∀ place ∈ changes, first < place := by
    intro place hmem
    have := hnext place hmem
    omega
  refine ⟨List.pairwise_cons.2 ⟨hafter, hlater⟩, rfl, ?_⟩
  intro code
  have hcode := h.parity code
  rw [List.countP_cons] at hcode ⊢
  rw [List.mem_cons, ← hcode]
  rcases Nat.lt_trichotomy code first with hlt | rfl | hgt
  · simp [Nat.not_le.2 hlt, Nat.ne_of_lt hlt, show ¬ first + 1 ≤ code by omega]
  · simp [countP_le_eq_zero hafter]
  · simp [Nat.le_of_lt hgt, Nat.ne_of_gt hgt, show first + 1 ≤ code by omega]

/-- A code point apart from all others is a run of its own. -/
theorem apart (h : Describes (next :: changes) rest) (hnext : first + 1 < next) :
    Describes (first :: (first + 1) :: next :: changes) (first :: rest) := by
  obtain ⟨hleast, -⟩ := List.pairwise_cons.1 h.ascending
  have hafter : ∀ place ∈ next :: changes, first + 1 < place := by
    rintro place (_ | ⟨_, hmem⟩)
    · exact hnext
    · exact Nat.lt_trans hnext (hleast place hmem)
  refine ⟨List.pairwise_cons.2 ⟨?_, List.pairwise_cons.2 ⟨hafter, h.ascending⟩⟩, rfl, ?_⟩
  · rintro place (_ | ⟨_, hmem⟩)
    · exact Nat.lt_succ_self first
    · exact Nat.lt_of_succ_lt (hafter place hmem)
  · intro code
    rw [List.countP_cons, List.countP_cons, List.mem_cons, ← h.parity]
    rcases Nat.lt_trichotomy code first with hlt | rfl | hgt
    · simp [Nat.not_le.2 hlt, Nat.ne_of_lt hlt, show ¬ first + 1 ≤ code by omega]
    · have hnone : (next :: changes).countP (· ≤ code) = 0 :=
        countP_le_eq_zero fun place hmem => Nat.lt_of_succ_lt (hafter place hmem)
      simp [hnone, show ¬ code + 1 ≤ code by omega]
    · simp [Nat.le_of_lt hgt, Nat.ne_of_gt hgt, show first + 1 ≤ code by omega]
      omega

end Describes

theorem describes_changesOf {codes : List Nat} (h : codes.Pairwise (· ≤ ·)) :
    Describes (changesOf codes) codes := by
  induction codes with
  | nil => exact ⟨.nil, rfl, fun code => by simp [changesOf]⟩
  | cons first rest ih =>
    obtain ⟨hfirst, hrest⟩ := List.pairwise_cons.1 h
    have hdescribes := ih hrest
    rw [changesOf]
    cases hchanges : changesOf rest with
    | nil =>
      rw [hchanges] at hdescribes
      obtain rfl := List.head?_eq_none_iff.1 hdescribes.head.symm
      refine ⟨by simp, rfl, ?_⟩
      intro code
      simp only [List.countP_cons, List.countP_nil, List.mem_singleton, decide_eq_true_eq]
      split <;> split <;> omega
    | cons next changes =>
      rw [hchanges] at hdescribes
      have hle : first ≤ next := hfirst next (List.mem_of_mem_head? hdescribes.head.symm)
      dsimp only
      split
      · next hdouble =>
        obtain rfl : next = first := Nat.le_antisymm hdouble hle
        exact hdescribes.again
      · split
        · next hadjacent =>
          subst hadjacent
          exact hdescribes.earlier
        · exact hdescribes.apart (by omega)

/-- The members of a set of code points are these code points. -/
theorem containsCode_ofCodes_iff (codes : List Nat) (code : Nat) :
    (ofCodes codes).containsCode code = true ↔ code ∈ codes := by
  have hsorted : codes.mergeSort.Pairwise (· ≤ ·) := by
    exact List.pairwise_mergeSort' (· ≤ ·) codes
  obtain ⟨hascending, -, hparity⟩ := describes_changesOf hsorted
  unfold containsCode ofCodes
  rw [rank_eq (hascending.imp Nat.le_of_lt), beq_iff_eq, hparity, List.mem_mergeSort]

theorem contains_ofCodes_iff (codes : List Nat) (c : Char) :
    (ofCodes codes).contains c = true ↔ c.toNat ∈ codes :=
  containsCode_ofCodes_iff codes c.toNat

/-- The same set by a sort that follows the list. -/
theorem ofCodes_eq (codes : List Nat) :
    ofCodes codes = ⟨(changesOf (codes.insertionSort (· ≤ ·))).toArray⟩ := by
  unfold ofCodes
  rw [← List.mergeSort_eq_insertionSort]

/-- A set with one member consists of it. -/
theorem single?_eq_some {set : CharSet} {c : Char} (h : set.single? = some c) :
    ∃ only, c = Char.ofNat only ∧ ∀ code, set.containsCode code = true ↔ code = only := by
  unfold single? at h
  split at h
  · next start stop hchanges =>
    obtain ⟨rfl, hc⟩ := Option.ite_none_right_eq_some.1 h
    refine ⟨start, (Option.some.inj hc).symm, ?_⟩
    intro code
    have hascending : set.boundaries.toList.Pairwise (· ≤ ·) := by simp [hchanges]
    rw [containsCode, rank_eq hascending, hchanges, beq_iff_eq]
    simp only [List.countP_cons, List.countP_nil, decide_eq_true_eq]
    split <;> split <;> omega
  · cases h

end CharSet

end ElementRules.Pattern
