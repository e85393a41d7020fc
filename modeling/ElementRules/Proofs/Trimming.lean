import ElementRules.Text.Blank
import Mathlib.Data.List.DropRight

/-!
# Trimming

`Text.trim` takes the White_Space characters off both ends of a text, and what it leaves has none
there (`IsTrimmed`):

    IsTrimmed (trim s)                                            (isTrimmed_trim)
    trim s = s ↔ IsTrimmed s                                      (trim_eq_self_iff)
    (trim s).isEmpty = true ↔ IsBlankText s                       (isEmpty_trim_iff)
    equalUpToAsciiCase a b = true → IsTrimmed a → IsTrimmed b     (isTrimmed_of_equalUpToAsciiCase)
-/

namespace ElementRules.Text

/-- Neither the first character nor the last one is blank. -/
def IsTrimmed (s : String) : Prop :=
  (∀ c ∈ s.toList.head?, isBlank c = false) ∧ ∀ c ∈ s.toList.getLast?, isBlank c = false

/-- Nothing but blanks; the empty text is one. -/
def IsBlankText (s : String) : Prop := ∀ c ∈ s.toList, isBlank c = true

-- The instances are named, or all characters there are might be gone through.
instance (s : String) : Decidable (IsTrimmed s) :=
  @instDecidableAnd _ _ (Option.decidableForallMem _) (Option.decidableForallMem _)

instance (s : String) : Decidable (IsBlankText s) := List.decidableBAll _ _

instance decidableForallMem (s : List Char) (p : Char → Prop) [DecidablePred p] :
    Decidable (∀ c ∈ s, p c) :=
  List.decidableBAll p s

/-! ## Lists of characters -/

theorem isBlank_of_mem_head?_dropWhile {s : List Char} {c : Char}
    (h : c ∈ (s.dropWhile isBlank).head?) : isBlank c = false := by
  have hfirst := List.head?_dropWhile_not isBlank s
  rw [Option.mem_def.1 h] at hfirst
  exact hfirst

theorem dropWhile_isBlank_eq_self {s : List Char} (h : ∀ c ∈ s.head?, isBlank c = false) :
    s.dropWhile isBlank = s := by
  cases s with
  | nil => rfl
  | cons c rest =>
    have hc : isBlank c = false := h c rfl
    rw [List.dropWhile_cons_of_neg (by rw [hc]; exact Bool.false_ne_true)]

theorem trimChars_eq_rdropWhile (s : List Char) :
    trimChars s = (s.dropWhile isBlank).rdropWhile isBlank := rfl

/-- Dropping from the right keeps the first character, unless it drops everything. -/
theorem mem_head?_of_mem_head?_rdropWhile {s : List Char} {c : Char}
    (h : c ∈ (s.rdropWhile isBlank).head?) : c ∈ s.head? := by
  obtain ⟨dropped, hs⟩ := List.rdropWhile_prefix isBlank s
  rw [← hs, List.head?_append, Option.mem_def.1 h]
  rfl

theorem trimChars_eq_nil_iff (s : List Char) : trimChars s = [] ↔ ∀ c ∈ s, isBlank c = true := by
  rw [trimChars_eq_rdropWhile, List.rdropWhile_eq_nil_iff]
  constructor
  · intro h c hc
    rw [← List.takeWhile_append_dropWhile (p := isBlank) (l := s), List.mem_append] at hc
    rcases hc with hc | hc
    · exact List.mem_takeWhile_imp hc
    · exact h c hc
  · intro h c hc
    exact h c (List.dropWhile_subset isBlank hc)

/-! ## Texts -/

theorem isTrimmed_trim (s : String) : IsTrimmed (trim s) := by
  unfold IsTrimmed trim
  rw [String.toList_ofList, trimChars_eq_rdropWhile]
  constructor
  · intro c hc
    exact isBlank_of_mem_head?_dropWhile (mem_head?_of_mem_head?_rdropWhile hc)
  · intro c hc
    rw [List.rdropWhile, List.getLast?_reverse] at hc
    exact isBlank_of_mem_head?_dropWhile hc

theorem trim_eq_self_iff (s : String) : trim s = s ↔ IsTrimmed s := by
  constructor
  · intro h
    rw [← h]
    exact isTrimmed_trim s
  · rintro ⟨hfirst, hlast⟩
    have hback : ∀ c ∈ s.toList.reverse.head?, isBlank c = false := by
      rw [List.head?_reverse]
      exact hlast
    unfold trim trimChars
    rw [dropWhile_isBlank_eq_self hfirst, dropWhile_isBlank_eq_self hback, List.reverse_reverse,
      String.ofList_toList]

theorem isEmpty_trim_iff (s : String) : (trim s).isEmpty = true ↔ IsBlankText s := by
  unfold trim IsBlankText
  rw [String.isEmpty_iff, ← trimChars_eq_nil_iff]
  constructor
  · intro h
    have hlist := congrArg String.toList h
    rwa [String.toList_ofList] at hlist
  · intro h
    rw [h]

/-! ## The case of letters -/

theorem toNat_toLower (c : Char) :
    c.toLower.toNat = if 65 ≤ c.toNat ∧ c.toNat ≤ 90 then c.toNat + 32 else c.toNat := by
  unfold Char.toLower
  have hcapital : ('A'.val ≤ c.val ∧ c.val ≤ 'Z'.val) ↔ 65 ≤ c.toNat ∧ c.toNat ≤ 90 := by
    simp only [UInt32.le_iff_toNat_le]
    rfl
  split
  · next h =>
    have hc := hcapital.1 h
    rw [if_pos hc]
    show (c.val + ('a'.val - 'A'.val)).toNat = c.toNat + 32
    rw [UInt32.toNat_add]
    show (c.toNat + 32) % 2 ^ 32 = c.toNat + 32
    omega
  · next h => rw [if_neg fun hc => h (hcapital.2 hc)]

/-- The code points from A to z hold no blank. -/
theorem inRanges_blankRanges_letter {code : Nat} (hlo : 65 ≤ code) (hhi : code ≤ 122) :
    inRanges blankRanges code = false := by
  simp only [inRanges, blankRanges, List.any_cons, List.any_nil]
  grind

theorem isBlank_toLower (c : Char) : isBlank c.toLower = isBlank c := by
  unfold isBlank
  rw [toNat_toLower]
  split
  · next h =>
    rw [inRanges_blankRanges_letter (by omega) (by omega),
      inRanges_blankRanges_letter (by omega) (by omega)]
  · rfl

theorem isAlpha_iff (c : Char) :
    c.isAlpha = true ↔ 65 ≤ c.toNat ∧ c.toNat ≤ 90 ∨ 97 ≤ c.toNat ∧ c.toNat ≤ 122 := by
  change (decide (65 ≤ c.val ∧ c.val ≤ 90) ||
    (decide (97 ≤ c.val) && decide (c.val ≤ 122))) = true ↔ _
  simp only [Bool.or_eq_true, Bool.and_eq_true, decide_eq_true_eq, UInt32.le_iff_toNat_le]
  exact Iff.rfl

theorem isAlpha_toLower (c : Char) : c.toLower.isAlpha = c.isAlpha := by
  rw [Bool.eq_iff_iff, isAlpha_iff, isAlpha_iff, toNat_toLower]
  split <;> omega

theorem equalUpToAsciiCase_iff (a b : String) :
    equalUpToAsciiCase a b = true ↔ a.toList.map Char.toLower = b.toList.map Char.toLower := by
  unfold equalUpToAsciiCase
  rw [beq_iff_eq]

theorem equalUpToAsciiCase_refl (s : String) : equalUpToAsciiCase s s = true :=
  (equalUpToAsciiCase_iff s s).2 rfl

/-- The case of its letters does not matter for whether a text is trimmed. -/
theorem isTrimmed_iff_toLower (s : String) :
    IsTrimmed s ↔
      (∀ c ∈ (s.toList.map Char.toLower).head?, isBlank c = false) ∧
        ∀ c ∈ (s.toList.map Char.toLower).getLast?, isBlank c = false := by
  unfold IsTrimmed
  rw [List.head?_map, List.getLast?_map]
  simp only [Option.mem_def, Option.map_eq_some_iff, forall_exists_index, and_imp,
    forall_apply_eq_imp_iff₂, isBlank_toLower]

theorem isTrimmed_of_equalUpToAsciiCase {a b : String} (h : equalUpToAsciiCase a b = true)
    (ha : IsTrimmed a) : IsTrimmed b := by
  rw [equalUpToAsciiCase_iff] at h
  rw [isTrimmed_iff_toLower] at ha ⊢
  rwa [h] at ha

end ElementRules.Text
