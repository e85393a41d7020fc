import ElementRules.Proofs.LowerCase

/-!
# Folded texts

A text that is folded once is folded for good, and a search that ignores case takes a text for its
fold (`foldCultural_projects`):

    foldCultural locale (foldCultural locale s) = foldCultural locale s
    contains true locale (foldCultural locale s) needle = contains true locale s needle

A fold consists of characters that are their own lower-case form (`IsLower`), because no rule of the
table leads to a code point that another one moves on (`find?_moved`). Neither a capital sigma nor a
capital I of any kind is one of them, so the second fold has nothing to look around for and nothing
to pair.
-/

namespace ElementRules.Text

/-! ## The table of rules -/

namespace CaseRule

/-- The rule covers nothing of a progression: it lies on one side of it, or both take every second
code point and never the same. -/
def misses (low high stride : Nat) (rule : CaseRule) : Bool :=
  Nat.blt high rule.first || Nat.blt rule.last low ||
    (Nat.beq rule.stride 2 && (Nat.beq stride 2 || Nat.beq low high) &&
      Nat.beq ((low + rule.first) % 2) 1)

variable {rule : CaseRule} {code : Nat}

theorem covers_iff : rule.covers code = true ↔
    rule.first ≤ code ∧ code ≤ rule.last ∧ (code - rule.first) % rule.stride = 0 := by
  simp [covers, and_assoc]

theorem not_covers_of_misses {low high stride : Nat} (h : rule.misses low high stride = true)
    (hlow : low ≤ code) (hhigh : code ≤ high) (hstride : (code - low) % stride = 0) :
    ¬ rule.covers code = true := by
  rw [covers_iff]
  rintro ⟨hfirst, hlast, hcovered⟩
  simp only [misses, Bool.or_eq_true, Bool.and_eq_true, Nat.blt_eq, Nat.beq_eq] at h
  rcases h with (hbefore | hbehind) | ⟨⟨hsecond, hother | hone⟩, hodd⟩
  · omega
  · omega
  · rw [hsecond] at hcovered
    rw [hother] at hstride
    omega
  · rw [hsecond] at hcovered
    omega

end CaseRule

/-- All rules lead to characters. -/
theorem lowercaseRules_lead : ∀ rule ∈ lowercaseRules, 0 ≤ rule.first + rule.shift ∧
    (rule.last + rule.shift < 0xD800 ∨
      0xE000 ≤ rule.first + rule.shift ∧ rule.last + rule.shift < 0x110000) := by
  decide +kernel

/-- No rule leads into another one. -/
theorem lowercaseRules_miss : lowercaseRules.all (fun rule => lowercaseRules.all
    (CaseRule.misses (rule.moved rule.first) (rule.moved rule.last) rule.stride)) = true := by
  decide +kernel

section Covered

variable {rule : CaseRule} {code : Nat}

theorem isValidChar_moved (hrule : rule ∈ lowercaseRules) (hcovers : rule.covers code = true) :
    (rule.moved code).isValidChar := by
  have hleads := lowercaseRules_lead rule hrule
  rw [CaseRule.covers_iff] at hcovers
  unfold CaseRule.moved Nat.isValidChar
  omega

theorem toNat_ofNat_moved (hrule : rule ∈ lowercaseRules) (hcovers : rule.covers code = true) :
    (Char.ofNat (rule.moved code)).toNat = rule.moved code := by
  unfold Char.ofNat
  rw [dif_pos (isValidChar_moved hrule hcovers)]
  rfl

/-- Where a rule leads to there is no further rule. -/
theorem find?_moved (hrule : rule ∈ lowercaseRules) (hcovers : rule.covers code = true) :
    lowercaseRules.find? (·.covers (rule.moved code)) = none := by
  obtain ⟨hnonneg, -⟩ := lowercaseRules_lead rule hrule
  rw [CaseRule.covers_iff] at hcovers
  obtain ⟨hfirst, hlast, hstride⟩ := hcovers
  refine List.find?_eq_none.2 fun other hother => ?_
  have hall := List.all_eq_true.1 lowercaseRules_miss rule hrule
  have hmisses := List.all_eq_true.1 hall other hother
  have hdistance : rule.moved code - rule.moved rule.first = code - rule.first := by
    unfold CaseRule.moved
    omega
  refine CaseRule.not_covers_of_misses hmisses ?_ ?_ (by rw [hdistance]; exact hstride)
  · unfold CaseRule.moved
    omega
  · unfold CaseRule.moved
    omega

end Covered

theorem lowercaseChar_cases (c : Char) :
    lowercaseChar c = c ∨ ∃ rule ∈ lowercaseRules, rule.covers c.toNat = true ∧
      (lowercaseChar c).toNat = rule.moved c.toNat := by
  unfold lowercaseChar moveBy
  cases hfound : lowercaseRules.find? (·.covers c.toNat) with
  | none => exact .inl rfl
  | some rule =>
    have hrule := List.mem_of_find?_eq_some hfound
    have hcovers := List.find?_some hfound
    exact .inr ⟨rule, hrule, hcovers, toNat_ofNat_moved hrule hcovers⟩

theorem lowercaseChar_of_find?_eq_none {c : Char}
    (h : lowercaseRules.find? (·.covers c.toNat) = none) : lowercaseChar c = c := by
  unfold lowercaseChar moveBy
  rw [h]
  rfl

theorem lowercaseChar_lowercaseChar (c : Char) :
    lowercaseChar (lowercaseChar c) = lowercaseChar c := by
  rcases lowercaseChar_cases c with hself | ⟨rule, hrule, hcovers, hmoved⟩
  · rw [hself, hself]
  · refine lowercaseChar_of_find?_eq_none ?_
    rw [hmoved]
    exact find?_moved hrule hcovers

theorem lowercaseChars_of_ne_dotted {d : Char} (h : d ≠ 'İ') :
    lowercaseChars d = [lowercaseChar d] := by
  unfold lowercaseChars
  rw [if_neg (mt beq_iff_eq.1 h)]

/-! ## Characters in lower case -/

/-- The character is its own lower-case form. -/
def IsLower (c : Char) : Prop := lowercaseChars c = [c]

instance (c : Char) : Decidable (IsLower c) := inferInstanceAs (Decidable (_ = _))

theorem isLower_of_mem_lowercaseChars {c d : Char} (h : d ∈ lowercaseChars c) : IsLower d := by
  by_cases hc : c = 'İ'
  · have hboth : ∀ d ∈ ['i', '\u0307'], IsLower d := by decide +kernel
    subst hc
    exact hboth d h
  · rw [lowercaseChars_of_ne_dotted hc, List.mem_singleton] at h
    have hsmall : lowercaseChar d = d := by rw [h, lowercaseChar_lowercaseChar]
    have hd : d ≠ 'İ' := by
      rintro rfl
      exact absurd hsmall (by decide +kernel)
    rw [IsLower, lowercaseChars_of_ne_dotted hd, hsmall]

theorem isLower_of_mem_smallForm {before after : List Char} {c d : Char}
    (h : d ∈ smallForm before after c) : IsLower d := by
  have hsigmas : ∀ d ∈ ['ς', 'σ'], IsLower d := by decide +kernel
  unfold smallForm at h
  split at h
  · split at h
    · exact hsigmas d (by simp_all)
    · exact hsigmas d (by simp_all)
  · exact isLower_of_mem_lowercaseChars h

namespace IsLower

variable {c : Char}

theorem smallForm_eq (h : IsLower c) (before after : List Char) :
    smallForm before after c = [c] := by
  have hsigma : c ≠ 'Σ' := by
    rintro rfl
    exact absurd h (by decide +kernel)
  unfold smallForm
  rw [if_neg (mt beq_iff_eq.1 hsigma), h]

/-- Only capital letters are paired by a locale. -/
theorem small_eq (h : IsLower c) (locale : Locale) : locale.small c = c := by
  cases locale with
  | plain => rfl
  | turkic =>
    have hcapitals : ¬ IsLower 'I' ∧ ¬ IsLower 'İ' := by decide +kernel
    have hplain : c ≠ 'I' := by
      rintro rfl
      exact hcapitals.1 h
    have hdotted : c ≠ 'İ' := by
      rintro rfl
      exact hcapitals.2 h
    simp [Locale.small, turkicSmall, hplain, hdotted]

end IsLower

/-! ## Texts in lower case -/

theorem isLower_of_mem_lowercaseFrom {before s : List Char} {d : Char}
    (h : d ∈ lowercaseFrom before s) : IsLower d := by
  induction s generalizing before with
  | nil => cases h
  | cons c s ih =>
    rw [lowercaseFrom_cons, List.mem_append] at h
    rcases h with h | h
    · exact isLower_of_mem_smallForm h
    · exact ih h

theorem lowercaseFrom_eq_self {s : List Char} (h : ∀ c ∈ s, IsLower c) (before : List Char) :
    lowercaseFrom before s = s := by
  induction s generalizing before with
  | nil => rfl
  | cons c s ih =>
    obtain ⟨hc, hs⟩ := List.forall_mem_cons.1 h
    rw [lowercaseFrom_cons, hc.smallForm_eq, ih hs, List.singleton_append]

theorem map_small_eq_self {s : List Char} (h : ∀ c ∈ s, IsLower c) (locale : Locale) :
    s.map locale.small = s := by
  rw [List.map_congr_left fun c hc => (h c hc).small_eq locale, List.map_id']

theorem foldCulturalChars_foldCulturalChars (locale : Locale) (s : List Char) :
    foldCulturalChars locale (foldCulturalChars locale s) = foldCulturalChars locale s := by
  have hlower : ∀ c ∈ foldCulturalChars locale s, IsLower c := by
    intro c hc
    rw [foldCulturalChars_eq] at hc
    exact isLower_of_mem_lowercaseFrom hc
  rw [foldCulturalChars_eq locale (foldCulturalChars locale s), map_small_eq_self hlower]
  exact lowercaseFrom_eq_self hlower []

theorem toList_foldCultural (locale : Locale) (s : String) :
    (foldCultural locale s).toList = foldCulturalChars locale s.toList := by
  unfold foldCultural
  rw [String.toList_ofList]

/-- **Folding is a projection.** The fold of a text is its own fold, under the same locale; so a
search that ignores case gives the same answer if what is searched, or what is searched for, is
replaced by its fold. -/
theorem foldCultural_projects (locale : Locale) :
    (∀ s, foldCultural locale (foldCultural locale s) = foldCultural locale s) ∧
      ∀ haystack needle,
        contains true locale (foldCultural locale haystack) needle =
            contains true locale haystack needle ∧
          contains true locale haystack (foldCultural locale needle) =
            contains true locale haystack needle := by
  constructor
  · intro s
    unfold foldCultural
    rw [String.toList_ofList, foldCulturalChars_foldCulturalChars]
  · intro haystack needle
    constructor
    · rw [contains, contains, if_pos rfl, if_pos rfl, toList_foldCultural,
        foldCulturalChars_foldCulturalChars]
    · rw [contains, contains, if_pos rfl, if_pos rfl, toList_foldCultural,
        foldCulturalChars_foldCulturalChars]

/-- A dotted I becomes two characters, and a sigma at the end of a word keeps the form that it has
there. -/
example : foldCulturalChars .plain ['İ', 'Σ', '.'] = ['i', '\u0307', 'ς', '.'] ∧
    foldCulturalChars .plain ['i', '\u0307', 'ς', '.'] = ['i', '\u0307', 'ς', '.'] := by
  decide +kernel

end ElementRules.Text
