import ElementRules.Proofs.FoldedText
import ElementRules.Proofs.PlainPatterns
import ElementRules.Test.Text

/-!
# Wildcards and search for plain text

A pattern of letters and digits looks for what a search looks for, and yet the two ignore case in
different ways: the pattern goes by the forms of a letter, and the search by lower case. The long s
is a form of s, but is its own lower case; and the lower case of the dotted I begins with i, but the
dotted I is no form of it. These are all the differences (`wildcard_tracks_search`):

    they agree on every text  ↔  case counts, or the pattern has no s and does not end in i
-/

namespace ElementRules

open Pattern

namespace Text

/-! ## Lower case of letters and digits -/

/-- From outside the first 128 characters only two become one of them. -/
theorem lt_or_of_lowercaseChar_lt {d : Char} (h : (lowercaseChar d).toNat < 128) :
    d.toNat < 128 ∨ d = 'İ' ∨ d = '\u212A' := by
  have hrules : ∀ rule ∈ lowercaseRules, rule.last < 128 ∨
      rule.first = 0x130 ∧ rule.last = 0x130 ∨ rule.first = 0x212A ∧ rule.last = 0x212A ∨
      128 ≤ rule.first + rule.shift := by
    decide +kernel
  rcases lowercaseChar_cases d with hself | ⟨rule, hrule, hcovers, hmoved⟩
  · exact .inl (by rw [← hself]; exact h)
  · rw [hmoved, CaseRule.moved] at h
    rw [CaseRule.covers_iff] at hcovers
    rcases hrules rule hrule with hsmall | ⟨hdotted, hdotted'⟩ | ⟨hkelvin, hkelvin'⟩ | hlarge
    · exact .inl (by omega)
    · refine .inr (.inl (Char.toNat_inj.1 ?_))
      change d.toNat = 0x130
      omega
    · refine .inr (.inr (Char.toNat_inj.1 ?_))
      change d.toNat = 0x212A
      omega
    · omega

/-- The rule for the letters from A to Z; no other rule is about the first 128 characters. -/
def capitalRule : CaseRule := ⟨0x41, 0x5A, 1, 32⟩

theorem find?_lowercaseRules {code : Nat} (h : code < 128) :
    lowercaseRules.find? (·.covers code) = [capitalRule].find? (·.covers code) := by
  have hrules : lowercaseRules = capitalRule :: lowercaseRules.tail := rfl
  have hbeyond : ∀ rule ∈ lowercaseRules.tail, 128 ≤ rule.first := by decide +kernel
  have hnone : lowercaseRules.tail.find? (·.covers code) = none := by
    refine List.find?_eq_none.2 fun rule hmem hcovers => ?_
    have hfirst := hbeyond rule hmem
    simp only [CaseRule.covers, Bool.and_eq_true, decide_eq_true_eq] at hcovers
    omega
  rw [hrules, List.find?_cons, List.find?_cons, hnone, List.find?_nil]

theorem lowercaseChar_of_lt {d : Char} (h : d.toNat < 128) : lowercaseChar d = d.toLower := by
  have hall : ∀ code ∈ List.range 128,
      (([capitalRule].find? (·.covers code)).map (·.moved code)).elim (Char.ofNat code) Char.ofNat =
        (Char.ofNat code).toLower := by
    decide +kernel
  have hd := hall d.toNat (List.mem_range.2 h)
  rw [Char.ofNat_toNat, ← find?_lowercaseRules h] at hd
  rw [← hd]
  unfold lowercaseChar moveBy
  cases lowercaseRules.find? (·.covers d.toNat) <;> rfl

theorem ne_dotted_of_lt {d : Char} (h : d.toNat < 128) : d ≠ 'İ' := by
  rintro rfl
  exact absurd h (by decide)

theorem smallForm_dotted (before after : List Char) :
    smallForm before after 'İ' = ['i', '\u0307'] :=
  rfl

theorem exists_smallForm {d : Char} (h : d ≠ 'İ') (before after : List Char) :
    ∃ e, smallForm before after d = [e] := by
  unfold smallForm
  split
  · split
    · exact ⟨_, rfl⟩
    · exact ⟨_, rfl⟩
  · exact ⟨_, lowercaseChars_of_ne_dotted h⟩

/-- A capital sigma becomes a letter beyond the first 128 characters, wherever it stands. -/
theorem smallForm_eq_iff {c d : Char} (hc : c.toNat < 128) (before after : List Char) :
    smallForm before after d = [c] ↔ lowercaseChars d = [c] := by
  unfold smallForm
  split
  · next hsigma =>
    obtain rfl := beq_iff_eq.1 hsigma
    have hlower : lowercaseChars 'Σ' = ['σ'] := by decide +kernel
    have hfar : c ≠ 'σ' ∧ c ≠ 'ς' := by
      constructor <;> rintro rfl <;> exact absurd hc (by decide)
    rw [hlower]
    split
    · simp [hfar.1.symm, hfar.2.symm]
    · rfl
  · rfl

/-- What is known of a letter or a digit by trying them all. -/
theorem alphanum_spec {c : Char} (h : c.isAlphanum = true) :
    c.toNat < 128 ∧ c.toLower.isAlphanum = true ∧ c.toLower.toNat < 128 ∧
      alphanumForms c.toLower = alphanumForms c ∧ c ∈ alphanumForms c ∧ 'İ' ∉ alphanumForms c ∧
      ('ſ' ∈ alphanumForms c ↔ c.toLower = 's') ∧
      ∀ d ∈ alphanumForms c, d ≠ 'ſ' → lowercaseChars d = [c.toLower] := by
  have hforms : ∀ d ∈ alphanumForms c, d ≠ 'ſ' →
      d.toNat < 128 ∧ d.toLower = c.toLower ∨ d = '\u212A' ∧ c.toLower = 'k' := by
    refine forall_alphanum h ?_
    decide +kernel
  have hlower : ∀ d ∈ alphanumForms c, d ≠ 'ſ' → lowercaseChars d = [c.toLower] := by
    intro d hd hother
    rcases hforms d hd hother with ⟨hlt, heq⟩ | ⟨rfl, heq⟩
    · rw [lowercaseChars_of_ne_dotted (ne_dotted_of_lt hlt), lowercaseChar_of_lt hlt, heq]
    · rw [heq]
      decide +kernel
  have hrest : c.toNat < 128 ∧ c.toLower.isAlphanum = true ∧ c.toLower.toNat < 128 ∧
      alphanumForms c.toLower = alphanumForms c ∧ c ∈ alphanumForms c ∧ 'İ' ∉ alphanumForms c ∧
      ('ſ' ∈ alphanumForms c ↔ c.toLower = 's') := by
    refine forall_alphanum h ?_
    decide +kernel
  obtain ⟨hcode, halphanum, hsmall, hsame, hself, hdotted, hlong⟩ := hrest
  exact ⟨hcode, halphanum, hsmall, hsame, hself, hdotted, hlong, hlower⟩

theorem isAlphanum_of_toLower {d : Char} (h : d.toNat < 128)
    (hlower : d.toLower.isAlphanum = true) : d.isAlphanum = true := by
  have hall : ∀ code ∈ List.range 128, (Char.ofNat code).toLower.isAlphanum = true →
      (Char.ofNat code).isAlphanum = true := by decide +kernel
  have := hall d.toNat (List.mem_range.2 h)
  rw [Char.ofNat_toNat] at this
  exact this hlower

/-- All forms of a letter but the long s have its lower case, and nothing else has. -/
theorem lowercaseChars_eq_iff {c : Char} (h : c.isAlphanum = true) (d : Char) :
    lowercaseChars d = [c.toLower] ↔ d ∈ alphanumForms c ∧ d ≠ 'ſ' := by
  obtain ⟨-, hlower, hlt, hforms, -, -, -, hsmall⟩ := alphanum_spec h
  constructor
  · intro hd
    have hdotted : d ≠ 'İ' := by
      rintro rfl
      exact absurd (congrArg List.length hd) (Nat.succ_ne_self 1)
    rw [lowercaseChars_of_ne_dotted hdotted, List.singleton_inj] at hd
    rcases lt_or_of_lowercaseChar_lt (by rw [hd]; exact hlt) with hsmallCode | hi | rfl
    · rw [lowercaseChar_of_lt hsmallCode] at hd
      have hd' : d.isAlphanum = true := isAlphanum_of_toLower hsmallCode (by rw [hd]; exact hlower)
      obtain ⟨-, -, -, hforms', hself, -⟩ := alphanum_spec hd'
      rw [← hforms, ← hd, hforms']
      refine ⟨hself, ?_⟩
      rintro rfl
      exact absurd hsmallCode (by decide)
    · exact absurd hi hdotted
    · have hk : lowercaseChar '\u212A' = 'k' := by decide +kernel
      rw [← hforms, ← hd, hk]
      decide +kernel
  · rintro ⟨hmem, hne⟩
    exact hsmall d hmem hne

/-- A text of letters and digits has no sigma and no dotted I in it. -/
theorem lowercaseText_of_alphanum {s : List Char} (h : ∀ c ∈ s, c.isAlphanum = true) :
    lowercaseText s = s.map Char.toLower := by
  have hfrom (before : List Char) : lowercaseFrom before s = s.map Char.toLower := by
    induction s generalizing before with
    | nil => rfl
    | cons c s ih =>
      obtain ⟨hc, hs⟩ := List.forall_mem_cons.1 h
      obtain ⟨hlt, -⟩ := alphanum_spec hc
      have hsigma : c ≠ 'Σ' := by
        rintro rfl
        exact absurd hlt (by decide)
      rw [lowercaseFrom, ih hs, if_neg (mt beq_iff_eq.1 hsigma),
        lowercaseChars_of_ne_dotted (ne_dotted_of_lt hlt), lowercaseChar_of_lt hlt]
      rfl
  exact hfrom []

/-! ## Search in lower case -/

/-- The lower-case form of the word begins with the needle, and goes beyond it at most by the dot of
its last letter. -/
inductive Begins : (needle word : List Char) → Prop
  | nil : Begins [] []
  | cons {c d : Char} {needle word : List Char} : lowercaseChars d = [c] → Begins needle word →
      Begins (c :: needle) (d :: word)
  | dotted : Begins ['i'] ['İ']

theorem begins_nil_right {needle : List Char} : Begins needle [] ↔ needle = [] := by
  constructor
  · intro h
    cases h
    rfl
  · rintro rfl
    exact .nil

/-- The first character of a word beginning with a needle of the first 128 characters. -/
theorem begins_cons_iff {c d : Char} {needle word : List Char} :
    Begins (c :: needle) (d :: word) ↔ lowercaseChars d = [c] ∧ Begins needle word ∨
      c = 'i' ∧ needle = [] ∧ d = 'İ' ∧ word = [] := by
  constructor
  · intro h
    cases h with
    | cons hd hword => exact .inl ⟨hd, hword⟩
    | dotted => exact .inr ⟨rfl, rfl, rfl, rfl⟩
  · rintro (⟨hd, hword⟩ | ⟨rfl, rfl, rfl, rfl⟩)
    · exact .cons hd hword
    · exact .dotted

/-- A text starts with a word by its first character, or by the dotted I alone. -/
theorem exists_begins_cons_iff {c d : Char} {needle s : List Char} :
    (∃ word rest, d :: s = word ++ rest ∧ Begins (c :: needle) word) ↔
      lowercaseChars d = [c] ∧ (∃ word rest, s = word ++ rest ∧ Begins needle word) ∨
        c = 'i' ∧ needle = [] ∧ d = 'İ' := by
  constructor
  · rintro ⟨word, rest, hs, hword⟩
    cases word with
    | nil => cases hword
    | cons e word =>
      obtain ⟨rfl, rfl⟩ := List.cons.inj hs
      rcases begins_cons_iff.1 hword with ⟨hd, hbegins⟩ | ⟨rfl, rfl, rfl, rfl⟩
      · exact .inl ⟨hd, word, rest, rfl, hbegins⟩
      · exact .inr ⟨rfl, rfl, rfl⟩
  · rintro (⟨hd, word, rest, rfl, hbegins⟩ | ⟨rfl, rfl, rfl⟩)
    · exact ⟨d :: word, rest, rfl, .cons hd hbegins⟩
    · exact ⟨['İ'], s, rfl, .dotted⟩

/-- A word stands at the start of a text or after its first character. -/
theorem exists_within_cons_iff {d : Char} {needle s : List Char} :
    (∃ skipped word rest, d :: s = skipped ++ word ++ rest ∧ Begins needle word) ↔
      (∃ word rest, d :: s = word ++ rest ∧ Begins needle word) ∨
        ∃ skipped word rest, s = skipped ++ word ++ rest ∧ Begins needle word := by
  constructor
  · rintro ⟨skipped, word, rest, hs, hword⟩
    cases skipped with
    | nil => exact .inl ⟨word, rest, hs, hword⟩
    | cons e skipped => exact .inr ⟨skipped, word, rest, (List.cons.inj hs).2, hword⟩
  · rintro (⟨word, rest, hs, hword⟩ | ⟨skipped, word, rest, rfl, hword⟩)
    · exact ⟨[], word, rest, hs, hword⟩
    · exact ⟨d :: skipped, word, rest, rfl, hword⟩

section Needle

variable {needle : List Char} (h : ∀ c ∈ needle, c.toNat < 128)

include h

/-- What a text starts with in lower case. -/
theorem prefix_lowercaseFrom_iff (before s : List Char) :
    needle <+: lowercaseFrom before s ↔ ∃ word rest, s = word ++ rest ∧ Begins needle word := by
  induction s generalizing needle before with
  | nil =>
    rw [lowercaseFrom, List.prefix_nil]
    constructor
    · rintro rfl
      exact ⟨[], [], rfl, .nil⟩
    · rintro ⟨word, rest, hs, hword⟩
      obtain ⟨rfl, -⟩ := List.nil_eq_append_iff.1 hs
      exact begins_nil_right.1 hword
  | cons d s ih =>
    cases needle with
    | nil =>
      refine iff_of_true (List.nil_prefix) ⟨[], d :: s, rfl, .nil⟩
    | cons c needle =>
      obtain ⟨hc, hneedle⟩ := List.forall_mem_cons.1 h
      rw [exists_begins_cons_iff, lowercaseFrom_cons]
      by_cases hdotted : d = 'İ'
      -- Nothing that is searched for goes on with the dot.
      · subst hdotted
        have hlower : lowercaseChars 'İ' ≠ [c] := fun hd =>
          Nat.succ_ne_self 1 (congrArg List.length hd)
        have hdot (rest : List Char) : needle <+: '\u0307' :: rest ↔ needle = [] := by
          rw [List.prefix_cons_iff, or_iff_left_iff_imp]
          rintro ⟨t, rfl, -⟩
          exact absurd (hneedle _ List.mem_cons_self) (by decide)
        rw [smallForm_dotted, List.cons_append, List.singleton_append, List.cons_prefix_cons, hdot]
        simp [hlower]
      · obtain ⟨e, he⟩ := exists_smallForm hdotted before s
        rw [← smallForm_eq_iff hc before s, he, List.singleton_append, List.cons_prefix_cons,
          ih hneedle, List.singleton_inj]
        simp only [hdotted, and_false, or_false, eq_comm]

/-- What stands in a text in lower case. -/
theorem infix_lowercaseFrom_iff (before s : List Char) :
    needle <:+: lowercaseFrom before s ↔
      ∃ skipped word rest, s = skipped ++ word ++ rest ∧ Begins needle word := by
  induction s generalizing before with
  | nil =>
    rw [lowercaseFrom, List.infix_nil]
    constructor
    · rintro rfl
      exact ⟨[], [], [], rfl, .nil⟩
    · rintro ⟨skipped, word, rest, hs, hword⟩
      obtain ⟨hskipped, -⟩ := List.nil_eq_append_iff.1 hs
      obtain ⟨-, rfl⟩ := List.append_eq_nil_iff.1 hskipped
      exact begins_nil_right.1 hword
  | cons d s ih =>
    rw [exists_within_cons_iff, ← prefix_lowercaseFrom_iff h before, ← ih (d :: before), lowercaseFrom_cons]
    by_cases hdotted : d = 'İ'
    -- Nothing that is searched for starts at the dot.
    · subst hdotted
      have hdot (rest : List Char) : needle <+: '\u0307' :: rest → needle <:+: rest := by
        rw [List.prefix_cons_iff]
        rintro (rfl | ⟨t, rfl, -⟩)
        · exact List.nil_infix
        · exact absurd (h _ List.mem_cons_self) (by decide)
      rw [smallForm_dotted, List.cons_append, List.singleton_append, List.infix_cons_iff,
        List.infix_cons_iff]
      exact or_congr_right ⟨fun hwithin => hwithin.elim (hdot _) id, .inr⟩
    · obtain ⟨e, he⟩ := exists_smallForm hdotted before s
      rw [he, List.singleton_append, List.infix_cons_iff]

end Needle

/-! ## Forms and lower case -/

/-- The letters of which a form is its own lower case. -/
def HasS (value : List Char) : Prop := ∃ c ∈ value, c.toLower = 's'

/-- The letter that the lower case of another letter begins with, where nothing follows it. -/
def EndsInI (value : List Char) : Prop := ∃ init c, value = init ++ [c] ∧ c.toLower = 'i'

theorem begins_iff_forall₂ {value word : List Char} (h : ∀ c ∈ value, c.isAlphanum = true)
    (hlong : 'ſ' ∈ word → ¬ HasS value) (hdotted : 'İ' ∈ word → ¬ EndsInI value) :
    Begins (value.map Char.toLower) word ↔ List.Forall₂ (IsForm true) value word := by
  induction value generalizing word with
  | nil =>
    rw [List.forall₂_nil_left_iff]
    constructor
    · intro hbegins
      cases hbegins
      rfl
    · rintro rfl
      exact .nil
  | cons c value ih =>
    obtain ⟨hc, hvalue⟩ := List.forall_mem_cons.1 h
    cases word with
    | nil =>
      refine iff_of_false ?_ nofun
      exact fun hbegins => absurd (begins_nil_right.1 hbegins) (List.cons_ne_nil _ _)
    | cons d word =>
      have hrest : Begins (value.map Char.toLower) word ↔
          List.Forall₂ (IsForm true) value word := ih hvalue
        (fun hmem ⟨e, he, hs⟩ => hlong (List.mem_cons_of_mem _ hmem)
          ⟨e, List.mem_cons_of_mem _ he, hs⟩)
        (fun hmem ⟨init, e, heq, hi⟩ => hdotted (List.mem_cons_of_mem _ hmem)
          ⟨c :: init, e, by rw [heq]; rfl, hi⟩)
      have hend : ¬ (c.toLower = 'i' ∧ value.map Char.toLower = [] ∧ d = 'İ' ∧ word = []) := by
        rintro ⟨hi, hnil, rfl, rfl⟩
        obtain rfl := List.map_eq_nil_iff.1 hnil
        exact hdotted List.mem_cons_self ⟨[], c, rfl, hi⟩
      have hne (hform : d ∈ alphanumForms c) : d ≠ 'ſ' := by
        rintro rfl
        obtain ⟨-, -, -, -, -, -, hs, -⟩ := alphanum_spec hc
        exact hlong List.mem_cons_self ⟨c, List.mem_cons_self, hs.1 hform⟩
      rw [List.map_cons, begins_cons_iff, or_iff_left hend, List.forall₂_cons,
        lowercaseChars_eq_iff hc, hrest]
      exact and_congr_left fun _ => ⟨fun hform => hform.1, fun hform => ⟨hform, hne hform⟩⟩

theorem forall₂_isForm_false {value word : List Char} :
    List.Forall₂ (IsForm false) value word ↔ word = value := by
  have hform : IsForm false = fun c d => c = d := by
    funext c d
    exact propext eq_comm
  rw [hform, List.forall₂_eq_eq_eq, eq_comm]

/-- A search that ignores case, for letters and digits. -/
theorem contains_alphanum_iff {value : String} (h : ∀ c ∈ value.toList, c.isAlphanum = true)
    (candidate : String) :
    contains true .plain candidate value = true ↔
      ∃ before word after, candidate.toList = before ++ word ++ after ∧
        Begins (value.toList.map Char.toLower) word := by
  have hneedle : ∀ c ∈ value.toList.map Char.toLower, c.toNat < 128 := by
    intro c hmem
    obtain ⟨d, hd, rfl⟩ := List.mem_map.1 hmem
    exact (alphanum_spec (h d hd)).2.2.1
  rw [contains_iff, if_pos rfl, Locale.small, List.map_id, List.map_id, lowercaseText_of_alphanum h,
    lowercaseText, infix_lowercaseFrom_iff hneedle]

/-! ## Letters that part the two -/

/-- Every letter of the needle comes from one of the word. -/
theorem Begins.exists_of_mem {needle word : List Char} (h : Begins needle word) {c : Char}
    (hc : c ∈ needle) (hi : c ≠ 'i') : ∃ d ∈ word, lowercaseChars d = [c] := by
  induction h with
  | nil => cases hc
  | @cons first d needle word hd hrest ih =>
    rcases List.mem_cons.1 hc with rfl | hmem
    · exact ⟨d, List.mem_cons_self, hd⟩
    · obtain ⟨e, he, hlower⟩ := ih hmem
      exact ⟨e, List.mem_cons_of_mem _ he, hlower⟩
  | dotted => exact absurd (List.mem_singleton.1 hc) hi

/-- A text of letters and digits begins with itself, whatever comes next. -/
theorem begins_append {value needle word : List Char} (h : ∀ c ∈ value, c.isAlphanum = true)
    (hrest : Begins needle word) : Begins (value.map Char.toLower ++ needle) (value ++ word) := by
  induction value with
  | nil => exact hrest
  | cons c value ih =>
    obtain ⟨hc, hvalue⟩ := List.forall_mem_cons.1 h
    obtain ⟨hlt, -⟩ := alphanum_spec hc
    refine .cons ?_ (ih hvalue)
    rw [lowercaseChars_of_ne_dotted (ne_dotted_of_lt hlt), lowercaseChar_of_lt hlt]

end Text

namespace Wildcard

open Text

variable {value : String} {pattern : Wildcard}

/-- Where none of the letters that part them is in play, the two find the same. -/
theorem isIn_eq_contains {ignoreCase : Bool} (h : ∀ c ∈ value.toList, c.isAlphanum = true)
    (hpattern : ofText? value ignoreCase = some pattern) {candidate : String}
    (hlong : ignoreCase = true → 'ſ' ∈ candidate.toList → ¬ HasS value.toList)
    (hdotted : ignoreCase = true → 'İ' ∈ candidate.toList → ¬ EndsInI value.toList) :
    pattern.isIn candidate = contains ignoreCase .plain candidate value := by
  rw [Bool.eq_iff_iff, isIn_iff_of_alphanum h hpattern]
  cases ignoreCase with
  | false =>
    rw [contains_iff, if_neg Bool.false_ne_true]
    constructor
    · rintro ⟨before, word, after, hcandidate, hword⟩
      rw [forall₂_isForm_false.1 hword] at hcandidate
      exact ⟨before, after, hcandidate.symm⟩
    · rintro ⟨before, after, hcandidate⟩
      exact ⟨before, _, after, hcandidate.symm, forall₂_isForm_false.2 rfl⟩
  | true =>
    rw [contains_alphanum_iff h]
    refine exists_congr fun before => exists_congr fun word => exists_congr fun after => ?_
    refine and_congr_right fun hcandidate => ?_
    have hmem {c : Char} (hc : c ∈ word) : c ∈ candidate.toList := by
      rw [hcandidate]
      exact List.mem_append_left _ (List.mem_append_right _ hc)
    exact (begins_iff_forall₂ h (fun hc => hlong rfl (hmem hc))
      fun hc => hdotted rfl (hmem hc)).symm

/-- The same letter, with a long s for s. -/
def withLongS (c : Char) : Char := if c.toLower = 's' then 'ſ' else c

/-- With long s in place of every s the pattern is found, and the search finds nothing. -/
theorem exists_found_of_hasS (h : ∀ c ∈ value.toList, c.isAlphanum = true)
    (hpattern : ofText? value true = some pattern) (hs : HasS value.toList) :
    ∃ candidate, pattern.isIn candidate = true ∧ contains true .plain candidate value = false := by
  refine ⟨String.ofList (value.toList.map withLongS), ?_, ?_⟩
  · rw [isIn_iff_of_alphanum h hpattern, String.toList_ofList]
    refine ⟨[], value.toList.map withLongS, [], by simp, ?_⟩
    rw [List.forall₂_map_right_iff, List.forall₂_same]
    intro c hc
    obtain ⟨-, -, -, -, hself, -, hlong, -⟩ := alphanum_spec (h c hc)
    change (if c.toLower = 's' then 'ſ' else c) ∈ alphanumForms c
    split
    · next hlower => exact hlong.2 hlower
    · exact hself
  · rw [← Bool.not_eq_true, contains_alphanum_iff h, String.toList_ofList]
    rintro ⟨before, word, after, hcandidate, hbegins⟩
    obtain ⟨c, hc, hlower⟩ := hs
    obtain ⟨d, hd, hsmall⟩ := hbegins.exists_of_mem (List.mem_map_of_mem hc)
      (by rw [hlower]; decide)
    have hmem : d ∈ value.toList.map withLongS := by
      rw [hcandidate]
      exact List.mem_append_left _ (List.mem_append_right _ hd)
    obtain ⟨e, he, rfl⟩ := List.mem_map.1 hmem
    obtain ⟨hform, hne⟩ := (lowercaseChars_eq_iff (h c hc) _).1 hsmall
    by_cases hes : e.toLower = 's'
    · exact hne (if_pos hes)
    · have hkept : withLongS e = e := if_neg hes
      rw [hkept, hlower] at hsmall
      obtain ⟨hlt, -⟩ := alphanum_spec (h e he)
      rw [lowercaseChars_of_ne_dotted (ne_dotted_of_lt hlt), lowercaseChar_of_lt hlt] at hsmall
      exact hes (List.singleton_inj.1 hsmall)

/-- With a dotted I in place of the last i the search finds it, and the pattern is not found. -/
theorem exists_found_of_endsInI (h : ∀ c ∈ value.toList, c.isAlphanum = true)
    (hpattern : ofText? value true = some pattern) (hi : EndsInI value.toList) :
    ∃ candidate, pattern.isIn candidate = false ∧ contains true .plain candidate value = true := by
  obtain ⟨init, c, hvalue, hlower⟩ := hi
  have hinit : ∀ c ∈ init, c.isAlphanum = true := fun c hc =>
    h c (by rw [hvalue]; exact List.mem_append_left _ hc)
  refine ⟨String.ofList (init ++ ['İ']), ?_, ?_⟩
  · rw [← Bool.not_eq_true, isIn_iff_of_alphanum h hpattern, String.toList_ofList]
    rintro ⟨before, word, after, hcandidate, hforms⟩
    have hlength := hforms.length_eq
    have hlengths := congrArg List.length hcandidate
    rw [hvalue] at hlength
    simp only [List.length_append, List.length_singleton] at hlength hlengths
    obtain rfl : before = [] := List.eq_nil_of_length_eq_zero (by omega)
    obtain rfl : after = [] := List.eq_nil_of_length_eq_zero (by omega)
    rw [List.nil_append, List.append_nil] at hcandidate
    rw [hvalue, ← hcandidate] at hforms
    have hlast := (List.forall₂_reverse_iff.2 hforms)
    rw [List.reverse_append, List.reverse_append] at hlast
    obtain ⟨hform, -⟩ := List.forall₂_cons.1 hlast
    obtain ⟨-, -, -, -, -, hnever, -⟩ :=
      alphanum_spec (h c (by rw [hvalue]; exact List.mem_append_right _ (List.mem_singleton.2 rfl)))
    exact hnever hform
  · rw [contains_alphanum_iff h, String.toList_ofList, hvalue, List.map_append, List.map_singleton,
      hlower]
    exact ⟨[], init ++ ['İ'], [], by simp, begins_append hinit .dotted⟩

end Wildcard

namespace TextTest

open Text

/-- The condition that searches, or that excludes what it would find. -/
def searchCondition (negated : Bool) : Condition :=
  if negated then .doesNotContain else .contains

/-- The same with a pattern. -/
def patternCondition (negated : Bool) : Condition :=
  if negated then .wildCardNoMatch else .wildCard

/-- **Wildcards and search, letter by letter.** For a value of letters and digits in the plain
locale, the search always has a test; the wildcard has one too, or it is refused as too large, which
takes more than 44430 characters. Where case counts, the two tests agree on every text. Where it is
ignored, they agree on every text without a long s, or if the value has no s, and without a dotted
I, or if the value does not end in i; and they agree on all texts exactly if the value has no s and
does not end in i. The negated tests agree on the same texts. -/
theorem wildcard_tracks_search {value : String} (h : ∀ c ∈ value.toList, c.isAlphanum = true)
    (ignoreCase negated : Bool) :
    ∃ search, build (searchCondition negated) value ignoreCase .plain = .ok search ∧
      (44430 < value.length ∧
          build (patternCondition negated) value ignoreCase .plain = .error (.badPattern value) ∨
        ∃ pattern, build (patternCondition negated) value ignoreCase .plain = .ok pattern ∧
          (∀ candidate : String,
            (ignoreCase = true → 'ſ' ∈ candidate.toList → ¬ HasS value.toList) →
            (ignoreCase = true → 'İ' ∈ candidate.toList → ¬ EndsInI value.toList) →
            pattern.passes candidate = search.passes candidate) ∧
          ((∀ candidate, pattern.passes candidate = search.passes candidate) ↔
            ignoreCase = false ∨ ¬ HasS value.toList ∧ ¬ EndsInI value.toList)) := by
  refine ⟨.contains negated value ignoreCase .plain, by cases negated <;> rfl, ?_⟩
  have hbuild : build (patternCondition negated) value ignoreCase .plain =
      ofPattern? negated value ignoreCase := by
    cases negated <;> rfl
  rw [hbuild]
  unfold ofPattern?
  cases hpattern : Wildcard.ofText? value ignoreCase with
  | none =>
    refine .inl ⟨?_, rfl⟩
    by_contra hshort
    have hsome := Wildcard.isSome_ofText? ignoreCase h (Nat.le_of_not_lt hshort)
    rw [hpattern] at hsome
    cases hsome
  | some pattern =>
    have hagree (candidate : String) :
        passes (.pattern negated pattern) candidate =
            passes (.contains negated value ignoreCase .plain) candidate ↔
          pattern.isIn candidate = Text.contains ignoreCase .plain candidate value := by
      simp only [passes]
      cases pattern.isIn candidate <;> cases Text.contains ignoreCase .plain candidate value <;>
        cases negated <;> decide
    refine .inr ⟨.pattern negated pattern, rfl, ?_, ?_⟩
    · intro candidate hlong hdotted
      exact (hagree candidate).2 (Wildcard.isIn_eq_contains h hpattern hlong hdotted)
    · simp only [hagree]
      constructor
      · intro hall
        cases ignoreCase with
        | false => exact .inl rfl
        | true =>
          refine .inr ⟨?_, ?_⟩
          · intro hs
            obtain ⟨candidate, hfound, hnone⟩ := Wildcard.exists_found_of_hasS h hpattern hs
            exact Bool.false_ne_true (hnone.symm.trans ((hall candidate).symm.trans hfound))
          · intro hi
            obtain ⟨candidate, hnone, hfound⟩ := Wildcard.exists_found_of_endsInI h hpattern hi
            exact Bool.false_ne_true (hnone.symm.trans ((hall candidate).trans hfound))
      · rintro (rfl | ⟨hs, hi⟩) candidate
        · exact Wildcard.isIn_eq_contains h hpattern nofun nofun
        · exact Wildcard.isIn_eq_contains h hpattern (fun _ _ => hs) fun _ _ => hi

/-- A door is found alike, in any case. -/
theorem door_tracked :
    (∀ c ∈ "door".toList, c.isAlphanum = true) ∧
      ∃ search pattern, build .contains "door" true .plain = .ok search ∧
        build .wildCard "door" true .plain = .ok pattern ∧
        ∀ candidate, pattern.passes candidate = search.passes candidate := by
  have h : ∀ c ∈ "door".toList, c.isAlphanum = true := by decide +kernel
  refine ⟨h, ?_⟩
  obtain ⟨search, hsearch, ⟨hlarge, -⟩ | ⟨pattern, hpattern, -, hall⟩⟩ :=
    wildcard_tracks_search h true false
  · exact absurd hlarge (by decide +kernel)
  · refine ⟨search, pattern, hsearch, hpattern, hall.2 (.inr ⟨?_, ?_⟩)⟩
    · rintro ⟨c, hc, hs⟩
      have hnone : ∀ c ∈ "door".toList, c.toLower ≠ 's' := by decide +kernel
      exact hnone c hc hs
    · rintro ⟨init, c, hvalue, hi⟩
      have hlast : "door".toList.getLast? = some 'r' := by decide +kernel
      rw [hvalue, List.getLast?_concat] at hlast
      obtain rfl := Option.some.inj hlast
      exact absurd hi (by decide)

/-- A long s is found by the pattern s, and not by the search for s. -/
theorem longS_parted :
    ∃ search pattern, build .contains "s" true .plain = .ok search ∧
      build .wildCard "s" true .plain = .ok pattern ∧
      pattern.passes "ſ" = true ∧ search.passes "ſ" = false := by
  have h : ∀ c ∈ "s".toList, c.isAlphanum = true := by decide +kernel
  have hsome := Wildcard.isSome_ofText? true h (by decide +kernel)
  obtain ⟨pattern, hpattern⟩ := Option.isSome_iff_exists.1 hsome
  refine ⟨.contains false "s" true .plain, .pattern false pattern, rfl, ?_, ?_, by decide +kernel⟩
  · have hbuild : build .wildCard "s" true .plain = ofPattern? false "s" true := rfl
    rw [hbuild, ofPattern?, hpattern]
  · rw [passes, Bool.bne_false, Wildcard.isIn_iff_of_alphanum h hpattern]
    refine ⟨[], ['ſ'], [], by decide +kernel, ?_⟩
    exact .cons (by unfold IsForm; decide +kernel) .nil

end TextTest

end ElementRules
