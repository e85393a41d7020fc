import ElementRules.Proofs.Trimming
import ElementRules.Text.Fold
import Mathlib.Data.List.Infix
import Mathlib.Data.List.TakeWhile

/-!
# Lower case and search

Search ignores case by lower-casing two whole texts, and the form of a capital sigma depends on what
stands around it. A part of a text is lower-cased between its surroundings (`lowercaseBetween`), and
these change nothing unless the part has a sigma that can see out of it (`LooseSigma`). So this is
exactly what decides whether a match can be lost by ignoring case:

    (∀ haystack, contains false locale haystack needle → contains true locale haystack needle)
      ↔  ¬ LooseSigma needle                                              (contains_kept_iff)
-/

namespace ElementRules.Text

/-! ## Search -/

theorem occursIn_iff {needle s : List Char} : occursIn needle s = true ↔ needle <:+: s := by
  induction s with
  | nil => rw [occursIn, List.isEmpty_iff, List.infix_nil]
  | cons c s ih =>
    rw [occursIn, Bool.or_eq_true, List.isPrefixOf_iff_prefix, ih, List.infix_cons_iff]

/-! ## What a sigma sees -/

theorem reachesCased_append (s t : List Char) :
    reachesCased (s ++ t) = if s.all isCaseIgnorable then reachesCased t else reachesCased s := by
  unfold reachesCased
  rw [List.dropWhile_append]
  by_cases hall : s.all isCaseIgnorable = true
  · have hnone : s.dropWhile isCaseIgnorable = [] :=
      List.dropWhile_eq_nil_iff.2 (List.all_eq_true.1 hall)
    rw [hnone, if_pos hall]
    rfl
  · have hsome : s.dropWhile isCaseIgnorable ≠ [] := by
      intro hnil
      exact hall (List.all_eq_true.2 (List.dropWhile_eq_nil_iff.1 hnil))
    rw [if_neg hall]
    cases hdrop : s.dropWhile isCaseIgnorable with
    | nil => exact absurd hdrop hsome
    | cons c rest => rfl

theorem reachesCased_of_all {s : List Char} (h : s.all isCaseIgnorable = true) :
    reachesCased s = false := by
  unfold reachesCased
  rw [List.dropWhile_eq_nil_iff.2 (List.all_eq_true.1 h)]

/-- The final form stands at the end of a word. -/
def isFinal (before after : List Char) : Bool := reachesCased before && !reachesCased after

/-- A capital sigma at this place sees more than the needle, and what it sees can change its form:
nothing but case-ignorable characters is before it and no cased character follows, or one is before
it and nothing but case-ignorable characters follows. -/
def SeesOut (before after : List Char) : Prop :=
  before.all isCaseIgnorable = true ∧ reachesCased after = false ∨
    after.all isCaseIgnorable = true ∧ reachesCased before = true

/-- The needle has a capital sigma whose small form depends on the text around the needle. -/
def LooseSigma (needle : List Char) : Prop :=
  ∃ before after, needle = before ++ 'Σ' :: after ∧ SeesOut before.reverse after

theorem not_looseSigma_of_not_mem {needle : List Char} (h : 'Σ' ∉ needle) :
    ¬ LooseSigma needle := by
  rintro ⟨before, after, rfl, -⟩
  exact h (List.mem_append_right _ List.mem_cons_self)

theorem isFinal_of_not_seesOut {before after : List Char} (h : ¬ SeesOut before after)
    (further beyond : List Char) :
    isFinal (before ++ further) (after ++ beyond) = isFinal before after := by
  unfold isFinal
  rw [reachesCased_append, reachesCased_append]
  by_cases hbefore : before.all isCaseIgnorable = true
  · have hafter : reachesCased after = true := by
      by_contra hnone
      exact h (.inl ⟨hbefore, eq_false_of_ne_true hnone⟩)
    have hsome : after.all isCaseIgnorable = false := by
      by_contra hall
      rw [reachesCased_of_all (eq_true_of_ne_false hall)] at hafter
      exact Bool.false_ne_true hafter
    rw [hsome, if_neg Bool.false_ne_true, hafter]
    simp
  · rw [if_neg hbefore]
    by_cases hafter : after.all isCaseIgnorable = true
    · have hnone : reachesCased before = false := by
        by_contra hsome
        exact h (.inr ⟨hafter, eq_true_of_ne_false hsome⟩)
      rw [hnone]
      rfl
    · rw [if_neg hafter]

/-! ## Lower case between surroundings -/

/-- The lower-case form of a character with what is before it, last character first, and after
it. -/
def smallForm (before after : List Char) (c : Char) : List Char :=
  if c == 'Σ' then if isFinal before after then ['ς'] else ['σ'] else lowercaseChars c

theorem lowercaseFrom_cons (before : List Char) (c : Char) (rest : List Char) :
    lowercaseFrom before (c :: rest) =
      smallForm before rest c ++ lowercaseFrom (c :: before) rest :=
  rfl

/-- The lower-case form of a part of a text. -/
def lowercaseBetween (before after : List Char) : List Char → List Char
  | [] => []
  | c :: rest => smallForm before (rest ++ after) c ++ lowercaseBetween (c :: before) after rest

theorem lowercaseFrom_append (before s t : List Char) :
    lowercaseFrom before (s ++ t) =
      lowercaseBetween before t s ++ lowercaseFrom (s.reverse ++ before) t := by
  induction s generalizing before with
  | nil => rfl
  | cons c s ih =>
    rw [List.cons_append, lowercaseFrom_cons, ih, lowercaseBetween, List.reverse_cons,
      List.append_assoc, List.append_assoc]
    rfl

theorem lowercaseBetween_append (before after s t : List Char) :
    lowercaseBetween before after (s ++ t) =
      lowercaseBetween before (t ++ after) s ++ lowercaseBetween (s.reverse ++ before) after t := by
  induction s generalizing before with
  | nil => rfl
  | cons c s ih =>
    rw [List.cons_append, lowercaseBetween, ih, lowercaseBetween, List.reverse_cons,
      List.append_assoc, List.append_assoc, List.append_assoc]
    rfl

theorem lowercaseText_eq (s : List Char) : lowercaseText s = lowercaseBetween [] [] s := by
  have := lowercaseFrom_append [] s []
  rwa [List.append_nil, lowercaseFrom, List.append_nil] at this

/-- The surroundings have no part in the length. -/
theorem length_lowercaseBetween (before after further beyond s : List Char) :
    (lowercaseBetween before after s).length = (lowercaseBetween further beyond s).length := by
  induction s generalizing before further with
  | nil => rfl
  | cons c s ih =>
    have hform : (smallForm before (s ++ after) c).length =
        (smallForm further (s ++ beyond) c).length := by
      unfold smallForm
      split
      · split <;> split <;> rfl
      · rfl
    rw [lowercaseBetween, lowercaseBetween, List.length_append, List.length_append, hform, ih]

/-- Without a loose sigma the surroundings change nothing. -/
theorem lowercaseBetween_of_not_looseSigma {needle : List Char} (h : ¬ LooseSigma needle)
    (further beyond : List Char) :
    lowercaseBetween further beyond needle = lowercaseText needle := by
  have hparts : ∀ before after, needle = before ++ after →
      lowercaseBetween (before.reverse ++ further) beyond after =
        lowercaseBetween before.reverse [] after := by
    intro before after hneedle
    induction after generalizing before with
    | nil => rfl
    | cons c after ih =>
      have hrest := ih (before ++ [c]) (by rw [hneedle, List.append_assoc]; rfl)
      rw [List.reverse_append] at hrest
      have hform : smallForm (before.reverse ++ further) (after ++ beyond) c =
          smallForm before.reverse (after ++ []) c := by
        unfold smallForm
        split
        · next hsigma =>
          rw [beq_iff_eq] at hsigma
          subst hsigma
          have hfixed := isFinal_of_not_seesOut fun hsees => h ⟨before, after, hneedle, hsees⟩
          rw [hfixed, List.append_nil]
        · rfl
      rw [lowercaseBetween, lowercaseBetween, hform]
      exact congrArg _ hrest
  rw [lowercaseText_eq]
  exact hparts [] needle rfl

/-- **No loose sigma, no loss.** What stands in a text still stands there in lower case. -/
theorem lowercaseText_infix {needle haystack : List Char} (h : ¬ LooseSigma needle)
    (hwithin : needle <:+: haystack) : lowercaseText needle <:+: lowercaseText haystack := by
  obtain ⟨before, after, rfl⟩ := hwithin
  rw [List.append_assoc]
  unfold lowercaseText
  rw [lowercaseFrom_append, lowercaseFrom_append,
    lowercaseBetween_of_not_looseSigma h (before.reverse ++ []) after, lowercaseText]
  exact ⟨_, _, List.append_assoc _ _ _⟩

/-! ## A loose sigma -/

/-- Surroundings that turn a sigma around change the lower-case form of the needle. -/
theorem lowercaseBetween_ne {before after further beyond : List Char}
    (h : isFinal (before.reverse ++ further) (after ++ beyond) ≠ isFinal before.reverse after) :
    lowercaseBetween further beyond (before ++ 'Σ' :: after) ≠
      lowercaseText (before ++ 'Σ' :: after) := by
  have hsmall (earlier later : List Char) :
      smallForm earlier later 'Σ' = if isFinal earlier later then ['ς'] else ['σ'] := rfl
  intro heq
  rw [lowercaseText_eq, lowercaseBetween_append, lowercaseBetween_append] at heq
  obtain ⟨-, hrest⟩ := List.append_inj heq (length_lowercaseBetween _ _ _ _ _)
  rw [lowercaseBetween, lowercaseBetween, hsmall, hsmall, List.append_nil, List.append_nil] at hrest
  obtain ⟨hforms, -⟩ := List.append_inj hrest (by split <;> split <;> rfl)
  revert hforms
  cases hfar : isFinal (before.reverse ++ further) (after ++ beyond) <;>
    cases hnear : isFinal before.reverse after
  · exact absurd (hfar.trans hnear.symm) h
  · simp
  · simp
  · exact absurd (hfar.trans hnear.symm) h

/-- Letters that a sigma can see, each its own lower-case form. -/
theorem seen_letter {x : Char} (h : x ∈ ['a', 'b']) :
    reachesCased [x] = true ∧ ∀ before after, smallForm before after x = [x] := by
  have hletters : ∀ x ∈ ['a', 'b'], reachesCased [x] = true ∧ x ≠ 'Σ' ∧
      lowercaseChars x = [x] := by decide +kernel
  obtain ⟨hreaches, hsigma, hlower⟩ := hletters x h
  refine ⟨hreaches, ?_⟩
  intro before after
  rw [smallForm, if_neg (mt beq_iff_eq.1 hsigma), hlower]

theorem exists_letter_ne (taken : Option Char) : ∃ x ∈ ['a', 'b'], taken ≠ some x := by
  by_cases h : taken = some 'a'
  · exact ⟨'b', by decide, by rw [h]; decide⟩
  · exact ⟨'a', by decide, h⟩

theorem not_infix_cons {s t : List Char} {x : Char} (hlength : s.length = t.length) (hne : t ≠ s)
    (hhead : s.head? ≠ some x) : ¬ s <:+: x :: t := by
  rw [List.infix_cons_iff, List.prefix_cons_iff]
  rintro ((rfl | ⟨rest, rfl, -⟩) | hwithin)
  · exact hne (List.eq_nil_of_length_eq_zero hlength.symm)
  · exact hhead rfl
  · exact hne (hwithin.eq_of_length hlength).symm

theorem not_infix_concat {s t : List Char} {x : Char} (hlength : s.length = t.length) (hne : t ≠ s)
    (hlast : s.getLast? ≠ some x) : ¬ s <:+: t ++ [x] := by
  rw [List.infix_concat_iff, List.suffix_concat_iff]
  rintro ((rfl | ⟨rest, rfl, -⟩) | hwithin)
  · exact hne (List.eq_nil_of_length_eq_zero hlength.symm)
  · exact hlast List.getLast?_concat
  · exact hne (hwithin.eq_of_length hlength).symm

/-- With a letter before it or after it, a needle with a loose sigma is lost. -/
theorem exists_lost {needle : List Char} (h : LooseSigma needle) :
    ∃ x ∈ ['a', 'b'], ∃ haystack ∈ [x :: needle, needle ++ [x]],
      ¬ lowercaseText needle <:+: lowercaseText haystack := by
  have hlength (before after : List Char) :
      (lowercaseText needle).length = (lowercaseBetween before after needle).length := by
    rw [lowercaseText_eq]
    exact length_lowercaseBetween _ _ _ _ _
  obtain ⟨before, after, hneedle, ⟨hignorable, hnone⟩ | ⟨hignorable, hsome⟩⟩ := h
  -- The letter goes before the sigma and makes it final.
  · obtain ⟨x, hx, hhead⟩ := exists_letter_ne (lowercaseText needle).head?
    obtain ⟨hreaches, hsmall⟩ := seen_letter hx
    have hother : lowercaseBetween [x] [] needle ≠ lowercaseText needle := by
      rw [hneedle]
      apply lowercaseBetween_ne
      unfold isFinal
      rw [reachesCased_append, if_pos hignorable, reachesCased_of_all hignorable, hreaches,
        List.append_nil, hnone]
      decide
    refine ⟨x, hx, x :: needle, List.mem_cons_self, ?_⟩
    rw [lowercaseText_eq (x :: needle), lowercaseBetween, hsmall, List.singleton_append]
    exact not_infix_cons (hlength _ _) hother hhead
  -- The letter goes after the sigma and makes it no longer final.
  · obtain ⟨x, hx, hlast⟩ := exists_letter_ne (lowercaseText needle).getLast?
    obtain ⟨hreaches, hsmall⟩ := seen_letter hx
    have hother : lowercaseBetween [] [x] needle ≠ lowercaseText needle := by
      rw [hneedle]
      apply lowercaseBetween_ne
      unfold isFinal
      rw [reachesCased_append after, if_pos hignorable, reachesCased_of_all hignorable, hreaches,
        List.append_nil, hsome]
      decide
    refine ⟨x, hx, needle ++ [x], List.mem_cons_of_mem _ List.mem_cons_self, ?_⟩
    rw [lowercaseText_eq (needle ++ [x]), lowercaseBetween_append, lowercaseBetween, hsmall,
      lowercaseBetween, List.append_nil]
    exact not_infix_concat (hlength _ _) hother hlast

/-! ## Locales -/

/-- What a locale does to a character before a text is lower-cased. -/
def Locale.small : Locale → Char → Char
  | .plain => id
  | .turkic => turkicSmall

theorem foldCulturalChars_eq (locale : Locale) (s : List Char) :
    foldCulturalChars locale s = lowercaseText (s.map locale.small) := by
  cases locale with
  | plain => rw [Locale.small, List.map_id]; rfl
  | turkic => rfl

/-- No locale touches a sigma, or what a sigma sees. -/
theorem Locale.small_spec (locale : Locale) (c : Char) :
    (locale.small c = 'Σ' ↔ c = 'Σ') ∧ isCased (locale.small c) = isCased c ∧
      isCaseIgnorable (locale.small c) = isCaseIgnorable c := by
  cases locale with
  | plain => exact ⟨Iff.rfl, rfl, rfl⟩
  | turkic =>
    have hpairs : ∀ c ∈ ['I', 'İ'], (turkicSmall c = 'Σ' ↔ c = 'Σ') ∧
        isCased (turkicSmall c) = isCased c ∧
        isCaseIgnorable (turkicSmall c) = isCaseIgnorable c := by
      decide +kernel
    by_cases h : c ∈ ['I', 'İ']
    · exact hpairs c h
    · have hfixed : Locale.turkic.small c = c := by
        simp only [List.mem_cons, List.not_mem_nil, or_false, not_or] at h
        simp [small, turkicSmall, h]
      rw [hfixed]
      exact ⟨Iff.rfl, rfl, rfl⟩

theorem all_map_small (locale : Locale) (s : List Char) :
    (s.map locale.small).all isCaseIgnorable = s.all isCaseIgnorable := by
  rw [List.all_map]
  exact congrArg s.all (funext fun c => (locale.small_spec c).2.2)

theorem reachesCased_map_small (locale : Locale) (s : List Char) :
    reachesCased (s.map locale.small) = reachesCased s := by
  have hignorable : isCaseIgnorable ∘ locale.small = isCaseIgnorable :=
    funext fun c => (locale.small_spec c).2.2
  unfold reachesCased
  rw [List.dropWhile_map, hignorable]
  cases s.dropWhile isCaseIgnorable with
  | nil => rfl
  | cons c rest => exact (locale.small_spec c).2.1

theorem looseSigma_map_small (locale : Locale) (needle : List Char) :
    LooseSigma (needle.map locale.small) ↔ LooseSigma needle := by
  have hsees (before after : List Char) :
      SeesOut (before.map locale.small).reverse (after.map locale.small) ↔
        SeesOut before.reverse after := by
    unfold SeesOut
    rw [← List.map_reverse, all_map_small, all_map_small, reachesCased_map_small,
      reachesCased_map_small]
  constructor
  · rintro ⟨before, after, hneedle, hout⟩
    obtain ⟨earlier, later, rfl, rfl, hlater⟩ := List.map_eq_append_iff.1 hneedle
    obtain ⟨c, rest, rfl, hc, rfl⟩ := List.map_eq_cons_iff.1 hlater
    obtain rfl := (locale.small_spec c).1.1 hc
    exact ⟨earlier, rest, rfl, (hsees _ _).1 hout⟩
  · rintro ⟨before, after, rfl, hout⟩
    refine ⟨before.map locale.small, after.map locale.small, ?_, (hsees _ _).2 hout⟩
    rw [List.map_append, List.map_cons, (locale.small_spec 'Σ').1.2 rfl]

theorem contains_iff (ignoreCase : Bool) (locale : Locale) (haystack needle : String) :
    contains ignoreCase locale haystack needle = true ↔
      if ignoreCase then
        lowercaseText (needle.toList.map locale.small) <:+:
          lowercaseText (haystack.toList.map locale.small)
      else needle.toList <:+: haystack.toList := by
  unfold contains
  cases ignoreCase with
  | false => exact occursIn_iff
  | true =>
    rw [if_pos rfl, if_pos rfl, foldCulturalChars_eq, foldCulturalChars_eq]
    exact occursIn_iff

/-- Ignoring case keeps all matches of a needle without a loose sigma. -/
theorem contains_of_not_looseSigma {needle : String} (h : ¬ LooseSigma needle.toList)
    {locale : Locale} {haystack : String} (hplain : contains false locale haystack needle = true) :
    contains true locale haystack needle = true := by
  rw [contains_iff, if_neg Bool.false_ne_true] at hplain
  rw [contains_iff, if_pos rfl]
  exact lowercaseText_infix (mt (looseSigma_map_small locale _).1 h) (hplain.map _)

/-- **A loose sigma is what loses matches.** Ignoring case keeps all matches of a needle exactly if
it has no loose sigma, whatever the locale. -/
theorem contains_kept_iff (needle : String) (locale : Locale) :
    (∀ haystack, contains false locale haystack needle = true →
      contains true locale haystack needle = true) ↔ ¬ LooseSigma needle.toList := by
  constructor
  · intro hkept hloose
    obtain ⟨x, hx, haystack, hmem, hlost⟩ :=
      exists_lost ((looseSigma_map_small locale _).2 hloose)
    have hsmall : locale.small x = x := by
      cases locale with
      | plain => rfl
      | turkic => rcases List.mem_pair.1 hx with rfl | rfl <;> decide
    have htext : ∃ text : List Char,
        needle.toList <:+: text ∧ text.map locale.small = haystack := by
      rcases List.mem_pair.1 hmem with rfl | rfl
      · exact ⟨x :: needle.toList, (List.suffix_cons _ _).isInfix, by rw [List.map_cons, hsmall]⟩
      · refine ⟨needle.toList ++ [x], (List.prefix_append _ _).isInfix, ?_⟩
        rw [List.map_append, List.map_singleton, hsmall]
    obtain ⟨text, hwithin, rfl⟩ := htext
    have hplain : contains false locale (String.ofList text) needle = true := by
      rw [contains_iff, if_neg Bool.false_ne_true, String.toList_ofList]
      exact hwithin
    have hfound := hkept _ hplain
    rw [contains_iff, if_pos rfl, String.toList_ofList] at hfound
    exact hlost hfound
  · exact fun h haystack => contains_of_not_looseSigma h

end ElementRules.Text
