import ElementRules.Pattern.Regex
import Mathlib.Data.List.Basic

/-!
# The search finds what the expression means

What an expression means is said without a search: it matches a word between two characters, the
neighbours that its looks can see (`Regex.Matches`). The search reads a text once and keeps, in the
expression, the symbols that it has just read. One step is right about the empty word, about the
end of the expression, and about what is left to read (`nullable_iff`, `final_iff`, `resumes_next`),
so the whole search finds a match exactly if there is one (`Regex.foundIn_iff`):

    regex.foundIn s  ↔  ∃ before word after, s = before ++ word ++ after ∧
                          regex.Matches before.getLast? word after.head?
-/

namespace ElementRules.Pattern

/-! ## Readings -/

/-- A relation between a word and the characters before and after it, none at the ends of a text. -/
abbrev Reading := Option Char → List Char → Option Char → Prop

namespace Reading

/-- The first part of the word is read one way, the rest another. -/
def Joined (first second : Reading) : Reading := fun before word after =>
  ∃ u v, word = u ++ v ∧ first before u (v.head?.or after) ∧ second (u.getLast?.or before) v after

/-- The word is read in one or more rounds. -/
inductive Repeats (round : Reading) : Reading
  | once {before word after} : round before word after → Repeats round before word after
  | more {before u v after} : round before u (v.head?.or after) →
      Repeats round (u.getLast?.or before) v after → Repeats round before (u ++ v) after

/-- No round or more. -/
def MoreRounds (round : Reading) : Reading := fun before word after =>
  word = [] ∨ Repeats round before word after

/-- Reads what is left of a word after its first character. -/
def pastFirst (before : Option Char) (c : Char) (reading : Reading) : Reading :=
  fun _ word after => reading before (c :: word) after

variable {first second round : Reading} {before after : Option Char} {c : Char} {word : List Char}

theorem joined_nil : Joined first second before [] after ↔
    first before [] after ∧ second before [] after := by
  unfold Joined
  simp

/-- Either the first part is empty, or it has the first character. -/
theorem joined_cons : Joined first second before (c :: word) after ↔
    first before [] (some c) ∧ second before (c :: word) after ∨
      Joined (pastFirst before c first) second (some c) word after := by
  unfold Joined pastFirst
  constructor
  · rintro ⟨u, v, hword, hfirst, hsecond⟩
    cases u with
    | nil =>
      obtain rfl : c :: word = v := hword
      exact .inl ⟨by simpa using hfirst, by simpa using hsecond⟩
    | cons d u =>
      obtain ⟨rfl, rfl⟩ := List.cons.inj hword
      refine .inr ⟨u, v, rfl, hfirst, ?_⟩
      simpa [List.getLast?_cons] using hsecond
  · rintro (⟨hfirst, hsecond⟩ | ⟨u, v, rfl, hfirst, hsecond⟩)
    · exact ⟨[], c :: word, rfl, by simpa using hfirst, by simpa using hsecond⟩
    · refine ⟨c :: u, v, rfl, hfirst, ?_⟩
      simpa [List.getLast?_cons] using hsecond

theorem joined_or {other : Reading} :
    Joined (fun before word after => first before word after ∨ other before word after) second
        before word after ↔
      Joined first second before word after ∨ Joined other second before word after := by
  unfold Joined
  constructor
  · rintro ⟨u, v, hword, hfirst | hother, hsecond⟩
    · exact .inl ⟨u, v, hword, hfirst, hsecond⟩
    · exact .inr ⟨u, v, hword, hother, hsecond⟩
  · rintro (⟨u, v, hword, hfirst, hsecond⟩ | ⟨u, v, hword, hother, hsecond⟩)
    · exact ⟨u, v, hword, .inl hfirst, hsecond⟩
    · exact ⟨u, v, hword, .inr hother, hsecond⟩

theorem joined_and {p : Prop} :
    Joined (fun before word after => p ∧ first before word after) second before word after ↔
      p ∧ Joined first second before word after := by
  unfold Joined
  constructor
  · rintro ⟨u, v, hword, ⟨hp, hfirst⟩, hsecond⟩
    exact ⟨hp, u, v, hword, hfirst, hsecond⟩
  · rintro ⟨hp, u, v, hword, hfirst, hsecond⟩
    exact ⟨u, v, hword, ⟨hp, hfirst⟩, hsecond⟩

theorem repeats_nil : Repeats round before [] after ↔ round before [] after := by
  constructor
  · generalize hword : ([] : List Char) = word
    intro h
    induction h with
    | once hround => exact hround
    | more hround hmore ih =>
      obtain ⟨rfl, rfl⟩ := List.nil_eq_append_iff.1 hword
      simpa using hround
  · exact .once

/-- Empty rounds can be left out, so the first round has the first character. -/
theorem repeats_cons : Repeats round before (c :: word) after ↔
    Joined (pastFirst before c round) (MoreRounds round) (some c) word after := by
  constructor
  · generalize hcons : c :: word = whole
    intro h
    induction h with
    | once hround =>
      subst hcons
      exact ⟨word, [], by simp, by simpa [pastFirst] using hround, .inl rfl⟩
    | @more before u v after hround hmore ih =>
      cases u with
      | nil => exact ih (by simpa using hcons)
      | cons d u =>
        obtain ⟨rfl, rfl⟩ := List.cons.inj hcons
        refine ⟨u, v, rfl, hround, .inr ?_⟩
        simpa [List.getLast?_cons] using hmore
  · rintro ⟨u, v, rfl, hround, rfl | hmore⟩
    · exact .once (by simpa [pastFirst] using hround)
    · refine Repeats.more (u := c :: u) hround ?_
      simpa [List.getLast?_cons] using hmore

end Reading

namespace Regex

open Reading

/-! ## Meaning -/

/-- The expression matches the word between its neighbours. What the search has marked as read has
no part in it. -/
def Matches : Regex → Reading
  | .empty => fun _ word _ => word = []
  | .look condition => fun before word after => word = [] ∧ condition.holds before after = true
  | .symbol _ accepting => fun _ word _ => ∃ c, word = [c] ∧ accepting.accepts c = true
  | .seq a b => Joined a.Matches b.Matches
  | .alt a b => fun before word after => a.Matches before word after ∨ b.Matches before word after
  | .plus a => Repeats a.Matches

/-- The word leads from a symbol that has just been read to the end of the expression. -/
def Resumes : Regex → Reading
  | .empty => fun _ _ _ => False
  | .look _ => fun _ _ _ => False
  | .symbol active _ => fun _ word _ => active = true ∧ word = []
  | .seq a b => fun before word after =>
    Joined a.Resumes b.Matches before word after ∨ b.Resumes before word after
  | .alt a b => fun before word after => a.Resumes before word after ∨ b.Resumes before word after
  | .plus a => Joined a.Resumes (MoreRounds a.Matches)

/-- Nothing has been read yet. -/
def Idle : Regex → Prop
  | .empty => True
  | .look _ => True
  | .symbol active _ => active = false
  | .seq a b => a.Idle ∧ b.Idle
  | .alt a b => a.Idle ∧ b.Idle
  | .plus a => a.Idle

theorem Idle.not_resumes {regex : Regex} (h : regex.Idle) (before : Option Char)
    (word : List Char) (after : Option Char) : ¬ regex.Resumes before word after := by
  induction regex generalizing before word after with
  | empty | look => exact id
  | symbol active accepting =>
    rintro ⟨hactive, -⟩
    exact Bool.false_ne_true (h.symm.trans hactive)
  | seq a b iha ihb =>
    rintro (⟨u, v, -, hresumes, -⟩ | hresumes)
    · exact iha h.1 _ _ _ hresumes
    · exact ihb h.2 _ _ _ hresumes
  | alt a b iha ihb =>
    rintro (hresumes | hresumes)
    · exact iha h.1 _ _ _ hresumes
    · exact ihb h.2 _ _ _ hresumes
  | plus a ih =>
    rintro ⟨u, v, -, hresumes, -⟩
    exact ih h _ _ _ hresumes

/-! ## One step -/

/-- Reading on changes the marks and nothing else. -/
theorem matches_next (regex : Regex) (before after : Option Char) (entered : Bool) :
    ((regex.step before after).next entered).Matches = regex.Matches := by
  induction regex generalizing entered with
  | empty | look | symbol => rfl
  | seq a b iha ihb => simp only [step, Matches, iha, ihb]
  | alt a b iha ihb => simp only [step, Matches, iha, ihb]
  | plus a ih => simp only [step, Matches, ih]

theorem nullable_iff (regex : Regex) (before after : Option Char) :
    (regex.step before after).nullable = true ↔ regex.Matches before [] after := by
  induction regex with
  | empty | look | symbol => simp [step, Matches]
  | seq a b iha ihb => rw [step, Bool.and_eq_true, iha, ihb, Matches, joined_nil]
  | alt a b iha ihb => rw [step, Bool.or_eq_true, iha, ihb, Matches]
  | plus a ih => rw [step, ih, Matches, repeats_nil]

theorem final_iff (regex : Regex) (before after : Option Char) :
    (regex.step before after).final = true ↔ regex.Resumes before [] after := by
  induction regex with
  | empty | look | symbol => simp [step, Resumes]
  | seq a b iha ihb =>
    simp only [step, Resumes, joined_nil, Bool.or_eq_true, Bool.and_eq_true, iha, ihb, nullable_iff]
  | alt a b iha ihb => rw [step, Bool.or_eq_true, iha, ihb, Resumes]
  | plus a ih =>
    rw [step, ih, Resumes, joined_nil, iff_self_and]
    exact fun _ => .inl rfl

/-- The step over a character: what is left to read of a symbol read before it, or of the expression
itself where it is entered. -/
theorem resumes_next (regex : Regex) (before : Option Char) (c : Char) (entered : Bool)
    (word : List Char) (after : Option Char) :
    ((regex.step before (some c)).next entered).Resumes (some c) word after ↔
      regex.Resumes before (c :: word) after ∨
        entered = true ∧ regex.Matches before (c :: word) after := by
  induction regex generalizing entered word after with
  | empty | look => simp [step, Resumes, Matches]
  | symbol active accepting =>
    simp only [step, Resumes, Matches, Bool.and_eq_true, List.cons.injEq]
    simp only [reduceCtorEq, and_false, false_or]
    constructor
    · rintro ⟨⟨hentered, haccepts⟩, rfl⟩
      exact ⟨hentered, c, ⟨rfl, rfl⟩, haccepts⟩
    · rintro ⟨hentered, d, ⟨rfl, rfl⟩, haccepts⟩
      exact ⟨⟨hentered, haccepts⟩, rfl⟩
  | seq a b iha ihb =>
    have hjoined : Joined ((a.step before (some c)).next entered).Resumes b.Matches (some c) word
        after ↔ Joined (pastFirst before c a.Resumes) b.Matches (some c) word after ∨
          entered = true ∧ Joined (pastFirst before c a.Matches) b.Matches (some c) word after := by
      rw [← joined_and, ← joined_or]
      unfold Reading.Joined pastFirst
      simp only [iha]
    simp only [step, Resumes, Matches, matches_next, hjoined, ihb, joined_cons, Bool.or_eq_true,
      Bool.and_eq_true, final_iff, nullable_iff]
    tauto
  | alt a b iha ihb =>
    simp only [step, Resumes, Matches, iha, ihb]
    tauto
  | plus a ih =>
    have hjoined (goes : Bool) : Joined ((a.step before (some c)).next goes).Resumes
        (MoreRounds a.Matches) (some c) word after ↔
        Joined (pastFirst before c a.Resumes) (MoreRounds a.Matches) (some c) word after ∨
          goes = true ∧
            Joined (pastFirst before c a.Matches) (MoreRounds a.Matches) (some c) word after := by
      rw [← joined_and, ← joined_or]
      unfold Reading.Joined pastFirst
      simp only [ih]
    have hmore : MoreRounds a.Matches before (c :: word) after ↔
        Joined (pastFirst before c a.Matches) (MoreRounds a.Matches) (some c) word after := by
      rw [← repeats_cons, MoreRounds]
      simp
    simp only [step, Resumes, Matches, matches_next, hjoined, joined_cons, hmore, repeats_cons,
      Bool.or_eq_true, final_iff]
    tauto

/-! ## The search -/

/-- A part of the text at which the expression matches. -/
def MatchesIn (regex : Regex) (before : Option Char) (s : List Char) : Prop :=
  ∃ skipped word rest, s = skipped ++ word ++ rest ∧
    regex.Matches (skipped.getLast?.or before) word rest.head?

theorem matchesIn_cons {regex : Regex} {before : Option Char} {c : Char} {s : List Char} :
    regex.MatchesIn before (c :: s) ↔
      regex.Matches before [] (some c) ∨
        (∃ word rest, s = word ++ rest ∧ regex.Matches before (c :: word) rest.head?) ∨
        regex.MatchesIn (some c) s := by
  unfold MatchesIn
  constructor
  · rintro ⟨skipped, word, rest, hs, hmatches⟩
    cases skipped with
    | nil =>
      cases word with
      | nil =>
        obtain rfl : c :: s = rest := hs
        exact .inl (by simpa using hmatches)
      | cons d word =>
        obtain ⟨rfl, rfl⟩ := List.cons.inj hs
        exact .inr (.inl ⟨word, rest, rfl, by simpa using hmatches⟩)
    | cons d skipped =>
      obtain ⟨rfl, rfl⟩ := List.cons.inj hs
      refine .inr (.inr ⟨skipped, word, rest, rfl, ?_⟩)
      simpa [List.getLast?_cons] using hmatches
  · rintro (hmatches | ⟨word, rest, rfl, hmatches⟩ | ⟨skipped, word, rest, rfl, hmatches⟩)
    · exact ⟨[], [], c :: s, rfl, by simpa using hmatches⟩
    · exact ⟨[], c :: word, rest, rfl, by simpa using hmatches⟩
    · refine ⟨c :: skipped, word, rest, rfl, ?_⟩
      simpa [List.getLast?_cons] using hmatches

/-- From any position on, with any symbols just read. -/
theorem foundFrom_iff (regex : Regex) (before : Option Char) (s : List Char) :
    regex.foundFrom before s = true ↔
      (∃ word rest, s = word ++ rest ∧ regex.Resumes before word rest.head?) ∨
        regex.MatchesIn before s := by
  induction s generalizing regex before with
  | nil =>
    rw [foundFrom, Bool.or_eq_true, nullable_iff, final_iff, or_comm]
    simp [MatchesIn]
  | cons c s ih =>
    have hresumes : (∃ word rest, c :: s = word ++ rest ∧ regex.Resumes before word rest.head?) ↔
        regex.Resumes before [] (some c) ∨
          ∃ word rest, s = word ++ rest ∧ regex.Resumes before (c :: word) rest.head? := by
      constructor
      · rintro ⟨word, rest, hs, hword⟩
        cases word with
        | nil =>
          obtain rfl : c :: s = rest := hs
          exact .inl hword
        | cons d word =>
          obtain ⟨rfl, rfl⟩ := List.cons.inj hs
          exact .inr ⟨word, rest, rfl, hword⟩
      · rintro (hword | ⟨word, rest, rfl, hword⟩)
        · exact ⟨[], c :: s, rfl, hword⟩
        · exact ⟨c :: word, rest, rfl, hword⟩
    have hnext : ((regex.step before (some c)).next true).MatchesIn (some c) s ↔
        regex.MatchesIn (some c) s := by
      unfold MatchesIn
      rw [matches_next]
    rw [foundFrom, Bool.or_eq_true, Bool.or_eq_true, nullable_iff, final_iff, ih, hresumes,
      matchesIn_cons, hnext]
    simp only [resumes_next, true_and, and_or_left, exists_or]
    exact iff_of_eq (by ac_rfl)

/-- The search finds a match exactly if some part of the text is one. -/
theorem foundIn_iff {regex : Regex} (h : regex.Idle) (s : List Char) :
    regex.foundIn s = true ↔ ∃ before word after, s = before ++ word ++ after ∧
      regex.Matches before.getLast? word after.head? := by
  rw [foundIn, foundFrom_iff]
  simp only [h.not_resumes, and_false, exists_false, false_or, MatchesIn, Option.or_none]

end Regex

end ElementRules.Pattern
