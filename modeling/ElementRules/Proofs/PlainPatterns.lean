import ElementRules.Proofs.CharSets
import ElementRules.Proofs.LetterForms
import ElementRules.Proofs.ProgramSize
import ElementRules.Proofs.Search
import ElementRules.Wildcard

/-!
# Patterns of letters and digits

A pattern of letters and digits has no sign in it, so it is read as the sequence of its characters.
The normal form joins characters to literals, and a letter whose case is ignored becomes the set of
its forms. Neither changes what the expression spells: one symbol for every character of the pattern
(`SpelledBy`). So such a pattern is found exactly where a form of it stands,

    pattern.isIn candidate  ↔  ∃ before word after, candidate = before ++ word ++ after ∧
                                 word is a form of the pattern       (Wildcard.isIn_iff_of_alphanum)

and it is refused only if it is too large, which takes more than 44430 characters
(`Wildcard.isSome_ofText?`).
-/

namespace ElementRules.Pattern

/-! ## Expressions that spell words -/

/-- The word has one character for every symbol, and the symbol accepts it. -/
abbrev Spells (symbols : List Symbol) (word : List Char) : Prop :=
  List.Forall₂ (fun accepting c => accepting.accepts c = true) symbols word

/-- The expression matches exactly the words that the symbols spell, wherever they stand. -/
structure Regex.SpelledBy (regex : Regex) (symbols : List Symbol) : Prop where
  idle : regex.Idle
  iff : ∀ before word after, regex.Matches before word after ↔ Spells symbols word

namespace Regex.SpelledBy

theorem empty : Regex.empty.SpelledBy [] where
  idle := trivial
  iff _ _ _ := List.forall₂_nil_left_iff.symm

theorem symbol (accepting : Symbol) : (Regex.symbol false accepting).SpelledBy [accepting] where
  idle := rfl
  iff _ word _ := by
    unfold Spells
    simp only [List.forall₂_cons_left_iff, List.forall₂_nil_left_iff, Matches]
    constructor
    · rintro ⟨c, rfl, haccepts⟩
      exact ⟨c, [], haccepts, rfl, rfl⟩
    · rintro ⟨c, _, haccepts, rfl, rfl⟩
      exact ⟨c, rfl, haccepts⟩

theorem seq {a b : Regex} {first second : List Symbol} (ha : a.SpelledBy first)
    (hb : b.SpelledBy second) : (Regex.seq a b).SpelledBy (first ++ second) where
  idle := ⟨ha.idle, hb.idle⟩
  iff before word after := by
    simp only [Matches, Reading.Joined, ha.iff, hb.iff]
    constructor
    · rintro ⟨u, v, rfl, hu, hv⟩
      exact List.rel_append hu hv
    · intro hword
      refine ⟨word.take first.length, word.drop first.length, (List.take_append_drop _ _).symm, ?_,
        ?_⟩
      · simpa using List.forall₂_take first.length hword
      · simpa using List.forall₂_drop first.length hword

theorem literal (text : List Char) :
    (Regex.sequence (text.map fun c => .symbol false (.exactly c))).SpelledBy
      (text.map .exactly) := by
  induction text with
  | nil => exact .empty
  | cons c text ih => exact seq (.symbol (.exactly c)) ih

end Regex.SpelledBy

namespace Expression

/-- What a literal or a set spells. -/
def symbols : Expression → List Symbol
  | .literal text => text.map .exactly
  | .oneOf set => [.oneOf set]
  | _ => []

theorem IsPlain.spelledBy {expression : Expression} (h : expression.IsPlain) :
    expression.regex.SpelledBy expression.symbols := by
  cases expression with
  | literal text => exact .literal text
  | oneOf set => exact .symbol (.oneOf set)
  | empty | look | repetition | group | sequence | choice => exact h.elim

theorem spelledBy_sequence {parts : List Expression} (h : ∀ part ∈ parts, part.IsPlain) :
    (sequence parts).regex.SpelledBy (parts.flatMap symbols) := by
  rw [regex]
  induction parts with
  | nil => exact .empty
  | cons part parts ih =>
    have hpart := (h part List.mem_cons_self).spelledBy
    have hparts := ih fun other hmem => h other (List.mem_cons_of_mem _ hmem)
    cases parts with
    | nil => simpa [sequenceRegex] using hpart
    | cons other parts => exact .seq hpart hparts

/-! ## The normal form -/

theorem isPlain_prepend {part : Expression} {parts : List Expression} (hpart : part.IsPlain)
    (h : ∀ other ∈ parts, other.IsPlain) : ∀ other ∈ prepend part parts, other.IsPlain := by
  unfold prepend
  split
  · exact List.forall_mem_cons.2 ⟨trivial, (List.forall_mem_cons.1 h).2⟩
  · exact List.forall_mem_cons.2 ⟨hpart, h⟩

theorem symbols_prepend (part : Expression) (parts : List Expression) :
    (prepend part parts).flatMap symbols = part.symbols ++ parts.flatMap symbols := by
  unfold prepend
  split
  · rw [List.flatMap_cons, List.flatMap_cons, symbols, symbols, symbols, List.map_append,
      List.append_assoc]
  · rw [List.flatMap_cons]

theorem bytes_prepend (backwards : Bool) (part : Expression) (parts : List Expression) :
    ((prepend part parts).map (bytes backwards)).sum =
      part.bytes backwards + (parts.map (bytes backwards)).sum := by
  unfold prepend
  split
  · rw [List.map_cons, List.map_cons, List.sum_cons, List.sum_cons, bytes, bytes, bytes,
      List.map_append, List.sum_append, Nat.add_assoc]
  · rw [List.map_cons, List.sum_cons]

/-- The normal form of a sequence keeps what it spells and what it takes. -/
structure Normalises (normal parts : List Expression) : Prop where
  plain : ∀ part ∈ normal, part.IsPlain
  symbols_eq : normal.flatMap symbols = parts.flatMap symbols
  bytes_eq : ∀ backwards,
    (normal.map (bytes backwards)).sum = (parts.map (bytes backwards)).sum

theorem normalises_flatten {parts : List Expression} (h : ∀ part ∈ parts, part.IsPlain) :
    Normalises (flatten parts) parts := by
  induction parts with
  | nil => exact ⟨h, rfl, fun _ => rfl⟩
  | cons part parts ih =>
    obtain ⟨hpart, hparts⟩ := List.forall_mem_cons.1 h
    obtain ⟨hplain, hsymbols, hbytes⟩ := ih hparts
    have hflatten : flatten (part :: parts) = prepend part (flatten parts) := by
      cases part with
      | literal text => exact flatten.eq_4 _ _ nofun nofun
      | oneOf set => exact flatten.eq_4 _ _ nofun nofun
      | empty | look | repetition | group | sequence | choice => exact hpart.elim
    rw [hflatten]
    refine ⟨isPlain_prepend hpart hplain, ?_, ?_⟩
    · rw [symbols_prepend, hsymbols, List.flatMap_cons]
    · intro backwards
      rw [bytes_prepend, hbytes, List.map_cons, List.sum_cons]

/-- An expression that spells what the parts spell one after the other. One state more than theirs
is enough for it. -/
structure IsWord (expression : Expression) (parts : List Expression) : Prop where
  spelled : expression.regex.SpelledBy (parts.flatMap symbols)
  takes : ∀ backwards,
    Takes (expression.build backwards) (Program.stateBytes + (parts.map (bytes backwards)).sum)

theorem isWord_empty : IsWord .empty [] where
  spelled := .empty
  takes _ := takes_plain (takes_add 1 0)

theorem isWord_singleton {part : Expression} (h : part.IsPlain) : IsWord part [part] where
  spelled := by
    rw [List.flatMap_singleton]
    exact h.spelledBy
  takes backwards := by
    rw [List.map_singleton, List.sum_singleton]
    exact (takes_build h backwards).le (Nat.le_add_left _ _)

theorem isWord_sequenceOf {parts : List Expression} (h : ∀ part ∈ parts, part.IsPlain) :
    IsWord (sequenceOf parts) parts := by
  obtain ⟨hplain, hsymbols, hbytes⟩ := normalises_flatten h
  have hword : IsWord (sequenceOf parts) (flatten parts) := by
    unfold sequenceOf
    cases hflatten : flatten parts with
    | nil => exact isWord_empty
    | cons part rest =>
      rw [hflatten] at hplain
      cases rest with
      | nil => exact isWord_singleton (hplain part List.mem_cons_self)
      | cons other rest =>
        refine ⟨spelledBy_sequence hplain, ?_⟩
        exact fun backwards => (takes_build_sequence (List.cons_ne_nil _ _) hplain backwards).le
          (Nat.le_add_left _ _)
  refine ⟨hsymbols ▸ hword.spelled, ?_⟩
  exact fun backwards => hbytes backwards ▸ hword.takes backwards

end Expression

/-! ## Characters -/

namespace Expression

/-- A set of one character becomes a literal, which accepts the same. -/
theorem exists_symbol_ofSet (chars : List Char) :
    ∃ accepting, (ofSet (.ofCodes (chars.map Char.toNat))).IsPlain ∧
      (ofSet (.ofCodes (chars.map Char.toNat))).symbols = [accepting] ∧
      ∀ d, accepting.accepts d = true ↔ d ∈ chars := by
  have hcontains (d : Char) :
      (CharSet.ofCodes (chars.map Char.toNat)).contains d = true ↔ d ∈ chars := by
    rw [CharSet.contains_ofCodes_iff, List.mem_map]
    constructor
    · rintro ⟨other, hmem, heq⟩
      rwa [← Char.toNat_inj.1 heq]
    · exact fun hmem => ⟨d, hmem, rfl⟩
  unfold ofSet
  cases hsingle : (CharSet.ofCodes (chars.map Char.toNat)).single? with
  | none => exact ⟨_, trivial, rfl, hcontains⟩
  | some c =>
    obtain ⟨only, rfl, honly⟩ := CharSet.single?_eq_some hsingle
    obtain ⟨a, hmem, rfl⟩ := List.mem_map.1
      ((CharSet.containsCode_ofCodes_iff _ _).1 ((honly only).2 rfl))
    refine ⟨.exactly (Char.ofNat a.toNat), trivial, rfl, ?_⟩
    intro d
    rw [← hcontains, CharSet.contains, honly, Char.ofNat_toNat, Char.toNat_inj]
    exact beq_iff_eq.trans eq_comm

/-- The most bytes that the set of the forms of a letter takes. -/
def formBytes : Nat := 236

theorem bytes_ofSet_le {c : Char} (h : c.isAlphanum = true) (backwards : Bool) :
    (ofSet (.ofCodes ((alphanumForms c).map Char.toNat))).bytes backwards ≤ formBytes := by
  rw [CharSet.ofCodes_eq]
  revert backwards
  refine forall_alphanum h ?_
  decide +kernel

end Expression

/-- What may stand in a text for a letter or a digit of a pattern: the character itself or, where
case is ignored, one of its forms. -/
def IsForm (ignoreCase : Bool) (c d : Char) : Prop :=
  if ignoreCase then d ∈ alphanumForms c else d = c

/-- A letter or a digit is read as one symbol, which accepts its forms. -/
structure Piece.Stands (piece : Piece) (ignoreCase : Bool) (c : Char) : Prop where
  depth : piece.depth = 0
  plain : piece.expression.IsPlain
  symbol : ∃ accepting, piece.expression.symbols = [accepting] ∧
    ∀ d, accepting.accepts d = true ↔ IsForm ignoreCase c d
  bytes : ∀ backwards, piece.expression.bytes backwards ≤ Expression.formBytes

theorem Piece.stands_char {c : Char} (h : c.isAlphanum = true) (ignoreCase : Bool) :
    (Piece.char (Flags.initial ignoreCase) c).Stands ignoreCase c := by
  cases ignoreCase with
  | false =>
    refine ⟨rfl, trivial, ⟨.exactly c, rfl, fun d => beq_iff_eq.trans eq_comm⟩, ?_⟩
    intro backwards
    revert backwards
    refine forall_alphanum h ?_
    decide +kernel
  | true =>
    have hchar : Piece.char (Flags.initial true) c =
        .ofSet (.ofCodes ((alphanumForms c).map Char.toNat)) := by
      rw [← letterForms_of_isAlphanum h]
      rfl
    obtain ⟨accepting, hplain, hsymbols, haccepts⟩ :=
      Expression.exists_symbol_ofSet (alphanumForms c)
    rw [hchar]
    exact ⟨rfl, hplain, ⟨accepting, hsymbols, haccepts⟩, Expression.bytes_ofSet_le h⟩

/-! ## Texts -/

section Texts

variable (ignoreCase : Bool) {text : List Char}

/-- The pieces of a text, in order. -/
def pieces (ignoreCase : Bool) (text : List Char) : List Piece :=
  text.map (Piece.char (Flags.initial ignoreCase))

def expressions (ignoreCase : Bool) (text : List Char) : List Expression :=
  (pieces ignoreCase text).map (·.expression)

theorem isPlain_of_mem_expressions (h : ∀ c ∈ text, c.isAlphanum = true) :
    ∀ part ∈ expressions ignoreCase text, part.IsPlain := by
  intro part hmem
  obtain ⟨piece, hpiece, rfl⟩ := List.mem_map.1 hmem
  obtain ⟨c, hc, rfl⟩ := List.mem_map.1 hpiece
  exact (Piece.stands_char (h c hc) ignoreCase).plain

theorem spells_expressions_iff (h : ∀ c ∈ text, c.isAlphanum = true) (word : List Char) :
    Spells ((expressions ignoreCase text).flatMap Expression.symbols) word ↔
      List.Forall₂ (IsForm ignoreCase) text word := by
  induction text generalizing word with
  | nil => exact List.forall₂_nil_left_iff.trans List.forall₂_nil_left_iff.symm
  | cons c text ih =>
    obtain ⟨hc, htext⟩ := List.forall_mem_cons.1 h
    obtain ⟨accepting, hsymbols, haccepts⟩ := (Piece.stands_char hc ignoreCase).symbol
    rw [List.forall₂_cons_left_iff, expressions, pieces, List.map_cons, List.map_cons,
      List.flatMap_cons, hsymbols, List.singleton_append]
    unfold Spells
    rw [List.forall₂_cons_left_iff]
    refine exists_congr fun d => exists_congr fun rest => ?_
    rw [haccepts, ← ih htext rest]
    rfl

theorem sum_bytes_expressions_le (h : ∀ c ∈ text, c.isAlphanum = true) (backwards : Bool) :
    ((expressions ignoreCase text).map (Expression.bytes backwards)).sum ≤
      text.length * Expression.formBytes := by
  induction text with
  | nil => exact Nat.zero_le _
  | cons c text ih =>
    obtain ⟨hc, htext⟩ := List.forall_mem_cons.1 h
    have hbytes := (Piece.stands_char hc ignoreCase).bytes backwards
    have hrest := ih htext
    rw [expressions, pieces, List.map_cons, List.map_cons, List.map_cons, List.sum_cons,
      List.length_cons, Nat.add_mul]
    unfold expressions pieces at hrest
    omega

theorem greatestDepth_pieces (h : ∀ c ∈ text, c.isAlphanum = true) :
    Piece.greatestDepth (pieces ignoreCase text) = 0 := by
  unfold Piece.greatestDepth
  induction text with
  | nil => rfl
  | cons c text ih =>
    obtain ⟨hc, htext⟩ := List.forall_mem_cons.1 h
    rw [pieces, List.map_cons, List.foldl_cons, (Piece.stands_char hc ignoreCase).depth]
    exact ih htext

/-- As one piece a text is nested once at most, and spells its forms. -/
theorem isWord_sequence_pieces (h : ∀ c ∈ text, c.isAlphanum = true) :
    (Piece.sequence (pieces ignoreCase text)).depth ≤ 1 ∧
      (Piece.sequence (pieces ignoreCase text)).expression.IsWord
        (expressions ignoreCase text) := by
  have hplain := isPlain_of_mem_expressions ignoreCase h
  have hdepth := greatestDepth_pieces ignoreCase h
  unfold expressions at hplain ⊢
  cases hpieces : pieces ignoreCase text with
  | nil => exact ⟨Nat.zero_le _, Expression.isWord_empty⟩
  | cons piece rest =>
    rw [hpieces] at hplain hdepth
    cases rest with
    | nil =>
      have hle : piece.depth ≤ 1 := by
        simp only [Piece.greatestDepth, List.foldl_cons, List.foldl_nil] at hdepth
        omega
      exact ⟨hle, Expression.isWord_singleton (hplain _ (List.mem_map_of_mem List.mem_cons_self))⟩
    | cons other rest =>
      refine ⟨?_, Expression.isWord_sequenceOf hplain⟩
      change Piece.greatestDepth (piece :: other :: rest) + 1 ≤ 1
      rw [hdepth]

/-! ## Reading -/

namespace Reader

/-- A letter or a digit is no sign. -/
theorem read?_of_isAlphanum {c : Char} (h : c.isAlphanum = true) (reader : Reader)
    (rest : List Char) :
    reader.read? c rest = some (reader.push (Piece.char reader.flags c), rest) := by
  unfold read?
  split
  case h_13 => rfl
  all_goals exact absurd h (by decide)

theorem foldl_push (reader : Reader) (added : List Piece) :
    added.foldl push reader =
      { reader with current :=
          { reader.current with pieces := added.reverse ++ reader.current.pieces } } := by
  induction added generalizing reader with
  | nil => rfl
  | cons piece added ih =>
    rw [List.foldl_cons, ih, List.reverse_cons, List.append_assoc]
    rfl

/-- A text without a sign is read to its end. -/
theorem readFrom?_of_alphanum (h : ∀ c ∈ text, c.isAlphanum = true) {fuel : Nat}
    (hfuel : text.length < fuel) {reader : Reader}
    (hflags : reader.flags = Flags.initial ignoreCase) :
    readFrom? fuel reader text = ((pieces ignoreCase text).foldl push reader).finish? := by
  induction text generalizing fuel reader with
  | nil =>
    obtain ⟨fuel, rfl⟩ := Nat.exists_eq_add_one_of_ne_zero (Nat.ne_zero_of_lt hfuel)
    rw [readFrom?, hflags]
    rfl
  | cons c text ih =>
    obtain ⟨hc, htext⟩ := List.forall_mem_cons.1 h
    obtain ⟨fuel, rfl⟩ := Nat.exists_eq_add_one_of_ne_zero (Nat.ne_zero_of_lt hfuel)
    have hskip : reader.flags.skip (c :: text) = c :: text := by
      rw [hflags]
      rfl
    have hpush : (reader.push (Piece.char reader.flags c)).flags = Flags.initial ignoreCase :=
      hflags
    rw [readFrom?, hskip]
    dsimp only
    rw [read?_of_isAlphanum hc]
    dsimp only
    rw [ih htext (Nat.lt_of_succ_lt_succ hfuel) hpush, hflags]
    rfl

/-- The whole text is one piece, and only its size can be against it. -/
theorem readFrom?_initial (h : ∀ c ∈ text, c.isAlphanum = true) :
    readFrom? (text.length + 1) (initial ignoreCase) text =
      if (Piece.sequence (pieces ignoreCase text)).expression.fits then
        some (Piece.sequence (pieces ignoreCase text)).expression.regex
      else none := by
  obtain ⟨hdepth, -⟩ := isWord_sequence_pieces ignoreCase h
  have hcontent : ((pieces ignoreCase text).foldl push (initial ignoreCase)).current.content =
      Piece.sequence (pieces ignoreCase text) := by
    rw [foldl_push]
    simp [initial, OpenGroup.content, OpenGroup.startBranch, Piece.alternatives]
  have houter : ((pieces ignoreCase text).foldl push (initial ignoreCase)).outer = [] := by
    rw [foldl_push]
    rfl
  have hle : (Piece.sequence (pieces ignoreCase text)).depth ≤ deepestNesting :=
    Nat.le_trans hdepth (by decide)
  rw [readFrom?_of_alphanum ignoreCase h (Nat.lt_succ_self _) rfl, finish?, hcontent, houter]
  simp only [List.isEmpty_nil, hle, decide_true, Bool.true_and]

end Reader

end Texts

end ElementRules.Pattern

namespace ElementRules.Wildcard

open Pattern

variable {source : String} (ignoreCase : Bool)

/-- **Search for plain text.** A pattern of letters and digits is found exactly where a form of it
stands. -/
theorem isIn_iff_of_alphanum {ignoreCase : Bool} (h : ∀ c ∈ source.toList, c.isAlphanum = true)
    {pattern : Wildcard} (hpattern : ofText? source ignoreCase = some pattern) (candidate : String) :
    pattern.isIn candidate = true ↔
      ∃ before word after, candidate.toList = before ++ word ++ after ∧
        List.Forall₂ (IsForm ignoreCase) source.toList word := by
  unfold ofText? at hpattern
  dsimp only at hpattern
  rw [Reader.readFrom?_initial ignoreCase h] at hpattern
  obtain ⟨regex, hregex, rfl⟩ := Option.map_eq_some_iff.1 hpattern
  obtain ⟨-, hsome⟩ := Option.ite_none_right_eq_some.1 hregex
  obtain rfl := Option.some.inj hsome
  obtain ⟨-, hspelled, -⟩ := isWord_sequence_pieces ignoreCase h
  unfold isIn
  rw [Regex.foundIn_iff hspelled.idle]
  simp only [hspelled.iff, spells_expressions_iff ignoreCase h]

/-- A pattern of letters and digits is refused only if it is too large. -/
theorem isSome_ofText? (h : ∀ c ∈ source.toList, c.isAlphanum = true)
    (hlength : source.length ≤ 44430) : (ofText? source ignoreCase).isSome = true := by
  obtain ⟨-, -, htakes⟩ := isWord_sequence_pieces ignoreCase h
  have hfits : (Piece.sequence (pieces ignoreCase source.toList)).expression.fits = true := by
    refine Expression.fits_of_takes htakes ?_
    intro backwards
    have hbytes := sum_bytes_expressions_le ignoreCase h backwards
    rw [String.length_toList] at hbytes
    have hbound :
        Expression.surroundingBytes + (Program.stateBytes + 44430 * Expression.formBytes) ≤
          Program.largestProgram := by decide
    have := Nat.mul_le_mul_right Expression.formBytes hlength
    omega
  unfold ofText?
  dsimp only
  rw [Reader.readFrom?_initial ignoreCase h, if_pos hfits]
  rfl

end ElementRules.Wildcard
