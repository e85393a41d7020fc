import ElementRules.Json
import ElementRules.Proofs.Numerals

/-!
# JSON text reads back

A value all of whose names and strings are there, and whose numerals are as the format has them
(`WellFormed`), is read from the text that it writes:

    WellFormed value → parse? value.render = some value      (parse?_render)

The reader takes a value from the start of a longer text, with fuel for as many steps as the value
has characters (`ReadsBack`). What follows the value must not continue a numeral: it is the end, a
comma or a closing bracket. Items and fields read back if their values do (`readItems?_itemChars`,
`readFields?_fieldChars`), and so, by induction on the value, everything does.
-/

namespace ElementRules.Json

/-! ## Strings -/

theorem hexValue?_hexChar : ∀ n < 16, hexValue? (hexChar n) = some n := by decide

theorem readCodes?_plain {c : Char} {rest : List Char} (hcontrol : ¬ c.toNat < 32)
    (hquote : c ≠ '"') (hbackslash : c ≠ '\\') :
    readCodes? (c :: rest) = (readCodes? rest).map fun read => (c.toNat :: read.1, read.2) := by
  have hplain : ¬ (c.toNat < 32 || c == '\\') = true := by simpa [hbackslash] using hcontrol
  rw [readCodes?.eq_def]
  split
  · next heq => exact absurd heq (List.cons_ne_nil c rest)
  · next heq => exact absurd (List.head_eq_of_cons_eq heq) hquote
  · next heq => exact absurd (List.head_eq_of_cons_eq heq) hbackslash
  · next heq => exact absurd (List.head_eq_of_cons_eq heq) hbackslash
  · next heq =>
    obtain ⟨rfl, rfl⟩ := List.cons.inj heq
    rw [if_neg hplain]

theorem readCodes?_control {n : Nat} {rest : List Char} (h : n < 256) :
    readCodes? ('\\' :: 'u' :: '0' :: '0' :: hexChar (n / 16) :: hexChar (n % 16) :: rest) =
      (readCodes? rest).map fun read => (n :: read.1, read.2) := by
  have hhigh := hexValue?_hexChar (n / 16) (by omega)
  have hlow := hexValue?_hexChar (n % 16) (by omega)
  have hzero : hexValue? '0' = some 0 := rfl
  have hcode : n / 16 * 16 + n % 16 = n := Nat.div_add_mod' n 16
  rw [readCodes?, hzero, hhigh, hlow]
  cases readCodes? rest <;> simp [hcode]

/-- What a character is written as is read as its code, whatever follows. -/
theorem readCodes?_escape (c : Char) (rest : List Char) :
    readCodes? (escape c ++ rest) =
      (readCodes? rest).map fun read => (c.toNat :: read.1, read.2) := by
  unfold escape
  split
  case h_8 hquote hbackslash _ _ _ _ _ =>
    split
    · next hcontrol => exact readCodes?_control (by omega)
    · next hcontrol => exact readCodes?_plain hcontrol hquote hbackslash
  all_goals
    simp [readCodes?, unescape?]
    cases readCodes? rest <;> rfl

theorem readCodes?_flatMap_escape (s rest : List Char) :
    readCodes? (s.flatMap escape ++ '"' :: rest) = some (s.map Char.toNat, rest) := by
  induction s with
  | nil => rw [List.flatMap_nil, List.nil_append, readCodes?, List.map_nil]
  | cons c s ih =>
    rw [List.flatMap_cons, List.append_assoc, readCodes?_escape, ih, List.map_cons]
    rfl

/-- A character is not one half of a surrogate pair. -/
theorem joinHalves?_map_toNat (s : List Char) : joinHalves? (s.map Char.toNat) = some s := by
  induction s with
  | nil => rw [List.map_nil, joinHalves?]
  | cons c s ih =>
    have hvalid : c.toNat < 0xD800 ∨ 0xDFFF < c.toNat ∧ c.toNat < 0x110000 := c.valid
    have hhigh : ¬ isHighHalf c.toNat = true := by
      simp only [isHighHalf, Bool.and_eq_true, decide_eq_true_eq]
      omega
    have hlow : ¬ isLowHalf c.toNat = true := by
      simp only [isLowHalf, Bool.and_eq_true, decide_eq_true_eq]
      omega
    rw [List.map_cons, joinHalves?.eq_def]
    dsimp only
    rw [if_neg hhigh, if_neg hlow, ih, Option.map_some, Char.ofNat_toNat]

theorem readString?_escaped (s : String) (rest : List Char) :
    readString? (s.toList.flatMap escape ++ '"' :: rest) = some (some s, rest) := by
  unfold readString?
  rw [readCodes?_flatMap_escape, Option.map_some]
  dsimp only
  rw [joinHalves?_map_toNat, Option.map_some, String.ofList_toList]

/-! ## Values -/

/-- The value has a text that says all of it: the numerals are as the format has them, and every
string and every name is there. -/
inductive WellFormed : Json → Prop
  | null : WellFormed .null
  | bool (flag : Bool) : WellFormed (.bool flag)
  | number {numeral : Numeral} : numeral.WellFormed → WellFormed (.number numeral)
  | text (s : String) : WellFormed (.text s)
  | array {items : List Json} : (∀ item ∈ items, WellFormed item) → WellFormed (.array items)
  | object {fields : List (Option String × Json)} :
      (∀ entry ∈ fields, entry.1.isSome = true) → (∀ entry ∈ fields, WellFormed entry.2) →
      WellFormed (.object fields)

/-- An object of named fields is well formed if their values are. -/
theorem WellFormed.ofFields {fields : List (String × Json)}
    (h : ∀ entry ∈ fields, entry.2.WellFormed) :
    (Json.object (fields.map fun entry => field entry.1 entry.2)).WellFormed := by
  refine .object ?_ ?_
  · intro entry hentry
    obtain ⟨stored, -, rfl⟩ := List.mem_map.1 hentry
    rfl
  · intro entry hentry
    obtain ⟨stored, hstored, rfl⟩ := List.mem_map.1 hentry
    exact h stored hstored

/-- With fuel for its characters, the value is read from its text, and what follows is left. -/
def ReadsBack (value : Json) : Prop :=
  ∀ fuel rest, value.chars.length ≤ fuel → Numeral.EndsBefore rest →
    readValue? (fuel + 1) (value.chars ++ rest) = some (value, rest)

theorem skipSpace_cons {c : Char} {rest : List Char} (h : isSpace c = false) :
    skipSpace (c :: rest) = c :: rest := by
  unfold skipSpace
  rw [List.dropWhile_cons_of_neg (by rw [h]; exact Bool.false_ne_true)]

theorem readsBack_null : ReadsBack .null := by
  intro fuel rest _ _
  rfl

theorem readsBack_bool (flag : Bool) : ReadsBack (.bool flag) := by
  intro fuel rest _ _
  cases flag <;> rfl

theorem readsBack_text (s : String) : ReadsBack (.text s) := by
  intro fuel rest _ _
  have hchars : (text s).chars ++ rest = '"' :: (s.toList.flatMap escape ++ '"' :: rest) := by
    simp [text, chars, quote]
  have hread (s : List Char) : readValue? (fuel + 1) ('"' :: s) =
      (readString? s).map fun read => (.string read.1, read.2) := rfl
  rw [hchars, hread, readString?_escaped]
  rfl

/-- The first character of a numeral: a digit or the minus. -/
def StartsNumeral (c : Char) : Prop := Double.isDigit c = true ∨ c = '-'

theorem head_numeral {numeral : Numeral} (h : numeral.WellFormed) :
    ∃ c tail, numeral.chars = c :: tail ∧ StartsNumeral c := by
  obtain ⟨first, whole, hwhole⟩ := List.exists_cons_of_ne_nil h.whole_ne_nil
  have hfirst : Double.isDigit first = true := by
    apply h.whole_digits
    rw [hwhole]
    exact List.mem_cons_self
  rw [Numeral.chars_eq, hwhole]
  cases numeral.negative with
  | true => exact ⟨'-', _, rfl, .inr rfl⟩
  | false => exact ⟨first, _, rfl, .inl hfirst⟩

theorem StartsNumeral.ne {c d : Char} (h : StartsNumeral c) (hdigit : Double.isDigit d = false)
    (hminus : d ≠ '-') : c ≠ d := by
  rintro rfl
  rcases h with h | h
  · exact absurd h (by rw [hdigit]; exact Bool.false_ne_true)
  · exact hminus h

theorem StartsNumeral.isSpace_eq_false {c : Char} (h : StartsNumeral c) : isSpace c = false := by
  simp only [isSpace, Bool.or_eq_false_iff, beq_eq_false_iff_ne]
  refine ⟨⟨⟨?_, ?_⟩, ?_⟩, ?_⟩
  all_goals exact h.ne rfl (by decide)

/-- No other value starts like a numeral. -/
theorem readValue?_numeral (fuel : Nat) {c : Char} (h : StartsNumeral c) (rest : List Char) :
    readValue? (fuel + 1) (c :: rest) =
      (Numeral.read? (c :: rest)).map fun read => (.number read.1, read.2) := by
  unfold readValue?
  rw [skipSpace_cons h.isSpace_eq_false]
  split
  case h_7 => rfl
  all_goals
    next heq => exact absurd (List.head_eq_of_cons_eq heq) (h.ne rfl (by decide))

theorem readsBack_number {numeral : Numeral} (h : numeral.WellFormed) :
    ReadsBack (.number numeral) := by
  intro fuel rest _ hrest
  obtain ⟨c, tail, hchars, hc⟩ := head_numeral h
  have hread := Numeral.read?_chars h hrest
  rw [chars]
  rw [hchars, List.cons_append] at hread ⊢
  rw [readValue?_numeral fuel hc, hread]
  rfl

/-! ## Lists and records -/

/-- A value starts with a character that is neither a blank nor the end of a list. -/
theorem head_chars {value : Json} (h : value.WellFormed) :
    ∃ c tail, value.chars = c :: tail ∧ isSpace c = false ∧ c ≠ ']' := by
  cases h with
  | null => exact ⟨'n', _, rfl, rfl, by decide⟩
  | bool flag =>
    cases flag with
    | true => exact ⟨'t', _, rfl, rfl, by decide⟩
    | false => exact ⟨'f', _, rfl, rfl, by decide⟩
  | text s => exact ⟨'"', _, rfl, rfl, by decide⟩
  | array => exact ⟨'[', _, rfl, rfl, by decide⟩
  | object => exact ⟨'\x7b', _, rfl, rfl, by decide⟩
  | number hnumeral =>
    obtain ⟨c, tail, hchars, hc⟩ := head_numeral hnumeral
    exact ⟨c, tail, hchars, hc.isSpace_eq_false, hc.ne rfl (by decide)⟩

theorem endsBefore_cons {c : Char} (h : c = ',' ∨ c = ']' ∨ c = '\x7d') (rest : List Char) :
    Numeral.EndsBefore (c :: rest) := by
  intro d hd
  obtain rfl : c = d := Option.some.inj hd
  rcases h with rfl | rfl | rfl <;> decide

theorem readItems?_close {fuel : Nat} {s rest : List Char} {item : Json}
    (h : readValue? fuel s = some (item, ']' :: rest)) :
    readItems? (fuel + 1) s = some ([item], rest) := by
  rw [readItems?, h]
  rfl

theorem readItems?_comma {fuel : Nat} {s rest : List Char} {item : Json}
    (h : readValue? fuel s = some (item, ',' :: rest)) :
    readItems? (fuel + 1) s =
      (readItems? fuel rest).map fun more => (item :: more.1, more.2) := by
  rw [readItems?, h]
  rfl

theorem readItems?_itemChars {items : List Json} (hne : items ≠ [])
    (hitems : ∀ item ∈ items, ReadsBack item) (fuel : Nat) (rest : List Char)
    (hfuel : (itemChars items).length ≤ fuel) :
    readItems? (fuel + 2) (itemChars items ++ ']' :: rest) = some (items, rest) := by
  induction items generalizing fuel with
  | nil => exact absurd rfl hne
  | cons item items ih =>
    have hitem : ReadsBack item := hitems item List.mem_cons_self
    rw [itemChars] at hfuel ⊢
    cases items with
    | nil =>
      rw [List.isEmpty_nil, if_pos rfl, List.append_nil] at hfuel ⊢
      exact readItems?_close (hitem fuel _ hfuel (endsBefore_cons (by decide) rest))
    | cons next items =>
      rw [List.isEmpty_cons, if_neg Bool.false_ne_true] at hfuel ⊢
      rw [List.length_append, List.length_cons] at hfuel
      -- The comma pays for the step from one item to the next.
      obtain ⟨less, rfl⟩ : ∃ less, fuel = less + 1 := ⟨fuel - 1, by omega⟩
      have hmore := ih (List.cons_ne_nil next items)
        (fun entry hentry => hitems entry (List.mem_cons_of_mem item hentry)) less (by omega)
      have hfirst := hitem (less + 1) (',' :: (itemChars (next :: items) ++ ']' :: rest))
        (by omega) (endsBefore_cons (by decide) _)
      rw [List.append_assoc, List.cons_append, readItems?_comma hfirst, hmore]
      rfl

theorem readFields?_close {fuel : Nat} {s rest : List Char} {value : Json} (name : String)
    (h : readValue? fuel s = some (value, '\x7d' :: rest)) :
    readFields? (fuel + 1) (quote name ++ ':' :: s) = some ([(some name, value)], rest) := by
  have hname := readString?_escaped name (':' :: s)
  simp [quote, readFields?, skipSpace, isSpace, hname, h]

theorem readFields?_comma {fuel : Nat} {s rest : List Char} {value : Json} (name : String)
    (h : readValue? fuel s = some (value, ',' :: rest)) :
    readFields? (fuel + 1) (quote name ++ ':' :: s) =
      (readFields? fuel rest).map fun more => ((some name, value) :: more.1, more.2) := by
  have hname := readString?_escaped name (':' :: s)
  simp [quote, readFields?, skipSpace, isSpace, hname, h]

theorem readFields?_fieldChars {fields : List (Option String × Json)} (hne : fields ≠ [])
    (hnames : ∀ entry ∈ fields, entry.1.isSome = true)
    (hvalues : ∀ entry ∈ fields, ReadsBack entry.2) (fuel : Nat) (rest : List Char)
    (hfuel : (fieldChars fields).length ≤ fuel) :
    readFields? (fuel + 2) (fieldChars fields ++ '\x7d' :: rest) = some (fields, rest) := by
  induction fields generalizing fuel with
  | nil => exact absurd rfl hne
  | cons entry fields ih =>
    obtain ⟨name, value⟩ := entry
    obtain ⟨name, rfl⟩ := Option.isSome_iff_exists.1 (hnames _ List.mem_cons_self)
    have hvalue : ReadsBack value := hvalues _ List.mem_cons_self
    rw [fieldChars, Option.getD_some, List.length_append, List.length_append,
      List.length_cons] at hfuel
    rw [fieldChars, Option.getD_some, List.append_assoc, List.append_assoc, List.cons_append]
    cases fields with
    | nil =>
      rw [List.isEmpty_nil, if_pos rfl, List.nil_append]
      exact readFields?_close name (hvalue fuel _ (by omega) (endsBefore_cons (by decide) rest))
    | cons next fields =>
      rw [List.isEmpty_cons, if_neg Bool.false_ne_true] at hfuel ⊢
      rw [List.length_cons] at hfuel
      obtain ⟨less, rfl⟩ : ∃ less, fuel = less + 1 := ⟨fuel - 1, by omega⟩
      have hmore := ih (List.cons_ne_nil next fields)
        (fun entry hentry => hnames entry (List.mem_cons_of_mem _ hentry))
        (fun entry hentry => hvalues entry (List.mem_cons_of_mem _ hentry)) less (by omega)
      have hfirst := hvalue (less + 1) (',' :: (fieldChars (next :: fields) ++ '\x7d' :: rest))
        (by omega) (endsBefore_cons (by decide) _)
      rw [List.cons_append, readFields?_comma name hfirst, hmore]
      rfl

theorem readValue?_items (fuel : Nat) {c : Char} (hspace : isSpace c = false) (hc : c ≠ ']')
    (rest : List Char) :
    readValue? (fuel + 1) ('[' :: c :: rest) =
      (readItems? fuel (c :: rest)).map fun read => (.array read.1, read.2) := by
  have hbracket : skipSpace ('[' :: c :: rest) = '[' :: c :: rest := rfl
  rw [readValue?, hbracket]
  split
  -- The bracket decides among the spellings of a value.
  case h_5 tail heq =>
    obtain rfl := List.tail_eq_of_cons_eq heq
    rw [skipSpace_cons hspace]
    split
    · next hclose => exact absurd (List.head_eq_of_cons_eq hclose) hc
    · rfl
  case h_7 hbracket _ => exact (hbracket _ rfl).elim
  all_goals next heq => exact absurd (List.head_eq_of_cons_eq heq) (by decide)

theorem readsBack_array {items : List Json} (hwellFormed : ∀ item ∈ items, WellFormed item)
    (h : ∀ item ∈ items, ReadsBack item) : ReadsBack (.array items) := by
  intro fuel rest hfuel _
  rw [chars, List.length_cons, List.length_append, List.length_singleton] at hfuel
  rw [chars, List.cons_append, List.append_assoc, List.singleton_append]
  cases items with
  | nil => rfl
  | cons item items =>
    -- The brackets pay for the two steps down to the first item.
    obtain ⟨less, rfl⟩ : ∃ less, fuel = less + 2 := ⟨fuel - 2, by omega⟩
    have hread := readItems?_itemChars (List.cons_ne_nil item items) h less rest (by omega)
    obtain ⟨c, tail, hchars, hspace, hc⟩ := head_chars (hwellFormed item List.mem_cons_self)
    rw [itemChars, hchars, List.cons_append, List.cons_append] at hread ⊢
    rw [readValue?_items _ hspace hc, hread]
    rfl

theorem readsBack_object {fields : List (Option String × Json)}
    (hnames : ∀ entry ∈ fields, entry.1.isSome = true)
    (h : ∀ entry ∈ fields, ReadsBack entry.2) : ReadsBack (.object fields) := by
  intro fuel rest hfuel _
  rw [chars, List.length_cons, List.length_append, List.length_singleton] at hfuel
  rw [chars, List.cons_append, List.append_assoc, List.singleton_append]
  cases fields with
  | nil => rfl
  | cons entry fields =>
    obtain ⟨less, rfl⟩ : ∃ less, fuel = less + 2 := ⟨fuel - 2, by omega⟩
    have hread := readFields?_fieldChars (List.cons_ne_nil entry fields) hnames h less rest
      (by omega)
    have hfields (s : List Char) : readValue? (less + 2 + 1) ('\x7b' :: '"' :: s) =
        (readFields? (less + 2) ('"' :: s)).map fun read => (.object read.1, read.2) := rfl
    rw [fieldChars, quote, List.cons_append, List.cons_append, List.cons_append] at hread ⊢
    rw [hfields, hread]
    rfl

theorem WellFormed.readsBack {value : Json} (h : value.WellFormed) : value.ReadsBack := by
  induction h with
  | null => exact readsBack_null
  | bool flag => exact readsBack_bool flag
  | number hnumeral => exact readsBack_number hnumeral
  | text s => exact readsBack_text s
  | array hitems ih => exact readsBack_array hitems ih
  | object hnames _ ih => exact readsBack_object hnames ih

/-- **The text of a value is read as the value.** -/
theorem parse?_render {value : Json} (h : value.WellFormed) : parse? value.render = some value := by
  have hread := h.readsBack (2 * value.chars.length + 1) [] (by omega) nofun
  rw [List.append_nil] at hread
  unfold parse? render
  rw [String.toList_ofList]
  dsimp only
  rw [hread]
  rfl

end ElementRules.Json
