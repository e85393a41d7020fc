import ElementRules.Pattern.CaseClosure
import ElementRules.Pattern.Flags
import ElementRules.Pattern.Regex

/-!
What follows a backslash in a pattern, and numbers in braces. Every reader takes the text after what
has announced it, and gives what it read and the rest of the text, or nothing if the pattern is not
valid.
-/

namespace ElementRules.Pattern

/-! ## Numbers -/

def hexValue? (c : Char) : Option Nat :=
  if '0' ≤ c && c ≤ '9' then some (c.toNat - '0'.toNat)
  else if 'a' ≤ c && c ≤ 'f' then some (c.toNat - 'a'.toNat + 10)
  else if 'A' ≤ c && c ≤ 'F' then some (c.toNat - 'A'.toNat + 10)
  else none

/-- The character with this code point; surrogates are none. -/
def charOfCode? (code : Nat) : Option Char :=
  if code < 0xD800 || (0xDFFF < code && code < 0x110000) then some (Char.ofNat code) else none

/-- The character whose code point the hexadecimal digits write. -/
def charOfHex? (digits : List Char) : Option Char :=
  match digits.mapM hexValue? with
  | some values =>
    if values.isEmpty then none else charOfCode? (values.foldl (fun n d => n * 16 + d) 0)
  | none => none

/-- The largest count of a repetition. -/
def largestCount : Nat := 4294967295

/-- A decimal number, with blanks around it. -/
def readDecimal? (flags : Flags) (s : List Char) : Option (Nat × List Char) :=
  let (digits, rest) :=
    flags.takeRun (fun c => '0' ≤ c && c ≤ '9') s.length (s.dropWhile Text.isBlank)
  let value := digits.foldl (fun n c => n * 10 + (c.toNat - '0'.toNat)) 0
  if digits.isEmpty || largestCount < value then none
  else some (value, rest.dropWhile Text.isBlank)

/-- The counts of a repetition, after its opening brace: a number; a number and a comma; or two
numbers, the first at most the second. -/
def readCounts? (flags : Flags) (s : List Char) : Option (Nat × Option Nat × List Char) := do
  let (least, rest) ← readDecimal? flags (flags.skip s)
  let (most, rest) ←
    match rest with
    | ',' :: rest =>
      match flags.skip rest with
      | '\x7d' :: rest => some (none, '\x7d' :: rest)
      | rest => (readDecimal? flags rest).map fun (most, rest) => (some most, rest)
    | rest => some (some least, rest)
  match rest with
  | '\x7d' :: rest => if most.all (least ≤ ·) then some (least, most, rest) else none
  | _ => none

/-! ## Escapes -/

inductive Escape
  | char (c : Char)
  | set (set : CharSet)
  | look (condition : Look)

/-- Everything up to a closing brace. -/
def readBraced? (flags : Flags) (s : List Char) : Option (List Char × List Char) :=
  match flags.takeRun (· != '\x7d') s.length (flags.skip s) with
  | (content, _ :: rest) => some (content, rest)
  | _ => none

/-- Exactly `count` hexadecimal digits. -/
def readHexDigits? (flags : Flags) : (count : Nat) → List Char → Option (List Char × List Char)
  | 0, s => some ([], s)
  | _, [] => none
  | count + 1, c :: rest =>
    if (hexValue? c).isSome then
      (readHexDigits? flags count (flags.skip rest)).map fun (digits, rest) => (c :: digits, rest)
    else none

/-- A character by its code point, after the letter that announces `count` digits; in braces the
number of digits is free. Two digits name a byte, which without Unicode is a character only below
128. -/
def readHex? (flags : Flags) (count : Nat) (s : List Char) : Option (Char × List Char) :=
  match flags.skip s with
  | '\x7b' :: rest => do
    let (digits, rest) ← readBraced? flags rest
    let c ← charOfHex? digits
    some (c, rest)
  | rest => do
    let (digits, rest) ← readHexDigits? flags count rest
    let c ← charOfHex? digits
    if count == 2 && !flags.unicode && 127 < c.toNat then none else some (c, rest)

def complementIf (negated : Bool) (set : CharSet) : CharSet :=
  if negated then set.complement else set

/-- The classes of digits, blanks and word characters; a capital letter negates. Without Unicode a
negated class could match a part of a character, and is refused. -/
def shorthandClass? (flags : Flags) (letter : Char) : Option CharSet :=
  let negated := letter.isUpper
  if flags.unicode then
    match letter.toLower with
    | 'd' => some (complementIf negated digitSet)
    | 's' => some (complementIf negated blankSet)
    | 'w' => some (complementIf negated wordSet)
    | _ => none
  else if negated then none
  else match letter with
    | 'd' => CharSet.asciiClass? "digit"
    | 's' => CharSet.asciiClass? "space"
    | 'w' => CharSet.asciiClass? "word"
    | _ => none

/-- Where a separator first stands in a name: what is before it and what is after. -/
def splitAt? (separator : List Char) : List Char → Option (List Char × List Char)
  | [] => none
  | c :: rest =>
    if separator.isPrefixOf (c :: rest) then some ([], (c :: rest).drop separator.length)
    else (splitAt? separator rest).map fun (before, after) => (c :: before, after)

/-- The property that the text in braces names. Between a name and a value stands one of three
signs, and which one it is makes no difference: only the letter before the braces negates. -/
def namedProperty? (name : List Char) : Option Property :=
  match splitAt? ['!', '='] name <|> splitAt? [':'] name <|> splitAt? ['='] name with
  | some (property, value) => Property.ofNameAndValue? property value
  | none => Property.ofName? name

/-- A property by one letter or in braces. It is closed under case before it is negated. -/
def readProperty? (flags : Flags) (negated : Bool) (s : List Char) :
    Option (CharSet × List Char) := do
  let (property, rest) ←
    match flags.skip s with
    | [] => none
    | '\x7b' :: rest =>
      match readBraced? flags rest with
      | some (name, rest) => (namedProperty? name).map fun property => (property, rest)
      | none => none
    | c :: rest =>
      if c == '\\' then none else (Property.ofName? [c]).map fun property => (property, rest)
  if !flags.unicode then none
  else
    let set := property.members
    some (complementIf negated (if flags.ignoreCase then set.closeUnderCase else set), rest)

/-- A word boundary, after its letter: one of four words in braces makes it a special one, and a
brace before anything but a letter or a hyphen belongs to a repetition. -/
def readBoundary? (flags : Flags) (s : List Char) : Option (Look × List Char) :=
  match s with
  | '\x7b' :: rest =>
    match flags.takeRun (fun c => c.isAlpha || c == '-') s.length (flags.skip rest) with
    | ([], []) => none
    | ([], _) => some (.boundary flags.unicode, s)
    | (word, '\x7d' :: rest) =>
      match String.ofList word with
      | "start" => some (.wordStart flags.unicode, rest)
      | "end" => some (.wordEnd flags.unicode, rest)
      | "start-half" => some (.halfStart flags.unicode, rest)
      | "end-half" => some (.halfEnd flags.unicode, rest)
      | _ => none
    | _ => none
  | _ => some (.boundary flags.unicode, s)

/-- What follows a backslash. A character that is neither a letter nor a digit stands for itself;
angle brackets are word boundaries. -/
def readEscape? (flags : Flags) : List Char → Option (Escape × List Char)
  | [] => none
  | c :: rest =>
    match c with
    | 'x' => (readHex? flags 2 rest).map fun (c, rest) => (.char c, rest)
    | 'u' => (readHex? flags 4 rest).map fun (c, rest) => (.char c, rest)
    | 'U' => (readHex? flags 8 rest).map fun (c, rest) => (.char c, rest)
    | 'p' => (readProperty? flags false rest).map fun (set, rest) => (.set set, rest)
    | 'P' => (readProperty? flags true rest).map fun (set, rest) => (.set set, rest)
    | 'd' | 's' | 'w' | 'D' | 'S' | 'W' =>
      (shorthandClass? flags c).map fun set => (.set set, rest)
    | 'a' => some (.char '\x07', rest)
    | 'f' => some (.char '\x0c', rest)
    | 't' => some (.char '\t', rest)
    | 'n' => some (.char '\n', rest)
    | 'r' => some (.char '\r', rest)
    | 'v' => some (.char '\x0b', rest)
    | 'A' => some (.look .textStart, rest)
    | 'z' => some (.look .textEnd, rest)
    | 'b' => (readBoundary? flags rest).map fun (look, rest) => (.look look, rest)
    | 'B' => some (.look (.noBoundary flags.unicode), rest)
    | '<' => some (.look (.wordStart flags.unicode), rest)
    | '>' => some (.look (.wordEnd flags.unicode), rest)
    | _ => if c.isAlphanum || 127 < c.toNat then none else some (.char c, rest)

end ElementRules.Pattern
