import ElementRules.Double.Decimal
import ElementRules.Toml

/-!
Reading the text of a TOML document: keys, values, headers and comments. Every reader takes the rest
of the text and gives what it read and the text after it, or nothing where the text is not well
formed.
-/

namespace ElementRules.Toml

/-! ## Blanks and comments -/

def isBlank (c : Char) : Bool := c == ' ' || c == '\t'

def skipBlanks (s : List Char) : List Char := s.dropWhile isBlank

/-- Control characters, the tab excepted, stand nowhere in a document. -/
def isControl (c : Char) : Bool := (c.toNat < 32 && c != '\t') || c.toNat == 127

/-- A comment, if there is one, up to the end of its line. -/
def skipComment? (s : List Char) : Option (List Char) :=
  match s with
  | '#' :: rest =>
    let body := rest.takeWhile fun c => c != '\n' && c != '\r'
    if body.any isControl then none else some (rest.drop body.length)
  | _ => some s

/-- A line end, or the end of the document. -/
def skipLineEnd? : List Char → Option (List Char)
  | [] => some []
  | '\n' :: rest => some rest
  | '\r' :: '\n' :: rest => some rest
  | _ => none

/-- Blanks, line ends and comments; `fuel` bounds the number of lines. -/
def skipLines? : (fuel : Nat) → List Char → Option (List Char)
  | 0, _ => none
  | fuel + 1, s =>
    match skipComment? (skipBlanks s) with
    | none => none
    | some [] => some []
    | some ('\n' :: rest) => skipLines? fuel rest
    | some ('\r' :: '\n' :: rest) => skipLines? fuel rest
    | some rest => some rest

/-! ## Strings -/

def hexValue? (c : Char) : Option Nat :=
  if '0' ≤ c && c ≤ '9' then some (c.toNat - '0'.toNat)
  else if 'a' ≤ c && c ≤ 'f' then some (c.toNat - 'a'.toNat + 10)
  else if 'A' ≤ c && c ≤ 'F' then some (c.toNat - 'A'.toNat + 10)
  else none

/-- A character by its code point in `count` hexadecimal digits. -/
def readCode? (count : Nat) (s : List Char) : Option (Char × List Char) :=
  match (s.take count).mapM hexValue? with
  | none => none
  | some digits =>
    let code := digits.foldl (fun n d => n * 16 + d) 0
    if digits.length = count ∧ (code < 0xD800 ∨ (0xDFFF < code ∧ code < 0x110000)) then
      some (Char.ofNat code, s.drop count)
    else none

/-- What follows a backslash in a basic string. -/
def readEscape? : List Char → Option (Char × List Char)
  | 'b' :: rest => some ('\x08', rest)
  | 't' :: rest => some ('\t', rest)
  | 'n' :: rest => some ('\n', rest)
  | 'f' :: rest => some ('\x0c', rest)
  | 'r' :: rest => some ('\r', rest)
  | 'e' :: rest => some ('\x1b', rest)
  | '"' :: rest => some ('"', rest)
  | '\\' :: rest => some ('\\', rest)
  | 'x' :: rest => readCode? 2 rest
  | 'u' :: rest => readCode? 4 rest
  | 'U' :: rest => readCode? 8 rest
  | _ => none

/-- A string on one line, after its opening quote; `basic` strings have escapes. -/
def readLine? (quote : Char) (basic : Bool) : (fuel : Nat) → List Char →
    Option (List Char × List Char)
  | 0, _ => none
  | _, [] => none
  | fuel + 1, c :: rest =>
    if c == quote then some ([], rest)
    else if isControl c then none
    else if basic && c == '\\' then
      match readEscape? rest with
      | none => none
      | some (c, rest) => (readLine? quote basic fuel rest).map fun (s, rest) => (c :: s, rest)
    else (readLine? quote basic fuel rest).map fun (s, rest) => (c :: s, rest)

/-- A backslash at the end of a line takes all blanks and line ends after it away. -/
def lineContinues? (s : List Char) : Option (List Char) :=
  match skipBlanks s with
  | '\n' :: rest => some (rest.dropWhile fun c => isBlank c || c == '\n' || c == '\r')
  | '\r' :: '\n' :: rest => some (rest.dropWhile fun c => isBlank c || c == '\n' || c == '\r')
  | _ => none

/-- A string on several lines, after its three opening quotes. Up to two quotes may stand right
before the three closing ones. -/
def readLines? (quote : Char) (basic : Bool) : (fuel : Nat) → List Char →
    Option (List Char × List Char)
  | 0, _ => none
  | _, [] => none
  | fuel + 1, c :: rest =>
    if c == quote then
      let quotes := (c :: rest).takeWhile (· == quote)
      if 5 < quotes.length then none
      else if 3 ≤ quotes.length then some (quotes.drop 3, (c :: rest).drop quotes.length)
      else (readLines? quote basic fuel rest).map fun (s, rest) => (c :: s, rest)
    else if c == '\r' && rest.head? != some '\n' then none
    else if isControl c && c != '\n' && c != '\r' then none
    else if basic && c == '\\' then
      match lineContinues? rest with
      | some rest => readLines? quote basic fuel rest
      | none =>
        match readEscape? rest with
        | none => none
        | some (c, rest) => (readLines? quote basic fuel rest).map fun (s, rest) => (c :: s, rest)
    else (readLines? quote basic fuel rest).map fun (s, rest) => (c :: s, rest)

/-- A line end right after the opening quotes does not count. -/
def dropFirstLineEnd : List Char → List Char
  | '\n' :: rest => rest
  | '\r' :: '\n' :: rest => rest
  | s => s

/-- Any string, from its first quote on. -/
def readString? (s : List Char) : Option (String × List Char) :=
  let content := match s with
    | '"' :: '"' :: '"' :: rest => readLines? '"' true s.length (dropFirstLineEnd rest)
    | '\'' :: '\'' :: '\'' :: rest => readLines? '\'' false s.length (dropFirstLineEnd rest)
    | '"' :: rest => readLine? '"' true s.length rest
    | '\'' :: rest => readLine? '\'' false s.length rest
    | _ => none
  content.map fun (s, rest) => (String.ofList s, rest)

/-! ## Keys -/

def isKeyChar (c : Char) : Bool := c.isAlphanum || c == '_' || c == '-'

/-- One part of a key: bare, or a string on one line. -/
def readKeyPart? (s : List Char) : Option (String × List Char) :=
  let ofLine : Option (List Char × List Char) → Option (String × List Char) :=
    Option.map fun (s, rest) => (String.ofList s, rest)
  match s with
  | '"' :: rest => ofLine (readLine? '"' true s.length rest)
  | '\'' :: rest => ofLine (readLine? '\'' false s.length rest)
  | _ =>
    let part := s.takeWhile isKeyChar
    if part.isEmpty then none else some (String.ofList part, s.drop part.length)

/-- How many parts a key may have, and how many collections may stand inside each other. -/
def deepestNesting : Nat := 80

/-- At most `room` parts with points between them, and the blanks after them. -/
def readKeyParts? : (room : Nat) → List Char → Option (List String × List Char)
  | 0, _ => none
  | room + 1, s =>
    match readKeyPart? (skipBlanks s) with
    | none => none
    | some (part, rest) =>
      match skipBlanks rest with
      | '.' :: rest => (readKeyParts? room rest).map fun (parts, rest) => (part :: parts, rest)
      | rest => some ([part], rest)

/-- A key and the blanks after it. -/
def readKey? (s : List Char) : Option (List String × List Char) := readKeyParts? deepestNesting s

/-! ## Numbers and dates -/

/-- Digits of a base without the underscores between them; each of these stands between two
digits. -/
def digits? (isDigit : Char → Bool) (s : List Char) : Option (List Char) :=
  let wellPlaced := (s.zip s.tail).all fun (a, b) => a != '_' || b != '_'
  let plain := s.filter (· != '_')
  if s.head? != some '_' && s.getLast? != some '_' && wellPlaced && !plain.isEmpty &&
      plain.all isDigit then
    some plain
  else none

/-- An integer that 128 bits hold, with a sign or without. -/
def integer? (negative : Bool) (n : Nat) : Option Toml :=
  let bound := UInt64.size * UInt64.size
  if negative then if n ≤ bound / 2 then some (.integer (-(n : Int))) else none
  else if n < bound then some (.integer n)
  else none

def based? (base : Nat) (s : List Char) : Option Toml :=
  match digits? (fun c => (hexValue? c).any (· < base)) s with
  | none => none
  | some digits =>
    integer? false (digits.foldl (fun n c => n * base + (hexValue? c).getD 0) 0)

/-- Decimal digits that do not start with a needless zero. -/
def decimalDigits? (s : List Char) : Option (List Char) :=
  match digits? Double.isDigit s with
  | some ('0' :: c :: rest) => if (c :: rest).isEmpty then some ['0'] else none
  | digits => digits

/-- A float: digits, and a fraction or an exponent or both. A finite text has a finite value. -/
def float? (negative : Bool) (s : List Char) : Option Toml :=
  let isMark (c : Char) : Bool := c == 'e' || c == 'E'
  let mantissa := s.takeWhile fun c => !isMark c
  let whole := mantissa.takeWhile (· != '.')
  let fraction := mantissa.dropWhile (· != '.')
  let exponent := (s.drop mantissa.length).tail
  let hasExponent := mantissa.length < s.length
  let (down, exponentDigits) := Double.splitSign exponent
  match decimalDigits? whole with
  | none => none
  | some whole =>
    let fraction? := if fraction.isEmpty then some [] else digits? Double.isDigit fraction.tail
    let exponent? := if hasExponent then digits? Double.isDigit exponentDigits else some ['0']
    match fraction?, exponent? with
    | some fraction, some exponent =>
      let shift : Int := Double.digitsValue exponent
      let x := Double.ofDecimal negative (Double.digitsValue (whole ++ fraction))
        ((if down then -shift else shift) - fraction.length)
      if x.isFinite && (hasExponent || !fraction.isEmpty) then some (.float x) else none
    | _, _ => none

def number? (s : List Char) : Option Toml :=
  let (negative, rest) := Double.splitSign s
  if rest == ['i', 'n', 'f'] then some (.float (.infinite negative))
  else if rest == ['n', 'a', 'n'] then some (.float .nan)
  else match s with
    | '0' :: 'x' :: digits => based? 16 digits
    | '0' :: 'o' :: digits => based? 8 digits
    | '0' :: 'b' :: digits => based? 2 digits
    | _ =>
      match decimalDigits? rest with
      | some digits => integer? negative (Double.digitsValue digits)
      | none => float? negative rest

/-- A number of exactly `count` digits, at most `most`. -/
def field? (count most : Nat) (s : List Char) : Option (Nat × List Char) :=
  let digits := s.take count
  let n := Double.digitsValue digits
  if digits.length = count ∧ digits.all Double.isDigit ∧ n ≤ most then some (n, s.drop count)
  else none

def daysIn (year month : Nat) : Nat :=
  if month = 2 then
    if year % 4 = 0 ∧ (year % 100 ≠ 0 ∨ year % 400 = 0) then 29 else 28
  else if month = 4 ∨ month = 6 ∨ month = 9 ∨ month = 11 then 30
  else 31

/-- Year, month and day. -/
def date? (s : List Char) : Option (List Char) := do
  let (year, rest) ← field? 4 9999 s
  let (month, rest) ← match rest with
    | '-' :: rest => field? 2 12 rest
    | _ => none
  let (day, rest) ← match rest with
    | '-' :: rest => field? 2 (daysIn year month) rest
    | _ => none
  if month = 0 ∨ day = 0 then none else some rest

/-- Seconds, with a fraction of a second or without. -/
def seconds? (s : List Char) : Option (List Char) := do
  let (_, rest) ← field? 2 60 s
  match rest with
  | '.' :: rest =>
    let fraction := rest.takeWhile Double.isDigit
    if fraction.isEmpty then none else some (rest.drop fraction.length)
  | rest => some rest

/-- Hours and minutes, with seconds or without. -/
def time? (s : List Char) : Option (List Char) := do
  let (_, rest) ← field? 2 23 s
  let (_, rest) ← match rest with
    | ':' :: rest => field? 2 59 rest
    | _ => none
  match rest with
  | ':' :: rest => seconds? rest
  | rest => some rest

/-- The offset of a date and time from the standard one, if it is given. -/
def isOffset (s : List Char) : Bool :=
  match s with
  | [] | ['Z'] | ['z'] => true
  | c :: rest =>
    (c == '+' || c == '-') &&
      match field? 2 23 rest with
      | some (_, ':' :: rest) => ((field? 2 59 rest).map (·.2)) == some []
      | _ => false

/-- A date, a time of day, or a date and a time with a letter or a blank between them. -/
def isDateTime (s : List Char) : Bool :=
  match date? s with
  | some [] => true
  | some (c :: rest) =>
    (c == 'T' || c == 't' || c == ' ') && ((time? rest).map isOffset).getD false
  | none => time? s == some []

/-! ## Values -/

/-- Ends a value that is not quoted. -/
def endsWord (c : Char) : Bool :=
  isBlank c || c == '\n' || c == '\r' || c == ',' || c == ']' || c == '\x7d' || c == '#'

/-- A value that is not quoted and no collection. -/
def word? (s : List Char) : Option Toml :=
  if s == ['t', 'r', 'u', 'e'] then some (.bool true)
  else if s == ['f', 'a', 'l', 's', 'e'] then some (.bool false)
  else if isDateTime s then some .dateTime
  else number? s

/-- A word and the text after it. One blank may stand between a date and a time. -/
def readWord? (s : List Char) : Option (Toml × List Char) :=
  let first := s.takeWhile fun c => !endsWord c
  let rest := s.drop first.length
  let joined := match date? first, rest with
    | some [], ' ' :: c :: more =>
      if Double.isDigit c then
        some (first ++ ' ' :: (c :: more).takeWhile fun c => !endsWord c)
      else none
    | _, _ => none
  let word := joined.getD first
  (word? word).map fun value => (value, s.drop word.length)

mutual

/-- The value at the start of a text, with at most `room` collections inside each other; `fuel`
bounds the number of entries. -/
def readValue? : (fuel room : Nat) → List Char → Option (Toml × List Char)
  | 0, _, _ => none
  | fuel + 1, room, s =>
    match s, room with
    | '"' :: _, _ => (readString? s).map fun (content, rest) => (.string content, rest)
    | '\'' :: _, _ => (readString? s).map fun (content, rest) => (.string content, rest)
    | '[' :: _, 0 => none
    | '[' :: rest, room + 1 =>
      (readItems? fuel room rest).map fun (items, rest) => (.array items, rest)
    | '\x7b' :: _, 0 => none
    | '\x7b' :: rest, room + 1 =>
      (readEntries? fuel room [] rest).map fun (entries, rest) => (.table .inline entries, rest)
    | _, _ => readWord? s

/-- The items of an array and its closing bracket. A comma may follow the last item. -/
def readItems? : (fuel room : Nat) → List Char → Option (List Toml × List Char)
  | 0, _, _ => none
  | fuel + 1, room, s =>
    match skipLines? (s.length + 1) s with
    | none => none
    | some (']' :: rest) => some ([], rest)
    | some s =>
      match readValue? fuel room s with
      | none => none
      | some (item, rest) =>
        match skipLines? (rest.length + 1) rest with
        | some (']' :: rest) => some ([item], rest)
        | some (',' :: rest) =>
          (readItems? fuel room rest).map fun (items, rest) => (item :: items, rest)
        | _ => none

/-- The entries of an inline table and its closing brace. A comma may follow the last entry. -/
def readEntries? : (fuel room : Nat) → Entries → List Char → Option (Entries × List Char)
  | 0, _, _, _ => none
  | fuel + 1, room, entries, s =>
    match skipLines? (s.length + 1) s with
    | none => none
    | some ('\x7d' :: rest) => some (entries, rest)
    | some s =>
      match readKey? s with
      | some (path, '=' :: rest) =>
        match readValue? fuel room (skipBlanks rest) with
        | none => none
        | some (value, rest) =>
          match insert value path entries, skipLines? (rest.length + 1) rest with
          | some entries, some ('\x7d' :: rest) => some (entries, rest)
          | some entries, some (',' :: rest) => readEntries? fuel room entries rest
          | _, _ => none
      | _ => none

end

/-! ## Documents -/

/-- The rest of a line: a comment at most. -/
def finishLine? (s : List Char) : Option (List Char) :=
  (skipComment? (skipBlanks s)).bind skipLineEnd?

/-- A header after its brackets: the path, the changed tables and the lines after it. -/
def readHeader? (oneMore : Bool) (root : Entries) (s : List Char) :
    Option (List String × Entries × List Char) :=
  match readKey? s with
  | none => none
  | some (path, rest) =>
    let rest? := match oneMore, rest with
      | false, ']' :: rest => finishLine? rest
      | true, ']' :: ']' :: rest => finishLine? rest
      | _, _ => none
    match openTable oneMore path root, rest? with
    | some root, some rest => some (path, root, rest)
    | _, _ => none

/-- Reads line after line. `path` is the table of the last header, and `fuel` bounds the number of
lines. -/
def readDocument? : (fuel : Nat) → (path : List String) → Entries → List Char → Option Entries
  | 0, _, _, _ => none
  | fuel + 1, path, root, s =>
    match skipLines? (s.length + 1) s with
    | none => none
    | some [] => some root
    | some ('[' :: '[' :: rest) =>
      match readHeader? true root rest with
      | some (path, root, rest) => readDocument? fuel path root rest
      | none => none
    | some ('[' :: rest) =>
      match readHeader? false root rest with
      | some (path, root, rest) => readDocument? fuel path root rest
      | none => none
    | some s =>
      match readKey? s with
      | some (key, '=' :: rest) =>
        match readValue? (2 * rest.length + 2) deepestNesting (skipBlanks rest) with
        | none => none
        | some (value, rest) =>
          match atTable (insert value key) path root, finishLine? rest with
          | some root, some rest => readDocument? fuel path root rest
          | _, _ => none
      | _ => none

/-- The top table of a document; a byte order mark before it does not count. -/
def parse? (source : String) : Option Entries :=
  let s := match source.toList with
    | '\ufeff' :: rest => rest
    | s => s
  readDocument? (s.length + 1) [] [] s

end ElementRules.Toml
