import ElementRules.Json.Numeral

/-!
JSON values and their text. A value keeps what its text says, in order and with repetitions: numbers
as numerals, and objects as lists of fields.

The content of a string is missing where an escape names one half of a surrogate pair without the
other. Such a string is well formed, but there is no text to read from it.
-/

namespace ElementRules

inductive Json
  | null
  | bool (flag : Bool)
  | number (numeral : Numeral)
  | string (content : Option String)
  | array (items : List Json)
  | object (fields : List (Option String × Json))

namespace Json

def text (s : String) : Json := .string (some s)

/-- A field with a name. -/
def field (name : String) (value : Json) : Option String × Json := (some name, value)

/-! ## Writing -/

def hexChar (n : Nat) : Char := (Nat.toDigits 16 n).headD '0'

/-- A character inside a string: quotes, backslashes and control characters are escaped, and nothing
else is. -/
def escape (c : Char) : List Char :=
  match c with
  | '"' => ['\\', '"']
  | '\\' => ['\\', '\\']
  | '\x08' => ['\\', 'b']
  | '\x0c' => ['\\', 'f']
  | '\n' => ['\\', 'n']
  | '\r' => ['\\', 'r']
  | '\t' => ['\\', 't']
  | _ =>
    if c.toNat < 32 then ['\\', 'u', '0', '0', hexChar (c.toNat / 16), hexChar (c.toNat % 16)]
    else [c]

def quote (s : String) : List Char := '"' :: (s.toList.flatMap escape ++ ['"'])

mutual

/-- The compact text of a value: no blanks. -/
def chars : Json → List Char
  | .null => ['n', 'u', 'l', 'l']
  | .bool true => ['t', 'r', 'u', 'e']
  | .bool false => ['f', 'a', 'l', 's', 'e']
  | .number numeral => numeral.chars
  | .string content => quote (content.getD "")
  | .array items => '[' :: (itemChars items ++ [']'])
  | .object fields => '\x7b' :: (fieldChars fields ++ ['\x7d'])

def itemChars : List Json → List Char
  | [] => []
  | item :: rest => chars item ++ (if rest.isEmpty then [] else ',' :: itemChars rest)

def fieldChars : List (Option String × Json) → List Char
  | [] => []
  | (name, value) :: rest =>
    quote (name.getD "") ++ ':' :: chars value ++
      (if rest.isEmpty then [] else ',' :: fieldChars rest)

end

def render (value : Json) : String := String.ofList value.chars

/-! ## Reading -/

def isSpace (c : Char) : Bool := c == ' ' || c == '\n' || c == '\t' || c == '\r'

def skipSpace (s : List Char) : List Char := s.dropWhile isSpace

def hexValue? (c : Char) : Option Nat :=
  if '0' ≤ c && c ≤ '9' then some (c.toNat - '0'.toNat)
  else if 'a' ≤ c && c ≤ 'f' then some (c.toNat - 'a'.toNat + 10)
  else if 'A' ≤ c && c ≤ 'F' then some (c.toNat - 'A'.toNat + 10)
  else none

/-- The character that a letter after a backslash stands for. -/
def unescape? : Char → Option Char
  | '"' => some '"'
  | '\\' => some '\\'
  | '/' => some '/'
  | 'b' => some '\x08'
  | 'f' => some '\x0c'
  | 'n' => some '\n'
  | 'r' => some '\r'
  | 't' => some '\t'
  | _ => none

/-- The codes of a string up to its closing quote, and the text after it. Halves of surrogate pairs
are left as they are. -/
def readCodes? : List Char → Option (List Nat × List Char)
  | [] => none
  | '"' :: rest => some ([], rest)
  | '\\' :: 'u' :: a :: b :: c :: d :: rest => do
    let high ← hexValue? a
    let second ← hexValue? b
    let third ← hexValue? c
    let low ← hexValue? d
    let (codes, rest) ← readCodes? rest
    some ((((high * 16 + second) * 16 + third) * 16 + low) :: codes, rest)
  | '\\' :: letter :: rest => do
    let c ← unescape? letter
    let (codes, rest) ← readCodes? rest
    some (c.toNat :: codes, rest)
  | c :: rest =>
    if c.toNat < 32 || c == '\\' then none
    else (readCodes? rest).map fun (codes, rest) => (c.toNat :: codes, rest)

def isHighHalf (code : Nat) : Bool := 0xD800 ≤ code && code < 0xDC00

def isLowHalf (code : Nat) : Bool := 0xDC00 ≤ code && code < 0xE000

/-- Joins the halves of surrogate pairs; there is no text if one stands alone. -/
def joinHalves? : List Nat → Option (List Char)
  | [] => some []
  | code :: rest =>
    if isHighHalf code then
      match rest with
      | low :: rest =>
        if isLowHalf low then
          (joinHalves? rest).map
            (Char.ofNat (0x10000 + (code - 0xD800) * 0x400 + (low - 0xDC00)) :: ·)
        else none
      | [] => none
    else if isLowHalf code then none
    else (joinHalves? rest).map (Char.ofNat code :: ·)

/-- A string after its opening quote. -/
def readString? (s : List Char) : Option (Option String × List Char) :=
  (readCodes? s).map fun (codes, rest) => ((joinHalves? codes).map String.ofList, rest)

mutual

/-- The value at the start of a text, and the text after it; `fuel` bounds the depth of nesting and
the number of entries. -/
def readValue? : (fuel : Nat) → List Char → Option (Json × List Char)
  | 0, _ => none
  | fuel + 1, s =>
    match skipSpace s with
    | 'n' :: 'u' :: 'l' :: 'l' :: rest => some (.null, rest)
    | 't' :: 'r' :: 'u' :: 'e' :: rest => some (.bool true, rest)
    | 'f' :: 'a' :: 'l' :: 's' :: 'e' :: rest => some (.bool false, rest)
    | '"' :: rest => (readString? rest).map fun (content, rest) => (.string content, rest)
    | '[' :: rest =>
      match skipSpace rest with
      | ']' :: rest => some (.array [], rest)
      | rest => (readItems? fuel rest).map fun (items, rest) => (.array items, rest)
    | '\x7b' :: rest =>
      match skipSpace rest with
      | '\x7d' :: rest => some (.object [], rest)
      | rest => (readFields? fuel rest).map fun (fields, rest) => (.object fields, rest)
    | s => (Numeral.read? s).map fun (numeral, rest) => (.number numeral, rest)

/-- At least one item, and the closing bracket. -/
def readItems? : (fuel : Nat) → List Char → Option (List Json × List Char)
  | 0, _ => none
  | fuel + 1, s =>
    match readValue? fuel s with
    | none => none
    | some (item, rest) =>
      match skipSpace rest with
      | ']' :: rest => some ([item], rest)
      | ',' :: rest => (readItems? fuel rest).map fun (items, rest) => (item :: items, rest)
      | _ => none

/-- At least one field, and the closing brace. -/
def readFields? : (fuel : Nat) → List Char →
    Option (List (Option String × Json) × List Char)
  | 0, _ => none
  | fuel + 1, s =>
    match skipSpace s with
    | '"' :: rest =>
      match readString? rest with
      | none => none
      | some (name, rest) =>
        match skipSpace rest with
        | ':' :: rest =>
          match readValue? fuel rest with
          | none => none
          | some (value, rest) =>
            match skipSpace rest with
            | '\x7d' :: rest => some ([(name, value)], rest)
            | ',' :: rest =>
              (readFields? fuel rest).map fun (fields, rest) => ((name, value) :: fields, rest)
            | _ => none
        | _ => none
    | _ => none

end

/-- The value that a text writes, with nothing but blanks around it. -/
def parse? (source : String) : Option Json :=
  let s := source.toList
  match readValue? (2 * s.length + 2) s with
  | some (value, rest) => if (skipSpace rest).isEmpty then some value else none
  | none => none

end Json

end ElementRules
