import ElementRules.Text.Case
import ElementRules.Text.CaseContext

/-!
Two ways to ignore case, kept apart on purpose.

* `equalInvariant` lower-cases one character at a time. Equality uses it.
* `foldCultural` lower-cases a whole text under a `Locale`: a capital sigma at the end of a word
  becomes a final sigma, and a Turkic locale pairs I with dotless ı and İ with i. Search uses it.

The two agree on nearly every text; where they differ, equality and search can disagree.
-/

namespace ElementRules.Text

/-! ## Locales -/

inductive Locale
  | plain
  /-- Turkish and Azerbaijani. -/
  | turkic
deriving DecidableEq, Repr

/-- The locale of a language tag: only the part before the first hyphen or underscore counts. -/
def Locale.ofTag (tag : String) : Locale :=
  let language := (tag.toList.takeWhile fun c => c != '-' && c != '_').map Char.toLower
  if language == ['t', 'r'] || language == ['a', 'z'] then .turkic else .plain

/-! ## Folding -/

/-- Lower-cases the rest of a text; `before` holds what has been read, last character first. -/
def lowercaseFrom (before : List Char) : List Char → List Char
  | [] => []
  | c :: rest =>
    let small :=
      if c == 'Σ' then
        if reachesCased before && !reachesCased rest then ['ς'] else ['σ']
      else lowercaseChars c
    small ++ lowercaseFrom (c :: before) rest

/-- The lower-case form of a whole text. -/
def lowercaseText (s : List Char) : List Char := lowercaseFrom [] s

/-- The Turkic pairs of i. -/
def turkicSmall (c : Char) : Char :=
  if c == 'I' then 'ı' else if c == 'İ' then 'i' else c

def foldCulturalChars (locale : Locale) (s : List Char) : List Char :=
  match locale with
  | .plain => lowercaseText s
  | .turkic => lowercaseText (s.map turkicSmall)

def foldCultural (locale : Locale) (s : String) : String :=
  String.ofList (foldCulturalChars locale s.toList)

/-! ## Comparison -/

def equalInvariant (a b : String) : Bool :=
  a.toList.flatMap lowercaseChars == b.toList.flatMap lowercaseChars

def equal (ignoreCase : Bool) (a b : String) : Bool :=
  if ignoreCase then equalInvariant a b else a == b

/-- `needle` stands somewhere in the text. -/
def occursIn (needle : List Char) : List Char → Bool
  | [] => needle.isEmpty
  | c :: rest => needle.isPrefixOf (c :: rest) || occursIn needle rest

def contains (ignoreCase : Bool) (locale : Locale) (haystack needle : String) : Bool :=
  if ignoreCase then
    occursIn (foldCulturalChars locale needle.toList) (foldCulturalChars locale haystack.toList)
  else occursIn needle.toList haystack.toList

/-! ## Removal -/

/-- The text without the occurrences of `part`, found from the left and not overlapping. `skip`
counts the characters of an occurrence that are still to be dropped. -/
def removeFrom (part : List Char) (skip : Nat) : List Char → List Char
  | [] => []
  | c :: rest =>
    match skip with
    | n + 1 => removeFrom part n rest
    | 0 =>
      if part.isPrefixOf (c :: rest) then removeFrom part (part.length - 1) rest
      else c :: removeFrom part 0 rest

/-- Removes every occurrence of `part`; an empty part occurs nowhere. -/
def removeAll (part s : String) : String :=
  if part.isEmpty then s else String.ofList (removeFrom part.toList 0 s.toList)

end ElementRules.Text
