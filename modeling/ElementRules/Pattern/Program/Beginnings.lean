import ElementRules.Pattern.Expression
import ElementRules.Pattern.Spelling

/-!
How matches begin. `Expression.beginnings` lists, in UTF-8, texts one of which every match of an
expression begins with, the preferred ones first. A text that is whole is a match by itself; where
all of them are, to search for the expression is to search for the texts
(`Expression.isSearchedByTexts`).

The lists are kept short: sets with many members, many rounds of a repetition and long texts are
not followed, and what would become too long a list is given up.
-/

namespace ElementRules.Pattern

/-! ## Texts at the beginning -/

structure Beginning where
  bytes : List Nat
  /-- Nothing more is needed for a match. -/
  isWhole : Bool
deriving DecidableEq, Repr

namespace Beginning

def nothing : Beginning := ⟨[], true⟩

def unfinished (beginning : Beginning) : Beginning := { beginning with isWhole := false }

/-- At most so many bytes. What loses some is not whole. -/
def cut (length : Nat) (beginning : Beginning) : Beginning :=
  if beginning.bytes.length ≤ length then beginning else ⟨beginning.bytes.take length, false⟩

/-- A text put behind one that is whole. -/
def append (first next : Beginning) : Beginning := ⟨first.bytes ++ next.bytes, next.isWhole⟩

/-- Of neighbours with the same bytes one stays, which is whole if all of them are. -/
def merge : List Beginning → List Beginning
  | [] => []
  | first :: rest =>
    match merge rest with
    | [] => [first]
    | next :: others =>
      if first.bytes == next.bytes then ⟨first.bytes, first.isWhole && next.isWhole⟩ :: others
      else first :: next :: others

/-- Drops what begins with another text that stands before it. -/
def withoutLonger (beginnings : List Beginning) : List Beginning :=
  beginnings.foldl
    (fun kept next =>
      if kept.any (·.bytes.isPrefixOf next.bytes) then kept else kept ++ [next])
    []

def commonBytes : List Nat → List Nat → List Nat
  | a :: as, b :: bs => if a = b then a :: commonBytes as bs else []
  | _, _ => []

/-- What all texts begin with. -/
def sharedBytes : List Beginning → List Nat
  | [] => []
  | first :: rest => rest.foldl (fun shared next => commonBytes shared next.bytes) first.bytes

end Beginning

/-! ## Lists of beginnings -/

/-- All beginnings; none where there are too many. -/
abbrev Beginnings := Option (List Beginning)

namespace Beginnings

def mostTexts : Nat := 250

def mostBytes : Nat := 100

def mostMembers : Nat := 10

def mostRounds : Nat := 10

def nothing : Beginnings := some [.nothing]

def unfinished (beginnings : Beginnings) : Beginnings := beginnings.map (·.map .unfinished)

/-- What comes later cannot make a text longer. -/
def isSettled : Beginnings → Bool
  | some texts => texts.all (!·.isWhole)
  | none => true

/-- Every text that is whole goes on with one of the next. Where these are too many, no text stays
whole, and an empty one would leave any beginning open. -/
def followedBy : Beginnings → Beginnings → Beginnings
  | none, _ => none
  | some texts, next =>
    match next.filter fun next => texts.length * next.length ≤ mostTexts with
    | none =>
      if texts.any (·.bytes.isEmpty) then none else some (texts.map .unfinished)
    | some next =>
      let longer := texts.flatMap fun text => if text.isWhole then next.map text.append else [text]
      some ((Beginning.merge longer).map (.cut mostBytes))

/-- How many bytes of a text are kept if there would be too many texts otherwise. -/
def fewBytes : Nat := 4

/-- The texts of both, in order. -/
def beside : Beginnings → Beginnings → Beginnings
  | some texts, some others =>
    if texts.length + others.length ≤ mostTexts then some (Beginning.merge (texts ++ others))
    else
      let shorter (texts : List Beginning) := Beginning.merge (texts.map (.cut fewBytes))
      if (shorter texts).length + (shorter others).length ≤ mostTexts then
        some (Beginning.merge (shorter texts ++ shorter others))
      else none
  | _, _ => none

def ofBytes (bytes : List Nat) : Beginning := .cut mostBytes ⟨bytes, true⟩

def ofSet (set : CharSet) : Beginnings :=
  let members := set.ranges.foldl (fun count range => count + (range.2 - range.1 + 1)) 0
  if mostMembers < members then none
  else some (set.ranges.flatMap fun range =>
    (List.range' range.1 (range.2 - range.1 + 1)).map fun code => ⟨utf8Bytes code, true⟩)

/-- The given number of rounds, each of which begins in the same way. -/
def rounds (round : Beginnings) : (count : Nat) → Beginnings → Beginnings
  | 0, beginnings => beginnings
  | count + 1, beginnings =>
    if beginnings.isSettled then beginnings else rounds round count (beginnings.followedBy round)

/-- The beginnings of a repetition. Only a known number of rounds that are all followed leaves a
text whole. A lazy repetition prefers no round to one. -/
def repeated (least : Nat) (most : Option Nat) (isLazy : Bool) (round : Beginnings) : Beginnings :=
  if least = 0 then
    let taken := if most == some 1 then round else round.unfinished
    if isLazy then nothing.beside taken else taken.beside nothing
  else
    let followed := rounds round (min least mostRounds) nothing
    if most == some least && least ≤ mostRounds then followed else followed.unfinished

end Beginnings

/-! ## Beginnings of expressions -/

namespace Expression

mutual

def beginnings : Expression → Beginnings
  | .empty => .nothing
  | .look _ => .nothing
  | .literal text => some [Beginnings.ofBytes (text.flatMap fun c => utf8Bytes c.toNat)]
  | .oneOf set => .ofSet set
  | .repetition least most isLazy part => .repeated least most isLazy (beginnings part)
  | .group _ part => beginnings part
  | .sequence parts => sequenceBeginnings parts .nothing
  | .choice parts => choiceBeginnings parts (some [])

/-- Goes on with the parts of a sequence. -/
def sequenceBeginnings : List Expression → Beginnings → Beginnings
  | [], before => before
  | part :: rest, before =>
    if before.isSettled then before
    else sequenceBeginnings rest (before.followedBy (beginnings part))

/-- Goes on with the branches of a choice. -/
def choiceBeginnings : List Expression → Beginnings → Beginnings
  | [], before => before
  | part :: rest, before => choiceBeginnings rest (before.beside (beginnings part))

end

mutual

/-- No group is remembered and nothing around a match is looked at. -/
def isSelfContained : Expression → Bool
  | .empty => true
  | .literal _ => true
  | .oneOf _ => true
  | .look _ => false
  | .group _ _ => false
  | .repetition _ _ _ part => isSelfContained part
  | .sequence parts => allSelfContained parts
  | .choice parts => allSelfContained parts

def allSelfContained : List Expression → Bool
  | [] => true
  | part :: rest => isSelfContained part && allSelfContained rest

end

end Expression

/-! ## Search for texts -/

namespace Beginning

/-- Bytes that most texts are full of. -/
def isFrequent (byte : Nat) : Bool :=
  0xC0 ≤ byte ||
    "\n\r (),-./0129:_abcdefghilmnoprstuvxy|".toList.any fun c => c.toNat == byte

/-- Texts that share up to three bytes, the first of them a rare one, are searched for by that byte
alone. -/
def isMarked (found : List Beginning) (shared : List Nat) : Bool :=
  1 < found.length && shared.length ≤ 3 && shared.head?.any (!isFrequent ·)

/-- How far texts are cut, one attempt after the other, and how many of them end the attempts. -/
def attempts : List (Nat × Nat) := [(5, 10), (4, 10), (3, 64), (2, 64), (1, 10)]

def shorten : List (Nat × Nat) → List Beginning → List Beginning
  | [], texts => texts
  | (length, enough) :: rest, texts =>
    if texts.length ≤ enough then texts
    else shorten rest (withoutLonger (texts.map (.cut length)))

/-- To search for the texts is to search for the matches. The texts are made as short and as few as
is good for a fast search, and then all of them must still be whole, unless the shorter ones are too
short or too many to be of use. -/
def suffice (found : List Beginning) : Bool :=
  let distinct := withoutLonger found
  let shared := sharedBytes distinct
  let allWhole (texts : List Beginning) := texts.all (·.isWhole)
  if found.isEmpty || found.any (·.bytes.isEmpty) then false
  else if isMarked found shared then allWhole (distinct.map (.cut 1))
  else
    let isFast := allWhole distinct && distinct.length ≤ 16
    let texts :=
      if 4 < shared.length || (1 < shared.length && !isFast) then
        merge (distinct.map (.cut shared.length))
      else distinct
    let shorter := shorten attempts texts
    allWhole texts &&
      (allWhole shorter || shorter.any (·.bytes.length ≤ 2) || 64 < shorter.length)

end Beginning

namespace Expression

/-- The search for the expression is a search for texts. -/
def isSearchedByTexts (expression : Expression) : Bool :=
  expression.isSelfContained &&
    match expression.beginnings with
    | some found => Beginning.suffice (Beginning.merge found)
    | none => false

end Expression

end ElementRules.Pattern
