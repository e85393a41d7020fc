/-!
Sets of characters. A set is kept as the ascending list of the code points at which membership
changes, the first of them a start. So there is one form for every set, membership is the parity of
a rank, and all the set operations are one sweep over the changes of two sets.
-/

namespace ElementRules.Pattern

/-! ## Ranks -/

/-- How many of the ascending numbers are at most `bound`: the search halves the part between `low`
and `high`, and `fuel` bounds the number of halvings. -/
def countUpTo (numbers : Array Nat) (bound : Nat) : (fuel low high : Nat) → Nat
  | 0, low, _ => low
  | fuel + 1, low, high =>
    if low < high then
      let middle := (low + high) / 2
      if numbers.getD middle 0 ≤ bound then countUpTo numbers bound fuel (middle + 1) high
      else countUpTo numbers bound fuel low middle
    else low

/-- The number of entries at most `bound`. -/
def rank (numbers : Array Nat) (bound : Nat) : Nat :=
  countUpTo numbers bound (numbers.size.log2 + 2) 0 numbers.size

/-! ## Sets -/

structure CharSet where
  boundaries : Array Nat
deriving DecidableEq

namespace CharSet

def containsCode (set : CharSet) (code : Nat) : Bool := rank set.boundaries code % 2 == 1

def contains (set : CharSet) (c : Char) : Bool := set.containsCode c.toNat

def nothing : CharSet := ⟨#[]⟩

/-- Every character; the surrogates between are none. -/
def everything : CharSet := ⟨#[0, 0xD800, 0xE000, 0x110000]⟩

/-- The first and the last code point of every run of members. -/
def pairUp : List Nat → List (Nat × Nat)
  | start :: stop :: rest => (start, stop - 1) :: pairUp rest
  | _ => []

/-- The ranges of which a set consists, ascending and apart from each other. -/
def ranges (set : CharSet) : List (Nat × Nat) := pairUp set.boundaries.toList

def isEmpty (set : CharSet) : Bool := set.boundaries.isEmpty

/-- No member is beyond the first 128 characters. -/
def isAscii (set : CharSet) : Bool := set.boundaries.all (· ≤ 128)

/-- The only member of a set that has one member. -/
def single? (set : CharSet) : Option Char :=
  match set.boundaries.toList with
  | [start, stop] => if stop = start + 1 then some (Char.ofNat start) else none
  | _ => none

/-! ## Operations -/

/-- The changes of the set of those code points for which `test` holds of their membership in two
sets, from the changes of these; `inA` and `inB` are the memberships before the next change. -/
def sweep (test : Bool → Bool → Bool) (inA inB : Bool) : List Nat → List Nat → List Nat
  | [], [] => []
  | x :: a, [] =>
    let rest := sweep test (!inA) inB a []
    if test inA inB == test (!inA) inB then rest else x :: rest
  | [], y :: b =>
    let rest := sweep test inA (!inB) [] b
    if test inA inB == test inA (!inB) then rest else y :: rest
  | x :: a, y :: b =>
    if x < y then
      let rest := sweep test (!inA) inB a (y :: b)
      if test inA inB == test (!inA) inB then rest else x :: rest
    else if y < x then
      let rest := sweep test inA (!inB) (x :: a) b
      if test inA inB == test inA (!inB) then rest else y :: rest
    else
      let rest := sweep test (!inA) (!inB) a b
      if test inA inB == test (!inA) (!inB) then rest else x :: rest
termination_by a b => a.length + b.length

/-- The code points for which the test holds; it fails where both sets lack a code point. -/
def combine (test : Bool → Bool → Bool) (a b : CharSet) : CharSet :=
  ⟨(sweep test false false a.boundaries.toList b.boundaries.toList).toArray⟩

def union (a b : CharSet) : CharSet := combine (· || ·) a b

def intersection (a b : CharSet) : CharSet := combine (· && ·) a b

def difference (a b : CharSet) : CharSet := combine (fun x y => x && !y) a b

def symmetricDifference (a b : CharSet) : CharSet := combine xor a b

def complement (set : CharSet) : CharSet := everything.difference set

/-- From `first` to `last`, both included. -/
def range (first last : Char) : CharSet :=
  if first ≤ last then everything.intersection ⟨#[first.toNat, last.toNat + 1]⟩ else nothing

def unionAll (sets : List CharSet) : CharSet := sets.foldr union nothing

/-- The union of closed ranges. -/
def ofRanges (ranges : List (Char × Char)) : CharSet :=
  unionAll (ranges.map fun pair => range pair.1 pair.2)

/-- The changes of the set of some ascending code points. -/
def changesOf : List Nat → List Nat
  | [] => []
  | code :: rest =>
    match changesOf rest with
    | [] => [code, code + 1]
    | next :: changes =>
      if next ≤ code then next :: changes
      else if next = code + 1 then code :: changes
      else code :: (code + 1) :: next :: changes

/-- The set of some code points in any order. -/
def ofCodes (codes : List Nat) : CharSet := ⟨(changesOf codes.mergeSort).toArray⟩

/-! ## Named classes -/

/-- The named classes of the first 128 characters. -/
def asciiClass? : String → Option CharSet
  | "alnum" => some (ofRanges [('0', '9'), ('A', 'Z'), ('a', 'z')])
  | "alpha" => some (ofRanges [('A', 'Z'), ('a', 'z')])
  | "ascii" => some (ofRanges [('\x00', '\x7f')])
  | "blank" => some (ofRanges [('\t', '\t'), (' ', ' ')])
  | "cntrl" => some (ofRanges [('\x00', '\x1f'), ('\x7f', '\x7f')])
  | "digit" => some (ofRanges [('0', '9')])
  | "graph" => some (ofRanges [('!', '~')])
  | "lower" => some (ofRanges [('a', 'z')])
  | "print" => some (ofRanges [(' ', '~')])
  | "punct" => some (ofRanges [('!', '/'), (':', '@'), ('[', '\x60'), ('\x7b', '~')])
  | "space" => some (ofRanges [('\t', '\r'), (' ', ' ')])
  | "upper" => some (ofRanges [('A', 'Z')])
  | "word" => some (ofRanges [('0', '9'), ('A', 'Z'), ('_', '_'), ('a', 'z')])
  | "xdigit" => some (ofRanges [('0', '9'), ('A', 'F'), ('a', 'f')])
  | _ => none

end CharSet

end ElementRules.Pattern
