import ElementRules.Pattern.Program
import ElementRules.Pattern.Spelling
import Std.Data.HashMap

/-!
Programs for sets of characters. The spellings of the members have bytes in common, and states that
would do the same are built once as long as they are remembered: when reading forwards, those with
the same moves; when reading backwards, those with the same move to the same state.
-/

namespace ElementRules.Pattern

/-- A program whose states are shared: a state is described by numbers, and a state with the same
description is not built again while it is remembered. A description has one of a fixed number of
places, and only the latest with the same place is remembered. -/
structure Sharing where
  program : Program
  remembered : Std.HashMap Nat (List Nat × Nat)

namespace Sharing

/-- The place of a description among `places`: the numbers are mixed in one after the other, with
wrapping multiplication by a prime. -/
def placeOf (places : Nat) (description : List Nat) : Nat :=
  let mixed := description.foldl
    (fun (mixed : UInt64) n => (mixed ^^^ UInt64.ofNat n) * 1099511628211) 14695981039346656037
  mixed.toNat % places

/-- The state with this description. A new one takes `details`. -/
def state (places details : Nat) (description : List Nat) (sharing : Sharing) :
    Option (Nat × Sharing) :=
  let place := placeOf places description
  let known := match sharing.remembered[place]? with
    | some (known, number) => if known == description then some number else none
    | none => none
  match known with
  | some number => some (number, sharing)
  | none =>
    let ⟨program, remembered⟩ := sharing
    match program.add 1 details with
    | none => none
    | some larger =>
      some (program.states, ⟨larger, remembered.insert place (description, program.states)⟩)

/-- How many states are remembered when reading forwards, and backwards. -/
def forwardPlaces : Nat := 10000

def backwardPlaces : Nat := 1000

/-- Sequences that start with the same range: the range, and what follows it in each. -/
def groupByFirst : List (List ByteRange) → List (ByteRange × List (List ByteRange))
  | [] => []
  | [] :: rest => groupByFirst rest
  | (first :: more) :: rest =>
    match groupByFirst rest with
    | (other, ends) :: groups =>
      if first == other then (first, more :: ends) :: groups
      else (first, [more]) :: (other, ends) :: groups
    | [] => [(first, [more])]

/-- The state from which the sequences lead to the target. All sequences with the same first range
share one move; `depth` bounds the length of the sequences. -/
def forwardState (target : Nat) : (depth : Nat) → List (List ByteRange) → Sharing →
    Option (Nat × Sharing)
  | 0, _, sharing => some (target, sharing)
  | depth + 1, spellings, sharing =>
    if spellings.all (·.isEmpty) then some (target, sharing)
    else
      let moves? := (groupByFirst spellings).foldlM
        (fun (moves, sharing) (range, ends) =>
          (forwardState target depth ends sharing).map fun (next, sharing) =>
            (moves ++ [range.1, range.2, next], sharing))
        (([] : List Nat), sharing)
      match moves? with
      | none => none
      | some (moves, sharing) =>
        state forwardPlaces (moves.length / 3 * Program.moveBytes) moves sharing

/-- One chain of states for every sequence, from a common fork; chains share their ends. -/
def backwardChains (target : Nat) (spellings : List (List ByteRange)) (sharing : Sharing) :
    Option Sharing :=
  spellings.foldlM
    (fun sharing ranges => do
      let (_, sharing) ← ranges.foldlM
        (fun (next, sharing) (range : ByteRange) =>
          state backwardPlaces 0 [next, range.1, range.2] sharing)
        (target, sharing)
      let program ← sharing.program.add 0 Program.wayBytes
      some { sharing with program })
    sharing

end Sharing

/-- A set within the first 128 characters takes one state with a move for every range. -/
def buildSet (backwards : Bool) (set : CharSet) (program : Program) : Option Program :=
  if set.isAscii then program.add 2 (set.ranges.length * Program.moveBytes)
  else if backwards then do
    let target := program.states + 1
    let program ← program.add 2 0
    let sharing ← Sharing.backwardChains target set.spellings ⟨program, ∅⟩
    some sharing.program
  else do
    let target := program.states
    let program ← program.add 1 0
    let (_, sharing) ← Sharing.forwardState target 4 set.spellings ⟨program, ∅⟩
    some sharing.program

end ElementRules.Pattern
