/-!
The size of programs. A program is a list of states that read a text byte by byte: a state may move
on a range of bytes, on one of several ranges, or without reading; a fork goes several ways at once.
Every state takes `stateBytes`, every one of several moves `moveBytes`, and every way of a fork
`wayBytes`.

No program is kept: what counts is how many states there are, and, because states that do the same
are shared, which number each of them has.
-/

namespace ElementRules.Pattern

/-- What has been built of a program. -/
structure Program where
  states : Nat
  /-- The bytes for moves and ways. -/
  details : Nat
deriving DecidableEq, Repr

namespace Program

def stateBytes : Nat := 32

def moveBytes : Nat := 8

def wayBytes : Nat := 4

def largestProgram : Nat := 10485760

def start : Program := ⟨0, 0⟩

def size (program : Program) : Nat := program.states * stateBytes + program.details

/-- Adds states and details, unless the program becomes too large. -/
def add (program : Program) (states details : Nat) : Option Program :=
  let larger : Program := ⟨program.states + states, program.details + details⟩
  if larger.size ≤ largestProgram then some larger else none

end Program

/-- A program up to the end of a part. -/
structure Built where
  program : Program
  /-- The part ends in a fork, which needs one more way to what follows. -/
  endsInFork : Bool

namespace Built

/-- The bytes for going on from the end of the part. -/
def joint (built : Built) : Nat := if built.endsInFork then Program.wayBytes else 0

/-- A program whose last part ends in a plain state. -/
def plain (program : Option Program) : Option Built := program.map (⟨·, false⟩)

def fork (program : Option Program) : Option Built := program.map (⟨·, true⟩)

end Built

/-- Adds a part to a program. -/
abbrev Builder := Program → Option Built

end ElementRules.Pattern
