import ElementRules.Pattern.Program.Beginnings
import ElementRules.Pattern.Program.Sharing
import ElementRules.Pattern.Program.TextTree

/-!
The program for an expression, put together from the programs of its parts. An expression needs two
programs, one that reads forwards and one that reads backwards, and it is too large
(`Expression.fits`) if one of them is larger than `Program.largestProgram`. No program is needed
where the search is a search for texts.
-/

namespace ElementRules.Pattern

/-! ## Repetitions -/

/-- Goes on with `count` more copies of a part. -/
def buildCopies (part : Builder) : (count : Nat) → Built → Option Built
  | 0, built => some built
  | count + 1, built =>
    match part built.program with
    | none => none
    | some next =>
      match next.program.add 0 built.joint with
      | none => none
      | some program => buildCopies part count ⟨program, next.endsInFork⟩

def buildExactly (part : Builder) (count : Nat) (program : Program) : Option Built :=
  if count = 0 then Built.plain (program.add 1 0)
  else (part program).bind (buildCopies part (count - 1))

/-- Goes on with `count` copies of a part, before each of which the program may go to the end. -/
def buildOptional (part : Builder) : (count : Nat) → Built → Option Built
  | 0, built => some built
  | count + 1, built =>
    match built.program.add 1 (built.joint + 2 * Program.wayBytes) with
    | none => none
    | some program => (part program).bind (buildOptional part count)

/-- A repetition of a part; `neverEmpty` tells that the part matches no empty text. -/
def buildRepetition (part : Builder) (neverEmpty : Bool) (least : Nat) (most : Option Nat)
    (program : Program) : Option Built :=
  match least, most with
  | 0, some 1 => do
    let built ← part (← program.add 1 (2 * Program.wayBytes))
    Built.plain (built.program.add 1 built.joint)
  | 0, none =>
    if neverEmpty then do
      let built ← part (← program.add 1 Program.wayBytes)
      Built.fork (built.program.add 0 built.joint)
    else do
      let built ← part program
      Built.plain (built.program.add 3 (built.joint + 4 * Program.wayBytes))
  | least + 1, none => do
    let built ← (part program).bind (buildCopies part least)
    Built.fork (built.program.add 1 (built.joint + Program.wayBytes))
  | least, some most => do
    let built ← buildExactly part least program
    if least = most then some built
    else
      let program ← built.program.add 1 0
      let built ← buildOptional part (most - least) ⟨program, built.endsInFork⟩
      Built.plain (built.program.add 0 built.joint)

/-! ## Choices -/

def literal? : Expression → Option (List Char)
  | .literal text => some text
  | _ => none

/-- A choice between literals is one tree. -/
def buildTexts (backwards : Bool) (texts : List (List Char)) (program : Program) :
    Option Program :=
  let tree := texts.foldl
    (fun tree text =>
      let bytes := text.flatMap fun c => utf8Bytes c.toNat
      TextTree.insert (if backwards then bytes.reverse else bytes) tree)
    TextTree.leaf
  let (states, details) := tree.cost
  program.add (states + 1) details

/-- Goes on with further branches of a choice. -/
def buildBranches : List Builder → Program → Option Program
  | [], program => some program
  | branch :: rest, program =>
    match branch program with
    | none => none
    | some built =>
      match built.program.add 0 (built.joint + Program.wayBytes) with
      | none => none
      | some program => buildBranches rest program

/-- A fork between branches, which meet at its end. The fork is built after the second branch. -/
def buildChoice : List Builder → Program → Option Built
  | first :: second :: rest, program => do
    let a ← first program
    let b ← second a.program
    let program ← b.program.add 2 (a.joint + b.joint + 2 * Program.wayBytes)
    Built.plain (buildBranches rest program)
  | [first], program => first program
  | [], program => Built.plain (program.add 1 0)

/-! ## Expressions -/

def buildSequence : List Builder → Program → Option Built
  | [], program => Built.plain (program.add 1 0)
  | first :: rest, program =>
    rest.foldlM
      (fun built part => do
        let next ← part built.program
        let program ← next.program.add 0 built.joint
        some ⟨program, next.endsInFork⟩)
      =<< first program

mutual

/-- Adds an expression to a program. Only a program that reads forwards remembers groups. -/
def Expression.build (backwards : Bool) : Expression → Builder
  | .empty, program => Built.plain (program.add 1 0)
  | .literal text, program => Built.plain (program.add (text.foldl (fun n c => n + c.utf8Size) 0) 0)
  | .oneOf set, program => Built.plain (buildSet backwards set program)
  | .look _, program => Built.plain (program.add 1 0)
  | .repetition least most _ part, program =>
    buildRepetition (Expression.build backwards part) part.neverEmpty least most program
  | .group _ part, program =>
    if backwards then Expression.build backwards part program
    else do
      let built ← Expression.build backwards part (← program.add 1 0)
      Built.plain (built.program.add 1 built.joint)
  | .sequence parts, program =>
    let builders := Expression.builders backwards parts
    buildSequence (if backwards then builders.reverse else builders) program
  | .choice parts, program =>
    match parts.mapM literal? with
    | some texts => Built.plain (buildTexts backwards texts program)
    | none => buildChoice (Expression.builders backwards parts) program

def Expression.builders (backwards : Bool) : List Expression → List Builder
  | [] => []
  | part :: rest => Expression.build backwards part :: Expression.builders backwards rest

end

namespace Expression

/-- The whole program: first what reads over the text before a match, unless the expression holds on
to the end of the text where reading starts, then the expression as a group, then its end. -/
def program? (expression : Expression) (backwards : Bool) : Option Program := do
  let program ←
    if expression.anchored backwards then Program.start.add 1 0
    else Program.start.add 3 (Program.moveBytes + 2 * Program.wayBytes)
  if backwards then
    let built ← expression.build true program
    built.program.add 1 built.joint
  else
    let built ← expression.build false (← program.add 1 0)
    built.program.add 2 built.joint

/-- From this many on, literals to choose from are searched for without a program. -/
def manyTexts : Nat := 3000

def isManyTexts : Expression → Bool
  | .choice parts => manyTexts ≤ parts.length && parts.all fun part => (literal? part).isSome
  | _ => false

/-- The expression is not searched for as a text or as one of several. -/
def needsProgram (expression : Expression) : Bool :=
  !(expression.isSearchedByTexts || expression.isManyTexts)

/-- Neither program of the expression is too large, or it needs none. -/
def fits (expression : Expression) : Bool :=
  ((expression.program? false).isSome && (expression.program? true).isSome) ||
    !expression.needsProgram

end Expression

end ElementRules.Pattern
