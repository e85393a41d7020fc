import ElementRules.Pattern.Program.Assembly
import Mathlib.Algebra.BigOperators.Group.List.Basic
import Mathlib.Algebra.GroupWithZero.Nat

/-!
# Programs within the limit

A program is refused only where it becomes too large. So every step of building is described by the
bytes that it takes at most (`Takes`): as long as these are left it succeeds, and it uses no more.
Steps one after the other take the sum, and the bytes of a sequence of literals and sets are the
sum over its parts:

    208 + (parts.map (·.bytes backwards)).sum ≤ largestProgram, both ways  →
      (sequence parts).fits                                              (fits_of_takes)
-/

namespace ElementRules.Pattern

/-! ## Bytes of a step -/

/-- A state of building, with the bytes that it has used so far. -/
class Sized (State : Type) where
  bytes : State → Nat

instance : Sized Program := ⟨Program.size⟩

/-- The way on from the end of the part is counted with the part. -/
instance : Sized Built := ⟨fun built => built.program.size + built.joint⟩

instance : Sized Sharing := ⟨fun sharing => sharing.program.size⟩

instance : Sized (Nat × Sharing) := ⟨fun (_, sharing) => sharing.program.size⟩

/-- Moves are counted before their state is built. Each is three numbers. -/
instance : Sized (List Nat × Sharing) :=
  ⟨fun (moves, sharing) => sharing.program.size + moves.length / 3 * Program.moveBytes⟩

@[simp] theorem bytes_program (program : Program) : Sized.bytes program = program.size := rfl

@[simp] theorem bytes_built (built : Built) :
    Sized.bytes built = built.program.size + built.joint := rfl

@[simp] theorem bytes_sharing (sharing : Sharing) :
    Sized.bytes sharing = sharing.program.size := rfl

@[simp] theorem bytes_numbered (result : Nat × Sharing) :
    Sized.bytes result = result.2.program.size := rfl

@[simp] theorem bytes_moves (state : List Nat × Sharing) :
    Sized.bytes state = state.2.program.size + state.1.length / 3 * Program.moveBytes := rfl

/-- As long as this many bytes are left the step succeeds, and it uses no more. -/
def Takes {Before After : Type} [Sized Before] [Sized After] (step : Before → Option After)
    (bytes : Nat) : Prop :=
  ∀ before, Sized.bytes before + bytes ≤ Program.largestProgram →
    ∃ after, step before = some after ∧ Sized.bytes after ≤ Sized.bytes before + bytes

section Steps

variable {Before Middle After Item : Type} [Sized Before] [Sized Middle] [Sized After]

theorem Takes.le {step : Before → Option After} {few many : Nat} (h : Takes step few)
    (hle : few ≤ many) : Takes step many := by
  intro before hleft
  obtain ⟨after, hstep, hbytes⟩ := h before (by omega)
  exact ⟨after, hstep, by omega⟩

theorem Takes.bind {first : Before → Option Middle} {second : Middle → Option After} {m n : Nat}
    (hfirst : Takes first m) (hsecond : Takes second n) :
    Takes (fun before => (first before).bind second) (m + n) := by
  intro before hleft
  obtain ⟨middle, hmiddle, hm⟩ := hfirst before (by omega)
  obtain ⟨after, hafter, hn⟩ := hsecond middle (by omega)
  exact ⟨after, Option.bind_eq_some_iff.2 ⟨middle, hmiddle, hafter⟩, by omega⟩

/-- A loop takes what its rounds take. -/
theorem Takes.foldlM {step : Before → Item → Option Before} {bytes : Item → Nat} {items : List Item}
    (h : ∀ item ∈ items, Takes (fun before => step before item) (bytes item)) :
    Takes (fun before => items.foldlM step before) (items.map bytes).sum := by
  induction items with
  | nil => exact fun before _ => ⟨before, rfl, Nat.le_refl _⟩
  | cons item items ih =>
    rw [List.map_cons, List.sum_cons]
    exact (h item List.mem_cons_self).bind
      (ih fun other hmem => h other (List.mem_cons_of_mem _ hmem))

end Steps

theorem takes_add (states details : Nat) :
    Takes (fun program : Program => program.add states details)
      (states * Program.stateBytes + details) := by
  intro program hleft
  have hsize : Program.size ⟨program.states + states, program.details + details⟩ =
      program.size + (states * Program.stateBytes + details) := by
    simp only [Program.size, Nat.add_mul]
    omega
  exact ⟨_, if_pos (hsize ▸ hleft), Nat.le_of_eq hsize⟩

/-- Adds to what has been built so far, and the way on from its end. -/
theorem takes_joint (states : Nat) :
    Takes (fun built : Built => built.program.add states built.joint)
      (states * Program.stateBytes) := by
  intro built hleft
  simp only [bytes_built] at hleft
  obtain ⟨program, hadd, hbytes⟩ := takes_add states built.joint built.program
    (by simp only [bytes_program]; omega)
  refine ⟨program, hadd, ?_⟩
  simp only [bytes_program, bytes_built] at hbytes ⊢
  omega

theorem takes_plain {step : Program → Option Program} {bytes : Nat} (h : Takes step bytes) :
    Takes (fun program => Built.plain (step program)) bytes := by
  intro program hleft
  obtain ⟨larger, hstep, hbytes⟩ := h program hleft
  exact ⟨⟨larger, false⟩, congrArg Built.plain hstep, hbytes⟩

/-! ## Sets -/

namespace Sharing

theorem takes_state (places details : Nat) (description : List Nat) :
    Takes (state places details description) (Program.stateBytes + details) := by
  intro sharing hleft
  unfold state
  dsimp only
  split
  · exact ⟨_, rfl, Nat.le_add_right _ _⟩
  · obtain ⟨larger, hadd, hbytes⟩ := takes_add 1 details sharing.program
      (by rw [Nat.one_mul]; exact hleft)
    rw [Nat.one_mul] at hbytes
    simp only [hadd]
    exact ⟨_, rfl, hbytes⟩

/-- A move to a state takes the state, and the three numbers. -/
theorem takes_move {state : Sharing → Option (Nat × Sharing)} {bytes : Nat} (range : ByteRange)
    (h : Takes state bytes) :
    Takes (fun before : List Nat × Sharing => (state before.2).map fun result =>
      (before.1 ++ [range.1, range.2, result.1], result.2)) (bytes + Program.moveBytes) := by
  rintro ⟨moves, sharing⟩ hleft
  simp only [bytes_moves] at hleft
  obtain ⟨⟨next, shared⟩, hnext, hbytes⟩ := h sharing (by simp only [bytes_sharing]; omega)
  refine ⟨(moves ++ [range.1, range.2, next], shared), ?_, ?_⟩
  · exact Option.map_eq_some_iff.2 ⟨_, hnext, rfl⟩
  · have hmoves : (moves.length + 3) / 3 = moves.length / 3 + 1 :=
      Nat.add_div_right _ (Nat.succ_pos 2)
    simp only [bytes_numbered, bytes_sharing, bytes_moves] at hbytes ⊢
    rw [List.length_append, List.length_cons, List.length_cons, List.length_singleton, hmoves,
      Nat.add_mul]
    omega

/-- The bytes for the states from which the sequences lead to a target, if none is shared. -/
def forwardBytes : (depth : Nat) → List (List ByteRange) → Nat
  | 0, _ => 0
  | depth + 1, spellings =>
    if spellings.all (·.isEmpty) then 0
    else
      ((groupByFirst spellings).map fun group =>
        forwardBytes depth group.2 + Program.moveBytes).sum + Program.stateBytes

theorem takes_forwardState (target depth : Nat) (spellings : List (List ByteRange)) :
    Takes (forwardState target depth spellings) (forwardBytes depth spellings) := by
  induction depth generalizing spellings with
  | zero => exact fun sharing _ => ⟨(target, sharing), rfl, Nat.le_refl _⟩
  | succ depth ih =>
    intro sharing hleft
    rw [forwardBytes] at hleft ⊢
    rw [forwardState]
    split at hleft
    · next hends =>
      rw [if_pos hends, if_pos hends]
      exact ⟨(target, sharing), rfl, Nat.le_refl _⟩
    · next hends =>
      rw [if_neg hends, if_neg hends]
      have hround : ∀ group ∈ groupByFirst spellings,
          Takes (fun state : List Nat × Sharing =>
            (forwardState target depth group.2 state.2).map fun result =>
              (state.1 ++ [group.1.1, group.1.2, result.1], result.2))
            (forwardBytes depth group.2 + Program.moveBytes) :=
        fun group _ => takes_move group.1 (ih group.2)
      obtain ⟨⟨moves, shared⟩, hmoves, hbytes⟩ := Takes.foldlM hround ([], sharing)
        (by simp only [bytes_sharing, bytes_moves, List.length_nil] at hleft ⊢; omega)
      simp only [bytes_sharing, bytes_moves, List.length_nil] at hleft hbytes ⊢
      obtain ⟨result, hstate, hresult⟩ := takes_state forwardPlaces
        (moves.length / 3 * Program.moveBytes) moves shared
        (by simp only [bytes_sharing]; omega)
      refine ⟨result, ?_, ?_⟩
      · dsimp only at hmoves ⊢
        rw [hmoves]
        exact hstate
      · simp only [bytes_numbered, bytes_sharing] at hresult ⊢
        omega

/-- The bytes for a chain of states for every sequence. -/
def backwardBytes (spellings : List (List ByteRange)) : Nat :=
  (spellings.map fun ranges => ranges.length * Program.stateBytes + Program.wayBytes).sum

theorem takes_backwardChains (target : Nat) (spellings : List (List ByteRange)) :
    Takes (backwardChains target spellings) (backwardBytes spellings) := by
  refine Takes.foldlM ?_
  intro ranges _ sharing hleft
  have hround : ∀ range ∈ ranges, Takes (fun state : Nat × Sharing =>
      Sharing.state backwardPlaces 0 [state.1, range.1, range.2] state.2) Program.stateBytes :=
    fun range _ state hleft =>
      takes_state backwardPlaces 0 [state.1, range.1, range.2] state.2 hleft
  simp only [bytes_sharing] at hleft
  have hchain := Takes.foldlM hround (target, sharing)
  rw [List.map_const', List.sum_replicate_nat] at hchain
  obtain ⟨⟨next, shared⟩, hnext, hbytes⟩ := hchain (by simp only [bytes_numbered]; omega)
  simp only [bytes_numbered] at hbytes
  obtain ⟨program, hprogram, hresult⟩ := takes_add 0 Program.wayBytes shared.program
    (by simp only [bytes_program]; omega)
  refine ⟨{ shared with program }, ?_, ?_⟩
  · exact Option.bind_eq_some_iff.2 ⟨_, hnext, Option.bind_eq_some_iff.2 ⟨_, hprogram, rfl⟩⟩
  · simp only [bytes_program, bytes_sharing] at hresult ⊢
    omega

end Sharing

/-- The bytes for a set. -/
def setBytes (backwards : Bool) (set : CharSet) : Nat :=
  if set.isAscii then 2 * Program.stateBytes + set.ranges.length * Program.moveBytes
  else if backwards then 2 * Program.stateBytes + Sharing.backwardBytes set.spellings
  else Program.stateBytes + Sharing.forwardBytes 4 set.spellings

theorem takes_buildSet (backwards : Bool) (set : CharSet) :
    Takes (buildSet backwards set) (setBytes backwards set) := by
  unfold setBytes
  intro program hleft
  unfold buildSet
  split
  · next hascii =>
    rw [if_pos hascii] at hleft
    exact takes_add _ _ program hleft
  · next hascii =>
    rw [if_neg hascii] at hleft
    simp only [bytes_program] at hleft
    split
    · next hbackwards =>
      rw [if_pos hbackwards] at hleft
      obtain ⟨larger, hlarger, hbytes⟩ := takes_add 2 0 program
        (by simp only [bytes_program]; omega)
      simp only [bytes_program] at hbytes
      obtain ⟨sharing, hsharing, hresult⟩ := Sharing.takes_backwardChains (program.states + 1)
        set.spellings ⟨larger, ∅⟩ (by simp only [bytes_sharing]; omega)
      refine ⟨sharing.program, ?_, ?_⟩
      · exact Option.bind_eq_some_iff.2 ⟨_, hlarger, Option.bind_eq_some_iff.2 ⟨_, hsharing, rfl⟩⟩
      · simp only [bytes_program, bytes_sharing] at hresult ⊢
        omega
    · next hforwards =>
      rw [if_neg hforwards] at hleft
      obtain ⟨larger, hlarger, hbytes⟩ := takes_add 1 0 program
        (by simp only [bytes_program]; omega)
      simp only [bytes_program] at hbytes
      obtain ⟨⟨next, sharing⟩, hsharing, hresult⟩ := Sharing.takes_forwardState program.states 4
        set.spellings ⟨larger, ∅⟩ (by simp only [bytes_sharing]; omega)
      refine ⟨sharing.program, ?_, ?_⟩
      · exact Option.bind_eq_some_iff.2 ⟨_, hlarger, Option.bind_eq_some_iff.2 ⟨_, hsharing, rfl⟩⟩
      · simp only [bytes_program, bytes_numbered, bytes_sharing] at hresult ⊢
        omega

/-! ## Expressions -/

namespace Expression

/-- A literal or a set. -/
def IsPlain : Expression → Prop
  | .literal _ => True
  | .oneOf _ => True
  | _ => False

/-- The bytes for a literal or a set. -/
def bytes (backwards : Bool) : Expression → Nat
  | .literal text => (text.map fun c => c.utf8Size * Program.stateBytes).sum
  | .oneOf set => setBytes backwards set
  | _ => 0

theorem foldl_utf8Size (text : List Char) (n : Nat) :
    text.foldl (fun n c => n + c.utf8Size) n * Program.stateBytes =
      n * Program.stateBytes + (text.map fun c => c.utf8Size * Program.stateBytes).sum := by
  induction text generalizing n with
  | nil => rfl
  | cons c text ih =>
    rw [List.foldl_cons, ih, List.map_cons, List.sum_cons, Nat.add_mul, Nat.add_assoc]

theorem takes_build {expression : Expression} (h : expression.IsPlain) (backwards : Bool) :
    Takes (expression.build backwards) (expression.bytes backwards) := by
  cases expression with
  | literal text =>
    have hbytes := foldl_utf8Size text 0
    rw [Nat.zero_mul, Nat.zero_add] at hbytes
    rw [bytes, ← hbytes]
    exact takes_plain (takes_add _ 0)
  | oneOf set => exact takes_plain (takes_buildSet backwards set)
  | empty | look | repetition | group | sequence | choice => exact h.elim

end Expression

/-- A sequence takes what its parts take. -/
theorem takes_buildSequence {Part : Type} {build : Part → Builder} {bytes : Part → Nat}
    {parts : List Part} (hparts : parts ≠ [])
    (h : ∀ part ∈ parts, Takes (build part) (bytes part)) :
    Takes (buildSequence (parts.map build)) (parts.map bytes).sum := by
  cases parts with
  | nil => exact absurd rfl hparts
  | cons first rest =>
    rw [List.map_cons, List.map_cons, List.sum_cons]
    refine (h first List.mem_cons_self).bind ?_
    have hround : ∀ part ∈ rest, Takes (fun built : Built => do
        let next ← build part built.program
        let program ← next.program.add 0 built.joint
        some (⟨program, next.endsInFork⟩ : Built)) (bytes part) := by
      intro part hmem built hleft
      simp only [bytes_built] at hleft
      obtain ⟨next, hnext, hbytes⟩ := h part (List.mem_cons_of_mem _ hmem) built.program
        (by simp only [bytes_program]; omega)
      simp only [bytes_program, bytes_built] at hbytes
      obtain ⟨program, hprogram, hresult⟩ := takes_add 0 built.joint next.program
        (by simp only [bytes_program]; omega)
      refine ⟨⟨program, next.endsInFork⟩, ?_, ?_⟩
      · exact Option.bind_eq_some_iff.2 ⟨_, hnext, Option.bind_eq_some_iff.2 ⟨_, hprogram, rfl⟩⟩
      · have hjoint : Built.joint ⟨program, next.endsInFork⟩ = next.joint := rfl
        simp only [bytes_program, bytes_built, hjoint] at hresult ⊢
        omega
    have hrest := Takes.foldlM hround
    simpa only [List.foldlM_map] using hrest

namespace Expression

theorem builders_eq (backwards : Bool) (parts : List Expression) :
    builders backwards parts = parts.map (build backwards) := by
  induction parts with
  | nil => rfl
  | cons part parts ih => rw [builders, ih, List.map_cons]

theorem takes_build_sequence {parts : List Expression} (hparts : parts ≠ [])
    (h : ∀ part ∈ parts, part.IsPlain) (backwards : Bool) :
    Takes ((sequence parts).build backwards) (parts.map (bytes backwards)).sum := by
  have htakes : ∀ part ∈ parts, Takes (part.build backwards) (part.bytes backwards) :=
    fun part hmem => takes_build (h part hmem) backwards
  have hbuild : (sequence parts).build backwards = buildSequence
      (if backwards then (parts.map (build backwards)).reverse
        else parts.map (build backwards)) := by
    funext program
    rw [build, builders_eq]
  rw [hbuild]
  cases backwards with
  | false => exact takes_buildSequence hparts htakes
  | true =>
    rw [if_pos rfl, ← List.map_reverse, ← List.sum_reverse, ← List.map_reverse]
    exact takes_buildSequence (mt List.reverse_eq_nil_iff.1 hparts)
      fun part hmem => htakes part (List.mem_reverse.1 hmem)

/-! ## Whole programs -/

/-- What a program has around the expression, at most. -/
def surroundingBytes : Nat := 208

theorem isSome_program? {expression : Expression} {backwards : Bool} {bytes : Nat}
    (h : Takes (expression.build backwards) bytes)
    (hbytes : surroundingBytes + bytes ≤ Program.largestProgram) :
    (expression.program? backwards).isSome = true := by
  have hstart (goOn : Program → Option Program) : ∃ program : Program, program.size ≤ 112 ∧
      (if expression.anchored backwards then (Program.start.add 1 0).bind goOn
        else (Program.start.add 3 (Program.moveBytes + 2 * Program.wayBytes)).bind goOn) =
          goOn program := by
    split
    · exact ⟨⟨1, 0⟩, by decide, rfl⟩
    · exact ⟨⟨3, 16⟩, by decide, rfl⟩
  have hsurrounding :
      surroundingBytes = 112 + 1 * Program.stateBytes + 2 * Program.stateBytes := rfl
  unfold program?
  cases backwards with
  | false =>
    obtain ⟨program, hsize, hprogram⟩ := hstart fun program =>
      (program.add 1 0).bind fun larger =>
        (expression.build false larger).bind fun built => built.program.add 2 built.joint
    obtain ⟨after, hafter, -⟩ := ((takes_add 1 0).bind (h.bind (takes_joint 2))) program
      (by simp only [bytes_program]; omega)
    exact Option.isSome_iff_exists.2 ⟨after, hprogram.trans hafter⟩
  | true =>
    obtain ⟨program, hsize, hprogram⟩ := hstart fun program =>
      (expression.build true program).bind fun built => built.program.add 1 built.joint
    obtain ⟨after, hafter, -⟩ := (h.bind (takes_joint 1)) program
      (by simp only [bytes_program]; omega)
    exact Option.isSome_iff_exists.2 ⟨after, hprogram.trans hafter⟩

/-- **Limits kept.** An expression whose programs take less than the limit, both ways, is not too
large. -/
theorem fits_of_takes {expression : Expression} {bytes : Bool → Nat}
    (h : ∀ backwards, Takes (expression.build backwards) (bytes backwards))
    (hbytes : ∀ backwards, surroundingBytes + bytes backwards ≤ Program.largestProgram) :
    expression.fits = true := by
  unfold fits
  rw [isSome_program? (h false) (hbytes false), isSome_program? (h true) (hbytes true)]
  exact Bool.true_or _

end Expression

end ElementRules.Pattern
