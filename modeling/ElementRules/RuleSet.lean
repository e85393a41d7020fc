import ElementRules.Compilation

/-!
Ordered sets of rules. Every rule is compiled on its own, so a rule that fails is reported and the
others are not affected. The filters are then folded by the operators of the rules: *and* binds
tighter than *or*, and the operator of the first rule has no effect. A rule that failed selects
nothing in the fold, which can empty its group but never widen the selection.
-/

namespace ElementRules

structure RuleSet where
  rules : List Rule
deriving DecidableEq

namespace RuleSet

def empty : RuleSet := ⟨[]⟩

/-! ## Editing -/

def push (set : RuleSet) (rule : Rule) : RuleSet := ⟨set.rules ++ [rule]⟩

/-- The first rule with this id. -/
def get? (set : RuleSet) (id : RuleId) : Option Rule := set.rules.find? (·.id == id)

/-- The place of the first rule with this id. -/
def place? (set : RuleSet) (id : RuleId) : Option Nat := set.rules.findIdx? (·.id == id)

def remove (set : RuleSet) (id : RuleId) : RuleSet := ⟨set.rules.eraseP (·.id == id)⟩

/-- Changes the first rule with this id. -/
def modify (set : RuleSet) (id : RuleId) (change : Rule → Rule) : RuleSet :=
  match set.place? id with
  | some place => ⟨set.rules.modify place change⟩
  | none => set

/-- Puts a copy of the rule, under a fresh id, right after it. -/
def duplicate (set : RuleSet) (id fresh : RuleId) : RuleSet :=
  match set.place? id, set.get? id with
  | some place, some rule => ⟨set.rules.insertIdx (place + 1) (rule.duplicate fresh)⟩
  | _, _ => set

def canMoveUp (set : RuleSet) (id : RuleId) : Bool :=
  match set.place? id with
  | some place => 0 < place
  | none => false

def canMoveDown (set : RuleSet) (id : RuleId) : Bool :=
  match set.place? id with
  | some place => place + 1 < set.rules.length
  | none => false

/-- Exchanges the entry at a place with the one after it. -/
def swapAt {α : Type} : Nat → List α → List α
  | 0, a :: b :: rest => b :: a :: rest
  | place + 1, a :: rest => a :: swapAt place rest
  | _, entries => entries

/-- Exchanges the rule with the one before it, and tells whether there is one. -/
def moveUp (set : RuleSet) (id : RuleId) : RuleSet × Bool :=
  match set.place? id with
  | some (place + 1) => (⟨swapAt place set.rules⟩, true)
  | _ => (set, false)

/-- Exchanges the rule with the one after it, and tells whether there is one. -/
def moveDown (set : RuleSet) (id : RuleId) : RuleSet × Bool :=
  match set.place? id with
  | some place =>
    if place + 1 < set.rules.length then (⟨swapAt place set.rules⟩, true) else (set, false)
  | none => (set, false)

/-! ## Compiling -/

structure Diagnostic where
  rule : RuleId
  failure : Failure

structure Compiled where
  /-- The filters of the rules that compiled, in order. -/
  filters : List (RuleId × Filter)
  diagnostics : List Diagnostic
  /-- The fold of all rules; none for an empty set. -/
  combined : Option Filter

/-- What a rule contributes to the fold. -/
def standIn (outcome : Except Failure Filter) : Filter :=
  match outcome with
  | .ok filter => filter
  | .error _ => .never

/-- Splits filters into groups: every *or* after the first filter starts a new one. -/
def groups : List (Operator × Filter) → List (List Filter)
  | [] => []
  | (_, filter) :: rest =>
    match rest, groups rest with
    | (.and, _) :: _, group :: others => (filter :: group) :: others
    | _, others => [filter] :: others

/-- The filter that selects where all of some group select. -/
def fold (filters : List (Operator × Filter)) : Option Filter :=
  match (groups filters).filterMap fun group => (Filter.all? group).toOption with
  | [] => none
  | conjunctions => some (Filter.any conjunctions)

def compile (settings : Settings) (model : Model) (set : RuleSet) : Compiled :=
  let outcomes := set.rules.map fun rule => (rule, rule.compile settings model)
  { filters := outcomes.filterMap fun (rule, outcome) =>
      match outcome with
      | .ok filter => some (rule.id, filter)
      | .error _ => none
    diagnostics := outcomes.filterMap fun (rule, outcome) =>
      match outcome with
      | .ok _ => none
      | .error failure => some ⟨rule.id, failure⟩
    combined := fold (outcomes.map fun (rule, outcome) => (rule.operator, standIn outcome)) }

namespace Compiled

/-- Every rule compiled. -/
def isComplete (compiled : Compiled) : Bool := compiled.diagnostics.isEmpty

def filter? (compiled : Compiled) (id : RuleId) : Option Filter :=
  (compiled.filters.find? (·.1 == id)).map (·.2)

/-- The elements that the fold selects. -/
def select (compiled : Compiled) (model : Model) : List Element :=
  match compiled.combined with
  | some filter => filter.select model
  | none => []

end Compiled

end RuleSet

end ElementRules
