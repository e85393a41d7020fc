import ElementRules.Proofs.Selection
import ElementRules.RuleSet

/-!
# The fold of a rule set

The rules of a set, with their operators between them, are one expression in which *and* binds
tighter than *or*. `Expression` is the grammar of such expressions, and each row of operands has
exactly one reading in it (`written_eq_iff`). The fold of a set means that reading
(`combined_eq_value`):

    combined.selects element  =  value of  v₁ op₂ v₂ op₃ v₃ …
    where vᵢ is "rule i compiles, and its filter selects the element"

The groups of the fold are the conjunctions of the reading (`groups_eq_members`). So none is empty,
none is refused, and no rule is lost between them.
-/

namespace ElementRules

/-! ## Expressions -/

/-- Operands joined by *and*. -/
inductive Conjunction (α : Type)
  | single (operand : α)
  | and (first : α) (rest : Conjunction α)

/-- Conjunctions joined by *or*. -/
inductive Expression (α : Type)
  | single (conjunction : Conjunction α)
  | or (first : Conjunction α) (rest : Expression α)

namespace Conjunction

variable {α : Type}

def value (holds : α → Bool) : Conjunction α → Bool
  | .single operand => holds operand
  | .and first rest => holds first && rest.value holds

def members : Conjunction α → List α
  | .single operand => [operand]
  | .and first rest => first :: rest.members

/-- The first operand, and the others with the operators before them. -/
def written : Conjunction α → α × List (Operator × α)
  | .single operand => (operand, [])
  | .and first rest => (first, (.and, rest.written.1) :: rest.written.2)

theorem members_ne_nil (conjunction : Conjunction α) : conjunction.members ≠ [] := by
  cases conjunction <;> exact List.cons_ne_nil _ _

theorem value_eq_all (holds : α → Bool) (conjunction : Conjunction α) :
    conjunction.value holds = conjunction.members.all holds := by
  induction conjunction with
  | single operand => rw [value, members, List.all_cons, List.all_nil, Bool.and_true]
  | and first rest ih => rw [value, members, List.all_cons, ih]

theorem members_eq_written (conjunction : Conjunction α) :
    conjunction.members = conjunction.written.1 :: conjunction.written.2.map (·.2) := by
  induction conjunction with
  | single operand => rfl
  | and first rest ih =>
    rw [members, ih]
    rfl

end Conjunction

namespace Expression

variable {α : Type}

def value (holds : α → Bool) : Expression α → Bool
  | .single conjunction => conjunction.value holds
  | .or first rest => first.value holds || rest.value holds

/-- The operands, conjunction by conjunction. -/
def members : Expression α → List (List α)
  | .single conjunction => [conjunction.members]
  | .or first rest => first.members :: rest.members

def written : Expression α → α × List (Operator × α)
  | .single conjunction => conjunction.written
  | .or first rest =>
    (first.written.1, first.written.2 ++ (.or, rest.written.1) :: rest.written.2)

/-- Puts an operand, and an *and*, before the expression. -/
def prepend (operand : α) : Expression α → Expression α
  | .single conjunction => .single (.and operand conjunction)
  | .or first rest => .or (.and operand first) rest

/-- The expression that is written so. -/
def read (first : α) : List (Operator × α) → Expression α
  | [] => .single (.single first)
  | (.and, operand) :: rest => (read operand rest).prepend first
  | (.or, operand) :: rest => .or (.single first) (read operand rest)

theorem value_eq_any_all (holds : α → Bool) (expression : Expression α) :
    expression.value holds = expression.members.any (·.all holds) := by
  induction expression with
  | single conjunction =>
    rw [value, members, List.any_cons, List.any_nil, Bool.or_false, conjunction.value_eq_all]
  | or first rest ih => rw [value, members, List.any_cons, ih, first.value_eq_all]

theorem members_ne_nil (expression : Expression α) : expression.members ≠ [] := by
  cases expression <;> exact List.cons_ne_nil _ _

theorem member_ne_nil {expression : Expression α} {member : List α}
    (h : member ∈ expression.members) : member ≠ [] := by
  induction expression with
  | single conjunction =>
    rw [List.mem_singleton.1 h]
    exact conjunction.members_ne_nil
  | or first rest ih =>
    rcases List.mem_cons.1 h with rfl | hrest
    · exact first.members_ne_nil
    · exact ih hrest

/-! ### One reading -/

theorem written_prepend (operand : α) (expression : Expression α) :
    (expression.prepend operand).written =
      (operand, (.and, expression.written.1) :: expression.written.2) := by
  cases expression <;> rfl

theorem written_read (first : α) (rest : List (Operator × α)) :
    (read first rest).written = (first, rest) := by
  induction rest generalizing first with
  | nil => rfl
  | cons next rest ih =>
    obtain ⟨operator, operand⟩ := next
    cases operator with
    | and => rw [read, written_prepend, ih]
    | or =>
      rw [read, written, ih]
      rfl

/-- A conjunction is read whole; what follows it starts with *or*, if it is not the end. -/
theorem read_conjunction (conjunction : Conjunction α) (expression : Expression α) :
    read conjunction.written.1 conjunction.written.2 = .single conjunction ∧
      read conjunction.written.1 (conjunction.written.2 ++
          (.or, expression.written.1) :: expression.written.2) =
        .or conjunction (read expression.written.1 expression.written.2) := by
  -- The shape of what follows decides how `prepend` goes on, hence both readings in one induction.
  induction conjunction with
  | single operand => exact ⟨rfl, rfl⟩
  | and first rest ih =>
    constructor
    · rw [Conjunction.written, read, ih.1]
      rfl
    · rw [Conjunction.written, List.cons_append, read, ih.2]
      rfl

theorem read_written (expression : Expression α) :
    read expression.written.1 expression.written.2 = expression := by
  induction expression with
  | single conjunction => exact (read_conjunction conjunction (.single conjunction)).1
  | or first rest ih =>
    rw [written, (read_conjunction first rest).2, ih]

/-- A row of operands is written by one expression and no other. -/
theorem written_eq_iff {first : α} {rest : List (Operator × α)} {expression : Expression α} :
    expression.written = (first, rest) ↔ expression = read first rest := by
  constructor
  · intro h
    have hread := read_written expression
    rw [h] at hread
    exact hread.symm
  · rintro rfl
    exact written_read first rest

theorem flatten_members_eq_written (expression : Expression α) :
    expression.members.flatten = expression.written.1 :: expression.written.2.map (·.2) := by
  induction expression with
  | single conjunction =>
    rw [members, List.flatten_singleton, written, conjunction.members_eq_written]
  | or first rest ih =>
    rw [members, List.flatten_cons, ih, written, first.members_eq_written, List.map_append,
      List.cons_append, List.map_cons]

end Expression

/-! ## Rules under their operators -/

namespace Rule

/-- The rule compiles, and its filter selects the element. -/
def selectsIn (settings : Settings) (model : Model) (element : Element) (rule : Rule) : Bool :=
  match rule.compile settings model with
  | .ok filter => filter.selects element
  | .error _ => false

-- Comparing the two sides whole makes Lean search the vocabularies, so it goes level by level.
section Operators

variable (settings : Settings) (model : Model) (rule : Rule) (id : RuleId) (operator : Operator)

theorem comparedNumber_relabelled :
    comparedNumber { rule with id, operator } = rule.comparedNumber := by
  have hvalue : numericValue { rule with id, operator } = rule.numericValue := rfl
  have hunits : allowsUnits { rule with id, operator } = rule.allowsUnits := rfl
  unfold comparedNumber
  rw [hvalue, hunits]

theorem parameterTest_relabelled :
    parameterTest settings { rule with id, operator } = rule.parameterTest settings := by
  have hvalue : numericValue { rule with id, operator } = rule.numericValue := rfl
  have htext : textTest settings { rule with id, operator } = rule.textTest settings := rfl
  have hfailure : unsupported { rule with id, operator } = rule.unsupported := rfl
  unfold parameterTest
  rw [comparedNumber_relabelled, hvalue, htext, hfailure]

theorem compileLiteral_relabelled :
    compilePhaseStatus model { rule with id, operator } = rule.compilePhaseStatus model ∧
      compileStructuralType { rule with id, operator } = rule.compileStructuralType := by
  have hinversion : inversion { rule with id, operator } = rule.inversion := rfl
  have hfailure : unsupported { rule with id, operator } = rule.unsupported := rfl
  constructor
  · unfold compilePhaseStatus
    rw [hinversion, hfailure]
  · unfold compileStructuralType
    rw [hinversion]

theorem compileParameter_relabelled :
    compileParameter settings model { rule with id, operator } =
        rule.compileParameter settings model ∧
      compileHostParameter settings model { rule with id, operator } =
        rule.compileHostParameter settings model := by
  have hfailure : unsupported { rule with id, operator } = rule.unsupported := rfl
  have htest := parameterTest_relabelled settings rule id operator
  constructor
  · unfold compileParameter
    rw [htest, hfailure]
  · unfold compileHostParameter
    rw [htest, hfailure]

/-- What a rule compiles to depends neither on its id nor on how it joins the rule before it. -/
theorem compile_relabelled :
    compile settings model { rule with id, operator } = rule.compile settings model := by
  have hvalidate : validate { rule with id, operator } = rule.validate := rfl
  obtain ⟨hstatus, hkind⟩ := compileLiteral_relabelled model rule id operator
  obtain ⟨hparameter, hhost⟩ := compileParameter_relabelled settings model rule id operator
  unfold compile
  rw [hvalidate, hstatus, hkind, hparameter, hhost]
  rfl

theorem compile_with_operator :
    compile settings model { rule with operator } = rule.compile settings model :=
  compile_relabelled settings model rule rule.id operator

theorem compile_duplicate (fresh : RuleId) :
    (rule.duplicate fresh).compile settings model = rule.compile settings model :=
  compile_relabelled settings model rule fresh rule.operator

end Operators

end Rule

namespace RuleSet

/-- What each rule puts into the fold, under its operator. -/
def contributions (settings : Settings) (model : Model) (set : RuleSet) :
    List (Operator × Filter) :=
  set.rules.map fun rule => (rule.operator, standIn (rule.compile settings model))

theorem combined_eq_fold (settings : Settings) (model : Model) (set : RuleSet) :
    (set.compile settings model).combined = fold (set.contributions settings model) := by
  unfold compile contributions
  dsimp only
  rw [List.map_map]
  rfl

/-- A rule that failed contributes a filter that selects nothing. -/
theorem selects_standIn (settings : Settings) (model : Model) (rule : Rule) (element : Element) :
    (standIn (rule.compile settings model)).selects element =
      rule.selectsIn settings model element := by
  unfold Rule.selectsIn
  cases rule.compile settings model with
  | ok filter => rfl
  | error failure => rw [standIn, Filter.selects]

/-! ### Groups -/

theorem groups_cons_or (operator : Operator) (filter next : Filter)
    (rest : List (Operator × Filter)) :
    groups ((operator, filter) :: (.or, next) :: rest) = [filter] :: groups ((.or, next) :: rest) :=
  rfl

theorem groups_cons_and (operator : Operator) (filter next : Filter)
    {rest : List (Operator × Filter)} {group : List Filter} {others : List (List Filter)}
    (h : groups ((.and, next) :: rest) = group :: others) :
    groups ((operator, filter) :: (.and, next) :: rest) = (filter :: group) :: others := by
  rw [groups.eq_def]
  dsimp only
  rw [h]

/-- The groups are the conjunctions of the reading, whatever the first operator. -/
theorem groups_eq_members {α : Type} (build : α → Filter) (operator : Operator) (first : α)
    (rest : List (Operator × α)) :
    groups ((operator, build first) :: rest.map fun joined => (joined.1, build joined.2)) =
      (Expression.read first rest).members.map (·.map build) := by
  -- An *and* hands the first operand on to the reading of the rest, so the first one has to vary.
  induction rest generalizing operator first with
  | nil => rfl
  | cons next rest ih =>
    obtain ⟨nextOperator, operand⟩ := next
    have hrest := ih nextOperator operand
    rw [List.map_cons]
    cases nextOperator with
    | or =>
      rw [groups_cons_or, hrest]
      rfl
    | and =>
      rw [Expression.read]
      cases hread : Expression.read operand rest with
      | single conjunction =>
        rw [hread] at hrest
        exact groups_cons_and operator _ _ hrest
      | or conjunction others =>
        rw [hread] at hrest
        exact groups_cons_and operator _ _ hrest

/-- Groups that are not empty become one conjunction each, and none is lost. -/
theorem conjunctions_spec {groups : List (List Filter)} (h : ∀ group ∈ groups, group ≠ []) :
    (groups.filterMap fun group => (Filter.all? group).toOption).length = groups.length ∧
      ∀ element, ((groups.filterMap fun group => (Filter.all? group).toOption).any
        (·.selects element)) = groups.any (·.all (·.selects element)) := by
  induction groups with
  | nil => exact ⟨rfl, fun _ => rfl⟩
  | cons group groups ih =>
    obtain ⟨hlength, hselects⟩ := ih fun other hmem => h other (List.mem_cons_of_mem group hmem)
    obtain ⟨filter, hfilter, hall⟩ := Filter.all?_eq_ok (h group List.mem_cons_self)
    have hcons : ((group :: groups).filterMap fun group => (Filter.all? group).toOption) =
        filter :: groups.filterMap fun group => (Filter.all? group).toOption := by
      rw [List.filterMap_cons, hfilter]
      rfl
    rw [hcons]
    constructor
    · rw [List.length_cons, List.length_cons, hlength]
    · intro element
      rw [List.any_cons, List.any_cons, hselects, hall]

theorem exists_fold {filters : List (Operator × Filter)} (hne : groups filters ≠ [])
    (h : ∀ group ∈ groups filters, group ≠ []) :
    ∃ filter, fold filters = some filter ∧
      ∀ element, filter.selects element = (groups filters).any (·.all (·.selects element)) := by
  obtain ⟨hlength, hselects⟩ := conjunctions_spec h
  unfold fold
  split
  · next hnone =>
    rw [hnone, List.length_nil] at hlength
    exact absurd (List.length_eq_zero_iff.1 hlength.symm) hne
  · refine ⟨_, rfl, ?_⟩
    intro element
    rw [Filter.selects_any, hselects]

/-! ### Sets of rules -/

/-- Rules with the operators before them. -/
def joined (rules : List Rule) : List (Operator × Rule) :=
  rules.map fun rule => (rule.operator, rule)

section Reading

variable (settings : Settings) (model : Model) {set : RuleSet} {first : Rule} {rest : List Rule}

theorem groups_contributions (h : set.rules = first :: rest) :
    groups (set.contributions settings model) =
      (Expression.read first (joined rest)).members.map
        (·.map fun rule => standIn (rule.compile settings model)) := by
  rw [← groups_eq_members _ first.operator]
  unfold contributions joined
  rw [h, List.map_cons, List.map_map]
  rfl

theorem group_ne_nil : ∀ group ∈ groups (set.contributions settings model), group ≠ [] := by
  intro group hmem
  cases hrules : set.rules with
  | nil =>
    unfold contributions at hmem
    rw [hrules] at hmem
    cases hmem
  | cons first rest =>
    rw [groups_contributions settings model hrules] at hmem
    obtain ⟨member, hmember, rfl⟩ := List.mem_map.1 hmem
    rw [Ne, List.map_eq_nil_iff]
    exact Expression.member_ne_nil hmember

/-- Every rule is in one group, in order. -/
theorem flatten_groups :
    (groups (set.contributions settings model)).flatten =
      (set.contributions settings model).map (·.2) := by
  cases hrules : set.rules with
  | nil =>
    unfold contributions
    rw [hrules]
    rfl
  | cons first rest =>
    rw [groups_contributions settings model hrules, ← List.map_flatten,
      Expression.flatten_members_eq_written, Expression.written_read]
    unfold contributions joined
    rw [hrules, List.map_map, List.map_cons, List.map_cons, List.map_cons, List.map_map,
      List.map_map]
    rfl

theorem exists_combined (h : set.rules = first :: rest) :
    ∃ filter, (set.compile settings model).combined = some filter ∧
      ∀ element, filter.selects element =
        (Expression.read first (joined rest)).value (Rule.selectsIn settings model element) := by
  have hgroups := groups_contributions settings model h
  have hne : groups (set.contributions settings model) ≠ [] := by
    rw [hgroups, Ne, List.map_eq_nil_iff]
    exact Expression.members_ne_nil _
  obtain ⟨filter, hfold, hselects⟩ := exists_fold hne (group_ne_nil settings model)
  refine ⟨filter, by rw [combined_eq_fold, hfold], ?_⟩
  intro element
  rw [hselects, hgroups, Expression.value_eq_any_all, List.any_map]
  congr 1
  funext member
  rw [Function.comp_apply, List.all_map]
  congr 1
  funext rule
  exact selects_standIn settings model rule element

theorem combined_eq_none_iff : (set.compile settings model).combined = none ↔ set.rules = [] := by
  constructor
  · intro hnone
    cases hrules : set.rules with
    | nil => rfl
    | cons first rest =>
      obtain ⟨filter, hcombined, -⟩ := exists_combined settings model hrules
      rw [hnone] at hcombined
      cases hcombined
  · intro hrules
    rw [combined_eq_fold]
    unfold contributions
    rw [hrules]
    rfl

/-- Nothing joins the first rule to anything, so its operator has no influence. -/
theorem combined_with_operator (h : set.rules = first :: rest) (operator : Operator) :
    (compile settings model ⟨{ first with operator } :: rest⟩).combined =
      (set.compile settings model).combined := by
  have hgroups (former : Operator) (filter : Filter) (others : List (Operator × Filter)) :
      groups ((operator, filter) :: others) = groups ((former, filter) :: others) := by
    rw [groups.eq_def, groups.eq_def]
  rw [combined_eq_fold, combined_eq_fold]
  unfold contributions fold
  rw [h, List.map_cons, List.map_cons, Rule.compile_with_operator, hgroups first.operator]

end Reading

/-- **The fold of a rule set means its expression**, in which *and* binds tighter than *or*, with no
rule left out. -/
theorem combined_eq_value (settings : Settings) (model : Model) (set : RuleSet) :
    ((set.compile settings model).combined = none ↔ set.rules = []) ∧
    (∀ first rest, set.rules = first :: rest →
      (∃ filter expression, (set.compile settings model).combined = some filter ∧
        (∀ other : Expression Rule,
          other.written = (first, joined rest) ↔ other = expression) ∧
        ∀ element, filter.selects element =
          expression.value (Rule.selectsIn settings model element)) ∧
      ∀ operator, (compile settings model ⟨{ first with operator } :: rest⟩).combined =
        (set.compile settings model).combined) ∧
    (∀ group ∈ groups (set.contributions settings model),
      group ≠ [] ∧ ∃ conjunction, Filter.all? group = .ok conjunction) ∧
    (groups (set.contributions settings model)).flatten =
      (set.contributions settings model).map (·.2) := by
  refine ⟨combined_eq_none_iff settings model, ?_, ?_, flatten_groups settings model⟩
  · intro first rest hrules
    obtain ⟨filter, hcombined, hselects⟩ := exists_combined settings model hrules
    refine ⟨⟨filter, _, hcombined, fun other => Expression.written_eq_iff, hselects⟩, ?_⟩
    intro operator
    exact combined_with_operator settings model hrules operator
  · intro group hmem
    have hne := group_ne_nil settings model group hmem
    obtain ⟨conjunction, hconjunction, -⟩ := Filter.all?_eq_ok hne
    exact ⟨hne, conjunction, hconjunction⟩

/-- *Types only, and rooms, or what has a host*; no filter exists for rooms. -/
def mixedSet : RuleSet :=
  ⟨[((Rule.create (.ofNat 1) .typeOrInstance).apply (.operator .or)).1,
    Rule.create (.ofNat 2) .room,
    ((Rule.create (.ofNat 3) .host).apply (.operator .or)).1]⟩

theorem mixedSet_combined :
    ∃ filter, (mixedSet.compile .standard .empty).combined = some filter ∧
      filter.selects (Element.typeNamed "Lamp" none) = false ∧
      filter.selects { Element.named "Lamp" with host := some ⟨1⟩ } = true := by
  obtain ⟨-, hrules, -, -⟩ := combined_eq_value .standard .empty mixedSet
  obtain ⟨⟨filter, expression, hcombined, hreading, hselects⟩, -⟩ := hrules _ _ rfl
  obtain rfl := (hreading (.or (.and _ (.single _)) (.single (.single _)))).1 rfl
  refine ⟨filter, hcombined, ?_, ?_⟩
  · rw [hselects]
    decide +kernel
  · rw [hselects]
    decide +kernel

end RuleSet

end ElementRules
