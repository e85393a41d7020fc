import ElementRules.Proofs.Moves
import ElementRules.Proofs.OperatorFold

/-!
# What a copy does to the selection

A copy of a rule stands right after it and is joined to it by the operator of the rule
(`FirstWith.rules_duplicate`). Joined by *and*, it makes no difference: its conjunction asks the
same twice. Joined by *or*, it takes the place of the rule at the head of a conjunction, and leaves
the rule on its own:

    … or rule and next …   becomes   … or rule or rule and next …

So the set with the copy selects what the set selected, and under *or* also what the rule selects by
itself (`alternatives_copy`). The operator of the first rule of a set joins it to nothing, but that
of its copy does. No element is lost, and one is gained only if it passes the rule and fails those
that follow it with *and* (`duplicate_widens`).
-/

namespace ElementRules

/-! ## Expressions, operand by operand -/

namespace Expression

variable {α : Type} (holds : α → Bool)

/-- The value of the first conjunction. -/
def leads : Expression α → Bool
  | .single conjunction => conjunction.value holds
  | .or first _ => first.value holds

/-- The value of the conjunctions after the first. -/
def follows : Expression α → Bool
  | .single _ => false
  | .or _ rest => rest.value holds

/-- All operands up to the next *or* hold. -/
def conjoined : List (Operator × α) → Bool
  | (.and, operand) :: rest => holds operand && conjoined rest
  | _ => true

/-- All operands of a conjunction hold that comes after an *or*. -/
def alternatives : List (Operator × α) → Bool
  | [] => false
  | (.and, _) :: rest => alternatives rest
  | (.or, operand) :: rest => (holds operand && conjoined holds rest) || alternatives rest

theorem value_eq_or (expression : Expression α) :
    expression.value holds = (expression.leads holds || expression.follows holds) := by
  cases expression with
  | single conjunction => exact (Bool.or_false _).symm
  | or first rest => rfl

theorem leads_prepend (operand : α) (expression : Expression α) :
    (expression.prepend operand).leads holds = (holds operand && expression.leads holds) := by
  cases expression <;> rfl

theorem follows_prepend (operand : α) (expression : Expression α) :
    (expression.prepend operand).follows holds = expression.follows holds := by
  cases expression <;> rfl

theorem leads_read (first : α) (rest : List (Operator × α)) :
    (read first rest).leads holds = (holds first && conjoined holds rest) := by
  induction rest generalizing first with
  | nil => exact (Bool.and_true _).symm
  | cons joined rest ih =>
    obtain ⟨operator, next⟩ := joined
    cases operator with
    | and =>
      rw [read, leads_prepend, ih]
      rfl
    | or => exact (Bool.and_true _).symm

theorem follows_read (first : α) (rest : List (Operator × α)) :
    (read first rest).follows holds = alternatives holds rest := by
  induction rest generalizing first with
  | nil => rfl
  | cons joined rest ih =>
    obtain ⟨operator, next⟩ := joined
    cases operator with
    | and =>
      rw [read, follows_prepend, ih]
      rfl
    | or =>
      show (read next rest).value holds = _
      rw [value_eq_or, leads_read, ih]
      rfl

theorem value_read (first : α) (rest : List (Operator × α)) :
    (read first rest).value holds =
      ((holds first && conjoined holds rest) || alternatives holds rest) := by
  rw [value_eq_or, leads_read, follows_read]

/-! ### An operand and its copy -/

variable {holds}

/-- A copy keeps the first conjunction as it is, and under *or* adds its operand to the others. What
stands before the copy starts a conjunction or is joined as the copy is. -/
theorem parts_copy {operand copy : α} (hcopy : holds copy = holds operand)
    {former operator : Operator} (hformer : former = .or ∨ former = operator)
    (before after : List (Operator × α)) :
    conjoined holds (before ++ (former, operand) :: (operator, copy) :: after) =
        conjoined holds (before ++ (former, operand) :: after) ∧
      alternatives holds (before ++ (former, operand) :: (operator, copy) :: after) =
        (alternatives holds (before ++ (former, operand) :: after) ||
          (operator == .or && holds operand)) := by
  induction before with
  | nil =>
    cases operator with
    | and => cases former <;> simp [conjoined, alternatives, hcopy]
    | or =>
      obtain rfl : former = .or := hformer.elim id id
      refine ⟨rfl, ?_⟩
      simp only [List.nil_append, alternatives, conjoined, hcopy, beq_self_eq_true, Bool.true_and,
        Bool.and_true]
      cases holds operand <;> simp
  | cons joined before ih =>
    obtain ⟨earlier, first⟩ := joined
    obtain ⟨hconjoined, halternatives⟩ := ih
    cases earlier with
    | and =>
      simp only [List.cons_append, conjoined, alternatives, hconjoined, halternatives, and_self]
    | or =>
      simp only [List.cons_append, conjoined, alternatives, hconjoined, halternatives,
        Bool.or_assoc, and_self]

/-- A conjunction after an *or* is enough. -/
theorem alternatives_of_conjoined {operand : α} {after : List (Operator × α)}
    (h : (holds operand && conjoined holds after) = true) (before : List (Operator × α)) :
    alternatives holds (before ++ (.or, operand) :: after) = true := by
  induction before with
  | nil =>
    rw [List.nil_append, alternatives, h, Bool.true_or]
  | cons joined before ih =>
    obtain ⟨operator, first⟩ := joined
    cases operator with
    | and => exact ih
    | or =>
      rw [List.cons_append, alternatives, ih, Bool.or_true]

end Expression

/-! ## A rule and its copy -/

namespace RuleSet

/-- The rules, each as it is joined. The first rule starts a conjunction whatever its operator. -/
def row : List Rule → List (Operator × Rule)
  | [] => []
  | first :: rest => (.or, first) :: joined rest

/-- In a row, a rule starts a conjunction or is joined by its operator. -/
theorem exists_row (before : List Rule) (rule : Rule) :
    ∃ start former, (former = .or ∨ former = rule.operator) ∧
      ∀ after, row (before ++ rule :: after) = start ++ (former, rule) :: joined after := by
  cases before with
  | nil => exact ⟨[], .or, .inl rfl, fun _ => rfl⟩
  | cons first before =>
    refine ⟨(.or, first) :: joined before, rule.operator, .inr rfl, ?_⟩
    intro after
    show (.or, first) :: joined (before ++ rule :: after) = _
    unfold joined
    rw [List.map_append]
    rfl

section Values

variable {holds : Rule → Bool} {rule copy : Rule}

/-- Under *and* a copy makes no difference; under *or* its rule is enough. -/
theorem alternatives_copy (hoperator : copy.operator = rule.operator)
    (hcopy : holds copy = holds rule) (before after : List Rule) :
    Expression.alternatives holds (row (before ++ rule :: copy :: after)) =
      (Expression.alternatives holds (row (before ++ rule :: after)) ||
        (rule.operator == .or && holds rule)) := by
  obtain ⟨start, former, hformer, hrow⟩ := exists_row before rule
  rw [hrow, hrow, ← hoperator]
  rw [← hoperator] at hformer
  exact (Expression.parts_copy hcopy hformer start (joined after)).2

/-- A rule under *or* is enough by itself, unless *and* joins the next rule to it. -/
theorem followed_by_and (hoperator : rule.operator = .or) (hholds : holds rule = true)
    {before after : List Rule}
    (hmissed : Expression.alternatives holds (row (before ++ rule :: after)) = false) :
    ∃ next later, after = next :: later ∧ next.operator = .and := by
  obtain ⟨start, former, hformer, hrow⟩ := exists_row before rule
  obtain rfl : former = .or := hformer.elim id (·.trans hoperator)
  rw [hrow] at hmissed
  have hopen : ¬ Expression.conjoined holds (joined after) = true := by
    intro hconjoined
    have hfound : (holds rule && Expression.conjoined holds (joined after)) = true := by
      rw [hholds, hconjoined, Bool.true_and]
    rw [Expression.alternatives_of_conjoined hfound start] at hmissed
    cases hmissed
  cases after with
  | nil => exact absurd rfl hopen
  | cons next later =>
    cases hnext : next.operator with
    | and => exact ⟨next, later, rfl, hnext⟩
    | or =>
      refine absurd ?_ hopen
      show Expression.conjoined holds ((next.operator, next) :: joined later) = true
      rw [hnext]
      rfl

end Values

theorem insertIdx_after {α : Type} (before : List α) (entry copy : α) (after : List α) :
    (before ++ entry :: after).insertIdx (before.length + 1) copy =
      before ++ entry :: copy :: after := by
  induction before with
  | nil => rfl
  | cons first before ih =>
    rw [List.cons_append, List.length_cons, List.insertIdx_succ_cons, ih]
    rfl

section Duplicate

variable (settings : Settings) (model : Model) {set : RuleSet} {id : RuleId}

theorem FirstWith.rules_duplicate {before after : List Rule} {rule : Rule}
    (h : set.FirstWith id before rule after) (fresh : RuleId) :
    (set.duplicate id fresh).rules = before ++ rule :: rule.duplicate fresh :: after := by
  unfold duplicate
  rw [h.place?_eq, h.get?_eq]
  dsimp only
  rw [h.rules, insertIdx_after]

theorem exists_combined_of_ne_nil (h : set.rules ≠ []) :
    ∃ filter, (set.compile settings model).combined = some filter ∧
      ∀ element, filter.selects element =
        Expression.alternatives (Rule.selectsIn settings model element) (row set.rules) := by
  cases hrules : set.rules with
  | nil => exact absurd hrules h
  | cons first rest =>
    obtain ⟨filter, hcombined, hselects⟩ := exists_combined settings model hrules
    refine ⟨filter, hcombined, ?_⟩
    intro element
    rw [hselects, Expression.value_read]
    rfl

theorem selectsIn_duplicate (rule : Rule) (fresh : RuleId) (element : Element) :
    (rule.duplicate fresh).selectsIn settings model element =
      rule.selectsIn settings model element := by
  unfold Rule.selectsIn
  rw [Rule.compile_duplicate]

/-- **A copy never narrows the selection.** The first rule with the id gets a copy right after it,
which differs from it only in the id; all other rules stay as they are. An element is selected with
the copy exactly if it is selected without, or if the operator of the rule is *or* and the rule
compiles and selects it. So an element is gained only where an *or* rule is followed by *and*. -/
theorem duplicate_widens (h : id ∈ set.ids) (fresh : RuleId) :
    ∃ before rule after, set.FirstWith id before rule after ∧
      (set.duplicate id fresh).rules = before ++ rule :: { rule with id := fresh } :: after ∧
      ∃ filter copied, (set.compile settings model).combined = some filter ∧
        ((set.duplicate id fresh).compile settings model).combined = some copied ∧
        ∀ element,
          (copied.selects element = true ↔ filter.selects element = true ∨
            rule.operator = .or ∧ rule.selectsIn settings model element = true) ∧
          (copied.selects element = true → filter.selects element = false →
            rule.operator = .or ∧ ∃ next later, after = next :: later ∧ next.operator = .and) := by
  obtain ⟨before, rule, after, hfirst⟩ := exists_firstWith_iff.2 h
  have hduplicate := hfirst.rules_duplicate fresh
  have hrules : set.rules ≠ [] := by
    rw [hfirst.rules]
    exact List.append_ne_nil_of_right_ne_nil _ (List.cons_ne_nil _ _)
  have hcopyRules : (set.duplicate id fresh).rules ≠ [] := by
    rw [hduplicate]
    exact List.append_ne_nil_of_right_ne_nil _ (List.cons_ne_nil _ _)
  obtain ⟨filter, hfilter, hselects⟩ := exists_combined_of_ne_nil settings model hrules
  obtain ⟨copied, hcopied, hcopySelects⟩ := exists_combined_of_ne_nil settings model hcopyRules
  have hiff (element : Element) : copied.selects element = true ↔ filter.selects element = true ∨
      rule.operator = .or ∧ rule.selectsIn settings model element = true := by
    have hoperator : (rule.duplicate fresh).operator = rule.operator := rfl
    have hcopy := selectsIn_duplicate settings model rule fresh element
    rw [hcopySelects, hselects, hduplicate, hfirst.rules, alternatives_copy hoperator hcopy,
      Bool.or_eq_true, Bool.and_eq_true, beq_iff_eq]
  refine ⟨before, rule, after, hfirst, hduplicate, filter, copied, hfilter, hcopied, ?_⟩
  intro element
  refine ⟨hiff element, ?_⟩
  intro hgained hmissed
  rcases (hiff element).1 hgained with hkept | ⟨hor, hrule⟩
  · rw [hmissed] at hkept
    cases hkept
  · rw [hselects, hfirst.rules] at hmissed
    exact ⟨hor, followed_by_and hor hrule hmissed⟩

/-- *Types, if they have a host*, joined by *or* to a rule that does not compile. -/
def hostedTypes : RuleSet :=
  ⟨[Rule.create (.ofNat 1) .room,
    ((Rule.create (.ofNat 2) .typeOrInstance).apply (.operator .or)).1,
    Rule.create (.ofNat 3) .host]⟩

/-- A second *or* rule on types also takes in the types without a host. -/
theorem hostedTypes_widens :
    .ofNat 2 ∈ hostedTypes.ids ∧
      ∃ filter copied, (hostedTypes.compile .standard .empty).combined = some filter ∧
        ((hostedTypes.duplicate (.ofNat 2) (.ofNat 4)).compile .standard .empty).combined =
          some copied ∧
        filter.selects (Element.typeNamed "Lamp" none) = false ∧
        copied.selects (Element.typeNamed "Lamp" none) = true ∧
        copied.selects (Element.named "Lamp") = false := by
  have hmem : .ofNat 2 ∈ hostedTypes.ids := by decide +kernel
  obtain ⟨before, rule, after, hfirst, -, filter, copied, hfilter, hcopied, hselects⟩ :=
    duplicate_widens .standard .empty hmem (.ofNat 4)
  have hfound : hostedTypes.get? (.ofNat 2) =
      some ((Rule.create (.ofNat 2) .typeOrInstance).apply (.operator .or)).1 := by
    decide +kernel
  obtain rfl := Option.some.inj (hfirst.get?_eq.symm.trans hfound)
  have hnone : ∀ element ∈ [Element.typeNamed "Lamp" none, Element.named "Lamp"],
      filter.selects element = false := by
    have hevaluated : (hostedTypes.compile .standard .empty).combined.map (fun filter =>
        [Element.typeNamed "Lamp" none, Element.named "Lamp"].all (!filter.selects ·)) =
        some true := by
      decide +kernel
    rw [hfilter] at hevaluated
    simpa using hevaluated
  refine ⟨hmem, filter, copied, hfilter, hcopied, hnone _ (by simp), ?_, ?_⟩
  · rw [(hselects _).1]
    exact .inr ⟨by decide +kernel, by decide +kernel⟩
  · rw [← Bool.not_eq_true, (hselects _).1, not_or]
    refine ⟨by simp [hnone], ?_⟩
    rintro ⟨-, hselected⟩
    revert hselected
    decide +kernel

end Duplicate

end RuleSet

end ElementRules
