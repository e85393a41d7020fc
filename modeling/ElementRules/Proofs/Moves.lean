import ElementRules.Proofs.Identities

/-!
# Moving rules

Every operation of a rule set acts at the place of the first rule with an id (`FirstWith`):

    set.rules = before ++ rule :: after,   rule.id = id,   no id in `before` is

A move exchanges this rule with a neighbour, where there is one (`moveUp_succeeds_iff`,
`moveDown_succeeds_iff`), so that no rule is lost or changed, however many moves are made
(`run_moves_perm`).

After a move the rule is looked for again. What moved up is still the first with its id, and so a
move down takes it back. What moved down may have passed a rule with the same id, which is then
found in its stead: a move up takes it back exactly if the two ids differ (`moveUp_moveDown_iff`).
-/

namespace ElementRules.RuleSet

/-! ## The first rule with an id -/

/-- The first rule with the id, and what is before and after it. -/
structure FirstWith (set : RuleSet) (id : RuleId) (before : List Rule) (rule : Rule)
    (after : List Rule) : Prop where
  rules : set.rules = before ++ rule :: after
  id_eq : rule.id = id
  earlier : ∀ other ∈ before, other.id ≠ id

section First

variable {set : RuleSet} {id : RuleId} {before after : List Rule} {rule : Rule}

theorem exists_firstWith_iff :
    (∃ before rule after, set.FirstWith id before rule after) ↔ id ∈ set.ids := by
  constructor
  · rintro ⟨before, rule, after, h⟩
    unfold ids
    rw [← h.id_eq, h.rules]
    simp
  · intro hmem
    obtain ⟨rule, hrule⟩ := Option.ne_none_iff_exists'.1 (mt get?_eq_none_iff.1 (not_not.2 hmem))
    obtain ⟨hid, before, after, hrules, hearlier⟩ := List.find?_eq_some_iff_append.1 hrule
    refine ⟨before, rule, after, hrules, beq_iff_eq.1 hid, ?_⟩
    intro other hother
    simpa using hearlier other hother

theorem FirstWith.get?_eq (h : set.FirstWith id before rule after) : set.get? id = some rule := by
  apply List.find?_eq_some_iff_append.2
  refine ⟨beq_iff_eq.2 h.id_eq, before, after, h.rules, ?_⟩
  intro other hother
  simpa using h.earlier other hother

theorem FirstWith.place?_eq (h : set.FirstWith id before rule after) :
    set.place? id = some before.length := by
  have hbefore : before.findIdx? (·.id == id) = none := by
    rw [List.findIdx?_eq_none_iff]
    intro other hother
    simpa using h.earlier other hother
  unfold place?
  rw [h.rules, List.findIdx?_append, hbefore, List.findIdx?_cons, if_pos (beq_iff_eq.2 h.id_eq)]
  simp

end First

/-! ## One move -/

theorem swapAt_append {α : Type} (before : List α) (a b : α) (after : List α) :
    swapAt before.length (before ++ a :: b :: after) = before ++ b :: a :: after := by
  induction before with
  | nil => rfl
  | cons first before ih =>
    show first :: swapAt before.length (before ++ a :: b :: after) = _
    rw [ih]
    rfl

section Move

variable {set : RuleSet} {id : RuleId} {before after : List Rule} {rule neighbour : Rule}

theorem moves_of_not_mem (h : id ∉ set.ids) :
    set.moveUp id = (set, false) ∧ set.moveDown id = (set, false) := by
  unfold moveUp moveDown
  rw [place?_eq_none_iff.2 h]
  exact ⟨rfl, rfl⟩

theorem FirstWith.moveUp_first (h : set.FirstWith id [] rule after) :
    set.moveUp id = (set, false) := by
  unfold moveUp
  rw [h.place?_eq]
  rfl

theorem FirstWith.moveUp_eq (h : set.FirstWith id (before ++ [neighbour]) rule after) :
    set.moveUp id = (⟨before ++ rule :: neighbour :: after⟩, true) := by
  have hrules : set.rules = before ++ neighbour :: rule :: after := by
    rw [h.rules]
    simp
  unfold moveUp
  rw [h.place?_eq, List.length_append, List.length_singleton]
  dsimp only
  rw [hrules, swapAt_append]

theorem FirstWith.moveDown_last (h : set.FirstWith id before rule []) :
    set.moveDown id = (set, false) := by
  have hlast : ¬ before.length + 1 < set.rules.length := by
    rw [h.rules]
    simp
  unfold moveDown
  rw [h.place?_eq]
  dsimp only
  rw [if_neg hlast]

theorem FirstWith.moveDown_eq (h : set.FirstWith id before rule (neighbour :: after)) :
    set.moveDown id = (⟨before ++ neighbour :: rule :: after⟩, true) := by
  have hroom : before.length + 1 < set.rules.length := by
    rw [h.rules]
    simp
  unfold moveDown
  rw [h.place?_eq]
  dsimp only
  rw [if_pos hroom, h.rules, swapAt_append]

/-- A rule moves up past the one before it, and only such a rule. -/
theorem moveUp_succeeds_iff (set : RuleSet) (id : RuleId) :
    (set.moveUp id).2 = true ↔
      ∃ before neighbour rule after, set.FirstWith id (before ++ [neighbour]) rule after ∧
        set.moveUp id = (⟨before ++ rule :: neighbour :: after⟩, true) := by
  constructor
  · intro hmoved
    by_cases hmem : id ∈ set.ids
    · obtain ⟨before, rule, after, h⟩ := exists_firstWith_iff.2 hmem
      rcases List.eq_nil_or_concat' before with rfl | ⟨before, neighbour, rfl⟩
      · rw [h.moveUp_first] at hmoved
        cases hmoved
      · exact ⟨before, neighbour, rule, after, h, h.moveUp_eq⟩
    · rw [(moves_of_not_mem hmem).1] at hmoved
      cases hmoved
  · rintro ⟨before, neighbour, rule, after, -, hmoved⟩
    rw [hmoved]

/-- A rule moves down past the one after it, and only such a rule. -/
theorem moveDown_succeeds_iff (set : RuleSet) (id : RuleId) :
    (set.moveDown id).2 = true ↔
      ∃ before rule neighbour after, set.FirstWith id before rule (neighbour :: after) ∧
        set.moveDown id = (⟨before ++ neighbour :: rule :: after⟩, true) := by
  constructor
  · intro hmoved
    by_cases hmem : id ∈ set.ids
    · obtain ⟨before, rule, after, h⟩ := exists_firstWith_iff.2 hmem
      cases after with
      | nil =>
        rw [h.moveDown_last] at hmoved
        cases hmoved
      | cons neighbour after => exact ⟨before, rule, neighbour, after, h, h.moveDown_eq⟩
    · rw [(moves_of_not_mem hmem).2] at hmoved
      cases hmoved
  · rintro ⟨before, rule, neighbour, after, -, hmoved⟩
    rw [hmoved]

/-- What can be asked beforehand is the answer of the move. -/
theorem canMove_eq (set : RuleSet) (id : RuleId) :
    set.canMoveUp id = (set.moveUp id).2 ∧ set.canMoveDown id = (set.moveDown id).2 := by
  unfold canMoveUp canMoveDown moveUp moveDown
  cases set.place? id with
  | none => exact ⟨rfl, rfl⟩
  | some place =>
    constructor
    · cases place <;> rfl
    · by_cases hroom : place + 1 < set.rules.length <;> simp [hroom]

/-- A move that is refused leaves the set as it is. -/
theorem moves_refused (set : RuleSet) (id : RuleId) :
    ((set.moveUp id).2 = false → (set.moveUp id).1 = set) ∧
      ((set.moveDown id).2 = false → (set.moveDown id).1 = set) := by
  unfold moveUp moveDown
  constructor
  · split
    · rintro ⟨⟩
    · intro _
      rfl
  · split
    · split
      · rintro ⟨⟩
      · intro _
        rfl
    · intro _
      rfl

/-! ## Back again -/

/-- What moved up is still the first with its id. -/
theorem FirstWith.moveDown_moveUp (h : set.FirstWith id (before ++ [neighbour]) rule after) :
    (set.moveUp id).1.moveDown id = (set, true) := by
  have hmoved : FirstWith ⟨before ++ rule :: neighbour :: after⟩ id before rule
      (neighbour :: after) :=
    ⟨rfl, h.id_eq, fun other hother => h.earlier other (List.mem_append_left _ hother)⟩
  have hback : before ++ neighbour :: rule :: after = set.rules := by
    rw [h.rules]
    simp
  rw [h.moveUp_eq, hmoved.moveDown_eq, hback]

/-- What moved down is found again only if it did not pass a rule with its id. -/
theorem FirstWith.moveUp_moveDown_iff (h : set.FirstWith id before rule (neighbour :: after)) :
    (set.moveDown id).1.moveUp id = (set, true) ↔ neighbour.id ≠ id := by
  rw [h.moveDown_eq]
  constructor
  · intro hback hsame
    have hmoved : FirstWith ⟨before ++ neighbour :: rule :: after⟩ id before neighbour
        (rule :: after) := ⟨rfl, hsame, h.earlier⟩
    rcases List.eq_nil_or_concat' before with rfl | ⟨before, previous, rfl⟩
    · rw [hmoved.moveUp_first] at hback
      cases hback
    · rw [hmoved.moveUp_eq] at hback
      -- The rule before would have to stand where the one with the id is.
      have hrules : before ++ neighbour :: previous :: rule :: after =
          before ++ previous :: rule :: neighbour :: after := by
        have hset := congrArg RuleSet.rules (congrArg Prod.fst hback)
        rw [h.rules] at hset
        simpa using hset
      have hprevious : previous.id = id := by
        have hheads := List.append_cancel_left hrules
        rw [List.cons.injEq] at hheads
        rw [← hheads.1, hsame]
      exact h.earlier previous (by simp) hprevious
  · intro hother
    have hmoved : FirstWith ⟨before ++ neighbour :: rule :: after⟩ id (before ++ [neighbour]) rule
        after := by
      refine ⟨by simp, h.id_eq, ?_⟩
      intro other hmem
      rcases List.mem_append.1 hmem with hbefore | hlast
      · exact h.earlier other hbefore
      · rw [List.mem_singleton.1 hlast]
        exact hother
    rw [hmoved.moveUp_eq, ← h.rules]

end Move

/-! ## Any number of moves -/

/-- The operation moves a rule. -/
def Operation.IsMove : Operation → Prop
  | .moveUp _ | .moveDown _ => True
  | _ => False

theorem rules_perform_perm (set : RuleSet) {operation : Operation} (h : operation.IsMove) :
    (set.perform operation).rules.Perm set.rules := by
  cases operation with
  | moveUp id => exact rules_moveUp set id
  | moveDown id => exact rules_moveDown set id
  | _ => exact h.elim

theorem run_moves_perm (set : RuleSet) {operations : List Operation}
    (h : ∀ operation ∈ operations, operation.IsMove) :
    (set.run operations).rules.Perm set.rules := by
  induction operations generalizing set with
  | nil => exact .refl _
  | cons operation later ih =>
    have hfirst := rules_perform_perm set (h operation List.mem_cons_self)
    exact (ih _ fun other hother => h other (List.mem_cons_of_mem _ hother)).trans hfirst

/-- **Moves exchange neighbours.** A move tells whether it was possible, which can be asked
beforehand. A refused move changes nothing. A move that succeeds exchanges the first rule with the
id and the one before or after it, and nothing else, so that any number of moves rearranges the
rules and keeps each as it is. A move up is undone by a move down; where ids are distinct, a move
down is undone by a move up. -/
theorem moves_exchange_neighbours (set : RuleSet) (id : RuleId) :
    ((set.moveUp id).2 = set.canMoveUp id ∧ (set.moveDown id).2 = set.canMoveDown id) ∧
    ((set.moveUp id).2 = false → (set.moveUp id).1 = set) ∧
    ((set.moveDown id).2 = false → (set.moveDown id).1 = set) ∧
    ((set.moveUp id).2 = true ↔
      ∃ before neighbour rule after, set.FirstWith id (before ++ [neighbour]) rule after ∧
        set.moveUp id = (⟨before ++ rule :: neighbour :: after⟩, true)) ∧
    ((set.moveDown id).2 = true ↔
      ∃ before rule neighbour after, set.FirstWith id before rule (neighbour :: after) ∧
        set.moveDown id = (⟨before ++ neighbour :: rule :: after⟩, true)) ∧
    (∀ moves : List Operation, (∀ move ∈ moves, move.IsMove) →
      (set.run moves).rules.Perm set.rules) ∧
    ((set.moveUp id).2 = true → (set.moveUp id).1.moveDown id = (set, true)) ∧
    (set.ids.Nodup → (set.moveDown id).2 = true →
      (set.moveDown id).1.moveUp id = (set, true)) := by
  obtain ⟨hup, hdown⟩ := canMove_eq set id
  obtain ⟨hupRefused, hdownRefused⟩ := moves_refused set id
  refine ⟨⟨hup.symm, hdown.symm⟩, hupRefused, hdownRefused, moveUp_succeeds_iff set id,
    moveDown_succeeds_iff set id, fun _ => run_moves_perm set, ?_, ?_⟩
  · intro hmoved
    obtain ⟨before, neighbour, rule, after, h, -⟩ := (moveUp_succeeds_iff set id).1 hmoved
    exact h.moveDown_moveUp
  · intro hdistinct hmoved
    obtain ⟨before, rule, neighbour, after, h, -⟩ := (moveDown_succeeds_iff set id).1 hmoved
    apply h.moveUp_moveDown_iff.2
    intro hsame
    unfold ids at hdistinct
    rw [h.rules, List.map_append, List.map_cons, List.map_cons, h.id_eq, hsame] at hdistinct
    obtain ⟨-, hlater, -⟩ := List.nodup_append.1 hdistinct
    exact (List.nodup_cons.1 hlater).1 List.mem_cons_self

/-- *Level is …*, for three levels. -/
def threeLevels : RuleSet :=
  ⟨[levelNamed "Cellar", (levelNamed "Ground").duplicate (.ofNat 2),
    (levelNamed "Roof").duplicate (.ofNat 3)]⟩

/-- The first of the three again, under the id of the second. -/
def crowdedLevels : RuleSet :=
  ⟨(levelNamed "Cellar").duplicate (.ofNat 2) :: threeLevels.rules⟩

/-- The middle one of three is moved up and down again, and down and up again. Where its id comes
twice, the first rule is found and cannot be moved up. -/
theorem threeLevels_moves :
    threeLevels.ids.Nodup ∧ (threeLevels.moveUp (.ofNat 2)).2 = true ∧
      (threeLevels.moveUp (.ofNat 2)).1.moveDown (.ofNat 2) = (threeLevels, true) ∧
      (threeLevels.moveDown (.ofNat 2)).1.moveUp (.ofNat 2) = (threeLevels, true) ∧
      (threeLevels.run [.moveUp (.ofNat 3), .moveDown (.ofNat 1)]).rules.Perm threeLevels.rules ∧
      crowdedLevels.canMoveUp (.ofNat 2) = false ∧
      (crowdedLevels.moveUp (.ofNat 2)).1 = crowdedLevels := by
  obtain ⟨⟨hup, hdown⟩, -, -, -, -, hperm, hback, hforth⟩ :=
    moves_exchange_neighbours threeLevels (.ofNat 2)
  have hdistinct : threeLevels.ids.Nodup := by decide +kernel
  have hcan : threeLevels.canMoveUp (.ofNat 2) = true ∧
      threeLevels.canMoveDown (.ofNat 2) = true := by
    constructor <;> decide +kernel
  have hmoves : ∀ move ∈ [Operation.moveUp (.ofNat 3), .moveDown (.ofNat 1)], move.IsMove := by
    simp [Operation.IsMove]
  obtain ⟨⟨hcrowded, -⟩, hrefused, -⟩ := moves_exchange_neighbours crowdedLevels (.ofNat 2)
  have hfirst : crowdedLevels.canMoveUp (.ofNat 2) = false := by decide +kernel
  refine ⟨hdistinct, hup.trans hcan.1, hback (hup.trans hcan.1),
    hforth hdistinct (hdown.trans hcan.2), hperm _ hmoves, hfirst, ?_⟩
  exact hrefused (hcrowded.trans hfirst)

end ElementRules.RuleSet
