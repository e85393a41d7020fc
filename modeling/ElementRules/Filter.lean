import ElementRules.Model
import ElementRules.Test.Parameter

/-!
Filters: what a rule becomes once it is compiled against a model. A filter is a tree of predicates
under *all* and *any*, and `never`, which selects nothing. It holds all that it needs, so it can be
asked about any element.

Trees are built with `Filter.any` and `Filter.all?`, which keep the arities: no child or a lone
child makes no node.
-/

namespace ElementRules

/-! ## Predicates -/

/-- A yes-or-no question about one element. -/
inductive Predicate
  | inCategory (id : ElementId) (inverted : Bool)
  /-- The level or the reference level. -/
  | onLevel (id : ElementId)
  | withoutLevel
  | onSketchPlane (name : String)
  | ownedByView (id : ElementId)
  | hasOwnerView (flag : Bool)
  | inDesignOption (id : ElementId) (inverted : Bool)
  | withoutDesignOption
  | createdIn (phase : ElementId)
  | demolishedIn (phase : ElementId)
  | withoutPhaseCreated
  | withoutPhaseDemolished
  /-- The status seen from the phase at this place in the sequence. -/
  | phaseStatus (phases : List ElementId) (place : Nat) (status : PhaseStatus) (inverted : Bool)
  | inWorkset (id : ElementId)
  /-- A type of the family. -/
  | typeInFamily (family : ElementId)
  | instanceOf (type : ElementId)
  | typeOrInstanceOf (type : ElementId)
  | isType (flag : Bool)
  | hasHost (flag : Bool)
  | structuralType (kind : StructuralType) (inverted : Bool)
  | className (name : String)
  | among (ids : List ElementId)
  | parameter (name : String) (test : ParameterTest)

namespace Predicate

/-- An element has a status only if its phase of creation is in the sequence. -/
def hasStatus (phases : List ElementId) (place : Nat) (status : PhaseStatus) (inverted : Bool)
    (element : Element) : Bool :=
  let placeOf (phase : Option ElementId) : Option Nat := phase.bind (phases.idxOf? ·)
  match placeOf element.phaseCreated with
  | none => false
  | some created =>
    (PhaseStatus.seenFrom place created (placeOf element.phaseDemolished) == status) != inverted

def holds (predicate : Predicate) (element : Element) : Bool :=
  match predicate with
  | .inCategory id inverted => (element.category == some id) != inverted
  | .onLevel id => element.level == some id || element.referenceLevel == some id
  | .withoutLevel => element.level.isNone && element.referenceLevel.isNone
  | .onSketchPlane name => element.sketchPlane == some name
  | .ownedByView id => element.ownerView == some id
  | .hasOwnerView flag => element.ownerView.isSome == flag
  | .inDesignOption id inverted => (element.designOption == some id) != inverted
  | .withoutDesignOption => element.designOption.isNone
  | .createdIn phase => element.phaseCreated == some phase
  | .demolishedIn phase => element.phaseDemolished == some phase
  | .withoutPhaseCreated => element.phaseCreated.isNone
  | .withoutPhaseDemolished => element.phaseDemolished.isNone
  | .phaseStatus phases place status inverted => hasStatus phases place status inverted element
  | .inWorkset id => element.workset == some id
  | .typeInFamily family => element.isType && element.family == some family
  | .instanceOf type => !element.isType && element.type == some type
  | .typeOrInstanceOf type => element.id == type || element.type == some type
  | .isType flag => element.isType == flag
  | .hasHost flag => element.host.isSome == flag
  | .structuralType kind inverted => (element.structuralType == kind) != inverted
  | .className name => element.className == name
  | .among ids => ids.contains element.id
  | .parameter name test => test.passes element name

end Predicate

/-! ## Sets of ids -/

namespace ElementId

/-- Puts an id at its place in an ascending list; one that is there already stays alone. -/
def insertAscending (id : ElementId) : List ElementId → List ElementId
  | [] => [id]
  | first :: rest =>
    if id.val < first.val then id :: first :: rest
    else if id = first then first :: rest
    else first :: insertAscending id rest

/-- The ids of a list, ascending and without repetition. -/
def ascending (ids : List ElementId) : List ElementId := ids.foldr insertAscending []

theorem mem_insertAscending {a id : ElementId} {ids : List ElementId} :
    a ∈ insertAscending id ids ↔ a = id ∨ a ∈ ids := by
  induction ids with
  | nil => simp [insertAscending]
  | cons first rest ih =>
    unfold insertAscending
    grind

theorem mem_ascending {a : ElementId} {ids : List ElementId} : a ∈ ascending ids ↔ a ∈ ids := by
  induction ids with
  | nil => rfl
  | cons first rest ih => simp [ascending, mem_insertAscending, ← ih]

end ElementId

/-! ## Trees -/

inductive Filter
  /-- Selects nothing: a valid rule for which the model has no entity. -/
  | never
  | leaf (predicate : Predicate)
  | allOf (filters : List Filter)
  | anyOf (filters : List Filter)

namespace Filter

def isNever : Filter → Bool
  | .never => true
  | _ => false

mutual

def selects : Filter → Element → Bool
  | .never, _ => false
  | .leaf predicate, element => predicate.holds element
  | .allOf filters, element => allSelect filters element
  | .anyOf filters, element => anySelects filters element

def allSelect : List Filter → Element → Bool
  | [], _ => true
  | filter :: filters, element => filter.selects element && allSelect filters element

def anySelects : List Filter → Element → Bool
  | [], _ => false
  | filter :: filters, element => filter.selects element || anySelects filters element

end

theorem allSelect_eq (filters : List Filter) (element : Element) :
    allSelect filters element = filters.all (·.selects element) := by
  induction filters with
  | nil => rfl
  | cons filter filters ih => simp [allSelect, ih]

theorem anySelects_eq (filters : List Filter) (element : Element) :
    anySelects filters element = filters.any (·.selects element) := by
  induction filters with
  | nil => rfl
  | cons filter filters ih => simp [anySelects, ih]

/-- The selected elements of a model, in its order. -/
def select (filter : Filter) (model : Model) : List Element :=
  model.elements.filter filter.selects

/-- At least one of the filters selects. -/
def any : List Filter → Filter
  | [] => .never
  | [filter] => filter
  | filters => .anyOf filters

/-- All of the filters select. An empty list would have to select everything, for which there is no
tree, and is refused. -/
def all? : List Filter → Except Failure Filter
  | [] => .error (.defect .emptyConjunction)
  | [filter] => .ok filter
  | filters => .ok (.allOf filters)

/-- At least one of the predicates holds. -/
def anyHolds (predicates : List Predicate) : Filter := any (predicates.map .leaf)

end Filter

end ElementRules
