import ElementRules.Model.Element

/-!
A building model: its elements and the entities that they belong to, each kind in the order of
addition. All ids come from one counter, so no two things share one, and an id that an element names
may still belong to nothing.
-/

namespace ElementRules

/-- A category, phase, design option, workset or view. -/
structure Entity where
  id : ElementId
  name : String
deriving DecidableEq, Repr

structure Level where
  id : ElementId
  name : String
  /-- In feet. -/
  elevation : Double
deriving DecidableEq

structure Family where
  id : ElementId
  name : String
  inPlace : Bool
  /-- The types of the family. -/
  types : List ElementId
deriving DecidableEq, Repr

structure Model where
  /-- The last id that was given out. -/
  lastId : UInt64
  elements : List Element
  /-- The places of the elements in their list, by id. Of two entries for an id the newer counts. -/
  index : List (ElementId × Nat)
  categories : List Entity
  levels : List Level
  /-- In their sequence in time. -/
  phases : List Entity
  designOptions : List Entity
  worksets : List Entity
  views : List Entity
  families : List Family

namespace Model

def empty : Model := ⟨0, [], [], [], [], [], [], [], [], []⟩

/-! ## Queries -/

/-- The element at the place that the index has for the id. -/
def element? (model : Model) (id : ElementId) : Option Element :=
  (model.index.lookup id).bind (model.elements[·]?)

/-- The types among the elements, in their order. -/
def types (model : Model) : List Element := model.elements.filter (·.isType)

def elementsInCategory (model : Model) (id : ElementId) : List Element :=
  model.elements.filter (·.category == some id)

/-! ## Additions -/

/-- What can be added. -/
inductive Addition
  | category (name : String)
  | phase (name : String)
  | designOption (name : String)
  | workset (name : String)
  | view (name : String)
  | level (name : String) (elevation : Double)
  | family (name : String) (inPlace : Bool)
  | type (name : String) (family : Option ElementId)
  | element (element : Element)

/-- Enters a type at the first family with this id. -/
def registerType (type : ElementId) (family : ElementId) : List Family → List Family
  | [] => []
  | first :: rest =>
    if first.id = family then { first with types := first.types ++ [type] } :: rest
    else first :: registerType type family rest

def nextId (model : Model) : ElementId := ⟨model.lastId + 1⟩

/-- Puts an element at the end of the list, and its place into the index. -/
def append (model : Model) (element : Element) : Model :=
  { model with
    elements := model.elements ++ [element]
    index := (element.id, model.elements.length) :: model.index }

/-- Adds one thing under the next id. The id that an element carried before is dropped. -/
def add (model : Model) (addition : Addition) : Model :=
  let id := model.nextId
  let model := { model with lastId := id.val }
  match addition with
  | .category name => { model with categories := model.categories ++ [⟨id, name⟩] }
  | .phase name => { model with phases := model.phases ++ [⟨id, name⟩] }
  | .designOption name => { model with designOptions := model.designOptions ++ [⟨id, name⟩] }
  | .workset name => { model with worksets := model.worksets ++ [⟨id, name⟩] }
  | .view name => { model with views := model.views ++ [⟨id, name⟩] }
  | .level name elevation => { model with levels := model.levels ++ [⟨id, name, elevation⟩] }
  | .family name inPlace => { model with families := model.families ++ [⟨id, name, inPlace, []⟩] }
  | .type name family =>
    { model.append { Element.typeNamed name family with id } with
      families := match family with
        | some family => registerType id family model.families
        | none => model.families }
  | .element element => model.append { element with id }

/-- A model from a sequence of additions. -/
def ofAdditions (additions : List Addition) : Model := additions.foldl add empty

end Model

end ElementRules
