import ElementRules.Filter
import ElementRules.Rule.Reading

/-!
Compiling a rule against a model.

* Where a rule selects by named entities, the entities whose name passes its test are found first,
  and each becomes one or more predicates.
* Where it selects by a number, the value is read and converted once.
* Where it selects by a literal of a fixed vocabulary, the literal becomes one predicate.
* Parameters are tested element by element, except for what needs the whole model: duplicates, and
  the parameters of hosts, which become sets of ids.

A value that cannot be read fails before the model is looked at. A valid rule for which nothing is
found becomes `Filter.never`, and a triple without a rule is `Failure.unsupported`, never a filter
that selects everything.
-/

namespace ElementRules

namespace Rule

def unsupported (rule : Rule) : Failure :=
  .unsupported rule.category rule.property rule.condition

/-- The condition as a test of a text. -/
def textTest (settings : Settings) (rule : Rule) : Except Failure TextTest :=
  if rule.condition.isTextual then
    TextTest.build rule.condition rule.value rule.ignoreCase settings.locale
  else .error rule.unsupported

/-- The entities whose name passes the test of the rule. -/
def matching {α : Type} (settings : Settings) (rule : Rule) (name : α → String)
    (entities : List α) : Except Failure (List α) :=
  (rule.textTest settings).map fun test => entities.filter fun entity => test.passes (name entity)

/-- Whether the condition turns a literal around: equality does not, inequality does. -/
def inversion (rule : Rule) : Except Failure Bool :=
  match rule.condition with
  | .equal => .ok false
  | .notEqual => .ok true
  | _ => .error rule.unsupported

/-! ## Named entities -/

def compileCategory (settings : Settings) (model : Model) (rule : Rule) : Except Failure Filter :=
  if rule.property == PropertyName.name then
    (rule.matching settings Entity.name model.categories).map fun found =>
      Filter.anyHolds (found.map fun category => .inCategory category.id false)
  else if rule.condition == .included then
    (Literal.truth rule.value).map fun included =>
      match model.categories.find? (·.name == rule.property) with
      | some category => .leaf (.inCategory category.id (!included))
      | none => .never
  else .error rule.unsupported

/-- The types of a family, and the instances of each. -/
def familyPredicates (family : Family) : List Predicate :=
  .typeInFamily family.id :: family.types.map .instanceOf

def compileFamily (settings : Settings) (model : Model) (rule : Rule) : Except Failure Filter :=
  let found :=
    if rule.property == PropertyName.isInPlace then do
      let literal ← Literal.truth rule.value
      let inverted ← rule.inversion
      .ok (model.families.filter fun family => family.inPlace == (literal != inverted))
    else rule.matching settings Family.name model.families
  found.map fun families => Filter.anyHolds (families.flatMap familyPredicates)

def compileType (settings : Settings) (model : Model) (rule : Rule) : Except Failure Filter :=
  (rule.matching settings Element.name model.types).map fun found =>
    Filter.anyHolds (found.map fun type => .typeOrInstanceOf type.id)

/-- On the level itself, or on a sketch plane that bears its name. -/
def levelPredicates (settings : Settings) (level : Level) : List Predicate :=
  [.onLevel level.id, .onSketchPlane (settings.sketchPlanePrefix ++ level.name)]

/-- The levels at elevations that pass the test of the rule. -/
def levelsByElevation (settings : Settings) (model : Model) (rule : Rule) :
    Except Failure (List Level) := do
  let threshold ← Literal.number rule.value
  match NumberTest.build rule.condition threshold settings with
  | .ok test => .ok (model.levels.filter fun level => test.passes level.elevation)
  | .error _ => .error rule.unsupported

def compileLevel (settings : Settings) (model : Model) (rule : Rule) : Except Failure Filter :=
  let onLevels (levels : List Level) : Filter :=
    Filter.anyHolds (levels.flatMap (levelPredicates settings))
  if rule.property == PropertyName.name then
    match rule.condition with
    | .defined => .ok (onLevels model.levels)
    | .undefined => .ok (.leaf .withoutLevel)
    | _ => (rule.matching settings Level.name model.levels).map onLevels
  else if rule.property == PropertyName.elevation then
    (rule.levelsByElevation settings model).map onLevels
  else .error rule.unsupported

/-- By phase of creation or of demolition. -/
def compilePhase (settings : Settings) (model : Model) (rule : Rule)
    (inPhase : ElementId → Predicate) (without : Predicate) : Except Failure Filter :=
  let inPhases (phases : List Entity) : Filter :=
    Filter.anyHolds (phases.map fun phase => inPhase phase.id)
  match rule.condition with
  | .defined => .ok (inPhases model.phases)
  | .undefined => .ok (.leaf without)
  | _ => (rule.matching settings Entity.name model.phases).map inPhases

/-- The status is read before the phase is looked for. -/
def compilePhaseStatus (model : Model) (rule : Rule) : Except Failure Filter :=
  if rule.property.isEmpty then .error rule.unsupported
  else do
    let inverted ← rule.inversion
    match (Literal.member? rule.value : Option PhaseStatus) with
    | none => .error (.unreadable rule.value .phaseStatus)
    | some status =>
      match model.phases.findIdx? (·.name == rule.property) with
      | some place =>
        .ok (.leaf (.phaseStatus (model.phases.map (·.id)) place status inverted))
      | none => .ok .never

/-- The name of a design option without the mark of primary options and the blanks around it. -/
def optionName (settings : Settings) (option : Entity) : String :=
  Text.trim (Text.removeAll settings.primaryTag option.name)

/-- The options whose name equals the value of the rule. -/
def optionsNamed (settings : Settings) (model : Model) (rule : Rule) : List Entity :=
  model.designOptions.filter fun option =>
    Text.equal rule.ignoreCase (optionName settings option) (Text.trim rule.value)

/-- In none of the options; nothing at all where there is no option. -/
def outsideOptions : List Entity → Except Failure Filter
  | [] => .ok .never
  | options => Filter.all? (options.map fun option => .leaf (.inDesignOption option.id true))

def compileDesignOption (settings : Settings) (model : Model) (rule : Rule) :
    Except Failure Filter :=
  let inOptions (options : List Entity) : Filter :=
    Filter.anyHolds (options.map fun option => .inDesignOption option.id false)
  match rule.condition with
  | .equal => .ok (inOptions (rule.optionsNamed settings model))
  | .notEqual => outsideOptions (rule.optionsNamed settings model)
  | .defined => .ok (inOptions model.designOptions)
  | .undefined => .ok (.leaf .withoutDesignOption)
  | _ => (rule.matching settings (optionName settings) model.designOptions).map inOptions

def compileView (settings : Settings) (model : Model) (rule : Rule) : Except Failure Filter :=
  if rule.property == PropertyName.isDefined then do
    let literal ← Literal.truth rule.value
    let inverted ← rule.inversion
    .ok (.leaf (.hasOwnerView (literal != inverted)))
  else
    match rule.condition with
    | .defined => .ok (.leaf (.hasOwnerView true))
    | .undefined => .ok (.leaf (.hasOwnerView false))
    | _ => (rule.matching settings Entity.name model.views).map fun found =>
        Filter.anyHolds (found.map fun view => .ownedByView view.id)

def compileWorkset (settings : Settings) (model : Model) (rule : Rule) : Except Failure Filter :=
  (rule.matching settings Entity.name model.worksets).map fun found =>
    Filter.anyHolds (found.map fun workset => .inWorkset workset.id)

/-! ## Literals -/

/-- A yes-or-no literal under equality. -/
def compileTruth (rule : Rule) (predicate : Bool → Predicate) : Except Failure Filter :=
  if rule.condition == .equal then
    (Literal.truth rule.value).map fun flag => .leaf (predicate flag)
  else .error rule.unsupported

def compileStructuralType (rule : Rule) : Except Failure Filter := do
  let inverted ← rule.inversion
  match (Literal.member? rule.value : Option StructuralType) with
  | some kind => .ok (.leaf (.structuralType kind inverted))
  | none => .error (.unreadable rule.value .structuralType)

/-- The class must be that of some element of the model. -/
def compileClass (model : Model) (rule : Rule) : Except Failure Filter :=
  if rule.condition == .equal then
    let name := Text.trim rule.value
    if name.isEmpty then .error (.unreadable rule.value .className)
    else if model.elements.any (·.className == name) then .ok (.leaf (.className name))
    else .ok .never
  else .error rule.unsupported

/-! ## Parameters -/

/-- Equality is numeric where the value is a number, which it has to be where a unit is chosen. -/
def comparedNumber (rule : Rule) : Except Failure (Option Double) :=
  match rule.numericValue with
  | .ok x => .ok (some x)
  | .error failure => if rule.allowsUnits then .error failure else .ok none

def parameterTest (settings : Settings) (rule : Rule) : Except Failure ParameterTest :=
  match rule.condition with
  | .defined => .ok .defined
  | .undefined => .ok .undefined
  | .hasValue => .ok .hasValue
  | .hasNoValue => .ok .hasNoValue
  | .equal | .notEqual => do
    let number ← rule.comparedNumber
    let number ← number.mapM fun x => NumberTest.build rule.condition x settings
    let text ← rule.textTest settings
    .ok (.compare text number)
  | .greaterThan | .lessThan | .greaterOrEqual | .lessOrEqual => do
    let threshold ← rule.numericValue
    let test ← NumberTest.build rule.condition threshold settings
    .ok (.order test)
  | .contains | .doesNotContain | .wildCard | .wildCardNoMatch =>
    (rule.textTest settings).map fun text => .compare text none
  | .matchesParameter | .doesNotMatchParameter =>
    let other := Text.trim rule.value
    if other.isEmpty then .error (.unreadable rule.value .parameterName)
    else .ok (.sameAs (rule.condition == .doesNotMatchParameter) other rule.ignoreCase)
  | _ => .error rule.unsupported

/-- The text of a parameter, where the parameter has a value. -/
def valueText? (name : String) (element : Element) : Option String :=
  match element.parameter? name with
  | some value => if value.hasValue then some value.asText else none
  | none => none

/-- The elements whose value has one text, by their ids. -/
structure TextGroup where
  text : String
  ids : List ElementId

/-- Enters an id into the group of a text; a text without a group gets one. -/
def enterGroup (text : String) (id : ElementId) : List TextGroup → List TextGroup
  | [] => [⟨text, [id]⟩]
  | group :: rest =>
    if group.text = text then { group with ids := group.ids ++ [id] } :: rest
    else group :: enterGroup text id rest

/-- One more element; without a value it enters no group. -/
def groupElement (name : String) (groups : List TextGroup) (element : Element) : List TextGroup :=
  match valueText? name element with
  | some text => enterGroup text element.id groups
  | none => groups

/-- The elements that have a value, by its text. -/
def groupsByText (name : String) (elements : List Element) : List TextGroup :=
  elements.foldl (groupElement name) []

/-- The ids in groups of more than one. -/
def sharedIds (groups : List TextGroup) : List ElementId :=
  ElementId.ascending ((groups.filter fun group => 1 < group.ids.length).flatMap (·.ids))

/-- The elements that share the text of their value with another element. -/
def duplicatedIds (model : Model) (name : String) : List ElementId :=
  sharedIds (groupsByText name model.elements)

/-- One of the ids; nothing where there are none. -/
def oneOf : List ElementId → Filter
  | [] => .never
  | ids => .leaf (.among ids)

def compileParameter (settings : Settings) (model : Model) (rule : Rule) : Except Failure Filter :=
  if rule.property.isEmpty then .error rule.unsupported
  else if rule.condition == .duplicated then .ok (oneOf (duplicatedIds model rule.property))
  else (rule.parameterTest settings).map fun test => .leaf (.parameter rule.property test)

/-- The elements whose host is in the model and passes. -/
def hostedIds (model : Model) (passes : Element → Bool) : List ElementId :=
  ElementId.ascending <|
    (model.elements.filter fun element =>
      match element.host.bind model.element? with
      | some host => passes host
      | none => false).map (·.id)

def compileHostParameter (settings : Settings) (model : Model) (rule : Rule) :
    Except Failure Filter :=
  if rule.property.isEmpty then .error rule.unsupported
  else if rule.condition == .duplicated then
    let duplicated := duplicatedIds model rule.property
    .ok (oneOf (hostedIds model fun host => duplicated.contains host.id))
  else (rule.parameterTest settings).map fun test =>
    oneOf (hostedIds model fun host => test.passes host rule.property)

/-! ## All categories -/

/-- The filter of a rule, or why there is none. -/
def compile (settings : Settings) (model : Model) (rule : Rule) : Except Failure Filter :=
  match rule.validate with
  | .error failure => .error failure
  | .ok () =>
    match rule.category with
    | .modelCategory => rule.compileCategory settings model
    | .family => rule.compileFamily settings model
    | .elementType => rule.compileType settings model
    | .typeOrInstance => rule.compileTruth .isType
    | .apiType => rule.compileClass model
    | .level => rule.compileLevel settings model
    | .phaseCreated => rule.compilePhase settings model .createdIn .withoutPhaseCreated
    | .phaseDemolished => rule.compilePhase settings model .demolishedIn .withoutPhaseDemolished
    | .phaseStatus => rule.compilePhaseStatus model
    | .designOption => rule.compileDesignOption settings model
    | .view => rule.compileView settings model
    | .workset => rule.compileWorkset settings model
    | .parameter | .apiParameter => rule.compileParameter settings model
    | .hostParameter => rule.compileHostParameter settings model
    | .structuralType => rule.compileStructuralType
    | .host => rule.compileTruth .hasHost
    | .room | .space | .redundant => .error rule.unsupported

end Rule

end ElementRules
