import ElementRules.Proofs.Opposites

/-!
# Equality within a tolerance

A number of the model is equal to a threshold if it is nearer than the tolerance, once it is
rounded, and it is unequal if it is farther. Both comparisons are strict. So the two conditions are
opposite only as long as the tolerance parts the numbers (`Settings.Separates`): a number at exactly
the tolerance is neither equal nor unequal, and with a tolerance that is not a number nothing is.

    equal and unequal  →  False
    equal or unequal   ↔  settings.Separates threshold value            (NumberTest.splits_numbers)

Rules on parameters and on elevations inherit both halves (`equality_splits`). With the standard
settings a level at the ground is neither at 0.00001 nor not there (`ground_missed`).
-/

namespace ElementRules

/-! ## Doubles that are numbers -/

namespace Double

theorem exists_place {x : Double} (h : x ≠ .nan) : ∃ place, x.place? = some place := by
  cases x with
  | nan => exact absurd rfl h
  | infinite negative => exact ⟨_, rfl⟩
  | finite negative steps hsteps => exact ⟨_, rfl⟩

theorem compareBy_of_place {r : Int → Int → Bool} {x y : Double} {a b : Int}
    (hx : x.place? = some a) (hy : y.place? = some b) : compareBy r x y = r a b := by
  unfold compareBy
  rw [hx, hy]

theorem lt_nan (x : Double) : x.lt .nan = false := by
  unfold lt compareBy
  cases x <;> rfl

theorem nan_lt (x : Double) : nan.lt x = false := rfl

/-- Of two numbers one is below the other, unless they are the same. -/
theorem exactlyOne_lt {x y : Double} (hx : x ≠ .nan) (hy : y ≠ .nan) :
    ExactlyOneWhen (x.same y = false) (x.lt y = true) (y.lt x = true) := by
  obtain ⟨a, ha⟩ := exists_place hx
  obtain ⟨b, hb⟩ := exists_place hy
  unfold ExactlyOneWhen lt same
  rw [compareBy_of_place ha hb, compareBy_of_place hb ha, compareBy_of_place ha hb]
  simp only [decide_eq_true_eq, beq_eq_false_iff_ne]
  omega

theorem ofRatio_ne_nan (negative : Bool) (num den : Nat) : ofRatio negative num den ≠ .nan := by
  unfold ofRatio
  split
  · exact Double.noConfusion
  · exact Double.noConfusion

theorem abs_ne_nan {x : Double} (h : x ≠ .nan) : x.abs ≠ .nan := by
  cases x with
  | nan => exact absurd rfl h
  | infinite negative => exact Double.noConfusion
  | finite negative steps hsteps => exact Double.noConfusion

/-- Only two infinities have no difference. -/
theorem sub_ne_nan {x y : Double} (hx : x.isFinite = true) (hy : y ≠ .nan) : x.sub y ≠ .nan := by
  cases x with
  | nan => cases hx
  | infinite negative => cases hx
  | finite negative steps hsteps =>
    cases y with
    | nan => exact absurd rfl hy
    | infinite other => exact Double.noConfusion
    | finite other others hothers =>
      unfold sub neg add
      refine iteInduction (motive := fun sum : Double => sum ≠ .nan) ?_ ?_
      · exact fun _ => Double.noConfusion
      · exact fun _ => ofRatio_ne_nan _ _ _

/-- A finite number other than zero: multiplying by it or dividing by it is always possible. -/
def isFactor : Double → Bool
  | .finite _ steps _ => steps != 0
  | _ => false

theorem mul_ne_nan {x factor : Double} (hx : x ≠ .nan) (h : factor.isFactor = true) :
    x.mul factor ≠ .nan := by
  cases factor with
  | nan => cases h
  | infinite negative => cases h
  | finite negative steps hsteps =>
    cases x with
    | nan => exact absurd rfl hx
    | infinite other =>
      unfold mul
      dsimp only
      rw [if_neg (bne_iff_ne.1 h)]
      exact Double.noConfusion
    | finite other others hothers => exact ofRatio_ne_nan _ _ _

theorem div_ne_nan {x factor : Double} (hx : x ≠ .nan) (h : factor.isFactor = true) :
    x.div factor ≠ .nan := by
  cases factor with
  | nan => cases h
  | infinite negative => cases h
  | finite negative steps hsteps =>
    cases x with
    | nan => exact absurd rfl hx
    | infinite other => exact Double.noConfusion
    | finite other others hothers =>
      unfold div
      dsimp only
      rw [if_neg (bne_iff_ne.1 h)]
      exact ofRatio_ne_nan _ _ _

end Double

/-- No conversion of units makes a number something else. -/
theorem Measure.toInternal_ne_nan (measure : Measure) {x : Double} (h : x ≠ .nan) :
    measure.toInternal x ≠ .nan := by
  have hfeet : feetPerMeter.isFactor = true := by decide +kernel
  have hmeters : x.mul feetPerMeter ≠ .nan := Double.mul_ne_nan h hfeet
  have hsquareMeters : (x.mul feetPerMeter).mul feetPerMeter ≠ .nan :=
    Double.mul_ne_nan hmeters hfeet
  cases measure with
  | default | feet | squareFeet | cubicFeet | radians => exact h
  | inches => exact Double.div_ne_nan h (by decide +kernel)
  | meters => exact hmeters
  | centimeters => exact Double.div_ne_nan hmeters (by decide +kernel)
  | millimeters => exact Double.div_ne_nan hmeters (by decide +kernel)
  | squareMeters => exact hsquareMeters
  | cubicMeters => exact Double.mul_ne_nan hsquareMeters hfeet
  | degrees => exact Double.mul_ne_nan h (by decide +kernel)

theorem Literal.number_ne_nan {value : String} {x : Double} (h : number value = .ok x) :
    x ≠ .nan := by
  unfold number at h
  split at h
  · split at h
    · next hfinite =>
      obtain rfl := Except.ok.inj h
      rintro rfl
      cases hfinite
    · cases h
  · cases h

/-! ## Tests of numbers -/

/-- How far the number is from the threshold, once it is rounded. -/
def Settings.distance (settings : Settings) (threshold value : Double) : Double :=
  ((value.roundTo settings.decimals).sub threshold).abs

/-- The tolerance tells the number from the threshold or takes the two for the same: it is a number,
and not just their distance. -/
def Settings.Separates (settings : Settings) (threshold value : Double) : Prop :=
  settings.tolerance ≠ .nan ∧
    (settings.distance threshold value).same settings.tolerance = false

theorem Settings.exactlyOne_distance {settings : Settings} {threshold value : Double}
    (hthreshold : threshold ≠ .nan) (hvalue : (value.roundTo settings.decimals).isFinite = true) :
    ExactlyOneWhen (settings.Separates threshold value)
      ((settings.distance threshold value).lt settings.tolerance = true)
      (settings.tolerance.lt (settings.distance threshold value) = true) := by
  have hdistance : settings.distance threshold value ≠ .nan :=
    Double.abs_ne_nan (Double.sub_ne_nan hvalue hthreshold)
  unfold Separates
  by_cases htolerance : settings.tolerance = .nan
  · rw [htolerance, Double.lt_nan, Double.nan_lt]
    simp [ExactlyOneWhen]
  · obtain ⟨hboth, hone⟩ := Double.exactlyOne_lt hdistance htolerance
    refine ⟨hboth, hone.trans ?_⟩
    rw [iff_and_self]
    exact fun _ => htolerance

theorem NumberTest.splits_numbers {settings : Settings} {threshold value : Double}
    {equal notEqual : NumberTest} (hequal : build .equal threshold settings = .ok equal)
    (hnotEqual : build .notEqual threshold settings = .ok notEqual)
    (hthreshold : threshold ≠ .nan) (hvalue : (value.roundTo settings.decimals).isFinite = true) :
    ExactlyOneWhen (settings.Separates threshold value) (equal.passes value = true)
      (notEqual.passes value = true) := by
  obtain rfl := Except.ok.inj hequal
  obtain rfl := Except.ok.inj hnotEqual
  exact Settings.exactlyOne_distance hthreshold hvalue

/-! ## Rules on numbers -/

namespace ParameterTest

variable {element : Element} {name : String} {value : ParamValue}

theorem passes_compare_text (h : element.parameter? name = some value) (text : TextTest) :
    (compare text none).passes element name = text.passes value.asText := by
  unfold passes
  rw [h]
  dsimp only
  cases value.asNumber? <;> rfl

theorem passes_compare_number {x : Double} (h : element.parameter? name = some value)
    (hnumber : value.asNumber? = some x) (text : TextTest) (test : NumberTest) :
    (compare text (some test)).passes element name = test.passes x := by
  unfold passes
  rw [h]
  dsimp only
  rw [hnumber]

end ParameterTest

namespace Rule

/-- Two rules that ask, of the same thing, for equality and for inequality. -/
structure EqualityForms (equal notEqual : Rule) : Prop where
  condition : equal.condition = .equal
  opposite : notEqual.OppositeOf equal
  unitClass : notEqual.unitClass = equal.unitClass
  unit : notEqual.unit = equal.unit

section Forms

variable {settings : Settings} {model : Model} {equal notEqual : Rule}

theorem EqualityForms.condition_notEqual (h : EqualityForms equal notEqual) :
    notEqual.condition = .notEqual := by
  have hopposite := h.opposite.condition
  rw [h.condition] at hopposite
  exact (Option.some.inj hopposite).symm

theorem EqualityForms.numericValue_eq (h : EqualityForms equal notEqual) :
    notEqual.numericValue = equal.numericValue := by
  unfold numericValue
  rw [h.opposite.value, h.unit]

theorem EqualityForms.comparedNumber_eq (h : EqualityForms equal notEqual) :
    notEqual.comparedNumber = equal.comparedNumber := by
  unfold comparedNumber allowsUnits
  rw [h.numericValue_eq, h.unitClass]

/-- A level at an elevation that the tolerance parts from the threshold is found by one of the two
forms. -/
theorem EqualityForms.splits_levels (h : EqualityForms equal notEqual) {found others : List Level}
    (hequal : equal.levelsByElevation settings model = .ok found)
    (hnotEqual : notEqual.levelsByElevation settings model = .ok others) {level : Level}
    (hmem : level ∈ model.levels)
    (hrounded : (level.elevation.roundTo settings.decimals).isFinite = true) :
    ExactlyOneWhen
      (∀ threshold, Literal.number equal.value = .ok threshold →
        settings.Separates threshold level.elevation)
      (level ∈ found) (level ∈ others) := by
  obtain ⟨threshold, equalTest, hthreshold, hequalTest, rfl⟩ :=
    eq_filter_of_levelsByElevation hequal
  obtain ⟨same, notEqualTest, hsame, hnotEqualTest, rfl⟩ :=
    eq_filter_of_levelsByElevation hnotEqual
  rw [h.opposite.value, hthreshold] at hsame
  obtain rfl := Except.ok.inj hsame
  rw [h.condition] at hequalTest
  rw [h.condition_notEqual] at hnotEqualTest
  obtain ⟨hboth, hone⟩ := NumberTest.splits_numbers hequalTest hnotEqualTest
    (Literal.number_ne_nan hthreshold) hrounded
  unfold ExactlyOneWhen
  rw [List.mem_filter, List.mem_filter, hthreshold]
  refine ⟨fun hfound => hboth ⟨hfound.1.2, hfound.2.2⟩, ?_⟩
  rw [← and_or_left, and_iff_right hmem, hone]
  constructor
  · intro hseparates other hother
    rwa [← Except.ok.inj hother]
  · exact fun hseparates => hseparates threshold rfl

theorem numericValue_ne_nan {rule : Rule} {x : Double} (h : rule.numericValue = .ok x) :
    x ≠ .nan := by
  obtain ⟨read, hread, rfl⟩ := eq_ok_of_map h
  exact rule.unit.toInternal_ne_nan (Literal.number_ne_nan hread)

theorem numericValue_eq_ok_iff {rule : Rule} {threshold? : Option Double}
    (h : rule.comparedNumber = .ok threshold?) (x : Double) :
    rule.numericValue = .ok x ↔ threshold? = some x := by
  unfold comparedNumber at h
  cases hvalue : rule.numericValue with
  | ok read =>
    rw [hvalue] at h
    obtain rfl := Except.ok.inj h
    rw [Except.ok.injEq, Option.some.injEq]
  | error failure =>
    rw [hvalue] at h
    dsimp only at h
    split at h
    · cases h
    · obtain rfl := Except.ok.inj h
      constructor <;> intro habsurd <;> cases habsurd

/-- What a rule on a parameter is compiled to. -/
theorem eq_parameter_of_compile {rule : Rule} {filter : Filter}
    (hcategory : rule.category ∈ [.parameter, .apiParameter])
    (hcondition : rule.condition ≠ .duplicated) (h : rule.compile settings model = .ok filter) :
    ∃ test, rule.parameterTest settings = .ok test ∧
      filter = .leaf (.parameter rule.property test) := by
  unfold compile at h
  split at h
  · cases h
  replace h : rule.compileParameter settings model = .ok filter := by
    rcases List.mem_pair.1 hcategory with hcase | hcase
    · rwa [hcase] at h
    · rwa [hcase] at h
  unfold compileParameter at h
  split at h
  · cases h
  split at h
  · next hduplicated => exact absurd (beq_iff_eq.1 hduplicated) hcondition
  · exact eq_ok_of_map h

/-- What the equality of a parameter is tested by. -/
theorem eq_compare_of_parameterTest {rule : Rule} {test : ParameterTest}
    (hcondition : rule.condition ∈ Condition.equality)
    (htest : rule.parameterTest settings = .ok test) :
    ∃ threshold? number? text, rule.comparedNumber = .ok threshold? ∧
      (threshold?.mapM fun x => NumberTest.build rule.condition x settings) = .ok number? ∧
      rule.textTest settings = .ok text ∧ test = .compare text number? := by
  obtain ⟨threshold?, hthreshold, htest⟩ : ∃ threshold?, rule.comparedNumber = .ok threshold? ∧
      (do
        let number? ← threshold?.mapM fun x => NumberTest.build rule.condition x settings
        let text ← rule.textTest settings
        .ok (ParameterTest.compare text number?)) = .ok test := by
    unfold parameterTest at htest
    rcases List.mem_pair.1 hcondition with hequal | hnotEqual
    · rw [hequal] at htest ⊢
      exact eq_ok_of_bind htest
    · rw [hnotEqual] at htest ⊢
      exact eq_ok_of_bind htest
  obtain ⟨number?, hnumber, htest⟩ := eq_ok_of_bind htest
  obtain ⟨text, htext, htest⟩ := eq_ok_of_bind htest
  exact ⟨threshold?, number?, text, hthreshold, hnumber, htext, (Except.ok.inj htest).symm⟩

/-- What a rule on the equality of a parameter is compiled to. -/
theorem eq_compare_of_compile {rule : Rule} {filter : Filter}
    (hcategory : rule.category = .parameter) (hcondition : rule.condition ∈ Condition.equality)
    (h : rule.compile settings model = .ok filter) :
    ∃ threshold? number? text, rule.comparedNumber = .ok threshold? ∧
      (threshold?.mapM fun x => NumberTest.build rule.condition x settings) = .ok number? ∧
      rule.textTest settings = .ok text ∧
      filter = .leaf (.parameter rule.property (.compare text number?)) := by
  have hduplicated : rule.condition ≠ .duplicated := by
    intro heq
    rw [heq] at hcondition
    exact absurd hcondition (by decide)
  obtain ⟨test, htest, rfl⟩ :=
    eq_parameter_of_compile (by rw [hcategory]; decide) hduplicated h
  obtain ⟨threshold?, number?, text, hthreshold, hnumber, htext, rfl⟩ :=
    eq_compare_of_parameterTest hcondition htest
  exact ⟨threshold?, number?, text, hthreshold, hnumber, htext, rfl⟩

/-- A number of an element that the tolerance parts from the threshold is selected by one of the two
forms; where the value of the rule is no number, the two compare texts, and every number is. -/
theorem EqualityForms.splits_parameters (h : EqualityForms equal notEqual)
    (hcategory : equal.category = .parameter) {filter others : Filter}
    (hequal : equal.compile settings model = .ok filter)
    (hnotEqual : notEqual.compile settings model = .ok others) {element : Element}
    {value : ParamValue} {x : Double} (hvalue : element.parameter? equal.property = some value)
    (hnumber : value.asNumber? = some x)
    (hrounded : (x.roundTo settings.decimals).isFinite = true) :
    ExactlyOneWhen
      (∀ threshold, equal.numericValue = .ok threshold → settings.Separates threshold x)
      (filter.selects element = true) (others.selects element = true) := by
  obtain ⟨threshold?, equalTest?, equalText, hthreshold, hequalTest, hequalText, rfl⟩ :=
    eq_compare_of_compile hcategory (by rw [h.condition]; decide) hequal
  obtain ⟨same?, notEqualTest?, notEqualText, hsame, hnotEqualTest, hnotEqualText, rfl⟩ :=
    eq_compare_of_compile (h.opposite.category.trans hcategory)
      (by rw [h.condition_notEqual]; decide) hnotEqual
  rw [h.comparedNumber_eq, hthreshold] at hsame
  obtain rfl := Except.ok.inj hsame
  simp only [numericValue_eq_ok_iff hthreshold]
  rw [h.condition] at hequalTest
  rw [h.condition_notEqual] at hnotEqualTest
  cases threshold? with
  | none =>
    obtain rfl := Except.ok.inj hequalTest
    obtain rfl := Except.ok.inj hnotEqualTest
    have hopposite := h.opposite.passes_textTest hequalText hnotEqualText value.asText
    rw [Filter.selects, Filter.selects, Predicate.holds, Predicate.holds, h.opposite.property,
      ParameterTest.passes_compare_text hvalue, ParameterTest.passes_compare_text hvalue, hopposite]
    refine exactlyOneWhen_of_not ?_ _
    intro threshold hnone
    cases hnone
  | some threshold =>
    rw [Option.mapM_some] at hequalTest hnotEqualTest
    obtain ⟨equalTest, hbuilt, rfl⟩ := eq_ok_of_map hequalTest
    obtain ⟨notEqualTest, hnotBuilt, rfl⟩ := eq_ok_of_map hnotEqualTest
    rw [Filter.selects, Filter.selects, Predicate.holds, Predicate.holds, h.opposite.property,
      ParameterTest.passes_compare_number hvalue hnumber,
      ParameterTest.passes_compare_number hvalue hnumber]
    simp only [Option.some.injEq, forall_eq']
    exact NumberTest.splits_numbers hbuilt hnotBuilt
      (numericValue_ne_nan ((numericValue_eq_ok_iff hthreshold threshold).2 rfl)) hrounded

end Forms

/-- **Equality and inequality are opposite off the tolerance.** No number is both, and one of the
two holds exactly if the tolerance is a number other than the distance from the threshold. The same
is true of the two forms of a rule on a parameter, for the elements in which it is a number, and of
the two forms of a rule on elevations, for every level. Numbers are finite, also when they are
rounded. -/
theorem equality_splits (settings : Settings) :
    (∀ (threshold value : Double) (equal notEqual : NumberTest),
      threshold.isFinite = true → (value.roundTo settings.decimals).isFinite = true →
      NumberTest.build .equal threshold settings = .ok equal →
      NumberTest.build .notEqual threshold settings = .ok notEqual →
      ExactlyOneWhen (settings.Separates threshold value) (equal.passes value = true)
        (notEqual.passes value = true)) ∧
    ∀ (model : Model) (equal notEqual : Rule), EqualityForms equal notEqual →
      (∀ (filter others : Filter) (element : Element) (value : ParamValue) (x : Double),
        equal.category = .parameter → equal.compile settings model = .ok filter →
        notEqual.compile settings model = .ok others →
        element.parameter? equal.property = some value → value.asNumber? = some x →
        (x.roundTo settings.decimals).isFinite = true →
        ExactlyOneWhen
          (∀ threshold, equal.numericValue = .ok threshold → settings.Separates threshold x)
          (filter.selects element = true) (others.selects element = true)) ∧
      ∀ found others : List Level, equal.levelsByElevation settings model = .ok found →
        notEqual.levelsByElevation settings model = .ok others →
        ∀ level ∈ model.levels, (level.elevation.roundTo settings.decimals).isFinite = true →
          ExactlyOneWhen
            (∀ threshold, Literal.number equal.value = .ok threshold →
              settings.Separates threshold level.elevation)
            (level ∈ found) (level ∈ others) := by
  refine ⟨?_, ?_⟩
  · intro threshold value equal notEqual hthreshold hrounded hequal hnotEqual
    refine NumberTest.splits_numbers hequal hnotEqual ?_ hrounded
    rintro rfl
    cases hthreshold
  · intro model equal notEqual hforms
    refine ⟨?_, ?_⟩
    · intro filter others element value x hcategory hequal hnotEqual hvalue hnumber hrounded
      exact hforms.splits_parameters hcategory hequal hnotEqual hvalue hnumber hrounded
    · intro found others hequal hnotEqual level hmem hrounded
      exact hforms.splits_levels hequal hnotEqual hmem hrounded

def ground : Level := ⟨⟨1⟩, "Ground", .ofNat 0⟩

def roof : Level := ⟨⟨2⟩, "Roof", .ofNat 1⟩

def twoLevels : Model := .ofAdditions [.level "Ground" (.ofNat 0), .level "Roof" (.ofNat 1)]

/-- *Elevation is 0.00001*, which is the tolerance of the standard settings. -/
def nearGround : Rule :=
  (((create (.ofNat 1) .level).apply (.property "Elevation")).1.apply (.value "0.00001")).1

/-- *Elevation is not 0.00001.* -/
def offGround : Rule := ((nearGround.duplicate (.ofNat 2)).apply (.condition .notEqual)).1

theorem equalityForms_nearGround : EqualityForms nearGround offGround where
  condition := by decide +kernel
  opposite := by constructor <;> decide +kernel
  unitClass := by decide +kernel
  unit := by decide +kernel

/-- The roof is too far from the threshold to be at it, so it has to be found by the other form. -/
theorem roof_split :
    EqualityForms nearGround offGround ∧
      nearGround.levelsByElevation .standard twoLevels = .ok [] ∧
      ∃ others, offGround.levelsByElevation .standard twoLevels = .ok others ∧ roof ∈ others := by
  have hnear : nearGround.levelsByElevation .standard twoLevels = .ok [] := by decide +kernel
  have hoff : offGround.levelsByElevation .standard twoLevels = .ok [roof] := by decide +kernel
  obtain ⟨-, hrules⟩ := equality_splits .standard
  obtain ⟨-, hlevels⟩ := hrules twoLevels nearGround offGround equalityForms_nearGround
  obtain ⟨-, hone⟩ :=
    hlevels [] [roof] hnear hoff roof (by decide +kernel) (by decide +kernel)
  refine ⟨equalityForms_nearGround, hnear, [roof], hoff, ?_⟩
  have hthreshold : Literal.number nearGround.value = .ok Settings.standard.tolerance := by
    decide +kernel
  have hseparates : ∀ threshold, Literal.number nearGround.value = .ok threshold →
      Settings.standard.Separates threshold roof.elevation := by
    intro threshold hread
    rw [hthreshold] at hread
    obtain rfl := Except.ok.inj hread
    constructor <;> decide +kernel
  exact (hone.2 hseparates).resolve_left List.not_mem_nil

/-- The ground is at exactly the tolerance from the threshold, and is found by neither form. -/
theorem ground_missed :
    EqualityForms nearGround offGround ∧ ground ∈ twoLevels.levels ∧
      (ground.elevation.roundTo Settings.standard.decimals).isFinite = true ∧
      nearGround.levelsByElevation .standard twoLevels = .ok [] ∧
      offGround.levelsByElevation .standard twoLevels = .ok [roof] ∧ ground ∉ [roof] ∧
      ∃ threshold equal notEqual, Literal.number "0.00001" = .ok threshold ∧
        NumberTest.build .equal threshold .standard = .ok equal ∧
        NumberTest.build .notEqual threshold .standard = .ok notEqual ∧
        equal.passes ground.elevation = false ∧ notEqual.passes ground.elevation = false := by
  refine ⟨equalityForms_nearGround, by decide +kernel, by decide +kernel, by decide +kernel,
    by decide +kernel, by decide +kernel, Settings.standard.tolerance, _, _, ?_, rfl, rfl, ?_, ?_⟩
  · decide +kernel
  · decide +kernel
  · decide +kernel

end Rule

end ElementRules
