import ElementRules.Proofs.Outcome
import ElementRules.Proofs.ParameterNegation
import ElementRules.Proofs.Rounding

/-!
# Comparing integers

Two parameters of an element are compared as doubles, integers too. So a rule compares the numbers
of 53 bits that are nearest to the integers, and not the integers (`Reachable.compares_integers`):

    selected by "matches"  ↔  nearestShort a = nearestShort b

The rule is right about an integer and all others if no other one is rounded to the same number
(`StandsApart`). This is so below `2 ^ 53`, and from there to `2 ^ 54` for twice an odd number: an
odd number is a tie, which goes to a multiple of four. The first two integers that are taken for the
same are those of `neighbours_confused`.
-/

namespace ElementRules

/-! ## Rounding of whole numbers -/

section Whole

variable {n m : Nat}

theorem log2_mul_powerOfTwo (h : n ≠ 0) (width : Nat) :
    (n * powerOfTwo width).log2 = n.log2 + width := by
  induction width with
  | zero => exact congrArg Nat.log2 (Nat.mul_one n)
  | succ width ih =>
    have hnext : n * powerOfTwo (width + 1) = 2 * (n * powerOfTwo width) := by
      rw [powerOfTwo_add, Nat.mul_comm 2, Nat.mul_assoc]
      rfl
    have hpos : n * powerOfTwo width ≠ 0 := Nat.mul_ne_zero h (Nat.ne_of_gt (powerOfTwo_pos width))
    rw [hnext, Nat.log2_two_mul hpos, ih, Nat.add_assoc]

theorem isShort_of_le (h : n ≤ powerOfTwo 53) : IsShort n := by
  have hself := isShort_mul_powerOfTwo h 0
  rwa [show powerOfTwo 0 = 1 from rfl, Nat.mul_one] at hself

/-- Rounding does not depend on the scale. -/
theorem nearestSteps_mul_powerOfTwo (n width : Nat) :
    nearestSteps (n * powerOfTwo width) 1 = nearestSteps n 1 * powerOfTwo width := by
  rcases Nat.lt_or_ge (powerOfTwo 53) n with hlt | hle
  · have hpos : n ≠ 0 := Nat.ne_of_gt (Nat.lt_of_le_of_lt (Nat.zero_le _) hlt)
    have hlog : 53 ≤ n.log2 := (Nat.le_log2 hpos).2 (Nat.le_of_lt hlt)
    have hscaled : (n * powerOfTwo width).log2 - 52 = n.log2 - 52 + width := by
      rw [log2_mul_powerOfTwo hpos]
      omega
    unfold nearestSteps
    simp only [Nat.div_one, Nat.one_mul]
    rw [hscaled, powerOfTwo_add, roundHalfEven_mul_right (powerOfTwo_pos width), Nat.mul_assoc]
  · rw [nearestSteps_one (isShort_of_le hle), nearestSteps_one (isShort_mul_powerOfTwo hle width)]

/-- No rounding leads past a power of two. -/
theorem powerOfTwo_le_nearestSteps {width : Nat} (h : powerOfTwo width ≤ n) :
    powerOfTwo width ≤ nearestSteps n 1 :=
  le_nearestSteps (isShort_powerOfTwo width) Nat.one_pos (by rwa [Nat.mul_one])

theorem nearestSteps_le_powerOfTwo {width : Nat} (h : n ≤ powerOfTwo width) :
    nearestSteps n 1 ≤ powerOfTwo width :=
  nearestSteps_le (isShort_powerOfTwo width) Nat.one_pos (by rwa [Nat.mul_one])

/-- Between `2 ^ 53` and `2 ^ 54` the last bit is worth two. -/
theorem nearestSteps_of_lt (hle : 2 ^ 53 ≤ n) (hlt : n < 2 ^ 54) :
    nearestSteps n 1 = roundHalfEven n 2 * 2 := by
  have hlog : n.log2 = 53 := (Nat.log2_eq_iff (by omega)).2 ⟨hle, hlt⟩
  unfold nearestSteps
  simp only [Nat.div_one, Nat.one_mul]
  rw [hlog]
  rfl

/-- One more than a multiple is rounded down, if a half is more than one or the multiple is even. -/
theorem roundHalfEven_succ {count unit : Nat} (hunit : 2 ≤ unit)
    (heven : unit = 2 → count % 2 = 0) : roundHalfEven (count * unit + 1) unit = count := by
  have hrest : (count * unit + 1) % unit = 1 := by
    rw [Nat.mul_comm, Nat.mul_add_mod, Nat.mod_eq_of_lt hunit]
  have hlow : (count * unit + 1) / unit = count := by
    rw [Nat.mul_comm, Nat.mul_add_div (by omega), Nat.div_eq_of_lt hunit, Nat.add_zero]
  unfold roundHalfEven
  simp only [hrest, hlow]
  rw [if_neg (by omega)]

/-- One more than a multiple of four is rounded down to it. -/
theorem nearestSteps_succ (hshort : IsShort n) (hle : 2 ^ 53 ≤ n) (hfour : n % 4 = 0) :
    nearestSteps (n + 1) 1 = n := by
  have hpos : n + 1 ≠ 0 := Nat.succ_ne_zero n
  have hlog : 53 ≤ (n + 1).log2 := (Nat.le_log2 hpos).2 (Nat.le_trans hle (Nat.le_succ n))
  obtain ⟨more, hmore⟩ := Nat.exists_eq_add_of_le hlog
  have hunit : (n + 1).log2 - 52 = 1 + more := by omega
  have hdvd : powerOfTwo (1 + more) ∣ n := by
    refine hshort.powerOfTwo_dvd ?_
    have hlow : powerOfTwo (53 + more) ≤ n + 1 := hmore ▸ Nat.log2_self_le hpos
    have hsame : powerOfTwo (52 + (1 + more)) = powerOfTwo (53 + more) :=
      congrArg powerOfTwo (by omega)
    have heven : powerOfTwo (53 + more) = 2 * powerOfTwo (52 + more) :=
      @powerOfTwo_eq_mul _ (52 + more) 1 2 (by omega) rfl
    omega
  obtain ⟨count, hcount⟩ := hdvd
  rw [Nat.mul_comm] at hcount
  have htwo : powerOfTwo (1 + more) = 2 * powerOfTwo more := powerOfTwo_eq_mul rfl rfl
  have hmorepos := powerOfTwo_pos more
  unfold nearestSteps
  simp only [Nat.div_one, Nat.one_mul, hunit]
  rw [hcount, roundHalfEven_succ (by omega) ?_]
  intro htight
  rw [htight] at hcount
  omega

/-! ## Numbers that stand apart -/

/-- Below `2 ^ 53`, or twice an odd number below `2 ^ 54`. -/
def StandsApart (n : Nat) : Prop := n < 2 ^ 53 ∨ n < 2 ^ 54 ∧ n % 4 = 2

instance (n : Nat) : Decidable (StandsApart n) := inferInstanceAs (Decidable (_ ∨ _ ∧ _))

theorem StandsApart.nearestSteps_eq (h : StandsApart n) : nearestSteps n 1 = n := by
  rcases h with hsmall | ⟨hlarge, htwice⟩
  · exact nearestSteps_one (isShort_of_le (Nat.le_of_lt hsmall))
  · have htwo : n = n / 2 * powerOfTwo 1 := by
      change n = n / 2 * 2
      omega
    rw [htwo]
    refine nearestSteps_one (isShort_mul_powerOfTwo ?_ 1)
    change n / 2 ≤ 2 ^ 53
    omega

/-- No other number is rounded to it. -/
theorem StandsApart.eq_of_nearestSteps_eq (h : StandsApart n)
    (heq : nearestSteps m 1 = nearestSteps n 1) : m = n := by
  rw [h.nearestSteps_eq] at heq
  rcases Nat.lt_or_ge m (2 ^ 53) with hsmall | hle
  · rwa [nearestSteps_one (isShort_of_le (Nat.le_of_lt hsmall))] at heq
  rcases Nat.lt_or_ge m (2 ^ 54) with hlt | hlarge
  · -- Halfway between two multiples of two, the multiple of four is taken, and this is none.
    rw [nearestSteps_of_lt hle hlt] at heq
    unfold roundHalfEven at heq
    simp only at heq
    unfold StandsApart at h
    split at heq
    · omega
    · omega
  · have hbelow : 2 ^ 54 ≤ nearestSteps m 1 := @powerOfTwo_le_nearestSteps m 54 hlarge
    unfold StandsApart at h
    omega

/-- Any other number of 63 bits is rounded to the same one as a further one. -/
theorem exists_ne_of_not_standsApart (h : ¬ StandsApart n) (hle : n ≤ 2 ^ 63) :
    ∃ m, 0 < m ∧ m < 2 ^ 63 ∧ m ≠ n ∧ nearestSteps m 1 = nearestSteps n 1 := by
  unfold StandsApart at h
  have hlarge : 2 ^ 53 ≤ n := by omega
  have hshort := isShort_nearestSteps n 1
  have hpos : 2 ^ 53 ≤ nearestSteps n 1 := @powerOfTwo_le_nearestSteps n 53 hlarge
  have hbound : nearestSteps n 1 ≤ 2 ^ 63 := @nearestSteps_le_powerOfTwo n 63 hle
  rcases Nat.lt_or_eq_of_le hbound with hlt | htop
  · by_cases hself : nearestSteps n 1 = n
    · rw [hself] at hshort hlt
      have hfour : n % 4 = 0 := by
        rcases Nat.lt_or_ge n (2 ^ 54) with hbelow | habove
        · have htwo : 2 ∣ n := @IsShort.powerOfTwo_dvd _ 1 hshort hlarge
          omega
        · have hfour : 4 ∣ n := @IsShort.powerOfTwo_dvd _ 2 hshort habove
          omega
      refine ⟨n + 1, by omega, by omega, by omega, ?_⟩
      rw [nearestSteps_succ hshort hlarge hfour, hself]
    · exact ⟨nearestSteps n 1, by omega, hlt, hself, nearestSteps_one hshort⟩
  · -- The two numbers below the top are rounded to it.
    have hlast : nearestSteps (2 ^ 63 - 1) 1 = 2 ^ 63 ∧ nearestSteps (2 ^ 63 - 2) 1 = 2 ^ 63 := by
      decide +kernel
    by_cases hn : n = 2 ^ 63 - 1
    · exact ⟨2 ^ 63 - 2, by omega, by omega, by omega, by rw [hlast.2, htop]⟩
    · exact ⟨2 ^ 63 - 1, by omega, by omega, Ne.symm hn, by rw [hlast.1, htop]⟩

end Whole

/-! ## Integers as doubles -/

/-- The integer with at most 53 significant bits that is nearest. -/
def nearestShort (i : Int) : Int :=
  if i < 0 then -(nearestSteps i.natAbs 1 : Int) else nearestSteps i.natAbs 1

theorem natAbs_nearestShort (i : Int) : (nearestShort i).natAbs = nearestSteps i.natAbs 1 := by
  unfold nearestShort
  split
  · rw [Int.natAbs_neg, Int.natAbs_natCast]
  · rw [Int.natAbs_natCast]

theorem nearestShort_neg_iff (i : Int) : nearestShort i < 0 ↔ i < 0 := by
  have hpos (hi : i ≠ 0) : 1 ≤ nearestSteps i.natAbs 1 :=
    @powerOfTwo_le_nearestSteps i.natAbs 0 (Nat.pos_of_ne_zero (Int.natAbs_ne_zero.2 hi))
  unfold nearestShort
  split
  · omega
  · omega

theorem natAbs_toInt_le (a : Int64) : a.toInt.natAbs ≤ 2 ^ 63 := by
  have hle := a.le_toInt
  have hlt := a.toInt_lt
  omega

/-- Another magnitude with the same sign. -/
theorem exists_natAbs_eq {m : Nat} (hpos : 0 < m) (hlt : m < 2 ^ 63) (a : Int64) :
    ∃ b : Int64, b.toInt.natAbs = m ∧ (b.toInt < 0 ↔ a.toInt < 0) := by
  by_cases ha : a.toInt < 0
  · refine ⟨Int64.ofInt (-m), ?_⟩
    rw [Int64.toInt_ofInt_of_le (by omega) (by omega)]
    omega
  · refine ⟨Int64.ofInt m, ?_⟩
    rw [Int64.toInt_ofInt_of_le (by omega) (by omega)]
    omega

/-- An integer is told from all others that are compared with it exactly if it stands apart. -/
theorem nearestShort_injective_iff (a : Int64) :
    (∀ b : Int64, nearestShort a.toInt = nearestShort b.toInt ↔ a = b) ↔
      StandsApart a.toInt.natAbs := by
  constructor
  · intro hinjective
    by_contra hnot
    obtain ⟨m, hpos, hlt, hne, heq⟩ := exists_ne_of_not_standsApart hnot (natAbs_toInt_le a)
    obtain ⟨b, hb, hbsign⟩ := exists_natAbs_eq hpos hlt a
    have hsame : nearestShort a.toInt = nearestShort b.toInt := by
      unfold nearestShort
      simp only [hbsign, hb, heq]
    obtain rfl := (hinjective b).1 hsame
    exact hne hb.symm
  · intro h b
    constructor
    · intro heq
      have habs : b.toInt.natAbs = a.toInt.natAbs :=
        h.eq_of_nearestSteps_eq (by rw [← natAbs_nearestShort, ← natAbs_nearestShort, heq])
      have hsign : a.toInt < 0 ↔ b.toInt < 0 := by
        rw [← nearestShort_neg_iff, heq, nearestShort_neg_iff]
      exact Int64.toInt_inj.1 (by omega)
    · rintro rfl
      rfl

namespace Double

theorem place?_ofInt {i : Int} (h : i.natAbs ≤ 2 ^ 63) :
    (ofInt i).place? = some (nearestShort i * stepsPerUnit) := by
  have hsteps : nearestSteps (i.natAbs * stepsPerUnit) 1 = nearestSteps i.natAbs 1 * stepsPerUnit :=
    nearestSteps_mul_powerOfTwo i.natAbs 1074
  have hfits : nearestSteps (i.natAbs * stepsPerUnit) 1 < overflowSteps := by
    have hbound : nearestSteps i.natAbs 1 ≤ powerOfTwo 63 := nearestSteps_le_powerOfTwo h
    rw [hsteps]
    refine Nat.lt_of_le_of_lt (Nat.mul_le_mul_right stepsPerUnit hbound) ?_
    rw [stepsPerUnit, ← powerOfTwo_add]
    exact powerOfTwo_lt (by decide)
  obtain ⟨hrepresentable, heq⟩ := ofRatio_of_lt hfits (i < 0)
  rw [ofInt, heq, place?, hsteps]
  generalize stepsPerUnit = unit
  unfold nearestShort
  by_cases hneg : i < 0
  · simp only [hneg, decide_true, if_true, Int.natCast_mul, Int.neg_mul]
  · simp only [hneg, decide_false, Bool.false_eq_true, if_false, Int.natCast_mul]

theorem same_ofInt_iff {a b : Int} (ha : a.natAbs ≤ 2 ^ 63) (hb : b.natAbs ≤ 2 ^ 63) :
    (ofInt a).same (ofInt b) = true ↔ nearestShort a = nearestShort b := by
  rw [same, compareBy_of_place (place?_ofInt ha) (place?_ofInt hb), beq_iff_eq]
  exact Int.mul_eq_mul_right_iff (Int.natCast_ne_zero.2 (Nat.ne_of_gt stepsPerUnit_pos))

end Double

namespace Parameters

variable {parameters : Parameters} {name other : String} {value : ParamValue}

theorem find?_insert_self (parameters : Parameters) (name : String) (value : ParamValue) :
    (parameters.insert name value).find? name = some value := by
  unfold insert find?
  simp only
  induction parameters.entries with
  | nil => simp [insertEntry]
  | cons first rest ih =>
    unfold insertEntry
    split
    · simp
    · split
      · simp
      · next hne =>
        rw [List.find?_cons_of_neg (by simpa using Ne.symm hne)]
        exact ih

theorem find?_insert_of_ne (h : other ≠ name) (parameters : Parameters) (value : ParamValue) :
    (parameters.insert name value).find? other = parameters.find? other := by
  unfold insert find?
  simp only
  induction parameters.entries with
  | nil => simp [insertEntry, Ne.symm h]
  | cons first rest ih =>
    unfold insertEntry
    split
    · simp [Ne.symm h]
    · split
      · next heq =>
        subst heq
        simp [Ne.symm h]
      · rw [List.find?_cons, List.find?_cons]
        split
        · rfl
        · exact ih

end Parameters

theorem ParameterTest.passes_sameAs_integers {element : Element} {name other : String}
    {a b : Int64} (ha : element.parameter? name = some (.integer a))
    (hb : element.parameter? other = some (.integer b)) (negated ignoreCase : Bool) :
    (sameAs negated other ignoreCase).passes element name = true ↔
      (negated = false ↔ nearestShort a.toInt = nearestShort b.toInt) := by
  have hsame := Double.same_ofInt_iff (natAbs_toInt_le a) (natAbs_toInt_le b)
  simp only [passes, ha, hb, sameValue, ParamValue.asNumber?]
  rw [← hsame]
  cases negated with
  | false => simp
  | true => simp

namespace Rule

/-- The two parameters that the rule compares are these integers. -/
def ComparesIntegers (rule : Rule) (element : Element) (a b : Int64) : Prop :=
  element.parameter? rule.property = some (.integer a) ∧
    element.parameter? (Text.trim rule.value) = some (.integer b)

theorem exists_comparesIntegers {rule : Rule} (h : rule.property ≠ Text.trim rule.value)
    (a b : Int64) : ∃ element, rule.ComparesIntegers element a b := by
  let parameters := (Parameters.empty.insert rule.property (.integer a)).insert
    (Text.trim rule.value) (.integer b)
  refine ⟨{ Element.named "" with parameters }, ?_, ?_⟩
  · show parameters.find? rule.property = _
    rw [Parameters.find?_insert_of_ne h, Parameters.find?_insert_self]
  · exact Parameters.find?_insert_self _ _ _

/-- **Integers are compared as doubles.** A rule with a parameter name that compares it with another
parameter compiles. It takes two integers for the same if they are rounded to the same number of 53
bits. If the two parameters are not one, the rule is right about an integer, whatever that is
compared with, exactly if the integer stands apart. -/
theorem Reachable.compares_integers {rule : Rule} (h : rule.Reachable)
    (hcategory : rule.category = .parameter)
    (hcondition : rule.condition ∈ [.matchesParameter, .doesNotMatchParameter])
    (hproperty : rule.property ≠ "") (hvalue : ¬ Text.IsBlankText rule.value)
    (settings : Settings) (model : Model) :
    ∃ filter, rule.compile settings model = .ok filter ∧
      (∀ element a b, rule.ComparesIntegers element a b →
        (filter.selects element = true ↔
          (rule.condition = .matchesParameter ↔ nearestShort a.toInt = nearestShort b.toInt))) ∧
      (rule.property ≠ Text.trim rule.value → ∀ a : Int64,
        ((∀ element b, rule.ComparesIntegers element a b →
          (filter.selects element = true ↔ (rule.condition = .matchesParameter ↔ a = b))) ↔
            StandsApart a.toInt.natAbs)) := by
  have hlike : rule.category.isParameterLike = true := by
    rw [hcategory]
    rfl
  have hnone : rule.failure? = none := by
    have hother := failsWith_otherParameter
      (not_lacksFilter_of_parameter hlike hproperty) hlike hcondition false
    rw [if_neg (mt (Text.isEmpty_trim_iff _).1 hvalue)] at hother
    exact hother.ok_iff.1 ⟨_, rfl⟩
  obtain ⟨filter, hcompile⟩ := (h.grammatical.failsWith_compile settings model).ok_iff.2 hnone
  refine ⟨filter, hcompile, ?_⟩
  have hduplicated : rule.condition ≠ .duplicated := by
    intro heq
    rw [heq] at hcondition
    exact absurd hcondition (by decide)
  obtain ⟨test, htest, rfl⟩ :=
    eq_parameter_of_compile (by rw [hcategory]; decide) hduplicated hcompile
  obtain rfl := eq_sameAs_of_parameterTest hcondition htest
  have hmatches : (rule.condition == .doesNotMatchParameter) = false ↔
      rule.condition = .matchesParameter := by
    rcases List.mem_pair.1 hcondition with hcase | hcase
    · rw [hcase]
      decide
    · rw [hcase]
      decide
  have hselects (element : Element) (a b : Int64) (hintegers : rule.ComparesIntegers element a b) :
      (Filter.leaf (.parameter rule.property (.sameAs (rule.condition == .doesNotMatchParameter)
          (Text.trim rule.value) rule.ignoreCase))).selects element = true ↔
        (rule.condition = .matchesParameter ↔ nearestShort a.toInt = nearestShort b.toInt) := by
    obtain ⟨ha, hb⟩ := hintegers
    rw [← hmatches]
    exact ParameterTest.passes_sameAs_integers ha hb _ _
  refine ⟨hselects, ?_⟩
  intro hapart a
  rw [← nearestShort_injective_iff]
  constructor
  · intro hright b
    obtain ⟨element, hintegers⟩ := exists_comparesIntegers hapart a b
    have hboth := (hselects element a b hintegers).symm.trans (hright element b hintegers)
    by_cases hcase : rule.condition = .matchesParameter
    · simpa [hcase] using hboth
    · simpa [hcase, not_iff_not] using hboth
  · intro hinjective element b hintegers
    rw [hselects element a b hintegers, hinjective b]

/-- A wall with a mark and a tag, both of them integers. -/
def taggedWall (mark label : Int64) : Element :=
  { Element.named "Wall" with
    parameters := (Parameters.empty.insert "Mark" (.integer mark)).insert "Tag" (.integer label) }

theorem markAgainst_reachable (condition : Condition) (value : String) :
    (markAgainst condition value).Reachable :=
  .changed _ (.changed _ (.changed _ (.created _ _)))

/-- Twice an odd number differs from every tag but itself. -/
theorem twiceOdd_compares_integers :
    (markAgainst .doesNotMatchParameter "Tag").property ≠ "" ∧
      ¬ Text.IsBlankText (markAgainst .doesNotMatchParameter "Tag").value ∧
      StandsApart (9007199254740994 : Int64).toInt.natAbs ∧
      ∃ filter, (markAgainst .doesNotMatchParameter "Tag").compile .standard .empty = .ok filter ∧
        ∀ element b, (markAgainst .doesNotMatchParameter "Tag").ComparesIntegers element
          9007199254740994 b → (filter.selects element = true ↔ 9007199254740994 ≠ b) := by
  have hproperty : (markAgainst .doesNotMatchParameter "Tag").property ≠ "" := by decide +kernel
  have hvalue : ¬ Text.IsBlankText (markAgainst .doesNotMatchParameter "Tag").value := by
    decide +kernel
  have hapart : StandsApart (9007199254740994 : Int64).toInt.natAbs := by decide +kernel
  have hcase : (markAgainst .doesNotMatchParameter "Tag").condition ≠ .matchesParameter := by
    decide +kernel
  refine ⟨hproperty, hvalue, hapart, ?_⟩
  obtain ⟨filter, hcompile, -, hright⟩ :=
    (markAgainst_reachable .doesNotMatchParameter "Tag").compares_integers (by decide +kernel)
      (by decide +kernel) hproperty hvalue .standard .empty
  refine ⟨filter, hcompile, ?_⟩
  intro element b hintegers
  have hdiffers := (hright (by decide +kernel) _).2 hapart element b hintegers
  simpa [hcase] using hdiffers

/-- The first odd number that is rounded is taken for its neighbour. -/
theorem neighbours_confused :
    (markAgainst .matchesParameter "Tag").Reachable ∧
      (markAgainst .doesNotMatchParameter "Tag").Reachable ∧
      (9007199254740992 : Int64) ≠ 9007199254740993 ∧
      (markAgainst .matchesParameter "Tag").ComparesIntegers
        (taggedWall 9007199254740992 9007199254740993) 9007199254740992 9007199254740993 ∧
      [Condition.matchesParameter, .doesNotMatchParameter].map (fun condition =>
        ((markAgainst condition "Tag").compile .standard .empty).map
          (·.selects (taggedWall 9007199254740992 9007199254740993))) = [.ok true, .ok false] := by
  refine ⟨markAgainst_reachable _ _, markAgainst_reachable _ _, by decide, ?_, by decide +kernel⟩
  constructor
  · decide +kernel
  · decide +kernel

end Rule

end ElementRules
