/-!
Binary floating point with 53 significant bits. A finite double is a sign and a whole number of
*steps*, the smallest positive double `2 ^ (-1074)`; `Representable` says which numbers of steps
occur. So two doubles are compared by comparing integers, and every operation is exact integer
arithmetic followed by one rounding, `Double.ofRatio`: to the nearest representable number, a tie to
the one with an even last bit, and to an infinity from `overflowSteps` on.
-/

namespace ElementRules

/-! ## Rounding to the grid -/

def powerOfTwo (exponent : Nat) : Nat := Nat.pow 2 exponent

theorem powerOfTwo_pos (exponent : Nat) : 0 < powerOfTwo exponent := Nat.two_pow_pos exponent

theorem powerOfTwo_add (a b : Nat) : powerOfTwo (a + b) = powerOfTwo a * powerOfTwo b :=
  Nat.pow_add 2 a b

theorem powerOfTwo_dvd {a b : Nat} (h : a ≤ b) : powerOfTwo a ∣ powerOfTwo b := Nat.pow_dvd_pow 2 h

/-- Magnitudes from here on are infinite. -/
def overflowSteps : Nat := powerOfTwo 2098

/-- How many steps make one. -/
def stepsPerUnit : Nat := powerOfTwo 1074

/-- The magnitude of a finite double in steps: at most 53 significant bits, and below the overflow
bound. -/
def Representable (steps : Nat) : Prop :=
  steps < overflowSteps ∧ powerOfTwo (steps.log2 - 52) ∣ steps

instance (steps : Nat) : Decidable (Representable steps) := by
  unfold Representable; infer_instance

/-- The nearest integer to `num / den`, a tie to the even one. -/
def roundHalfEven (num den : Nat) : Nat :=
  let low := num / den
  let rest := num % den
  if den < 2 * rest ∨ (2 * rest = den ∧ low % 2 = 1) then low + 1 else low

/-- The number of steps with at most 53 significant bits that is nearest to `num / den`. -/
def nearestSteps (num den : Nat) : Nat :=
  let unit := powerOfTwo ((num / den).log2 - 52)
  roundHalfEven num (den * unit) * unit

theorem roundHalfEven_le (num den : Nat) : roundHalfEven num den ≤ num / den + 1 := by
  unfold roundHalfEven
  simp only
  split <;> omega

theorem le_roundHalfEven (num den : Nat) : num / den ≤ roundHalfEven num den := by
  unfold roundHalfEven
  simp only
  split <;> omega

/-- A number of 53 bits, or the next power of two, scaled by a power of two ends in zeros. -/
theorem powerOfTwo_log2_sub_dvd {m width : Nat} (h : m ≤ powerOfTwo 53) :
    powerOfTwo ((m * powerOfTwo width).log2 - 52) ∣ m * powerOfTwo width := by
  rcases Nat.eq_zero_or_pos m with rfl | hpos
  · simp
  rcases Nat.lt_or_ge m (powerOfTwo 53) with hlt | hge
  · have hlog : (m * powerOfTwo width).log2 < 53 + width := by
      refine (Nat.log2_lt (Nat.ne_of_gt (Nat.mul_pos hpos (powerOfTwo_pos _)))).2 ?_
      exact Nat.lt_of_lt_of_eq (Nat.mul_lt_mul_of_pos_right hlt (powerOfTwo_pos _))
        (powerOfTwo_add 53 width).symm
    exact Nat.dvd_trans (powerOfTwo_dvd (by omega)) (Nat.dvd_mul_left _ _)
  · have hm : m = powerOfTwo 53 := Nat.le_antisymm h hge
    subst hm
    rw [← powerOfTwo_add]
    have hlog : (powerOfTwo (53 + width)).log2 = 53 + width := Nat.log2_two_pow
    rw [hlog]
    exact powerOfTwo_dvd (by omega)

theorem roundHalfEven_unit_le (num den : Nat) :
    roundHalfEven num (den * powerOfTwo ((num / den).log2 - 52)) ≤ powerOfTwo 53 := by
  refine Nat.le_trans (roundHalfEven_le _ _) ?_
  rw [← Nat.div_div_eq_div_mul]
  have hlt : num / den < powerOfTwo ((num / den).log2 + 1) := Nat.lt_log2_self
  have hle : powerOfTwo ((num / den).log2 + 1) ≤
      powerOfTwo 53 * powerOfTwo ((num / den).log2 - 52) := by
    rw [← powerOfTwo_add]
    exact Nat.pow_le_pow_right (by decide) (by omega)
  exact Nat.div_lt_of_lt_mul (Nat.mul_comm _ _ ▸ Nat.lt_of_lt_of_le hlt hle)

theorem representable_nearestSteps {num den : Nat} (h : nearestSteps num den < overflowSteps) :
    Representable (nearestSteps num den) :=
  ⟨h, powerOfTwo_log2_sub_dvd (roundHalfEven_unit_le num den)⟩

theorem overflowSteps_pos : 0 < overflowSteps := powerOfTwo_pos 2098

theorem representable_zero : Representable 0 := ⟨overflowSteps_pos, Nat.dvd_zero _⟩

/-! ## Doubles -/

inductive Double
  | nan
  | infinite (negative : Bool)
  | finite (negative : Bool) (steps : Nat) (representable : Representable steps)
deriving DecidableEq

namespace Double

/-- The double nearest to `num / den` steps. -/
def ofRatio (negative : Bool) (num den : Nat) : Double :=
  if h : nearestSteps num den < overflowSteps then
    .finite negative (nearestSteps num den) (representable_nearestSteps h)
  else .infinite negative

def zero (negative : Bool) : Double := .finite negative 0 representable_zero

def ofNat (n : Nat) : Double := ofRatio false (n * stepsPerUnit) 1

def ofInt (i : Int) : Double := ofRatio (i < 0) (i.natAbs * stepsPerUnit) 1

def isFinite : Double → Bool
  | .finite .. => true
  | _ => false

/-! ## Order -/

/-- The place of a double on the line of integers, the infinities beyond every finite one. A
not-a-number has none, and the two zeros share theirs. -/
def place? : Double → Option Int
  | .nan => none
  | .infinite negative => some (if negative then -(overflowSteps : Int) else overflowSteps)
  | .finite negative steps _ => some (if negative then -(steps : Int) else steps)

/-- A relation of places; false as soon as one of the two is not a number. -/
def compareBy (r : Int → Int → Bool) (x y : Double) : Bool :=
  match x.place?, y.place? with
  | some a, some b => r a b
  | _, _ => false

def lt (x y : Double) : Bool := compareBy (fun a b => a < b) x y

def le (x y : Double) : Bool := compareBy (fun a b => a ≤ b) x y

/-- Numeric equality: the two zeros are equal, and a not-a-number equals nothing. -/
def same (x y : Double) : Bool := compareBy (fun a b => a == b) x y

/-! ## Arithmetic -/

def neg : Double → Double
  | .nan => .nan
  | .infinite negative => .infinite (!negative)
  | .finite negative steps h => .finite (!negative) steps h

def abs : Double → Double
  | .nan => .nan
  | .infinite _ => .infinite false
  | .finite _ steps h => .finite false steps h

/-- A sum of nothing but zeros is negative only if both are. -/
def add : Double → Double → Double
  | .nan, _ | _, .nan => .nan
  | .infinite a, .infinite b => if a == b then .infinite a else .nan
  | .infinite a, .finite .. => .infinite a
  | .finite .., .infinite b => .infinite b
  | .finite a m _, .finite b n _ =>
    let sum := (if a then -(m : Int) else m) + (if b then -(n : Int) else n)
    if sum = 0 then zero (a && b) else ofRatio (sum < 0) sum.natAbs 1

def sub (x y : Double) : Double := add x (neg y)

def mul : Double → Double → Double
  | .nan, _ | _, .nan => .nan
  | .infinite a, .infinite b => .infinite (a != b)
  | .infinite a, .finite b n _ => if n = 0 then .nan else .infinite (a != b)
  | .finite a m _, .infinite b => if m = 0 then .nan else .infinite (a != b)
  | .finite a m _, .finite b n _ => ofRatio (a != b) (m * n) stepsPerUnit

def div : Double → Double → Double
  | .nan, _ | _, .nan => .nan
  | .infinite _, .infinite _ => .nan
  | .infinite a, .finite b .. => .infinite (a != b)
  | .finite a .., .infinite b => zero (a != b)
  | .finite a m _, .finite b n _ =>
    if n = 0 then if m = 0 then .nan else .infinite (a != b)
    else ofRatio (a != b) (m * stepsPerUnit) n

/-- The nearest whole number, a half away from zero; the sign stays, on a zero too. -/
def round : Double → Double
  | .finite negative steps _ =>
    let whole := (2 * steps + stepsPerUnit) / (2 * stepsPerUnit)
    ofRatio negative (whole * stepsPerUnit) 1
  | x => x

/-- Repeated squaring: `result` times `base` to the power `n`, where bit after bit of `n` is used,
lowest first, and every product is rounded. `more` counts the bits after the first. -/
def powFrom : (more : Nat) → (result base : Double) → (n : Nat) → Double
  | more, result, base, n =>
    let next := if n % 2 = 1 then result.mul base else result
    match more with
    | 0 => next
    | more + 1 => powFrom more next (base.mul base) (n / 2)

/-- An integer power; a negative exponent gives the reciprocal of the power. -/
def powInt (base : Double) (exponent : Int) : Double :=
  let power := powFrom exponent.natAbs.log2 (ofNat 1) base exponent.natAbs
  if exponent < 0 then (ofNat 1).div power else power

end Double

end ElementRules
