import ElementRules.Pattern.CaseClosure
import ElementRules.Proofs.Trimming
import Mathlib.Data.List.Basic

/-!
# Forms of letters and digits

Where a pattern ignores case, a letter stands for all letters that fold to the same one. For the
letters from A to Z these are the two cases, and two letters beyond the first 128 characters: the
Kelvin sign, a form of k, and the long s. A digit is its only form.
-/

namespace ElementRules.Pattern

/-- A fact about all letters and digits is one about finitely many code points. -/
@[elab_as_elim]
theorem forall_alphanum {P : Char → Prop} {c : Char} (hc : c.isAlphanum = true)
    (h : ∀ code ∈ List.range 128, (Char.ofNat code).isAlphanum = true → P (Char.ofNat code)) :
    P c := by
  have hcode : c.toNat < 128 := by
    rcases Bool.or_eq_true_iff.1 hc with hletter | hdigit
    · rw [Text.isAlpha_iff] at hletter
      omega
    · have hlast : c.toNat ≤ 57 :=
        UInt32.le_iff_toNat_le.1 (of_decide_eq_true (Bool.and_eq_true_iff.1 hdigit).2)
      omega
  have := h c.toNat (List.mem_range.2 hcode)
  rw [Char.ofNat_toNat] at this
  exact this hc

/-! ## Foldings -/

/-- The foldings from or to one of the first 128 characters. -/
def asciiFoldings : List (Nat × Nat) :=
  ((List.range 26).map fun n => (0x41 + n, 0x61 + n)) ++ [(0x17F, 0x73), (0x212A, 0x6B)]

theorem filter_foldings :
    foldings.filter (fun folding => folding.1 < 128 || folding.2 < 128) = asciiFoldings := by
  decide +kernel

/-- The forms of a letter by any table of foldings. -/
def formsBy (table : List (Nat × Nat)) (code : Nat) : List Nat :=
  let folded := ((table.find? (·.1 == code)).map (·.2)).getD code
  folded :: (table.filter (·.2 == folded)).map (·.1)

/-- For the first 128 characters the other foldings count for nothing. -/
theorem letterForms_of_lt {code : Nat} (h : code < 128) :
    letterForms code = formsBy asciiFoldings code := by
  have hfind : foldings.find? (·.1 == code) = asciiFoldings.find? (·.1 == code) := by
    rw [← filter_foldings, List.find?_filter]
    refine congrArg (foldings.find? ·) (funext fun folding => ?_)
    by_cases heq : folding.1 = code <;> simp [heq, h]
  have hfilter (target : Nat) (htarget : target < 128) :
      foldings.filter (·.2 == target) = asciiFoldings.filter (·.2 == target) := by
    rw [← filter_foldings, List.filter_filter]
    refine congrArg (foldings.filter ·) (funext fun folding => ?_)
    by_cases heq : folding.2 = target <;> simp [heq, htarget]
  have hfolded : ((asciiFoldings.find? (·.1 == code)).map (·.2)).getD code < 128 := by
    cases hfound : asciiFoldings.find? (·.1 == code) with
    | none => exact h
    | some folding =>
      have htargets : ∀ folding ∈ asciiFoldings, folding.2 < 128 := by decide
      exact htargets folding (List.mem_of_find?_eq_some hfound)
  unfold letterForms formsBy
  rw [hfind]
  dsimp only
  rw [hfilter _ hfolded]

/-! ## Letters and digits -/

/-- The forms of a letter or a digit. -/
def alphanumForms (c : Char) : List Char :=
  if c.isDigit then [c]
  else c.toLower :: c.toUpper ::
    (if c.toLower = 's' then ['ſ'] else if c.toLower = 'k' then ['\u212A'] else [])

theorem letterForms_of_isAlphanum {c : Char} (h : c.isAlphanum = true) :
    letterForms c.toNat = (alphanumForms c).map Char.toNat := by
  have hforms : c.toNat < 128 ∧
      formsBy asciiFoldings c.toNat = (alphanumForms c).map Char.toNat := by
    refine forall_alphanum h ?_
    decide +kernel
  rw [letterForms_of_lt hforms.1, hforms.2]

end ElementRules.Pattern
