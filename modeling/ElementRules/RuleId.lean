/-!
Identities of rules: 32 hexadecimal digits, written in five groups. Reading accepts the groups, the
digits without hyphens, and the groups in braces or after the urn mark; upper and lower case alike.
-/

namespace ElementRules

/-- 128 bits, as hexadecimal digits with the most significant first. -/
structure RuleId where
  digits : List (Fin 16)
  length_digits : digits.length = 32
deriving DecidableEq

namespace RuleId

/-- The low `count` hexadecimal digits of a number. -/
def lowDigits : (count : Nat) → Nat → List (Fin 16)
  | 0, _ => []
  | count + 1, n => lowDigits count (n / 16) ++ [Fin.ofNat 16 n]

theorem length_lowDigits (count n : Nat) : (lowDigits count n).length = count := by
  induction count generalizing n with
  | zero => rfl
  | succ count ih => simp [lowDigits, ih]

/-- The identity with this number, modulo 2 to the 128. -/
def ofNat (n : Nat) : RuleId := ⟨lowDigits 32 n, length_lowDigits 32 n⟩

def digitChar (d : Fin 16) : Char := (Nat.toDigits 16 d.val).headD '0'

def hexDigit? (c : Char) : Option (Fin 16) :=
  if '0' ≤ c && c ≤ '9' then some (Fin.ofNat 16 (c.toNat - '0'.toNat))
  else if 'a' ≤ c && c ≤ 'f' then some (Fin.ofNat 16 (c.toNat - 'a'.toNat + 10))
  else if 'A' ≤ c && c ≤ 'F' then some (Fin.ofNat 16 (c.toNat - 'A'.toNat + 10))
  else none

/-- Groups of 8, 4, 4, 4 and 12 digits with hyphens between them, in lower case. -/
def toText (id : RuleId) : String :=
  let s := id.digits.map digitChar
  String.ofList (s.take 8 ++ '-' :: ((s.drop 8).take 4) ++ '-' :: ((s.drop 12).take 4) ++
    '-' :: ((s.drop 16).take 4) ++ '-' :: s.drop 20)

/-- 32 digits and nothing else. -/
def ofDigits? (s : List Char) : Option RuleId :=
  match s.mapM hexDigit? with
  | some digits => if h : digits.length = 32 then some ⟨digits, h⟩ else none
  | none => none

/-- 36 characters: hyphens at the four places, digits elsewhere. -/
def ofGroups? (s : List Char) : Option RuleId :=
  let hyphens := [8, 13, 18, 23].all fun i => s[i]? == some '-'
  if s.length == 36 && hyphens then
    ofDigits? (s.take 8 ++ (s.drop 9).take 4 ++ (s.drop 14).take 4 ++ (s.drop 19).take 4 ++
      s.drop 24)
  else none

def ofText? (text : String) : Option RuleId :=
  let s := text.toList
  if s.length == 32 then ofDigits? s
  else if s.length == 36 then ofGroups? s
  else if s.length == 38 && s.head? == some '\x7b' && s.getLast? == some '\x7d' then
    ofGroups? (s.tail.take 36)
  else if s.length == 45 && (s.take 9).map Char.toLower == "urn:uuid:".toList then
    ofGroups? (s.drop 9)
  else none

end RuleId

end ElementRules
