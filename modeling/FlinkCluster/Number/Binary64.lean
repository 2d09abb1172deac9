/-!
# Double precision numbers

`Binary64` is the format of IEEE 754 with 53 significant bits: a sign, a significand below `2 ^ 53`
and an exponent of at least `-1074`. The core is `nearest`, the number of the format that is nearest
to a quotient of two naturals, a half going to the even neighbour; quotients, decimal texts and
integers all enter through it.
-/

set_option autoImplicit false

namespace FlinkCluster.Number

/-- A number of the format, an infinity, or no number. A finite one is
`± significand * 2 ^ exponent`. -/
inductive Binary64 where
  | nan
  | infinite (negative : Bool)
  | finite (negative : Bool) (significand : Nat) (exponent : Int)
  deriving DecidableEq, Repr, Inhabited

namespace Binary64

/-- The number one. -/
def one : Binary64 := .finite false (Nat.pow 2 52) (-52)

/-- The least exponent. -/
def minExponent : Int := -1074

/-- The greatest exponent of a finite number. -/
def maxExponent : Int := 971

/-! ## Rounding -/

/-- The quotient rounded to an integer, a half to the even one. -/
def roundHalfEven (num den : Nat) : Nat :=
  let q := num / den
  let r := num % den
  if 2 * r < den then q
  else if den < 2 * r then q + 1
  else if q % 2 = 0 then q else q + 1

/-- Numerator and denominator of `num / den` divided by `2 ^ e`. -/
def scaled (num den : Nat) (e : Int) : Nat × Nat :=
  if 0 ≤ e then (num, den * Nat.pow 2 e.toNat) else (num * Nat.pow 2 (-e).toNat, den)

/-- The exponent at which the quotient has 53 bits in front of the point, or the least one. -/
def exponentFor (num den : Nat) : Int :=
  let e : Int := (num.log2 : Int) - den.log2 - 52
  let (n, d) := scaled num den e
  max (if n / d < Nat.pow 2 52 then e - 1 else e) minExponent

/-- Significand and exponent of the number of the format nearest to `num / den`, without a bound
on the exponent from above. -/
def nearest (num den : Nat) : Nat × Int :=
  if num = 0 then (0, minExponent)
  else
    let e := exponentFor num den
    let (n, d) := scaled num den e
    let m := roundHalfEven n d
    if m = Nat.pow 2 53 then (Nat.pow 2 52, e + 1) else (m, e)

/-- The number nearest to the quotient, with the sign; none if it is beyond the greatest one. -/
def ofRatio? (negative : Bool) (num den : Nat) : Option Binary64 :=
  let (m, e) := nearest num den
  if e ≤ maxExponent then some (.finite negative m e) else none

/-- The number nearest to the quotient, with the sign; an infinity beyond the greatest one. -/
def ofRatio (negative : Bool) (num den : Nat) : Binary64 :=
  (ofRatio? negative num den).getD (.infinite negative)

/-- The number nearest to an integer, if there is a finite one. -/
def ofInt? (n : Int) : Option Binary64 := ofRatio? (decide (n < 0)) n.natAbs 1

/-! ## Values -/

/-- The least natural that is not below `significand * 2 ^ exponent`. -/
def ceiling (significand : Nat) (exponent : Int) : Nat :=
  if 0 ≤ exponent then significand * Nat.pow 2 exponent.toNat
  else (significand + (Nat.pow 2 (-exponent).toNat - 1)) / Nat.pow 2 (-exponent).toNat

/-- The natural part of `significand * 2 ^ exponent`. -/
def floor (significand : Nat) (exponent : Int) : Nat :=
  if 0 ≤ exponent then significand * Nat.pow 2 exponent.toNat
  else significand / Nat.pow 2 (-exponent).toNat

/-- Whether `significand * 2 ^ exponent` is a natural. -/
def isWhole (significand : Nat) (exponent : Int) : Bool :=
  0 ≤ exponent || significand % Nat.pow 2 (-exponent).toNat == 0

/-- The integer equal to a finite number, if there is one. -/
def toInt? : Binary64 → Option Int
  | .finite negative m e =>
    if isWhole m e then some (if negative then -(floor m e : Int) else floor m e) else none
  | _ => none

/-- The rational `± significand * 2 ^ exponent`. -/
def exact (negative : Bool) (significand : Nat) (exponent : Int) : Rat :=
  let magnitude : Rat := if 0 ≤ exponent then mkRat (significand * Nat.pow 2 exponent.toNat) 1
    else mkRat significand (Nat.pow 2 (-exponent).toNat)
  if negative then -magnitude else magnitude

/-- The rational value of a finite number. -/
def toRat? : Binary64 → Option Rat
  | .finite negative m e => some (exact negative m e)
  | _ => none

/-- The number nearest to a rational. -/
def ofRat (q : Rat) : Binary64 := ofRatio (decide (q < 0)) q.num.natAbs q.den

/-- The number nearest to the sum. Opposite infinities have none, and a zero is negative only if
both numbers are. -/
def add : Binary64 → Binary64 → Binary64
  | .nan, _ | _, .nan => .nan
  | .infinite s, .infinite t => if s = t then .infinite s else .nan
  | .infinite s, .finite .. | .finite .., .infinite s => .infinite s
  | .finite s m e, .finite t n f =>
    let sum := exact s m e + exact t n f
    if sum = 0 then .finite (s && t) 0 minExponent else ofRat sum

/-- Whether a number is at another or above it. -/
def atLeast : Binary64 → Binary64 → Bool
  | .nan, _ | _, .nan => false
  | .infinite s, .infinite t => t || !s
  | .infinite s, .finite .. => !s
  | .finite .., .infinite t => t
  | .finite s m e, .finite t n f => decide (exact t n f ≤ exact s m e)

/-- Whether the number is above zero. -/
def isPositive : Binary64 → Bool
  | .nan => false
  | .infinite negative => !negative
  | .finite negative m _ => !negative && m ≠ 0

/-- Whether the number is a zero of either sign. -/
def isZero : Binary64 → Bool
  | .finite _ m _ => m == 0
  | _ => false

/-! ## Laws -/

theorem roundHalfEven_of_dvd {num den : Nat} (hd : 0 < den) (h : den ∣ num) :
    roundHalfEven num den = num / den := by
  simp [roundHalfEven, Nat.mod_eq_zero_of_dvd h, hd]

theorem two_mul_roundHalfEven_le (num den : Nat) :
    2 * (roundHalfEven num den * den) ≤ 2 * num + den := by
  have h := Nat.div_add_mod num den
  have hc : num / den * den = den * (num / den) := Nat.mul_comm ..
  unfold roundHalfEven
  simp only
  split
  · omega
  · split
    · rw [Nat.add_mul]; omega
    · split
      · omega
      · rw [Nat.add_mul]; omega

theorem le_two_mul_roundHalfEven {num den : Nat} (hd : 0 < den) :
    2 * num ≤ 2 * (roundHalfEven num den * den) + den := by
  have h := Nat.div_add_mod num den
  have hm := Nat.mod_lt num hd
  have hc : num / den * den = den * (num / den) := Nat.mul_comm ..
  unfold roundHalfEven
  simp only
  split
  · omega
  · split
    · rw [Nat.add_mul]; omega
    · split
      · omega
      · rw [Nat.add_mul]; omega

example : add (ofRatio false 1 10) (ofRatio false 2 10) = .finite false 5404319552844596 (-54)
    ∧ atLeast (ofRatio false 3 10) (add (ofRatio false 1 10) (ofRatio false 2 10)) = false := by
  constructor <;> decide +kernel

/-- One third is nearest to 6004799503160661 times 2 to the power -54. -/
example : nearest 1 3 = (6004799503160661, -54) := by decide +kernel

end Binary64

end FlinkCluster.Number
