import FlinkCluster.Proofs.LargeNumbers

/-!
# Quotients that vanish

Between zero and the least positive number of double precision, `2 ^ -1074`, a quotient is rounded
to the nearer of the two, and the middle goes to zero. So a positive quotient can be zero, and then
rounding it up to an integer gives zero too.

* `Number.Binary64.nearest_fst_eq_zero_iff`: a positive quotient is rounded to zero exactly if it is
  no more than half the least positive number.
* `taskManagerCount_ok`: the number of task managers is zero in exactly that case, and else at
  least one.
-/

set_option autoImplicit false

namespace FlinkCluster

/-! ## Rounding -/

namespace Number.Binary64

theorem roundHalfEven_eq_zero_iff {num den : Nat} (hden : 0 < den) :
    roundHalfEven num den = 0 ↔ 2 * num ≤ den := by
  constructor
  · intro h
    have hle := @le_two_mul_roundHalfEven num _ hden
    rw [h, Nat.zero_mul] at hle
    omega
  · intro h
    have hquotient : num / den = 0 := Nat.div_eq_of_lt (by omega)
    have hrest : num % den = num := Nat.mod_eq_of_lt (by omega)
    unfold roundHalfEven
    simp only [hquotient, hrest, Nat.zero_mod, ↓reduceIte]
    split
    · rfl
    · rw [if_neg (by omega)]

/-- The binary places behind the point of the least positive number. -/
@[irreducible] def leastPlaces : Nat := 1074

/-- How many halves of the least positive number make one. -/
@[irreducible] def underflowBound : Nat := 2 ^ (leastPlaces + 1)

/-- A positive quotient is rounded to zero exactly if it is no more than half the least positive
number. -/
theorem nearest_fst_eq_zero_iff {num den : Nat} (hnum : 0 < num) (hden : 0 < den) :
    (nearest num den).1 = 0 ↔ num * underflowBound ≤ den := by
  have hzero : (nearest num den).1 = 0 ↔
      roundHalfEven (num * 2 ^ (-exponentFor num den).toNat)
        (den * 2 ^ (exponentFor num den).toNat) = 0 := by
    simp only [nearest, if_neg hnum.ne', scaled_eq]
    split
    · rename_i hcarry
      rw [hcarry]
      exact ⟨nofun, nofun⟩
    · rfl
  have hdouble : num * underflowBound = 2 * (num * 2 ^ leastPlaces) := by
    rw [underflowBound, Nat.pow_succ, ← Nat.mul_assoc, Nat.mul_comm]
  rw [hzero, roundHalfEven_eq_zero_iff (Nat.mul_pos hden (Nat.two_pow_pos _)), hdouble]
  by_cases hmin : exponentFor num den = minExponent
  · have hneg : (-minExponent).toNat = leastPlaces := by unfold leastPlaces; rfl
    have hpos : minExponent.toNat = 0 := rfl
    rw [hmin, hneg, hpos, Nat.pow_zero, Nat.mul_one]
  · -- Above the least exponent the quotient has all its bits and is far from half of one.
    have hlt : minExponent < exponentFor num den := by
      have hle : minExponent ≤ exponentFor num den := by
        unfold exponentFor
        exact Int.le_max_right ..
      omega
    have hbits := le_scaled_of_le_exponentFor hnum hden hlt le_rfl
    have hplaces : (-exponentFor num den).toNat ≤ leastPlaces := by
      unfold leastPlaces
      unfold minExponent at hlt
      omega
    have hshift : num * 2 ^ (-exponentFor num den).toNat ≤ num * 2 ^ leastPlaces :=
      Nat.mul_le_mul_left _ (Nat.pow_le_pow_right (by decide) hplaces)
    have hden' : den ≤ den * 2 ^ (exponentFor num den).toNat :=
      Nat.le_mul_of_pos_right _ (Nat.two_pow_pos _)
    omega

theorem ceiling_eq_zero_iff {significand : Nat} {exponent : Int} :
    ceiling significand exponent = 0 ↔ significand = 0 := by
  unfold ceiling
  split
  · have hunit : 0 < Nat.pow 2 exponent.toNat := Nat.two_pow_pos _
    rw [Nat.mul_eq_zero]
    omega
  · have hunit : 0 < Nat.pow 2 (-exponent).toNat := Nat.two_pow_pos _
    rw [Nat.div_eq_zero_iff]
    omega

end Number.Binary64

/-! ## Counts -/

open Number.Binary64

/-- A positive quotient that is rounded up is zero exactly if it vanishes. -/
theorem MemorySize.ceilingQuotient_eq_zero_iff {num den n : Nat} (hnum : 0 < num) (hden : 0 < den)
    (h : ceilingQuotient num den = .ok n) : n = 0 ↔ num * underflowBound ≤ den := by
  rw [← nearest_fst_eq_zero_iff hnum hden]
  unfold ceilingQuotient ofRatio? at h
  dsimp only at h
  by_cases hle : (nearest num den).2 ≤ maxExponent
  · rw [if_pos hle] at h
    rw [← Except.ok.inj h]
    exact ceiling_eq_zero_iff
  · rw [if_neg hle] at h
    cases h

theorem notPositive_ne_ok {α : Type} {fault : Int → ConfigurationFault} {n : Int} {key : String}
    {a : α} : (notPositive fault n key : Outcome α) ≠ .ok a := by
  unfold notPositive
  split
  · exact Outcome.misconfigured_ne_ok
  · exact nofun

/-- The number of task managers is a natural number, and zero exactly if the quotient vanishes. -/
theorem taskManagerCount_ok {parallelism slots n : Int}
    (h : taskManagerCount parallelism slots = .ok n) :
    0 ≤ n ∧ (n = 0 ↔ parallelism * underflowBound ≤ slots) := by
  unfold taskManagerCount at h
  split at h
  · exact absurd h notPositive_ne_ok
  split at h
  · exact absurd h notPositive_ne_ok
  rename_i hslots hparallelism
  obtain ⟨count, hcount, rfl⟩ := Outcome.map_ok h
  have hzero := MemorySize.ceilingQuotient_eq_zero_iff (by omega) (by omega) hcount
  have hcast : ((parallelism.toNat * underflowBound : Nat) : Int) =
      parallelism * underflowBound := by
    rw [Int.natCast_mul, Int.toNat_of_nonneg (by omega)]
  refine ⟨Int.natCast_nonneg count, Int.natCast_eq_zero.trans (hzero.trans ?_)⟩
  rw [← hcast]
  omega

end FlinkCluster
