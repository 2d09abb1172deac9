import FlinkCluster.Proofs.SmallQuotients
import Mathlib.Algebra.Order.Ring.Int

/-!
# Quotients that are rounded up

Numbers of task managers and of mebibytes are quotients of naturals, which are rounded to double
precision first and up to an integer then.

* `Number.Binary64.ceiling_nearest_le_iff`: which naturals are not below the result, for every
  quotient.
* `Number.Binary64.ceiling_nearest_le_iff_of_le`: the first rounding does no harm to a quotient of
  naturals up to `2 ^ 53` and `2 ^ 1074`.
* `Number.Binary64.nearest_snd_le_iff`: where the format ends.
* `taskManagerCount_precise`: so the number of task managers is exact.
-/

set_option autoImplicit false

namespace FlinkCluster

namespace Number.Binary64

variable {num den k : Nat}

/-! ## Rounding to integers -/

theorem le_roundHalfEven (hden : 0 < den) (h : k * den ≤ num) : k ≤ roundHalfEven num den := by
  have hround := @le_two_mul_roundHalfEven num _ hden
  have hscaled : 2 * k * den ≤ (2 * roundHalfEven num den + 1) * den := by
    rw [Nat.add_mul, Nat.one_mul, Nat.mul_assoc, Nat.mul_assoc]
    omega
  have hle := Nat.le_of_mul_le_mul_right hscaled hden
  omega

theorem roundHalfEven_le (hden : 0 < den) (h : num ≤ k * den) : roundHalfEven num den ≤ k := by
  have hround := two_mul_roundHalfEven_le num den
  have hscaled : 2 * roundHalfEven num den * den ≤ (2 * k + 1) * den := by
    rw [Nat.add_mul, Nat.one_mul, Nat.mul_assoc, Nat.mul_assoc]
    omega
  have hle := Nat.le_of_mul_le_mul_right hscaled hden
  omega

theorem roundHalfEven_mul_self (hden : 0 < den) : roundHalfEven (k * den) den = k :=
  Nat.le_antisymm (roundHalfEven_le hden le_rfl) (le_roundHalfEven hden le_rfl)

theorem roundHalfEven_mul_right {c : Nat} (hc : 0 < c) :
    roundHalfEven (num * c) (den * c) = roundHalfEven num den := by
  have hdiv : num * c / (den * c) = num / den := Nat.mul_div_mul_right num den hc
  have hmod : num * c % (den * c) = num % den * c := Nat.mul_mod_mul_right c num den
  have hbelow : 2 * (num % den * c) < den * c ↔ 2 * (num % den) < den := by
    rw [← Nat.mul_assoc]
    exact Nat.mul_lt_mul_right hc
  have habove : den * c < 2 * (num % den * c) ↔ den < 2 * (num % den) := by
    rw [← Nat.mul_assoc]
    exact Nat.mul_lt_mul_right hc
  simp only [roundHalfEven, hdiv, hmod, hbelow, habove]

/-- Half below an even integer is rounded up to it. -/
theorem le_roundHalfEven_of_even (hden : 0 < den) (heven : k % 2 = 0)
    (h : 2 * (k * den) ≤ 2 * num + den) : k ≤ roundHalfEven num den := by
  by_cases hle : k * den ≤ num
  · exact le_roundHalfEven hden hle
  obtain ⟨j, rfl⟩ : ∃ j, k = j + 1 := Nat.exists_eq_succ_of_ne_zero (by rintro rfl; omega)
  rw [Nat.add_mul, Nat.one_mul] at h hle
  have hquotient : num / den = j := by
    refine Nat.div_eq_of_lt_le (by omega) ?_
    rw [Nat.add_mul, Nat.one_mul]
    omega
  have hrest : num = den * j + num % den := hquotient ▸ (Nat.div_add_mod num den).symm
  rw [Nat.mul_comm den j] at hrest
  unfold roundHalfEven
  simp only [hquotient]
  rw [if_neg (by omega)]
  split
  · exact le_rfl
  · rw [if_neg (by omega)]

/-! ## Exponents -/

/-- An inequality between multiples of powers of two says the same at lower powers. -/
theorem mul_two_pow_lt {x y a b a' b' : Nat} (h : x * 2 ^ a < y * 2 ^ b)
    (hle : a' + b ≤ a + b') : x * 2 ^ a' < y * 2 ^ b' := by
  refine Nat.lt_of_mul_lt_mul_right (a := 2 ^ b) ?_
  calc x * 2 ^ a' * 2 ^ b = x * 2 ^ (a' + b) := by rw [Nat.mul_assoc, Nat.pow_add]
    _ ≤ x * 2 ^ (a + b') := Nat.mul_le_mul_left x (Nat.pow_le_pow_right (by decide) hle)
    _ = x * 2 ^ a * 2 ^ b' := by rw [Nat.mul_assoc, Nat.pow_add]
    _ < y * 2 ^ b * 2 ^ b' := Nat.mul_lt_mul_of_pos_right h (Nat.two_pow_pos b')
    _ = y * 2 ^ b' * 2 ^ b := Nat.mul_right_comm ..

/-- At the exponent that is chosen the quotient has 53 bits at most. -/
theorem scaled_lt (num : Nat) (hden : 0 < den) :
    num * 2 ^ (-exponentFor num den).toNat <
      2 ^ 53 * (den * 2 ^ (exponentFor num den).toNat) := by
  have hlogs : num * 2 ^ den.log2 < den * 2 ^ (num.log2 + 1) := by
    calc num * 2 ^ den.log2 ≤ num * den := Nat.mul_le_mul_left _ (Nat.log2_self_le hden.ne')
      _ = den * num := Nat.mul_comm ..
      _ < den * 2 ^ (num.log2 + 1) := Nat.mul_lt_mul_of_pos_left Nat.lt_log2_self hden
  have hshape (e : Int) : 2 ^ 53 * (den * 2 ^ e.toNat) = den * 2 ^ (e.toNat + 53) := by
    rw [Nat.pow_add, ← Nat.mul_assoc den, Nat.mul_comm]
  rw [hshape]
  unfold exponentFor
  simp only [scaled_eq]
  split
  · rename_i hbits
    have hscaled := (Nat.div_lt_iff_lt_mul (Nat.mul_pos hden (Nat.two_pow_pos _))).1 hbits
    change _ < 2 ^ 52 * _ at hscaled
    rw [Nat.mul_comm (2 ^ 52), Nat.mul_assoc, ← Nat.pow_add] at hscaled
    exact mul_two_pow_lt hscaled (by unfold minExponent; omega)
  · exact mul_two_pow_lt hlogs (by unfold minExponent; omega)

/-! ## Rounding up -/

/-- The least integer that is not below the quotient. -/
def roundUp (num den : Nat) : Nat := (num + (den - 1)) / den

theorem roundUp_le_iff (hden : 0 < den) : roundUp num den ≤ k ↔ num ≤ k * den := by
  rw [roundUp, Nat.div_le_iff_le_mul hden]
  omega

theorem ceiling_le_iff {m : Nat} {e : Int} :
    ceiling m e ≤ k ↔ m * 2 ^ e.toNat ≤ k * 2 ^ (-e).toNat := by
  unfold ceiling
  split
  · rw [show (-e).toNat = 0 by omega, Nat.pow_zero, Nat.mul_one]
    rfl
  · have hunit : 0 < 2 ^ (-e).toNat := Nat.two_pow_pos _
    rw [show e.toNat = 0 by omega, Nat.pow_zero, Nat.mul_one]
    exact roundUp_le_iff hunit

/-- The naturals that are not below a rounded quotient. -/
theorem ceiling_nearest_le_iff (num den k : Nat) :
    ceiling (nearest num den).1 (nearest num den).2 ≤ k ↔
      roundHalfEven (num * 2 ^ (-exponentFor num den).toNat)
          (den * 2 ^ (exponentFor num den).toNat) * 2 ^ (exponentFor num den).toNat ≤
        k * 2 ^ (-exponentFor num den).toNat := by
  by_cases hnum : num = 0
  · subst hnum
    have hzero (d : Nat) : roundHalfEven 0 d = 0 := by simp [roundHalfEven]
    simp [nearest, ceiling_le_iff, hzero]
  simp only [nearest, if_neg hnum, scaled_eq]
  split
  · rename_i hcarry
    change roundHalfEven _ _ = 2 ^ 53 at hcarry
    rw [hcarry, ceiling_le_iff]
    change 2 ^ 52 * 2 ^ (exponentFor num den + 1).toNat ≤
      k * 2 ^ (-(exponentFor num den + 1)).toNat ↔ _
    generalize exponentFor num den = e
    by_cases he : 0 ≤ e
    · rw [show (e + 1).toNat = e.toNat + 1 by omega, show (-(e + 1)).toNat = 0 by omega,
        show (-e).toNat = 0 by omega, Nat.pow_succ 2 e.toNat]
      omega
    · rw [show (-e).toNat = (-(e + 1)).toNat + 1 by omega, show (e + 1).toNat = 0 by omega,
        show e.toNat = 0 by omega, Nat.pow_succ 2 (-(e + 1)).toNat, ← Nat.mul_assoc k]
      omega
  · exact ceiling_le_iff

/-- A quotient that needs no rounding is rounded up exactly. -/
theorem exact_le_iff {m a b : Nat} (hden : 0 < den)
    (hexact : m * (den * 2 ^ b) = num * 2 ^ a) : m * 2 ^ b ≤ k * 2 ^ a ↔ num ≤ k * den := by
  have hunit : 0 < 2 ^ a := Nat.two_pow_pos a
  have hscaled : m * 2 ^ b * den = num * 2 ^ a := by rw [← hexact]; ring
  rw [← Nat.mul_le_mul_right_iff hden, hscaled, Nat.mul_right_comm, Nat.mul_le_mul_right_iff hunit]

/-- Where half a last place is less than a part of the denominator, rounding passes no integer. -/
theorem roundHalfEven_le_iff {a : Nat} (hden : 0 < den) (hplaces : den < 2 * 2 ^ a) :
    roundHalfEven (num * 2 ^ a) den ≤ k * 2 ^ a ↔ num ≤ k * den := by
  constructor
  · intro hround
    by_contra hlt
    have hstep : (k * den + 1) * 2 ^ a ≤ num * 2 ^ a := Nat.mul_le_mul_right _ (by omega)
    have hhalf := @le_two_mul_roundHalfEven (num * 2 ^ a) _ hden
    have hbound := Nat.mul_le_mul_right den hround
    rw [Nat.add_mul, Nat.one_mul, Nat.mul_right_comm] at hstep
    omega
  · intro hle
    refine roundHalfEven_le hden ?_
    rw [Nat.mul_right_comm]
    exact Nat.mul_le_mul_right _ hle

/-- **Rounding to double precision does no harm** to a quotient of naturals up to `2 ^ 53` and
`2 ^ 1074` that is rounded up then: it needs no rounding, or its last place is so small that it
stays between the integers next to it. -/
theorem ceiling_nearest_le_iff_of_le (hnum : 0 < num) (hden : 0 < den) (hsmall : num ≤ 2 ^ 53)
    (hleast : den ≤ 2 ^ leastPlaces) (k : Nat) :
    ceiling (nearest num den).1 (nearest num den).2 ≤ k ↔ num ≤ k * den := by
  rw [ceiling_nearest_le_iff]
  have hbits := @le_scaled_of_le_exponentFor num den (exponentFor num den) hnum hden
  have hmin : minExponent ≤ exponentFor num den := by
    unfold exponentFor
    exact Int.le_max_right ..
  generalize exponentFor num den = e at hbits hmin ⊢
  by_cases hexact : 2 ^ 52 * (den * 2 ^ e.toNat) = num * 2 ^ (-e).toNat
  · rw [← hexact, roundHalfEven_mul_self (Nat.mul_pos hden (Nat.two_pow_pos _))]
    exact exact_le_iff hden hexact
  have hplaces : den * 2 ^ e.toNat < 2 * 2 ^ (-e).toNat := by
    rcases hmin.lt_or_eq with hlt | rfl
    · have hle : num * 2 ^ (-e).toNat ≤ 2 ^ 53 * 2 ^ (-e).toNat := Nat.mul_le_mul_right _ hsmall
      have := hbits hlt le_rfl
      omega
    · have hneg : (-minExponent).toNat = leastPlaces := by unfold leastPlaces; rfl
      have hpos : minExponent.toNat = 0 := rfl
      have hunit : 0 < 2 ^ leastPlaces := Nat.two_pow_pos _
      rw [hneg, hpos, Nat.pow_zero, Nat.mul_one]
      omega
  have hzero : e.toNat = 0 := by
    by_contra hne
    have hneg : (-e).toNat = 0 := by omega
    have htwo : 2 ^ 1 ≤ 2 ^ e.toNat := Nat.pow_le_pow_right (by decide) (by omega)
    have hle : 2 ^ e.toNat ≤ den * 2 ^ e.toNat := Nat.le_mul_of_pos_left _ hden
    rw [hneg] at hplaces
    omega
  rw [hzero, Nat.pow_zero, Nat.mul_one] at hplaces ⊢
  rw [Nat.mul_one]
  exact roundHalfEven_le_iff hden hplaces

/-! ## The limit of the format -/

theorem lt_overflowBound : 2 ^ 53 < overflowBound := by
  have hunit : 0 < 2 ^ halfExponent := Nat.two_pow_pos _
  unfold overflowBound
  omega

/-- From the bound of the format on, the exponent is above the greatest one, or at it and carried
over. -/
theorem maxExponent_lt_of_le (hden : 0 < den) (hlarge : overflowBound * den ≤ num) :
    maxExponent < (nearest num den).2 := by
  have hbits := scaled_lt num hden
  unfold overflowBound at hlarge
  have hnum : num ≠ 0 := by
    rintro rfl
    have hpos : 0 < 2 ^ halfExponent * den := Nat.mul_pos (Nat.two_pow_pos _) hden
    rw [Nat.mul_assoc] at hlarge
    omega
  have hexp : (halfExponent + 1 : Nat) ≤ exponentFor num den := by
    by_contra hlow
    rw [← Nat.mul_assoc] at hbits
    have hlt : num * 2 ^ 0 < 2 ^ 53 * den * 2 ^ halfExponent :=
      mul_two_pow_lt hbits (by unfold halfExponent at hlow ⊢; omega)
    rw [Nat.mul_assoc, Nat.mul_comm den] at hlt
    rw [Nat.mul_assoc] at hlarge
    omega
  simp only [nearest, if_neg hnum, scaled_eq]
  split
  · unfold maxExponent
    unfold halfExponent at hexp
    change 971 < exponentFor num den + 1
    omega
  · rename_i hcarry
    change ¬ roundHalfEven _ _ = 2 ^ 53 at hcarry
    by_contra hle
    have hlast : exponentFor num den = (halfExponent + 1 : Nat) := by
      unfold maxExponent at hle
      unfold halfExponent at hexp ⊢
      dsimp only at hle
      omega
    rw [hlast, Int.toNat_natCast, show (-((halfExponent + 1 : Nat) : Int)).toNat = 0 by omega,
      Nat.pow_zero, Nat.mul_one] at hbits hcarry
    have hunit : 0 < den * 2 ^ (halfExponent + 1) := Nat.mul_pos hden (Nat.two_pow_pos _)
    refine hcarry (Nat.le_antisymm (roundHalfEven_le hunit hbits.le) ?_)
    refine le_roundHalfEven_of_even hunit (by decide) ?_
    rw [Nat.pow_succ 2 halfExponent, ← Nat.mul_assoc den, Nat.mul_comm den]
    rw [Nat.mul_assoc] at hlarge
    omega

/-- A quotient has a nearest number exactly if it is below the bound of the format. -/
theorem nearest_snd_le_iff (hden : 0 < den) :
    (nearest num den).2 ≤ maxExponent ↔ num < overflowBound * den := by
  constructor
  · intro hle
    by_contra hlarge
    have := maxExponent_lt_of_le hden (Nat.not_lt.1 hlarge)
    omega
  · intro hlt
    by_contra hgt
    have hnone : ofRatio? false num den = none := if_neg hgt
    have := overflowBound_le hden hnone
    omega

end Number.Binary64

/-! ## Counts -/

open Number.Binary64

/-- A quotient is rounded up, or beyond the format. -/
theorem MemorySize.ceilingQuotient_eq {num den : Nat} (hden : 0 < den) :
    ceilingQuotient num den =
      if num < overflowBound * den then
        .ok (ceiling (nearest num den).1 (nearest num den).2)
      else .error .quotientTooLarge := by
  unfold ceilingQuotient ofRatio?
  simp only [nearest_snd_le_iff hden]
  by_cases hlt : num < overflowBound * den
  · rw [if_pos hlt, if_pos hlt]
  · rw [if_neg hlt, if_neg hlt]

/-- Up to the bound of significands and the inverse of the least positive number, a quotient is
rounded up to the least natural that is not below it. -/
theorem MemorySize.ceilingQuotient_of_le {num den : Nat} (hnum : 0 < num) (hden : 0 < den)
    (hsmall : num ≤ 2 ^ 53) (hleast : den ≤ 2 ^ leastPlaces) :
    ∃ n, ceilingQuotient num den = .ok n ∧ ∀ k, n ≤ k ↔ num ≤ k * den := by
  have hlt : num < overflowBound * den :=
    calc num < overflowBound := hsmall.trans_lt lt_overflowBound
      _ ≤ overflowBound * den := Nat.le_mul_of_pos_right _ hden
  exact ⟨_, by rw [ceilingQuotient_eq hden, if_pos hlt],
    ceiling_nearest_le_iff_of_le hnum hden hsmall hleast⟩

theorem notPositive_eq {α : Type} (fault : Int → ConfigurationFault) (n : Int) (key : String) :
    (notPositive fault n key : Outcome α) =
      if (Nat.toDigits 10 n.natAbs).length ≤ 4300 then misconfigured (fault n) key
      else .error .unwritableInteger := by
  unfold notPositive
  exact if_congr Number.isWritable_iff rfl rfl

/-- A parallelism and a number of slots for which the number of task managers is precise. -/
structure IsPrecise (parallelism slots : Int) : Prop where
  parallelism_pos : 1 ≤ parallelism
  parallelism_le : parallelism ≤ 2 ^ 53
  slots_pos : 1 ≤ slots
  slots_le : slots ≤ 2 ^ 1074

/-- There is a number of task managers, the least with enough slots. -/
theorem IsPrecise.exists_count {parallelism slots : Int} (h : IsPrecise parallelism slots) :
    ∃ n : Nat, taskManagerCount parallelism slots = .ok n ∧
      ∀ k : Nat, n ≤ k ↔ parallelism ≤ k * slots := by
  obtain ⟨hparallelism, hsmall, hslots, hleast⟩ := h
  obtain ⟨p, rfl⟩ := Int.eq_ofNat_of_zero_le (by omega : 0 ≤ parallelism)
  obtain ⟨s, rfl⟩ := Int.eq_ofNat_of_zero_le (by omega : 0 ≤ slots)
  have hleast' : s ≤ 2 ^ leastPlaces := by
    unfold leastPlaces
    exact_mod_cast hleast
  obtain ⟨n, hn, hiff⟩ := MemorySize.ceilingQuotient_of_le (by omega : 0 < p) (by omega : 0 < s)
    (by exact_mod_cast hsmall) hleast'
  refine ⟨n, ?_, fun k => ?_⟩
  · rw [taskManagerCount, if_neg (by omega), if_neg (by omega), Int.toNat_natCast,
      Int.toNat_natCast, hn]
    rfl
  · rw [hiff]
    exact_mod_cast Iff.rfl

/-- **The number of task managers is exact** in spite of the rounding: they have enough slots, and
one of them less would not. So more parallelism never needs fewer of them, and more slots never need
more. Without a positive number of slots, or else without parallelism, there is none, and the key of
that setting is named if the number can be quoted, which takes 4300 digits at most. -/
theorem taskManagerCount_precise (parallelism slots : Int) :
    (IsPrecise parallelism slots →
      (∃ n : Int, taskManagerCount parallelism slots = .ok n ∧ 1 ≤ n ∧
        (n - 1) * slots < parallelism ∧ parallelism ≤ n * slots) ∧
      ∀ parallelism' slots' n n', IsPrecise parallelism' slots' → parallelism ≤ parallelism' →
        slots' ≤ slots → taskManagerCount parallelism slots = .ok n →
        taskManagerCount parallelism' slots' = .ok n' → n ≤ n') ∧
    (slots < 1 → taskManagerCount parallelism slots =
      if (Nat.toDigits 10 slots.natAbs).length ≤ 4300 then
        misconfigured (.slotsNotPositive slots) Options.taskSlots.key
      else .error .unwritableInteger) ∧
    (1 ≤ slots → parallelism < 1 → taskManagerCount parallelism slots =
      if (Nat.toDigits 10 parallelism.natAbs).length ≤ 4300 then
        misconfigured (.parallelismNotPositive parallelism) Options.defaultParallelism.key
      else .error .unwritableInteger) := by
  refine ⟨fun h => ⟨?_, ?_⟩, fun hslots => ?_, fun hslots hparallelism => ?_⟩
  · obtain ⟨n, hn, hleast⟩ := h.exists_count
    have hpos : 1 ≤ n := by
      by_contra hzero
      have henough := (hleast 0).1 (by omega)
      have := h.parallelism_pos
      omega
    refine ⟨n, hn, by omega, ?_, (hleast n).1 le_rfl⟩
    have hfewer := mt (hleast (n - 1)).2 (by omega)
    push_cast [hpos] at hfewer
    omega
  · intro parallelism' slots' n n' h' hparallelism hslots hn hn'
    obtain ⟨m, hm, hleast⟩ := h.exists_count
    obtain ⟨m', hm', hleast'⟩ := h'.exists_count
    obtain rfl := Except.ok.inj (hn.symm.trans hm)
    obtain rfl := Except.ok.inj (hn'.symm.trans hm')
    refine Int.ofNat_le.2 ((hleast m').2 ?_)
    calc parallelism ≤ parallelism' := hparallelism
      _ ≤ m' * slots' := (hleast' m').1 le_rfl
      _ ≤ m' * slots := Int.mul_le_mul_of_nonneg_left hslots (Int.natCast_nonneg m')
  · rw [taskManagerCount, if_pos hslots, notPositive_eq]
  · rw [taskManagerCount, if_neg (by omega), if_pos hparallelism, notPositive_eq]

/-- A third of the greatest parallelism is no integer, and more slots than that are too many. -/
theorem taskManagerCount_precise_third :
    IsPrecise (2 ^ 53) 3 ∧ IsPrecise 7 (2 ^ 1074) ∧
      taskManagerCount (2 ^ 53) 3 = .ok 3002399751580331 ∧
      3002399751580330 * 3 < (2 ^ 53 : Int) ∧
      ∃ n : Int, taskManagerCount 7 (2 ^ 1074) = .ok n ∧ 1 ≤ n ∧ n ≤ 3002399751580331 := by
  have hlarge : (3 : Int) ≤ 2 ^ 1074 :=
    (by decide : (3 : Int) ≤ 2 ^ 2).trans (pow_le_pow_right₀ (by decide) (by decide))
  have hthird : IsPrecise (2 ^ 53) 3 := ⟨by decide, le_rfl, by decide, hlarge⟩
  have hseven : IsPrecise 7 (2 ^ 1074) := ⟨by decide, by decide, by omega, le_rfl⟩
  have hcount : taskManagerCount (2 ^ 53) 3 = .ok 3002399751580331 := by decide +kernel
  obtain ⟨⟨n, hn, hpos, -, -⟩, hmono⟩ := (taskManagerCount_precise 7 (2 ^ 1074)).1 hseven
  obtain ⟨⟨m, hm, -, hfewer, -⟩, -⟩ := (taskManagerCount_precise (2 ^ 53) 3).1 hthird
  obtain rfl := Except.ok.inj (hcount.symm.trans hm)
  have hle := hmono (2 ^ 53) 3 n 3002399751580331 hthird (by decide) hlarge hn hcount
  exact ⟨hthird, hseven, hcount, hfewer, n, hn, hpos, hle⟩

/-- A number of slots of 4301 digits is not positive, but that is not what is said. -/
theorem taskManagerCount_unwritable :
    (-(10 ^ 4300) : Int) < 1 ∧ taskManagerCount 1 (-(10 ^ 4300)) = .error .unwritableInteger ∧
      ¬ ∃ c, taskManagerCount 1 (-(10 ^ 4300)) = .error (.configuration c) := by
  have hslots : (-(10 ^ 4300) : Int) < 1 := by
    have hpos : (0 : Int) < 10 ^ 4300 := Int.pow_pos (by decide)
    generalize (10 : Int) ^ 4300 = n at hpos ⊢
    omega
  have hdigits : ¬ (Nat.toDigits 10 (-(10 ^ 4300) : Int).natAbs).length ≤ 4300 := by
    have hten : (10 : Int).natAbs = 10 := rfl
    rw [Int.natAbs_neg, Int.natAbs_pow, hten, Nat.length_toDigits_le_iff (by decide) (by decide)]
    exact Nat.lt_irrefl _
  have hcount : taskManagerCount 1 (-(10 ^ 4300)) = .error .unwritableInteger := by
    rw [taskManagerCount, if_pos hslots, notPositive_eq, if_neg hdigits]
  refine ⟨hslots, hcount, ?_⟩
  rintro ⟨c, hc⟩
  cases hcount.symm.trans hc

/-- Past the bound the rounding does harm: one slot is missing. -/
example : taskManagerCount (2 ^ 53 + 1) 1 = .ok (2 ^ 53) := by decide +kernel

end FlinkCluster
