import FlinkCluster.Proofs.Failing
import FlinkCluster.Proofs.IntegerText
import Mathlib.Tactic.Ring

/-!
# Numbers that are too large

Memory sizes and replica counts are double precision quotients of integers of any size, and there
is none from halfway between the greatest number of the format and `2 ^ 1024` on. Besides, no
integer of more than 4300 digits is read.

* `Number.Binary64.overflowBound_le`: a quotient that has no nearest number is at least that bound.
* `MemorySize.quantity_fails`: a memory size that is no refusal fails for its many digits or for its
  size (`MemorySize.TooLarge`).
-/

set_option autoImplicit false

namespace FlinkCluster

/-! ## Quotients -/

namespace Number.Binary64

/-- The exponent of half the last bit of the greatest numbers. -/
def halfExponent : Nat := 970

/-- Halfway between the greatest number of the format and `2 ^ 1024`. -/
@[irreducible] def overflowBound : Nat := (2 ^ 54 - 1) * 2 ^ halfExponent

theorem scaled_eq (num den : Nat) (e : Int) :
    scaled num den e = (num * 2 ^ (-e).toNat, den * 2 ^ e.toNat) := by
  unfold scaled
  split
  · have hneg : (-e).toNat = 0 := by omega
    rw [hneg, Nat.pow_zero, Nat.mul_one]
    rfl
  · have hpos : e.toNat = 0 := by omega
    rw [hpos, Nat.pow_zero, Nat.mul_one]
    rfl

/-- At an exponent up to the one that is chosen, but above the least one, the quotient has 53 bits
or more. -/
theorem le_scaled_of_le_exponentFor {num den : Nat} {e : Int} (hnum : 0 < num) (hden : 0 < den)
    (hmin : minExponent < e) (h : e ≤ exponentFor num den) :
    2 ^ 52 * (den * 2 ^ e.toNat) ≤ num * 2 ^ (-e).toNat := by
  have hlow : 2 ^ num.log2 ≤ num := Nat.log2_self_le hnum.ne'
  have hhigh : den < 2 ^ (den.log2 + 1) := Nat.lt_log2_self
  by_cases hlogs : e ≤ (num.log2 : Int) - den.log2 - 53
  · -- The logarithms alone bound the quotient.
    have hexp : 52 + (den.log2 + 1 + e.toNat) ≤ num.log2 + (-e).toNat := by omega
    calc 2 ^ 52 * (den * 2 ^ e.toNat) ≤ 2 ^ 52 * (2 ^ (den.log2 + 1) * 2 ^ e.toNat) :=
          Nat.mul_le_mul_left _ (Nat.mul_le_mul_right _ hhigh.le)
      _ = 2 ^ (52 + (den.log2 + 1 + e.toNat)) := by rw [← Nat.pow_add, ← Nat.pow_add]
      _ ≤ 2 ^ (num.log2 + (-e).toNat) := Nat.pow_le_pow_right (by decide) hexp
      _ = 2 ^ num.log2 * 2 ^ (-e).toNat := Nat.pow_add ..
      _ ≤ num * 2 ^ (-e).toNat := Nat.mul_le_mul_right _ hlow
  · -- The exponent is the difference of the logarithms, at which the bits have been counted.
    simp only [exponentFor, scaled_eq] at h
    split at h
    · omega
    · rename_i hbits
      obtain rfl : e = (num.log2 : Int) - den.log2 - 52 := by omega
      exact (Nat.le_div_iff_mul_le (Nat.mul_pos hden (Nat.two_pow_pos _))).1 (Nat.not_lt.1 hbits)

/-- At an exponent from zero up to the one that is chosen, the quotient has 53 bits or more. -/
theorem le_of_le_exponentFor {num den e : Nat} (hnum : 0 < num) (hden : 0 < den)
    (h : (e : Int) ≤ exponentFor num den) : 2 ^ 52 * (den * 2 ^ e) ≤ num := by
  have hmin : minExponent < (e : Int) := by unfold minExponent; omega
  have hbits := le_scaled_of_le_exponentFor hnum hden hmin h
  have hneg : (-(e : Int)).toNat = 0 := by omega
  rwa [hneg, Nat.pow_zero, Nat.mul_one, Int.toNat_natCast] at hbits

theorem scaled_natCast (num den e : Nat) : scaled num den e = (num, den * 2 ^ e) := by
  rw [scaled, if_pos (Int.natCast_nonneg e), Int.toNat_natCast]
  rfl

/-- Only exponents above the greatest one, or rounding up at it, leave the format. -/
theorem exponentFor_of_ofRatio? {negative : Bool} {num den : Nat}
    (h : ofRatio? negative num den = none) :
    0 < num ∧ ((halfExponent + 2 : Nat) ≤ exponentFor num den ∨
      roundHalfEven num (den * 2 ^ (halfExponent + 1)) = 2 ^ 53) := by
  by_cases hnum : num = 0
  · rw [hnum] at h
    cases h
  refine ⟨Nat.pos_of_ne_zero hnum, ?_⟩
  have hexponent (m : Nat) (e : Int)
      (hnone : (if e ≤ maxExponent then some (finite negative m e) else none) = none) :
      maxExponent < e := by
    by_contra hle
    rw [if_pos (by omega)] at hnone
    cases hnone
  unfold ofRatio? nearest at h
  rw [if_neg hnum] at h
  dsimp only at h
  split at h
  · rename_i hround
    have hlarge := hexponent _ _ h
    unfold maxExponent at hlarge
    by_cases hlast : exponentFor num den = (halfExponent + 1 : Nat)
    · rw [hlast, scaled_natCast] at hround
      exact .inr hround
    · unfold halfExponent at hlast ⊢
      exact .inl (by omega)
  · have hlarge := hexponent _ _ h
    unfold maxExponent at hlarge
    unfold halfExponent
    exact .inl (by omega)

/-- A quotient without a nearest number of the format is at the bound or above it. -/
theorem overflowBound_le {negative : Bool} {num den : Nat} (hden : 0 < den)
    (h : ofRatio? negative num den = none) : overflowBound * den ≤ num := by
  unfold overflowBound
  obtain ⟨hnum, hexp | hround⟩ := exponentFor_of_ofRatio? h
  · have hbits := le_of_le_exponentFor hnum hden hexp
    rw [Nat.pow_add] at hbits
    generalize (2 : Nat) ^ halfExponent = unit at hbits ⊢
    have hunits : 2 ^ 52 * (den * (unit * 2 ^ 2)) = 2 ^ 54 * (unit * den) := by ring
    rw [Nat.mul_assoc]
    omega
  · have hhalf := two_mul_roundHalfEven_le num (den * 2 ^ (halfExponent + 1))
    rw [hround, Nat.pow_add] at hhalf
    generalize (2 : Nat) ^ halfExponent = unit at hhalf ⊢
    have hunits : den * (unit * 2 ^ 1) = 2 * (unit * den) := by ring
    rw [hunits] at hhalf
    rw [Nat.mul_assoc]
    omega

theorem ofRatio?_cases (negative : Bool) (num den : Nat) :
    ofRatio? negative num den = none ∨
      ∃ m e, ofRatio? negative num den = some (.finite negative m e) := by
  unfold ofRatio?
  dsimp only
  split
  · exact .inr ⟨_, _, rfl⟩
  · exact .inl rfl

end Number.Binary64

/-! ## Digits -/

namespace Text

theorem isBlank_of_isDigit {c : Char} (h : isDigit c = true) : isBlank c = false := by
  have hapart : ∀ z ∈ zeroCodes, ∀ b ∈ blankCodes, ¬(z ≤ b ∧ b < z + 10) := by decide
  rw [isDigit, digitValue?, Option.isSome_map] at h
  obtain ⟨z, hz⟩ := Option.isSome_iff_exists.1 h
  have hrun := List.find?_some hz
  simp only [Bool.and_eq_true, decide_eq_true_eq] at hrun
  rw [isBlank, List.contains_eq_mem, decide_eq_false_iff_not]
  exact fun hblank => hapart z (List.mem_of_find?_eq_some hz) _ hblank hrun

theorem isBlank_of_isSpace {c : Char} (h : isSpace c = true) : isBlank c = true := by
  have hascii : ∀ n ≤ 0x0D, 0x09 ≤ n → blankCodes.contains n = true := by decide
  unfold isSpace at h
  simp only [Bool.or_eq_true, beq_iff_eq, Bool.and_eq_true, decide_eq_true_eq] at h
  rcases h with rfl | ⟨hlow, hhigh⟩
  · rfl
  · exact hascii _ hhigh hlow

end Text

namespace Number

open Text

theorem isNumberBlank_of_isDigit {c : Char} (h : isDigit c = true) : isNumberBlank c = false := by
  have hblank := isBlank_of_isDigit h
  have hspace : isSpace c = false := by
    rw [← Bool.not_eq_true]
    intro hspace
    rw [isBlank_of_isSpace hspace] at hblank
    cases hblank
  rw [isNumberBlank, hspace, hblank, Bool.and_false, Bool.or_false]

theorem takeSign_of_isDigit {cs : List Char} (h : ∀ c ∈ cs, isDigit c = true) :
    takeSign cs = (false, cs) := by
  unfold takeSign
  split
  · exact absurd (h '-' List.mem_cons_self) (by decide)
  · exact absurd (h '+' List.mem_cons_self) (by decide)
  · rfl

/-- Digits are read as their value, unless there are too many of them. -/
theorem readInteger_of_isDigit {cs : List Char} (hne : cs ≠ [])
    (hdigits : ∀ c ∈ cs, isDigit c = true) :
    readInteger (String.ofList cs) =
      if maxDigits < cs.length then .error (.tooLong cs.length) else .ok (digitsValue cs : Int) := by
  rw [readInteger, String.toList_ofList,
    stripChars_eq_self fun c hc => isNumberBlank_of_isDigit (hdigits c hc),
    takeSign_of_isDigit hdigits]
  dsimp only
  rw [readDigits_of_isDigit hne hdigits]
  by_cases hlong : maxDigits < cs.length
  · rw [if_pos hlong, if_pos hlong]
    rfl
  · rw [if_neg hlong, if_neg hlong]
    rfl

/-- Digits fail to be an integer only if there are too many of them. -/
theorem error_of_readInteger {cs : List Char} {fault : IntegerFault} (hne : cs ≠ [])
    (hdigits : ∀ c ∈ cs, isDigit c = true) (h : readInteger (String.ofList cs) = .error fault) :
    maxDigits < cs.length ∧ fault = .tooLong cs.length := by
  rw [readInteger_of_isDigit hne hdigits] at h
  by_cases hlong : maxDigits < cs.length
  · rw [if_pos hlong] at h
    exact ⟨hlong, (Except.error.inj h).symm⟩
  · rw [if_neg hlong] at h
    cases h

end Number

/-! ## Memory sizes and task managers -/

open Outcome Number.Binary64

namespace MemorySize

theorem parts?_digits {cs digits letters : List Char} (h : parts? cs = some (digits, letters)) :
    digits ≠ [] ∧ ∀ c ∈ digits, Text.isDigit c = true := by
  unfold parts? at h
  dsimp only at h
  split at h
  · cases h
  · rename_i hparts
    obtain ⟨rfl, -⟩ := Prod.mk.inj (Option.some.inj h)
    rw [Bool.or_eq_true, not_or] at hparts
    exact ⟨fun hnil => hparts.1 (List.isEmpty_iff.2 hnil), fun c hc => List.mem_takeWhile_imp hc⟩

theorem parse?_digits {size digits : String} {unit : Nat} (h : parse? size = some (digits, unit)) :
    digits.toList ≠ [] ∧ ∀ c ∈ digits.toList, Text.isDigit c = true := by
  obtain ⟨⟨ds, letters⟩, hparts, h⟩ := Option.bind_eq_some_iff.1 h
  obtain ⟨size', -, h⟩ := Option.bind_eq_some_iff.1 h
  obtain ⟨rfl, -⟩ := Prod.mk.inj (Option.some.inj h)
  rw [String.toList_ofList]
  exact parts?_digits hparts

/-- A quotient that cannot be rounded up is at the bound of the format or above it. -/
theorem ceilingQuotient_fails {num den : Nat} (hden : 0 < den) :
    Fails (fun e => e = .quotientTooLarge ∧ overflowBound * den ≤ num)
      (ceilingQuotient num den) := by
  unfold ceilingQuotient
  obtain hnone | ⟨m, e, hsome⟩ := ofRatio?_cases false num den
  · rw [hnone]
    exact fails_error ⟨rfl, overflowBound_le hden hnone⟩
  · rw [hsome]
    exact fails_ok _

/-- How a memory size, digits and a unit, can be too large. -/
inductive TooLarge (size : String) : Failure → Prop
  /-- There are more digits than are read. -/
  | digits {digits : String} {unit : Nat} (hsize : parse? size = some (digits, unit))
      (hlong : Number.maxDigits < digits.toList.length) :
      TooLarge size (.invalidInteger digits (.tooLong digits.toList.length))
  /-- The number of mebibytes is beyond the greatest number of the format. -/
  | quotient {digits : String} {unit : Nat} {n : Int}
      (hsize : parse? size = some (digits, unit)) (hdigits : Number.readInteger digits = .ok n)
      (hlarge : overflowBound * 1024 ^ 2 ≤ n.toNat * unit) : TooLarge size .quotientTooLarge

theorem quantity_fails (size : String) :
    Fails (fun e => e.IsRefusal ∨ TooLarge size e) (quantity size) := by
  refine Fails.map (Fails.bind ?_ fun n _ => fails_ok (n : Int))
  unfold mebibytes
  split
  · exact (refuses_misconfigured rfl).mono fun _ => .inl
  · rename_i digits unit hsize
    split
    · rename_i n hdigits
      have hmebi : 0 < Nat.pow 1024 2 := by decide
      refine (ceilingQuotient_fails hmebi).mono fun e he => ?_
      obtain ⟨rfl, hlarge⟩ := he
      exact .inr (.quotient hsize hdigits hlarge)
    · rename_i fault hfault
      obtain ⟨hne, hdigits⟩ := parse?_digits hsize
      obtain ⟨hlong, rfl⟩ := Number.error_of_readInteger hne hdigits
        (by rwa [String.ofList_toList])
      exact fails_error (.inr (.digits hsize hlong))

end MemorySize

theorem notPositive_of_writable {α : Type} {fault : Int → ConfigurationFault} {n : Int}
    {key : String} (h : Number.isWritable n = true) :
    (notPositive fault n key : Outcome α) = misconfigured (fault n) key := if_pos h

/-- The number of task managers is refused, or the quotient of parallelism and slots is too
large. -/
theorem taskManagerCount_fails {parallelism slots : Int}
    (hparallelism : Number.isWritable parallelism = true) (hslots : Number.isWritable slots = true) :
    Fails (fun e => e.IsRefusal ∨ (e = .quotientTooLarge ∧ 1 ≤ slots ∧
      (overflowBound : Int) * slots ≤ parallelism)) (taskManagerCount parallelism slots) := by
  rw [taskManagerCount, notPositive_of_writable hslots, notPositive_of_writable hparallelism]
  split
  · exact (refuses_misconfigured rfl).mono fun _ => .inl
  split
  · exact (refuses_misconfigured rfl).mono fun _ => .inl
  · rename_i hslots hparallelism
    refine Fails.map ((MemorySize.ceilingQuotient_fails (by omega)).mono fun e he => ?_)
    obtain ⟨rfl, hlarge⟩ := he
    refine .inr ⟨rfl, by omega, ?_⟩
    have hcast : ((overflowBound * slots.toNat : Nat) : Int) ≤ parallelism.toNat :=
      Int.ofNat_le.2 hlarge
    rw [Int.natCast_mul, Int.toNat_of_nonneg (by omega), Int.toNat_of_nonneg (by omega)] at hcast
    exact hcast

end FlinkCluster
