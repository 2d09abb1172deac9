import FlinkCluster.Number.Integer
import Mathlib.Algebra.Ring.Nat
import Mathlib.Data.List.Basic
import Mathlib.Data.List.TakeWhile

/-!
# Integers read back

An integer setting is stored as decimal text. `readInteger_integerText`: reading that text gives the
integer back if it has no more digits than are read at all, and is refused otherwise. An integer that
was read can be written (`isWritable_of_readInteger`).
-/

set_option autoImplicit false

namespace FlinkCluster.Number

open FlinkCluster.Text

/-! ## Digits -/

theorem digitValue?_of_isDigit {c : Char} (h : c.isDigit = true) :
    digitValue? c = some (c.toNat - '0'.toNat) := by
  have hrange := Char.isDigit_iff_toNat.1 h
  have hzero : '0'.toNat = 48 := rfl
  have hnine : '9'.toNat = 57 := rfl
  rw [hzero, hnine] at hrange
  rw [digitValue?, zeroCodes, List.find?_cons_of_pos (by simp; omega), Option.map_some, hzero]

theorem digitsValue_eq_ofDigitChars {cs : List Char} (h : ∀ c ∈ cs, c.isDigit = true) :
    digitsValue cs = Nat.ofDigitChars 10 cs 0 := by
  rw [digitsValue, Nat.ofDigitChars_eq_foldl]
  refine List.foldl_ext _ _ _ fun n c hc => ?_
  rw [digitValue?_of_isDigit (h c hc), Option.getD_some, Nat.mul_comm]

theorem isDigit_of_mem_toDigits {n : Nat} {c : Char} (h : c ∈ Nat.toDigits 10 n) :
    c.isDigit = true :=
  Nat.isDigit_of_mem_toDigits (by decide) (by decide) h

/-- Digits of any script are read as their value, unless there are too many of them. -/
theorem readDigits_of_isDigit {cs : List Char} (hne : cs ≠ [])
    (h : ∀ c ∈ cs, isDigit c = true) :
    readDigits cs =
      if maxDigits < cs.length then .error (.tooLong cs.length) else .ok (digitsValue cs) := by
  have hrun : cs.takeWhile (fun c => isDigit c || c == '_') = cs := by
    rw [List.takeWhile_eq_self_iff]
    intro c hc
    rw [h c hc, Bool.true_or]
  have hgroups : cs.splitOn '_' = [cs] := by
    refine List.splitOn_eq_singleton fun hmem => ?_
    exact absurd (h '_' hmem) (by decide)
  have hnonempty : [cs].any List.isEmpty = false := by
    simp [List.isEmpty_eq_false_iff, hne]
  simp only [readDigits, hrun, hgroups, List.flatten_singleton, hnonempty, Bool.false_eq_true,
    Nat.lt_irrefl, if_false]

/-- The digits of a number are read as the number, unless there are too many of them. -/
theorem readDigits_toDigits (n : Nat) :
    readDigits (Nat.toDigits 10 n) =
      if maxDigits < (Nat.toDigits 10 n).length then .error (.tooLong (Nat.toDigits 10 n).length)
      else .ok n := by
  have hdigits : ∀ c ∈ Nat.toDigits 10 n, isDigit c = true := fun c hc => by
    rw [isDigit, digitValue?_of_isDigit (isDigit_of_mem_toDigits hc)]
    rfl
  have hvalue : digitsValue (Nat.toDigits 10 n) = n := by
    rw [digitsValue_eq_ofDigitChars fun c hc => isDigit_of_mem_toDigits hc,
      Nat.ofDigitChars_ten_toDigits]
  rw [readDigits_of_isDigit Nat.toDigits_ne_nil hdigits, hvalue]

/-! ## Blanks -/

theorem stripChars_eq_self {p : Char → Bool} {cs : List Char} (h : ∀ c ∈ cs, p c = false) :
    stripChars p cs = cs := by
  have hkept {ds : List Char} (hd : ∀ c ∈ ds, p c = false) : ds.dropWhile p = ds := by
    cases ds with
    | nil => rfl
    | cons c ds => rw [List.dropWhile_cons_of_neg (by simp [hd c List.mem_cons_self])]
  rw [stripChars, hkept h, hkept fun c hc => h c (List.mem_reverse.1 hc), List.reverse_reverse]

/-- Neither digits nor the minus sign are blanks. -/
theorem not_blank_of_mem_integerText {n : Int} {c : Char} (h : c ∈ (integerText n).toList) :
    isBlank c = false ∧ isNumberBlank c = false := by
  have hc : c = '-' ∨ c.isDigit = true := by
    rw [integerText, String.toList_ofList] at h
    split at h
    · rcases List.mem_cons.1 h with rfl | h
      · exact .inl rfl
      · exact .inr (isDigit_of_mem_toDigits h)
    · exact .inr (isDigit_of_mem_toDigits h)
  have hrange : 45 ≤ c.toNat ∧ c.toNat ≤ 57 := by
    rcases hc with rfl | hc
    · decide
    · have hrange := Char.isDigit_iff_toNat.1 hc
      exact ⟨Nat.le_trans (by decide) hrange.1, hrange.2⟩
  constructor
  · rw [isBlank, List.contains_eq_mem, decide_eq_false_iff_not]
    intro hmem
    simp only [blankCodes, List.mem_cons, List.not_mem_nil, or_false] at hmem
    omega
  · have hspace : c ≠ ' ' := by
      rintro rfl
      exact absurd hrange (by decide)
    have hlow : ¬c.toNat ≤ 0x0D := by omega
    have hhigh : ¬0x80 ≤ c.toNat := by omega
    simp only [isNumberBlank, isSpace, beq_eq_false_iff_ne.2 hspace, decide_eq_false hlow,
      decide_eq_false hhigh, Bool.and_false, Bool.false_and, Bool.or_self]

theorem strip_integerText (n : Int) : strip (integerText n) = integerText n := by
  rw [strip, stripChars_eq_self fun c hc => (not_blank_of_mem_integerText hc).1,
    String.ofList_toList]

/-! ## Integers -/

theorem takeSign_integerText (n : Int) :
    takeSign (integerText n).toList = (decide (n < 0), Nat.toDigits 10 n.natAbs) := by
  rw [integerText, String.toList_ofList]
  by_cases hneg : n < 0
  · rw [if_pos hneg, takeSign, decide_eq_true hneg]
  · rw [if_neg hneg, decide_eq_false hneg]
    have hne : Nat.toDigits 10 n.natAbs ≠ [] := Nat.toDigits_ne_nil
    obtain ⟨c, cs, hdigits⟩ := List.exists_cons_of_ne_nil hne
    have hc := isDigit_of_mem_toDigits (hdigits ▸ List.mem_cons_self : c ∈ Nat.toDigits 10 n.natAbs)
    rw [hdigits]
    unfold takeSign
    split
    · rename_i heq
      rw [(List.cons.inj heq).1] at hc
      exact absurd hc (by decide)
    · rename_i heq
      rw [(List.cons.inj heq).1] at hc
      exact absurd hc (by decide)
    · rfl

/-- The text of an integer has its sign and its digits, however many there are. -/
theorem integerText_injective {m n : Int} (h : integerText m = integerText n) : m = n := by
  have hparts := takeSign_integerText m
  rw [h, takeSign_integerText n, Prod.mk.injEq, decide_eq_decide] at hparts
  obtain ⟨hsign, hdigits⟩ := hparts
  have habs : n.natAbs = m.natAbs := by
    rw [← Nat.ofDigitChars_ten_toDigits (n := n.natAbs), hdigits, Nat.ofDigitChars_ten_toDigits]
  omega

/-- An integer is read back from its text, unless it has too many digits. -/
theorem readInteger_integerText (n : Int) :
    readInteger (strip (integerText n)) =
      if maxDigits < (Nat.toDigits 10 n.natAbs).length then
        .error (.tooLong (Nat.toDigits 10 n.natAbs).length)
      else .ok n := by
  rw [strip_integerText, readInteger,
    stripChars_eq_self fun c hc => (not_blank_of_mem_integerText hc).2, takeSign_integerText]
  simp only [readDigits_toDigits]
  by_cases hlong : maxDigits < (Nat.toDigits 10 n.natAbs).length
  · simp only [if_pos hlong]
    split <;> rfl
  · simp only [if_neg hlong]
    split
    · rename_i hneg
      have hneg := of_decide_eq_true hneg
      change Except.ok (-(n.natAbs : Int)) = Except.ok n
      exact congrArg Except.ok (by omega)
    · rename_i hneg
      have hneg := of_decide_eq_false (Bool.eq_false_iff.2 hneg)
      change Except.ok (n.natAbs : Int) = Except.ok n
      exact congrArg Except.ok (by omega)

/-! ## Writable integers -/

theorem isWritable_iff_lt {n : Int} : isWritable n = true ↔ n.natAbs < 10 ^ maxDigits := by
  rw [isWritable, decide_eq_true_iff, Nat.pow_eq]

theorem isWritable_iff {n : Int} :
    isWritable n = true ↔ (Nat.toDigits 10 n.natAbs).length ≤ maxDigits := by
  rw [isWritable_iff_lt, Nat.length_toDigits_le_iff (by decide) (by decide)]

theorem foldl_digits_lt (cs : List Char) (n : Nat) :
    cs.foldl (fun n c => n * 10 + (digitValue? c).getD 0) n < (n + 1) * 10 ^ cs.length := by
  induction cs generalizing n with
  | nil => simp
  | cons c cs ih =>
    have hdigit : (digitValue? c).getD 0 < 10 := by
      cases hvalue : digitValue? c with
      | none => decide
      | some d => exact digitValue?_lt hvalue
    rw [List.foldl_cons, List.length_cons]
    calc cs.foldl (fun n c => n * 10 + (digitValue? c).getD 0) (n * 10 + (digitValue? c).getD 0)
        < (n * 10 + (digitValue? c).getD 0 + 1) * 10 ^ cs.length := ih _
      _ ≤ (n + 1) * 10 * 10 ^ cs.length := Nat.mul_le_mul_right _ (by omega)
      _ = (n + 1) * 10 ^ (cs.length + 1) := by rw [Nat.mul_assoc, Nat.pow_succ, Nat.mul_comm 10]

theorem digitsValue_lt (cs : List Char) : digitsValue cs < 10 ^ cs.length := by
  have hlt := foldl_digits_lt cs 0
  rwa [Nat.zero_add, Nat.one_mul] at hlt

theorem readDigits_lt {cs : List Char} {m : Nat} (h : readDigits cs = .ok m) :
    m < 10 ^ maxDigits := by
  unfold readDigits at h
  dsimp only at h
  split at h
  · cases h
  split at h
  · cases h
  · rename_i hlength
    split at h
    · cases h
    rw [← Except.ok.inj h]
    exact (digitsValue_lt _).trans_le (Nat.pow_le_pow_right (by decide) (Nat.not_lt.1 hlength))

/-- An integer that was read has no more digits than are written. -/
theorem isWritable_of_readInteger {s : String} {n : Int} (h : readInteger s = .ok n) :
    isWritable n = true := by
  unfold readInteger at h
  generalize takeSign (stripChars isNumberBlank s.toList) = parts at h
  dsimp only at h
  cases hdigits : readDigits parts.2 with
  | error fault =>
    rw [hdigits] at h
    cases h
  | ok m =>
    rw [hdigits] at h
    have habs : n.natAbs = m := by
      have hsigned : (if parts.1 then -(m : Int) else m) = n := Except.ok.inj h
      split at hsigned <;> omega
    exact isWritable_iff_lt.2 (habs ▸ readDigits_lt hdigits)

end FlinkCluster.Number
