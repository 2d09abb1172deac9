import FlinkCluster.Proofs.RoundedUp

/-!
# Memory sizes in mebibytes

A memory size is a number of any length in front of a unit in any letter case, with blanks around
the two (`MemorySize.Written`), and `MemorySize.parse?` reads exactly those. Its bytes are divided by
`2 ^ 20` in double precision, so only 53 of their bits take part (`Number.Binary64.significant`) in
what is rounded up.

* `MemorySize.parse?_eq_some_iff`: the texts that are read, and as what.
* `Number.Binary64.ceiling_nearest_two_pow`: a quotient by a power of two, rounded up.
* `MemorySize.quantity_of_written`: the outcome of each text that is read.
* `MemorySize.quantity_precise_iff`: which texts have a quantity, for which of them it is the least
  that holds their bytes, and which are refused.
-/

set_option autoImplicit false

namespace FlinkCluster

/-! ## Classes of characters -/

namespace Text

/-- The characters of a class in front of one outside are a run of the class. -/
theorem run_append {p : Char → Bool} {run : List Char} (rest : List Char)
    (hrun : ∀ c ∈ run, p c = true) (hrest : ∀ c ∈ rest.head?, p c = false) :
    (run ++ rest).takeWhile p = run ∧ (run ++ rest).dropWhile p = rest := by
  rw [List.takeWhile_append_of_pos hrun, List.dropWhile_append_of_pos hrun]
  cases rest with
  | nil => exact ⟨List.append_nil run, rfl⟩
  | cons c rest =>
    have hc : ¬ p c = true := by simp [hrest c rfl]
    rw [List.takeWhile_cons_of_neg hc, List.dropWhile_cons_of_neg hc]
    exact ⟨List.append_nil run, rfl⟩

theorem toNat_of_isAlpha {c : Char} (h : c.isAlpha = true) : 65 ≤ c.toNat ∧ c.toNat ≤ 122 := by
  have hletter : 'A'.val ≤ c.val ∧ c.val ≤ 'Z'.val ∨ 'a'.val ≤ c.val ∧ c.val ≤ 'z'.val := by
    rcases Bool.or_eq_true_iff.1 h with hupper | hlower
    · exact .inl (of_decide_eq_true hupper)
    · obtain ⟨hlow, hhigh⟩ := Bool.and_eq_true_iff.1 hlower
      exact .inr ⟨of_decide_eq_true hlow, of_decide_eq_true hhigh⟩
  simp only [UInt32.le_iff_toNat_le] at hletter
  change 65 ≤ c.toNat ∧ c.toNat ≤ 90 ∨ 97 ≤ c.toNat ∧ c.toNat ≤ 122 at hletter
  omega

theorem isBlank_of_isAlpha {c : Char} (h : c.isAlpha = true) : isBlank c = false := by
  have hapart : ∀ b ∈ blankCodes, b < 65 ∨ 122 < b := by decide
  have hrange := toNat_of_isAlpha h
  rw [isBlank, List.contains_eq_mem, decide_eq_false_iff_not]
  intro hblank
  have := hapart _ hblank
  omega

theorem isAlpha_of_toLower {c : Char} (h : c.toLower.isAlpha = true) : c.isAlpha = true := by
  unfold Char.toLower at h
  split at h
  · rename_i hupper
    exact Bool.or_eq_true_iff.2 (.inl (decide_eq_true hupper))
  · exact h

theorem isDigit_of_isAlpha {c : Char} (h : c.isAlpha = true) : isDigit c = false := by
  have hapart : ∀ z ∈ zeroCodes, z + 10 ≤ 65 ∨ 122 < z := by decide
  have hrange := toNat_of_isAlpha h
  rw [isDigit, digitValue?, Option.isSome_map, Option.isSome_eq_false_iff, Option.isNone_iff_eq_none,
    List.find?_eq_none]
  intro z hz
  have := hapart z hz
  simp only [Bool.and_eq_true, decide_eq_true_eq]
  omega

end Text

/-! ## Reading -/

namespace MemorySize

open Text

/-- The parts of a memory size are read back. -/
theorem parts?_append {lead digits gap letters trail : List Char}
    (hlead : ∀ c ∈ lead, isBlank c = true) (hne : digits ≠ [])
    (hdigits : ∀ c ∈ digits, isDigit c = true) (hgap : ∀ c ∈ gap, isBlank c = true)
    (hletters : ∀ c ∈ letters, c.isAlpha = true) (htrail : ∀ c ∈ trail, isBlank c = true) :
    parts? (lead ++ (digits ++ (gap ++ (letters ++ trail)))) = some (digits, letters) := by
  have hdigit_of_blank {c : Char} (h : isBlank c = true) : isDigit c = false := by
    by_contra hc
    rw [isBlank_of_isDigit (Bool.not_eq_false _ ▸ hc)] at h
    cases h
  have halpha_of_blank {c : Char} (h : isBlank c = true) : c.isAlpha = false := by
    by_contra hc
    rw [isBlank_of_isAlpha (Bool.not_eq_false _ ▸ hc)] at h
    cases h
  obtain ⟨-, hdrop⟩ := run_append (digits ++ (gap ++ (letters ++ trail))) hlead
    fun c hc => by
      rw [List.head?_append_of_ne_nil _ hne] at hc
      exact isBlank_of_isDigit (hdigits c (List.mem_of_mem_head? hc))
  obtain ⟨htake_digits, hdrop_digits⟩ := run_append (gap ++ (letters ++ trail)) hdigits
    fun c hc => by
      have hmem := List.mem_of_mem_head? hc
      simp only [List.mem_append] at hmem
      rcases hmem with hmem | hmem | hmem
      · exact hdigit_of_blank (hgap c hmem)
      · exact isDigit_of_isAlpha (hletters c hmem)
      · exact hdigit_of_blank (htrail c hmem)
  obtain ⟨htake_letters, hdrop_letters⟩ := run_append trail hletters
    fun c hc => halpha_of_blank (htrail c (List.mem_of_mem_head? hc))
  have hdrop_trail : trail.dropWhile isBlank = [] := List.dropWhile_eq_nil_iff.2 htrail
  unfold parts?
  simp only [hdrop, htake_digits, hdrop_digits]
  by_cases hnil : letters = []
  · -- Without letters the two runs of blanks are one.
    subst hnil
    have hblank : (gap ++ trail).dropWhile isBlank = [] :=
      List.dropWhile_eq_nil_iff.2 fun c hc => (List.mem_append.1 hc).elim (hgap c) (htrail c)
    rw [List.nil_append, hblank]
    simp [hne]
  · obtain ⟨-, hdrop_gap⟩ := run_append (letters ++ trail) hgap fun c hc => by
      rw [List.head?_append_of_ne_nil _ hnil] at hc
      exact isBlank_of_isAlpha (hletters c (List.mem_of_mem_head? hc))
    simp [hdrop_gap, htake_letters, hdrop_letters, hdrop_trail, hne]

/-- What is read has the parts of a memory size. -/
theorem exists_of_parts? {cs digits letters : List Char} (h : parts? cs = some (digits, letters)) :
    ∃ lead gap trail, cs = lead ++ (digits ++ (gap ++ (letters ++ trail))) ∧
      (∀ c ∈ lead, isBlank c = true) ∧ (∀ c ∈ gap, isBlank c = true) ∧
      ∀ c ∈ trail, isBlank c = true := by
  unfold parts? at h
  dsimp only at h
  split at h
  · cases h
  rename_i hparts
  simp only [Bool.or_eq_true, not_or, Bool.not_eq_true', Bool.not_eq_false,
    List.isEmpty_iff] at hparts
  obtain ⟨hdigits, hletters⟩ := Prod.mk.inj (Option.some.inj h)
  refine ⟨cs.takeWhile isBlank,
    ((cs.dropWhile isBlank).dropWhile isDigit).takeWhile isBlank,
    (((cs.dropWhile isBlank).dropWhile isDigit).dropWhile isBlank).dropWhile Char.isAlpha, ?_,
    fun c => List.mem_takeWhile_imp, fun c => List.mem_takeWhile_imp,
    List.dropWhile_eq_nil_iff.1 hparts.2⟩
  rw [← hdigits, ← hletters]
  simp only [List.takeWhile_append_dropWhile]

/-- A text of a memory size: blanks, digits of any script, blanks, a unit in any letter case, and
blanks. The digits and the size of the unit are its meaning. -/
inductive Written : String → String → Nat → Prop
  | intro {lead digits gap letters trail : List Char} {word : String} {unit : Nat}
      (hlead : ∀ c ∈ lead, isBlank c = true) (hne : digits ≠ [])
      (hdigits : ∀ c ∈ digits, isDigit c = true) (hgap : ∀ c ∈ gap, isBlank c = true)
      (hword : letters.map Char.toLower = word.toList) (hunit : (word, unit) ∈ units)
      (htrail : ∀ c ∈ trail, isBlank c = true) :
      Written (String.ofList (lead ++ (digits ++ (gap ++ (letters ++ trail)))))
        (String.ofList digits) unit

theorem lookup_units_iff {word : String} {unit : Nat} :
    units.lookup word = some unit ↔ (word, unit) ∈ units := by
  have hunits : ∀ entry ∈ units, units.lookup entry.1 = some entry.2 := by decide
  refine ⟨fun h => ?_, hunits _⟩
  obtain ⟨before, after, hsplit, -⟩ := List.lookup_eq_some_iff.1 h
  rw [hsplit]
  exact List.mem_append_right before List.mem_cons_self

theorem isAlpha_of_unit {word : String} {unit : Nat} {letters : List Char}
    (hunit : (word, unit) ∈ units) (hword : letters.map Char.toLower = word.toList) {c : Char}
    (hc : c ∈ letters) : c.isAlpha = true := by
  have hwords : ∀ entry ∈ units, entry.1.toList.all Char.isAlpha = true := by decide +kernel
  have hlower : c.toLower ∈ word.toList := hword ▸ List.mem_map_of_mem hc
  exact isAlpha_of_toLower (List.all_eq_true.1 (hwords _ hunit) _ hlower)

/-- **Memory sizes are read, and nothing else is.** -/
theorem parse?_eq_some_iff {size digits : String} {unit : Nat} :
    parse? size = some (digits, unit) ↔ Written size digits unit := by
  constructor
  · intro h
    obtain ⟨⟨ds, letters⟩, hparts, h⟩ := Option.bind_eq_some_iff.1 h
    obtain ⟨unit', hunit, h⟩ := Option.bind_eq_some_iff.1 h
    obtain ⟨rfl, rfl⟩ := Prod.mk.inj (Option.some.inj h)
    obtain ⟨hne, hdigits⟩ := parts?_digits hparts
    obtain ⟨lead, gap, trail, hsize, hlead, hgap, htrail⟩ := exists_of_parts? hparts
    rw [← String.ofList_toList (s := size), hsize]
    refine .intro hlead hne hdigits hgap ?_ (lookup_units_iff.1 hunit) htrail
    rw [lowerAscii, String.toList_ofList, String.toList_ofList]
  · rintro ⟨hlead, hne, hdigits, hgap, hword, hunit, htrail⟩
    have hparts := parts?_append hlead hne hdigits hgap
      (fun c hc => isAlpha_of_unit hunit hword hc) htrail
    rw [parse?, String.toList_ofList, hparts]
    change (units.lookup (lowerAscii _)).bind _ = _
    rw [lowerAscii, String.toList_ofList, hword, String.ofList_toList, lookup_units_iff.2 hunit]
    rfl

end MemorySize

/-! ## Rounding -/

namespace Number.Binary64

/-- A natural at 53 significant bits, a half going to the even neighbour. -/
def significant (n : Nat) : Nat :=
  roundHalfEven n (2 ^ (n.log2 - 52)) * 2 ^ (n.log2 - 52)

theorem significant_of_dvd {n : Nat} (h : 2 ^ (n.log2 - 52) ∣ n) : significant n = n := by
  rw [significant, roundHalfEven_of_dvd (Nat.two_pow_pos _) h, Nat.div_mul_cancel h]

/-- Up to `2 ^ 53` all bits are significant. -/
theorem significant_of_le {n : Nat} (h : n ≤ 2 ^ 53) : significant n = n := by
  refine significant_of_dvd ?_
  rcases h.lt_or_eq with hlt | rfl
  · have hlog : n.log2 ≤ 52 := by
      by_cases hn : n = 0
      · simp [hn]
      · exact Nat.lt_succ_iff.1 ((Nat.log2_lt hn).2 hlt)
    simp [Nat.sub_eq_zero_of_le hlog]
  · rw [Nat.log2_two_pow]
    decide

/-- The exponent of a quotient by a power of two, which is far from the least one. -/
theorem exponentFor_two_pow {n j : Nat} (hn : 0 < n) (hj : j ≤ 1022) :
    exponentFor n (2 ^ j) = (n.log2 : Int) - j - 52 := by
  have hlow : 2 ^ n.log2 ≤ n := Nat.log2_self_le hn.ne'
  simp only [exponentFor, scaled_eq, Nat.log2_two_pow]
  generalize he : (n.log2 : Int) - j - 52 = e
  have hbits : 2 ^ 52 * (2 ^ j * 2 ^ e.toNat) ≤ n * 2 ^ (-e).toNat :=
    calc 2 ^ 52 * (2 ^ j * 2 ^ e.toNat) = 2 ^ (52 + (j + e.toNat)) := by
          rw [← Nat.pow_add, ← Nat.pow_add]
      _ = 2 ^ (n.log2 + (-e).toNat) := by congr 1; omega
      _ = 2 ^ n.log2 * 2 ^ (-e).toNat := Nat.pow_add ..
      _ ≤ n * 2 ^ (-e).toNat := Nat.mul_le_mul_right _ hlow
  have hunit : 0 < 2 ^ j * 2 ^ e.toNat := Nat.mul_pos (Nat.two_pow_pos j) (Nat.two_pow_pos _)
  have hfull := Nat.not_lt.2 ((Nat.le_div_iff_mul_le hunit).2 hbits)
  change max (if _ < 2 ^ 52 then _ else _) _ = e
  rw [if_neg hfull, minExponent]
  omega

/-- **A quotient by a power of two**, rounded up: only the significant bits are divided. -/
theorem ceiling_nearest_two_pow (n : Nat) {j : Nat} (hj : j ≤ 1022) :
    ceiling (nearest n (2 ^ j)).1 (nearest n (2 ^ j)).2 = roundUp (significant n) (2 ^ j) := by
  by_cases hn : n = 0
  · subst hn
    have hzero : roundUp 0 (2 ^ j) ≤ 0 :=
      (roundUp_le_iff (Nat.two_pow_pos j)).2 (Nat.zero_le _)
    rw [significant_of_le (Nat.zero_le _), Nat.le_zero.1 hzero, ceiling_eq_zero_iff]
    rfl
  refine eq_of_forall_ge_iff fun k => ?_
  rw [roundUp_le_iff (Nat.two_pow_pos j), ceiling_nearest_le_iff,
    exponentFor_two_pow (Nat.pos_of_ne_zero hn) hj]
  generalize he : (n.log2 : Int) - j - 52 = e
  have hunit : 0 < 2 ^ j * 2 ^ e.toNat := Nat.mul_pos (Nat.two_pow_pos j) (Nat.two_pow_pos _)
  refine exact_le_iff (Nat.two_pow_pos j) ?_
  by_cases hlong : 52 ≤ n.log2
  · -- The unit of the last place is that of the significant bits.
    have hplace : 2 ^ j * 2 ^ e.toNat = 2 ^ (n.log2 - 52) * 2 ^ (-e).toNat := by
      rw [← Nat.pow_add, ← Nat.pow_add]
      congr 1
      omega
    rw [hplace, roundHalfEven_mul_right (Nat.two_pow_pos _), significant, Nat.mul_assoc]
  · -- All bits are significant, and there is nothing to round.
    have hnone : n.log2 - 52 = 0 := by omega
    have hall : significant n = n := significant_of_dvd (by simp [hnone])
    have hwhole : n * 2 ^ (-e).toNat = n * 2 ^ (52 - n.log2) * (2 ^ j * 2 ^ e.toNat) := by
      rw [Nat.mul_assoc, ← Nat.pow_add, ← Nat.pow_add]
      congr 2
      omega
    rw [hwhole, roundHalfEven_mul_self hunit, ← hwhole, hall]

end Number.Binary64

/-! ## Quantities -/

namespace MemorySize

open Number Number.Binary64

/-- The number of whole mebibytes that hold so many bytes. -/
def mebi (bytes : Nat) : Nat := roundUp bytes (2 ^ 20)

/-- The bytes of a memory size. -/
def bytes (digits : String) (unit : Nat) : Nat := digitsValue digits.toList * unit

/-- **The outcome of a memory size**: it has too many digits, or too many bytes, or the significant
ones of its bits are rounded up to mebibytes. -/
theorem quantity_of_written {size digits : String} {unit : Nat} (h : Written size digits unit) :
    quantity size =
      if maxDigits < digits.toList.length then
        .error (.invalidInteger digits (.tooLong digits.toList.length))
      else if bytes digits unit < overflowBound * 2 ^ 20 then
        .ok (integerText (mebi (significant (bytes digits unit)) : Nat) ++ "Mi")
      else .error .quotientTooLarge := by
  have hparse := parse?_eq_some_iff.2 h
  obtain ⟨hne, hdigits⟩ := parse?_digits hparse
  have hread := readInteger_of_isDigit hne hdigits
  rw [String.ofList_toList] at hread
  have hmebi : Nat.pow 1024 2 = 2 ^ 20 := rfl
  simp only [quantity, mebibytes, hparse, hread, hmebi]
  by_cases hlong : maxDigits < digits.toList.length
  · simp only [if_pos hlong]
    rfl
  simp only [if_neg hlong, Int.toNat_natCast]
  rw [← bytes, ceilingQuotient_eq (Nat.two_pow_pos 20)]
  by_cases hlarge : bytes digits unit < overflowBound * 2 ^ 20
  · rw [if_pos hlarge, if_pos hlarge, ceiling_nearest_two_pow _ (by decide)]
    rfl
  · rw [if_neg hlarge, if_neg hlarge]
    rfl

theorem quantity_of_small {size digits : String} {unit : Nat} (h : Written size digits unit)
    (hshort : digits.toList.length ≤ maxDigits)
    (hsmall : bytes digits unit < overflowBound * 2 ^ 20) :
    quantity size =
      .ok (integerText (mebi (significant (bytes digits unit)) : Nat) ++ "Mi") := by
  rw [quantity_of_written h, if_neg (by omega), if_pos hsmall]

/-- A memory size that has a quantity is below the limits. -/
theorem quantity_ok {size digits : String} {unit : Nat} {k : Int} (h : Written size digits unit)
    (hk : quantity size = .ok (integerText k ++ "Mi")) :
    digits.toList.length ≤ maxDigits ∧ bytes digits unit < overflowBound * 2 ^ 20 ∧
      k = (mebi (significant (bytes digits unit)) : Nat) := by
  rw [quantity_of_written h] at hk
  split at hk
  · cases hk
  rename_i hshort
  split at hk
  · rename_i hsmall
    have htext := (String.append_left_inj "Mi").1 (Except.ok.inj hk)
    exact ⟨by omega, hsmall, (integerText_injective htext).symm⟩
  · cases hk

theorem quantity_refused_iff (size : String) :
    quantity size = misconfigured (.invalidMemorySize size) ↔
      ¬ ∃ digits unit, Written size digits unit := by
  constructor
  · rintro hrefused ⟨digits, unit, h⟩
    rw [quantity_of_written h] at hrefused
    split at hrefused
    · cases hrefused
    split at hrefused <;> cases hrefused
  · intro h
    have hnone : parse? size = none := by
      rw [Option.eq_none_iff_forall_ne_some]
      exact fun parsed hparse => h ⟨parsed.1, parsed.2, parse?_eq_some_iff.1 hparse⟩
    simp only [quantity, mebibytes, hnone]
    rfl

/-- `k` is the least number of mebibytes that holds so many bytes. -/
structure LeastMebi (k : Int) (bytes : Nat) : Prop where
  tight : (k - 1) * 2 ^ 20 < bytes
  holds : bytes ≤ k * 2 ^ 20

theorem leastMebi_iff {k : Int} {bytes : Nat} : LeastMebi k bytes ↔ k = (mebi bytes : Nat) := by
  unfold mebi roundUp
  constructor
  · rintro ⟨htight, hholds⟩
    omega
  · rintro rfl
    constructor <;> omega

/-- **Memory sizes are rounded up to mebibytes** exactly if there are no more digits than are read,
the mebibytes are below the bound of double precision, and its rounding passes no mebibyte, which it
does not up to `2 ^ 53` bytes. A text is read exactly if it is a memory size below these limits, and
refused exactly if it is none. -/
theorem quantity_precise_iff (size : String) :
    ((∃ k : Int, quantity size = .ok (integerText k ++ "Mi")) ↔
      ∃ digits unit, Written size digits unit ∧ digits.toList.length ≤ maxDigits ∧
        bytes digits unit < overflowBound * 2 ^ 20) ∧
    (quantity size = misconfigured (.invalidMemorySize size) ↔
      ¬ ∃ digits unit, Written size digits unit) ∧
    (∀ digits unit, Written size digits unit →
      ((∃ k, quantity size = .ok (integerText k ++ "Mi") ∧ LeastMebi k (bytes digits unit)) ↔
        digits.toList.length ≤ maxDigits ∧ bytes digits unit < overflowBound * 2 ^ 20 ∧
          mebi (significant (bytes digits unit)) = mebi (bytes digits unit))) ∧
    ∀ digits unit, Written size digits unit → digits.toList.length ≤ maxDigits →
      bytes digits unit ≤ 2 ^ 53 →
      ∃ k, quantity size = .ok (integerText k ++ "Mi") ∧ LeastMebi k (bytes digits unit) := by
  refine ⟨⟨?_, ?_⟩, quantity_refused_iff size, fun digits unit h => ⟨?_, ?_⟩,
    fun digits unit h hshort hsmall => ?_⟩
  · rintro ⟨k, hk⟩
    by_cases hwritten : ∃ digits unit, Written size digits unit
    · obtain ⟨digits, unit, h⟩ := hwritten
      exact ⟨digits, unit, h, (quantity_ok h hk).1, (quantity_ok h hk).2.1⟩
    · rw [(quantity_refused_iff size).2 hwritten] at hk
      exact absurd hk Outcome.misconfigured_ne_ok
  · rintro ⟨digits, unit, h, hshort, hsmall⟩
    exact ⟨_, quantity_of_small h hshort hsmall⟩
  · rintro ⟨k, hk, hleast⟩
    obtain ⟨hshort, hsmall, hcount⟩ := quantity_ok h hk
    exact ⟨hshort, hsmall, Int.ofNat_inj.1 (hcount.symm.trans (leastMebi_iff.1 hleast))⟩
  · rintro ⟨hshort, hsmall, hround⟩
    exact ⟨_, quantity_of_small h hshort hsmall, leastMebi_iff.2 (by rw [hround])⟩
  · have hbound : bytes digits unit < overflowBound * 2 ^ 20 := by
      have := lt_overflowBound
      omega
    refine ⟨_, quantity_of_small h hshort hbound, leastMebi_iff.2 ?_⟩
    rw [significant_of_le hsmall]

/-- A number of kilobytes is rounded up, and a fraction is refused. -/
theorem quantity_precise_kilobytes :
    Written " 1025 kB\n" "1025" 1024 ∧
      (∃ k, quantity " 1025 kB\n" = .ok (integerText k ++ "Mi") ∧ LeastMebi k (1025 * 1024)) ∧
      quantity "1.5g" = misconfigured (.invalidMemorySize "1.5g") := by
  have hwritten : Written " 1025 kB\n" "1025" 1024 := parse?_eq_some_iff.1 (by decide +kernel)
  have hnone : parse? "1.5g" = none := by decide +kernel
  obtain ⟨-, -, -, hprecise⟩ := quantity_precise_iff " 1025 kB\n"
  obtain ⟨-, hrefused, -⟩ := quantity_precise_iff "1.5g"
  refine ⟨hwritten, hprecise _ _ hwritten (by decide) (by decide +kernel), ?_⟩
  refine hrefused.2 fun ⟨digits, unit, h⟩ => ?_
  rw [parse?_eq_some_iff.2 h] at hnone
  cases hnone

/-- One byte more than `2 ^ 53` is lost, so the mebibytes do not hold it. -/
theorem quantity_rounds_down :
    Written "9007199254740993" "9007199254740993" 1 ∧
      quantity "9007199254740993" = .ok "8589934592Mi" ∧
      ¬ ∃ k, quantity "9007199254740993" = .ok (integerText k ++ "Mi") ∧
        LeastMebi k (bytes "9007199254740993" 1) := by
  have hquantity : quantity "9007199254740993" = .ok (integerText 8589934592 ++ "Mi") := by
    decide +kernel
  have hbytes : bytes "9007199254740993" 1 = 9007199254740993 := by decide +kernel
  refine ⟨parse?_eq_some_iff.1 (by decide +kernel), by decide +kernel, ?_⟩
  rintro ⟨k, hk, -, hholds⟩
  have htext := (String.append_left_inj "Mi").1 (Except.ok.inj (hk.symm.trans hquantity))
  obtain rfl := integerText_injective htext
  rw [hbytes] at hholds
  exact absurd hholds (by decide)

end MemorySize

end FlinkCluster
