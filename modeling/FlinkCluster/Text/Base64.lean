/-!
# Base 64

The printable form of bytes: three bytes make four characters, and the last group is filled up
with equals signs. What was written is read back (`decode_encode`).
-/

set_option autoImplicit false

namespace FlinkCluster.Text.Base64

/-- So many characters in a row. -/
def run (first : Char) (count : Nat) : List Char :=
  (List.range count).map fun i => Char.ofNat (first.toNat + i)

/-- The sixty-four characters in the order of their values. -/
def alphabet : List Char := run 'A' 26 ++ run 'a' 26 ++ run '0' 10 ++ ['+', '/']

/-- The character of value `n` modulo 64. -/
def digit (n : Nat) : Char := alphabet.getD (n % 64) 'A'

/-- The characters of the bytes. -/
def encodeChars : List UInt8 → List Char
  | [] => []
  | [a] =>
    let n := a.toNat * 16
    [digit (n / 64), digit n, '=', '=']
  | [a, b] =>
    let n := (a.toNat * 256 + b.toNat) * 4
    [digit (n / 4096), digit (n / 64), digit n, '=']
  | a :: b :: c :: r =>
    let n := (a.toNat * 256 + b.toNat) * 256 + c.toNat
    digit (n / 262144) :: digit (n / 4096) :: digit (n / 64) :: digit n :: encodeChars r

/-- The text of the bytes. -/
def encode (bytes : List UInt8) : String := String.ofList (encodeChars bytes)

/-- The value of a character. -/
def value? (c : Char) : Option Nat := alphabet.idxOf? c

/-- The bytes that values of six bits make; bits that fill no byte are dropped. -/
def bytesOf : List Nat → List UInt8
  | a :: b :: c :: d :: r =>
    let n := ((a * 64 + b) * 64 + c) * 64 + d
    UInt8.ofNat (n / 65536) :: UInt8.ofNat (n / 256) :: UInt8.ofNat n :: bytesOf r
  | [a, b, c] =>
    let n := (a * 64 + b) * 64 + c
    [UInt8.ofNat (n / 1024), UInt8.ofNat (n / 4)]
  | [a, b] => [UInt8.ofNat ((a * 64 + b) / 16)]
  | _ => []

/-- The bytes of a text; characters without a value are skipped. -/
def decode (s : String) : List UInt8 := bytesOf (s.toList.filterMap value?)

/-! ## Laws -/

theorem value?_digit (n : Nat) : value? (digit n) = some (n % 64) := by
  have h : ∀ k < 64, value? (alphabet.getD k 'A') = some k := by decide +kernel
  exact h _ (Nat.mod_lt n (by decide))

theorem ofNat_eq_of_mod {n : Nat} {a : UInt8} (h : n % 256 = a.toNat) : UInt8.ofNat n = a :=
  UInt8.toNat_inj.1 (by rw [UInt8.toNat_ofNat']; exact h)

theorem bytesOf_values (bytes : List UInt8) :
    bytesOf ((encodeChars bytes).filterMap value?) = bytes := by
  have pad : value? '=' = none := by decide +kernel
  fun_induction encodeChars bytes with
  | case1 => rfl
  | case2 a n =>
    have := a.toNat_lt
    simp only [List.filterMap_cons, value?_digit, pad, List.filterMap_nil, bytesOf]
    rw [ofNat_eq_of_mod (a := a) (by omega)]
  | case3 a b n =>
    have := a.toNat_lt
    have := b.toNat_lt
    simp only [List.filterMap_cons, value?_digit, pad, List.filterMap_nil, bytesOf]
    rw [ofNat_eq_of_mod (a := a) (by omega), ofNat_eq_of_mod (a := b) (by omega)]
  | case4 a b c r n ih =>
    have := a.toNat_lt
    have := b.toNat_lt
    have := c.toNat_lt
    simp only [List.filterMap_cons, value?_digit, bytesOf, ih]
    rw [ofNat_eq_of_mod (a := a) (by omega), ofNat_eq_of_mod (a := b) (by omega),
      ofNat_eq_of_mod (a := c) (by omega)]

theorem decode_encode (bytes : List UInt8) : decode (encode bytes) = bytes := by
  simp [decode, encode, bytesOf_values]

end FlinkCluster.Text.Base64
