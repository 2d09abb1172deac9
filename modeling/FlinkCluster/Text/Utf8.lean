/-!
# UTF-8

`Utf8.decode` reads bytes as text and names the first place where they are none: the offset of the
sequence, its bytes up to the fault, and whether its first byte is no start, a later byte does not
continue it, or the bytes end inside it. `joinLineEnds` gives every line end its one-character form.
-/

set_option autoImplicit false

namespace FlinkCluster.Text

/-- What is wrong with a sequence of bytes. -/
inductive Utf8Fault where
  | invalidStart
  | invalidContinuation
  | unexpectedEnd
  deriving DecidableEq, Repr

/-- The first sequence that is no character: its offset and its bytes up to the fault. -/
structure Utf8Error where
  position : Nat
  bytes : List UInt8
  fault : Utf8Fault
  deriving DecidableEq, Repr

namespace Utf8

/-- How many bytes follow the first byte `b`, with the least and the greatest value of the byte
next to it; none if no sequence starts with `b`. -/
def lead? (b : UInt8) : Option (Nat × UInt8 × UInt8) :=
  if b < 0x80 then some (0, 0x80, 0xBF)
  else if b < 0xC2 then none
  else if b < 0xE0 then some (1, 0x80, 0xBF)
  else if b = 0xE0 then some (2, 0xA0, 0xBF)
  else if b = 0xED then some (2, 0x80, 0x9F)
  else if b < 0xF0 then some (2, 0x80, 0xBF)
  else if b = 0xF0 then some (3, 0x90, 0xBF)
  else if b < 0xF4 then some (3, 0x80, 0xBF)
  else if b = 0xF4 then some (3, 0x80, 0x8F)
  else none

/-- The `count` bytes that continue a sequence, as a number on top of `high`, and the bytes after
it; or the bytes that were read before the fault. The first of them lies in `low … top`. -/
def tail : Nat → UInt8 → UInt8 → Nat → List UInt8 → List UInt8 →
    Except (List UInt8 × Utf8Fault) (Nat × List UInt8)
  | 0, _, _, high, _, rest => .ok (high, rest)
  | _ + 1, _, _, _, read, [] => .error (read, .unexpectedEnd)
  | count + 1, low, top, high, read, b :: rest =>
    if low ≤ b ∧ b ≤ top then
      tail count 0x80 0xBF (high * 64 + (b.toNat - 0x80)) (read ++ [b]) rest
    else .error (read, .invalidContinuation)

theorem length_tail_le {count high n : Nat} {low top : UInt8} {read rest rest' : List UInt8}
    (h : tail count low top high read rest = .ok (n, rest')) : rest'.length ≤ rest.length := by
  induction count generalizing low top high read rest with
  | zero => simp [tail] at h; simp [h]
  | succ c ih =>
    cases rest with
    | nil => simp [tail] at h
    | cons b r =>
      simp only [tail] at h
      split at h
      · have := ih h; simp; omega
      · simp at h

/-- The value bits of a first byte that `count` bytes follow. -/
def leadBits (count : Nat) (b : UInt8) : Nat :=
  match count with
  | 0 => b.toNat
  | 1 => b.toNat - 0xC0
  | 2 => b.toNat - 0xE0
  | _ => b.toNat - 0xF0

/-- The characters of the bytes that start at offset `position`. -/
def decodeFrom (position : Nat) (bytes : List UInt8) : Except Utf8Error (List Char) :=
  match bytes with
  | [] => .ok []
  | b :: rest =>
    match lead? b with
    | none => .error ⟨position, [b], .invalidStart⟩
    | some (count, low, top) =>
      match h : tail count low top (leadBits count b) [b] rest with
      | .error (read, fault) => .error ⟨position, read, fault⟩
      | .ok (n, rest') => (decodeFrom (position + count + 1) rest').map (Char.ofNat n :: ·)
termination_by bytes.length
decreasing_by have := length_tail_le h; simp; omega

/-- The text that the bytes encode. -/
def decode (bytes : List UInt8) : Except Utf8Error String :=
  (decodeFrom 0 bytes).map String.ofList

end Utf8

/-- Writes every line end as one line feed. -/
def joinLineEnds : List Char → List Char
  | [] => []
  | '\r' :: '\n' :: r => '\n' :: joinLineEnds r
  | c :: r => (if c = '\r' then '\n' else c) :: joinLineEnds r

/-- The text with every line end written as one line feed. -/
def withLineFeeds (s : String) : String := String.ofList (joinLineEnds s.toList)

end FlinkCluster.Text
