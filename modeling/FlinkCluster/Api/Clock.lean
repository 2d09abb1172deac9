import FlinkCluster.Value.Order

/-!
# Clocks

A `Clock` says how the times of a type count. Rationals are exact times. `Seconds` are times as
programs hold them: whole numbers of any size, and numbers in double precision. A whole number that
meets one in double precision is rounded to it, which fails beyond the greatest of them.
-/

set_option autoImplicit false

namespace FlinkCluster

/-- How times count: the time that is a length after another, if there is one, and whether a time
has reached a deadline. -/
class Clock (τ : Type) where
  after : τ → τ → Outcome τ
  hasReached : τ → τ → Bool

/-- Exact times. -/
instance : Clock Rat where
  after start length := .ok (start + length)
  hasReached time deadline := decide (deadline ≤ time)

/-- A number of seconds. -/
inductive Seconds where
  | whole (count : Int)
  | precise (count : Number.Binary64)
  deriving DecidableEq, Repr, Inhabited

namespace Seconds

/-- The seconds in double precision. -/
def toBinary64 : Seconds → Outcome Number.Binary64
  | .whole n =>
    match Number.Binary64.ofRatio (decide (n < 0)) n.natAbs 1 with
    | .infinite _ => .error .integerTooLarge
    | x => .ok x
  | .precise x => .ok x

/-- The exact seconds, where there are finitely many. -/
def toRat? : Seconds → Option Rat
  | .whole n => some n
  | .precise x => x.toRat?

/-- The seconds as plain data. -/
def toValue : Seconds → Value
  | .whole n => .integer n
  | .precise x => .number x

/-- The sum, which is whole only if both numbers are. -/
def add : Seconds → Seconds → Outcome Seconds
  | .whole m, .whole n => .ok (.whole (m + n))
  | a, b => return .precise ((← a.toBinary64).add (← b.toBinary64))

/-- Whether a number is at another or above it. -/
def atLeast (a b : Seconds) : Bool :=
  match Value.rank? a.toValue, Value.rank? b.toValue with
  | some x, some y => Value.rankAtLeast x y
  | _, _ => false

end Seconds

/-- Times in seconds. -/
instance : Clock Seconds where
  after := Seconds.add
  hasReached := Seconds.atLeast

end FlinkCluster
