import FlinkCluster.Number.Binary64

/-!
# The shortest decimal text of a number

Of the decimal numbers that read back as a given double precision number, the one with the fewest
digits is written, and of those the nearest. `shortest` looks on the decimal grids of one, two, …
seventeen digits for the two neighbours of the number and asks `Binary64.nearest` which of them read
back. `Layout` holds the decisions about notation.
-/

set_option autoImplicit false

namespace FlinkCluster.Number

/-! ## Digits -/

/-- Numerator and denominator of `num / den` divided by `10 ^ p`. -/
def scaledTen (num den : Nat) (p : Int) : Nat × Nat :=
  if 0 ≤ p then (num, den * Nat.pow 10 p.toNat) else (num * Nat.pow 10 (-p).toNat, den)

/-- Whether `10 ^ p` is at most `num / den`. -/
def reachesPower (num den : Nat) (p : Int) : Bool :=
  let (n, d) := scaledTen num den p
  d ≤ n

/-- The greatest `p` with `10 ^ p` at most `num / den`, for a positive quotient. The estimate from
the binary lengths is off by at most one. -/
def powerOf (num den : Nat) : Int :=
  let guess := ((num.log2 : Int) - den.log2) * 30103 / 100000
  if reachesPower num den (guess + 1) then guess + 1
  else if reachesPower num den guess then guess
  else guess - 1

/-- A decimal number `digits * 10 ^ power`. -/
structure DecimalNumber where
  digits : Nat
  power : Int
  deriving DecidableEq, Repr

/-- The double precision number nearest to a decimal one. -/
def DecimalNumber.nearest (d : DecimalNumber) : Nat × Int :=
  if 0 ≤ d.power then Binary64.nearest (d.digits * Nat.pow 10 d.power.toNat) 1
  else Binary64.nearest d.digits (Nat.pow 10 (-d.power).toNat)

/-- The neighbour of `m * 2 ^ e = num / den` on the grid of `count` digits that reads back: the
nearer one if both do, and the even one of two equally near. -/
def onGrid? (num den m : Nat) (e : Int) (count : Nat) : Option DecimalNumber :=
  let p := powerOf num den - count + 1
  let (n, d) := scaledTen num den p
  let below : DecimalNumber := ⟨n / d, p⟩
  let above : DecimalNumber := ⟨n / d + 1, p⟩
  let belowReads := below.digits ≠ 0 && below.nearest == (m, e)
  let aboveReads := above.nearest == (m, e)
  match belowReads, aboveReads with
  | true, true => some (if Binary64.roundHalfEven n d = n / d then below else above)
  | true, false => some below
  | false, true => some above
  | false, false => none

/-- The decimal number with the fewest digits that reads back as the positive `m * 2 ^ e`. -/
def shortest (m : Nat) (e : Int) : DecimalNumber :=
  let (num, den) := if 0 ≤ e then (m * Nat.pow 2 e.toNat, 1) else (m, Nat.pow 2 (-e).toNat)
  ((List.range 17).findSome? (fun i => onGrid? num den m e (i + 1))).getD ⟨m, 0⟩

/-! ## Notation -/

/-- How a number is laid out: the powers of ten of the first digit that are written without
an exponent, the least number of digits of an exponent, and the words. -/
structure Layout where
  leastPositional : Int
  greatestPositional : Int
  exponentDigits : Nat
  infinity : String
  noNumber : String

/-- `count` zeros. -/
def zeros (count : Nat) : List Char := List.replicate count '0'

/-- The digits of a number whose first digit stands for `10 ^ power`, with a point and at least one
digit on both sides of it. -/
def positional (digits : List Char) (power : Int) : List Char :=
  if power < 0 then '0' :: '.' :: zeros (-power - 1).toNat ++ digits
  else
    let width := power.toNat + 1
    let whole := digits.take width ++ zeros (width - digits.length)
    let places := digits.drop width
    whole ++ '.' :: (if places.isEmpty then ['0'] else places)

/-- The digits with a point behind the first one, if more follow, and the power of ten with
its sign. -/
def exponential (l : Layout) (digits : List Char) (power : Int) : List Char :=
  let point := match digits with
    | d :: r => if r.isEmpty then [d] else d :: '.' :: r
    | [] => []
  let size := Nat.toDigits 10 power.natAbs
  point ++ 'e' :: (if power < 0 then '-' else '+') ::
    zeros (l.exponentDigits - size.length) ++ size

/-- The text of a number. -/
def numberText (l : Layout) : Binary64 → String
  | .nan => l.noNumber
  | .infinite negative => if negative then "-" ++ l.infinity else l.infinity
  | .finite negative m e =>
    let d : DecimalNumber := if m = 0 then ⟨0, 0⟩ else shortest m e
    let all := Nat.toDigits 10 d.digits
    let power : Int := d.power + all.length - 1
    let digits := match (all.reverse.dropWhile (· == '0')).reverse with
      | [] => ['0']
      | ds => ds
    let body :=
      if l.leastPositional ≤ power ∧ power ≤ l.greatestPositional then positional digits power
      else exponential l digits power
    String.ofList (if negative then '-' :: body else body)

end FlinkCluster.Number
