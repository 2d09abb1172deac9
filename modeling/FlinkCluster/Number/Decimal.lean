import FlinkCluster.Number.Integer
import FlinkCluster.Number.Binary64

/-!
# Decimal numbers in text

`readNumber` reads a decimal text as the nearest double precision number: blanks around it, a sign,
digits of any script with a point, underscores between two digits, and a power of ten; or one of
the words for infinity and for no number, in any case. A number beyond the greatest finite one is
an infinity.
-/

set_option autoImplicit false

namespace FlinkCluster.Number

open FlinkCluster.Text

/-- The text without its underscores, if each of them lies between two digits. -/
def dropUnderscores (afterDigit : Bool) : List Char → Option (List Char)
  | [] => some []
  | ['_'] => none
  | '_' :: c :: r =>
    if afterDigit && isDigit c then (dropUnderscores true r).map (c :: ·) else none
  | c :: r => (dropUnderscores (isDigit c) r).map (c :: ·)

/-- The number nearest to `digits * 10 ^ power`. Powers far outside the format are settled by the
number of digits alone. -/
def scientific (negative : Bool) (digits : Nat) (power : Int) : Binary64 :=
  let magnitude : Int := power + (Nat.toDigits 10 digits).length
  if digits = 0 then .finite negative 0 Binary64.minExponent
  else if 310 < magnitude then .infinite negative
  else if magnitude < -330 then .finite negative 0 Binary64.minExponent
  else if 0 ≤ power then Binary64.ofRatio negative (digits * Nat.pow 10 power.toNat) 1
  else Binary64.ofRatio negative digits (Nat.pow 10 (-power).toNat)

/-- The power of ten behind the digits: nothing, or `e`, a sign and digits. -/
def readPower : List Char → Option Int
  | [] => some 0
  | c :: r =>
    if c == 'e' || c == 'E' then
      let (negative, ds) := takeSign r
      if ds.isEmpty || !ds.all isDigit then none
      else some (if negative then -(digitsValue ds : Int) else digitsValue ds)
    else none

/-- A decimal number without sign and underscores. -/
def readUnsigned (negative : Bool) (cs : List Char) : Option Binary64 :=
  let whole := cs.takeWhile isDigit
  let rest := cs.drop whole.length
  let (places, rest) : List Char × List Char := match rest with
    | '.' :: r => (r.takeWhile isDigit, r.dropWhile isDigit)
    | r => ([], r)
  if whole.isEmpty && places.isEmpty then none
  else (readPower rest).map
    (fun power => scientific negative (digitsValue (whole ++ places)) (power - places.length))

/-- A decimal number, or a word for infinity or no number, behind a sign and without underscores. -/
def readSigned (cs : List Char) : Option Binary64 :=
  let (negative, body) := takeSign cs
  match String.ofList (body.map Char.toLower) with
  | "inf" | "infinity" => some (.infinite negative)
  | "nan" => some .nan
  | _ => readUnsigned negative body

/-- The number nearest to the decimal number that a text writes. -/
def readNumber (s : String) : Option Binary64 :=
  (dropUnderscores false (stripChars isNumberBlank s.toList)).bind readSigned

end FlinkCluster.Number
