import FlinkCluster.Text.Blank
import FlinkCluster.Text.Digit

/-!
# Integers in text

`readInteger` takes blanks around the number, a sign, and digits of any script with single
underscores between them. A number of more than 4300 digits is refused, and that is noticed before
anything that follows the digits. Nor is such a number written (`isWritable`).
-/

set_option autoImplicit false

namespace FlinkCluster.Number

open FlinkCluster.Text

/-- Why a text is no integer. -/
inductive IntegerFault where
  | notANumber
  | tooLong (digits : Nat)
  deriving DecidableEq, Repr

/-- The greatest number of digits that is read or written. -/
def maxDigits : Nat := 4300

/-- A blank that may surround a number: an ASCII space or a blank beyond ASCII. -/
def isNumberBlank (c : Char) : Bool := isSpace c || (0x80 ≤ c.toNat && isBlank c)

/-- The value of a sequence of digits. -/
def digitsValue (cs : List Char) : Nat :=
  cs.foldl (fun n c => n * 10 + (digitValue? c).getD 0) 0

/-- The sign in front of a number, true for minus, and the rest. -/
def takeSign : List Char → Bool × List Char
  | '-' :: r => (true, r)
  | '+' :: r => (false, r)
  | r => (false, r)

/-- The value of digits with single underscores between them. -/
def readDigits (cs : List Char) : Except IntegerFault Nat :=
  let run := cs.takeWhile (fun c => isDigit c || c == '_')
  let groups := run.splitOn '_'
  let digits := groups.flatten
  if groups.any List.isEmpty then .error .notANumber
  else if maxDigits < digits.length then .error (.tooLong digits.length)
  else if run.length < cs.length then .error .notANumber
  else .ok (digitsValue digits)

/-- The integer that a text writes. -/
def readInteger (s : String) : Except IntegerFault Int :=
  let (negative, rest) := takeSign (stripChars isNumberBlank s.toList)
  (readDigits rest).map (fun n => if negative then -(n : Int) else n)

/-- Whether an integer has no more digits than are written. -/
def isWritable (n : Int) : Bool := n.natAbs < Nat.pow 10 maxDigits

/-- The decimal form of an integer. -/
def integerText (n : Int) : String :=
  let digits := Nat.toDigits 10 n.natAbs
  String.ofList (if n < 0 then '-' :: digits else digits)

example : readInteger " -1_000 " = .ok (-1000) := by cbv

example : readInteger "1__0" = .error .notANumber ∧ readInteger "+ 1" = .error .notANumber := by
  constructor <;> cbv

example : integerText (-12) = "-12" := by cbv

end FlinkCluster.Number
