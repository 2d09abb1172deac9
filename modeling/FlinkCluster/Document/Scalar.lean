import FlinkCluster.Choice
import FlinkCluster.Document.Rule
import FlinkCluster.Number.Decimal
import FlinkCluster.Text.Capital

/-!
# Scalars in documents

Texts are texts only. Numbers may also be written as texts, in ASCII digits with single underscores
inside; an integer may have zeros in front and behind a point, and a number with a zero fraction is
an integer. Flags may be written by one of twelve words or as one and zero.
-/

set_option autoImplicit false

namespace FlinkCluster.Document

open Number

/-! ## Spaces and underscores -/

/-- The Unicode property `White_Space`: a blank that is no information separator. -/
def isSpace (c : Char) : Bool := Text.isBlank c && !(0x1C ≤ c.toNat && c.toNat ≤ 0x1F)

/-- The text without spaces at its ends. -/
def trimmed (s : String) : List Char := Text.stripChars isSpace s.toList

/-- The text without underscores, if it has some, each alone and none at an end. -/
def dropUnderscores? (cs : List Char) : Option (List Char) :=
  let groups := cs.splitOn '_'
  if groups.length < 2 || groups.any List.isEmpty then none else some groups.flatten

/-! ## Integers -/

/-- The natural that at most `limit` ASCII digits write, without zeros in front of others. -/
def readNatural (limit : Nat) (cs : List Char) : Except FieldFault Nat :=
  let digits := cs.takeWhile Char.isDigit
  if digits.isEmpty || (digits.head? == some '0' && 1 < digits.length) then
    .error .integerUnreadable
  else if limit < digits.length then .error .integerTooLong
  else if digits.length < cs.length then .error .integerUnreadable
  else .ok (digitsValue digits)

/-- The integer that digits write with a minus in front of them or not. The minus counts as one of
the characters that are read. -/
def readPlainInteger : List Char → Except FieldFault Int
  | '-' :: r => (readNatural (maxDigits - 1) r).map (fun n => -(n : Int))
  | r => (readNatural maxDigits r).map Int.ofNat

/-- The text behind its zeros; the last zero stays in front of a point or the end. -/
def dropZeros : List Char → List Char
  | a :: b :: r => if (a == '0' || a == '_') && b ≠ '.' then dropZeros (b :: r) else a :: b :: r
  | r => r

/-- The text without a point and zeros at its end. -/
def dropZeroPlaces (cs : List Char) : List Char :=
  match cs.dropWhile (· ≠ '.') with
  | _ :: c :: r => if (c :: r).all (· == '0') then cs.takeWhile (· ≠ '.') else cs
  | _ => cs

/-- A sign in front of a text, of which a minus is kept, and the rest. -/
def splitSign : List Char → List Char × List Char
  | '-' :: r => (['-'], r)
  | '+' :: r => ([], r)
  | r => ([], r)

/-- A text brought closer to plain digits: no spaces around it, no plus, no needless zeros and no
underscores. Behind the sign has to stand a digit. -/
def simplified? (s : String) : Option (List Char) := do
  let (sign, body) := splitSign (trimmed s)
  if (body.head?.map Char.isDigit).getD false then
    let body := dropZeroPlaces (if body.head? == some '0' then dropZeros body else body)
    return sign ++ (dropUnderscores? body).getD body
  else none

/-- The integer that a text writes. -/
def readIntegerText (s : String) : Except FieldFault Int :=
  match readPlainInteger s.toList with
  | .ok n => .ok n
  | .error .integerTooLong => .error .integerTooLong
  | .error _ =>
    match (simplified? s).map readPlainInteger with
    | some (.ok n) => .ok n
    | _ => .error .integerUnreadable

/-- The magnitudes below which a number counts as an integer. -/
def wholeLimit : Nat := Nat.pow 2 63

/-- The integer of a number. -/
def readWhole (x : Binary64) : Except FieldFault Int :=
  match x with
  | .finite .. =>
    match x.toInt? with
    | some n => if n.natAbs < wholeLimit then .ok n else .error .integerTooLong
    | none => .error .integerFromFraction
  | _ => .error .numberNotFinite

/-- The check of a result. -/
def checked {α : Type} : Except FieldFault α → Checked α
  | .ok a => .valid a
  | .error f => .fault f

/-- The rule for integers. -/
def integer : Rule Int where
  check
    | .integer n => .valid n
    | .flag b => .valid (if b then 1 else 0)
    | .number x => checked (readWhole x)
    | .text s => checked (readIntegerText s)
    | _ => .fault .integerExpected
  write _ := .integer

/-- The rule for integers from one on. -/
def positiveInteger : Rule Int := integer.only (1 ≤ ·) .belowLeast

/-! ## Numbers -/

/-- The number that ASCII characters write. -/
def readPlainNumber (cs : List Char) : Option Binary64 :=
  if cs.all (·.toNat < 0x80) then readSigned cs else none

/-- The number that a text writes. -/
def readNumberText (s : String) : Option Binary64 :=
  (readPlainNumber (trimmed s)).or ((dropUnderscores? s.toList).bind readPlainNumber)

/-- The rule for numbers. -/
def number : Rule Binary64 where
  check
    | .number x => .valid x
    | .integer n =>
      match Binary64.ofInt? n with
      | some x => .valid x
      | none => .fault .numberExpected
    | .flag b => .valid (.ofRatio false (if b then 1 else 0) 1)
    | .text s =>
      match readNumberText s with
      | some x => .valid x
      | none => .fault .numberUnreadable
    | _ => .fault .numberExpected
  write _ := .number

/-- The rule for numbers above zero. -/
def positiveNumber : Rule Binary64 := number.only (·.isPositive) .notAbove

/-! ## Flags, texts and choices -/

/-- The words for true. -/
def trueWords : List String := ["1", "on", "t", "true", "y", "yes"]

/-- The words for false. -/
def falseWords : List String := ["0", "off", "f", "false", "n", "no"]

/-- The flag that an integer stands for; one that is too great is of no flag's kind. -/
def flagOfInteger (n : Int) : Checked Bool :=
  if n = 0 then .valid false
  else if n = 1 then .valid true
  else if -(wholeLimit : Int) ≤ n && n < wholeLimit then .fault .flagUnreadable
  else .fault .flagExpected

/-- The rule for flags. -/
def flag : Rule Bool where
  check
    | .flag b => .valid b
    | .integer n => flagOfInteger n
    | .number x =>
      match readWhole x with
      | .ok n => flagOfInteger n
      | .error _ => .fault .flagExpected
    | .text s =>
      let word := Text.lowerAscii s
      if trueWords.contains word then .valid true
      else if falseWords.contains word then .valid false
      else .fault .flagUnreadable
    | _ => .fault .flagExpected
  write _ := .flag

/-- The rule for texts. -/
def text : Rule String where
  check
    | .text s => .valid s
    | _ => .fault .textExpected
  write _ := .text

/-- The rule for texts that are not empty. -/
def nonEmptyText : Rule String := text.only (· ≠ "") .textTooShort

/-- The rule for a member of a choice. -/
def choice (α : Type) [Choice α] : Rule α where
  check
    | .text s =>
      match Choice.ofWord? s with
      | some a => .valid a
      | none => .fault .unknownChoice
    | _ => .fault .unknownChoice
  write _ a := .text (Choice.word a)

example : readIntegerText " +1_0.00" = .ok 10 ∧ readIntegerText "1._0" = .error .integerUnreadable
    ∧ readIntegerText " -0_1.0" = .ok (-1) ∧ readIntegerText "-_1" = .error .integerUnreadable := by
  refine ⟨?_, ?_, ?_, ?_⟩ <;> cbv

end FlinkCluster.Document
