import FlinkCluster.Error
import FlinkCluster.Text.Capital

/-!
# Memory sizes

A memory size is a decimal number with a unit; `MemorySize.quantity` writes it as a Kubernetes
quantity in mebibytes. The division by `2 ^ 20` is a double precision one and its result is rounded
up to the next integer.
-/

set_option autoImplicit false

namespace FlinkCluster.MemorySize

/-- The units and their sizes in bytes. -/
def units : List (String × Nat) :=
  let kibi := Nat.pow 1024
  [("", kibi 0), ("b", kibi 0), ("bytes", kibi 0), ("k", kibi 1), ("kb", kibi 1), ("m", kibi 2),
    ("mb", kibi 2), ("g", kibi 3), ("gb", kibi 3), ("t", kibi 4), ("tb", kibi 4)]

/-- The digits and the unit's letters of a text of the form: blanks, digits, blanks, ASCII letters,
blanks. The letters and each of the blanks may be absent. -/
def parts? (cs : List Char) : Option (List Char × List Char) :=
  let cs := cs.dropWhile Text.isBlank
  let digits := cs.takeWhile Text.isDigit
  let cs := (cs.dropWhile Text.isDigit).dropWhile Text.isBlank
  let letters := cs.takeWhile Char.isAlpha
  let cs := (cs.dropWhile Char.isAlpha).dropWhile Text.isBlank
  if digits.isEmpty || !cs.isEmpty then none else some (digits, letters)

/-- The digits and the unit size of a memory size. -/
def parse? (size : String) : Option (String × Nat) := do
  let (digits, letters) ← parts? size.toList
  let unit ← units.lookup (Text.lowerAscii (String.ofList letters))
  return (String.ofList digits, unit)

/-- The least integer that is not below the double precision quotient of two naturals. -/
def ceilingQuotient (num den : Nat) : Outcome Nat :=
  match Number.Binary64.ofRatio? false num den with
  | some (.finite _ m e) => .ok (Number.Binary64.ceiling m e)
  | _ => .error .quotientTooLarge

/-- The number of whole mebibytes that hold a memory size. -/
def mebibytes (size : String) : Outcome Nat :=
  match parse? size with
  | none => misconfigured (.invalidMemorySize size)
  | some (digits, unit) =>
    match Number.readInteger digits with
    | .ok n => ceilingQuotient (n.toNat * unit) (Nat.pow 1024 2)
    | .error fault => .error (.invalidInteger digits fault)

/-- A memory size as a quantity in mebibytes. -/
def quantity (size : String) : Outcome String :=
  (mebibytes size).map fun n => Number.integerText n ++ "Mi"

end FlinkCluster.MemorySize
