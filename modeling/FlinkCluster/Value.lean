import FlinkCluster.Number.Integer
import FlinkCluster.Number.Shortest
import FlinkCluster.Table
import FlinkCluster.Text.Quoted
import FlinkCluster.Text.Split

/-!
# Plain data

`Value` is the data in which manifests, deployment documents and setting values are written: null,
flags, integers, double precision numbers, texts, lists, and maps in the order of their keys. It has
two written forms: `literal`, in which texts stand between quotes, and `plain`, in which a text is
itself.
-/

set_option autoImplicit false

namespace FlinkCluster

/-- A datum. The entries of a map stand in the order in which the keys were set. -/
inductive Value where
  | null
  | flag (b : Bool)
  | integer (n : Int)
  | number (x : Number.Binary64)
  | text (s : String)
  | list (items : List Value)
  | map (entries : List (String × Value))
  deriving Repr, Inhabited

/-- The entries of a map. -/
abbrev Entries := List (String × Value)

namespace Value

/-! ## Equality -/

mutual

/-- Decides equality. -/
def decEq : (a b : Value) → Decidable (a = b)
  | .null, .null => isTrue rfl
  | .flag a, .flag b => decidable_of_iff (a = b) (by simp)
  | .integer a, .integer b => decidable_of_iff (a = b) (by simp)
  | .number a, .number b => decidable_of_iff (a = b) (by simp)
  | .text a, .text b => decidable_of_iff (a = b) (by simp)
  | .list a, .list b =>
    match decEqItems a b with
    | isTrue h => isTrue (h ▸ rfl)
    | isFalse h => isFalse (by simpa using h)
  | .map a, .map b =>
    match decEqEntries a b with
    | isTrue h => isTrue (h ▸ rfl)
    | isFalse h => isFalse (by simpa using h)
  | .null, .flag _ | .null, .integer _ | .null, .number _ | .null, .text _ | .null, .list _
  | .null, .map _ | .flag _, .null | .flag _, .integer _ | .flag _, .number _ | .flag _, .text _
  | .flag _, .list _ | .flag _, .map _ | .integer _, .null | .integer _, .flag _
  | .integer _, .number _ | .integer _, .text _ | .integer _, .list _ | .integer _, .map _
  | .number _, .null | .number _, .flag _ | .number _, .integer _ | .number _, .text _
  | .number _, .list _ | .number _, .map _ | .text _, .null | .text _, .flag _
  | .text _, .integer _ | .text _, .number _ | .text _, .list _ | .text _, .map _
  | .list _, .null | .list _, .flag _ | .list _, .integer _ | .list _, .number _
  | .list _, .text _ | .list _, .map _ | .map _, .null | .map _, .flag _ | .map _, .integer _
  | .map _, .number _ | .map _, .text _ | .map _, .list _ => isFalse (by simp)

/-- Decides equality of lists. -/
def decEqItems : (a b : List Value) → Decidable (a = b)
  | [], [] => isTrue rfl
  | [], _ :: _ | _ :: _, [] => isFalse (by simp)
  | x :: a, y :: b =>
    match decEq x y, decEqItems a b with
    | isTrue h, isTrue k => isTrue (h ▸ k ▸ rfl)
    | isFalse h, _ => isFalse (by simp [h])
    | _, isFalse k => isFalse (by simp [k])

/-- Decides equality of entries. -/
def decEqEntries : (a b : List (String × Value)) → Decidable (a = b)
  | [], [] => isTrue rfl
  | [], _ :: _ | _ :: _, [] => isFalse (by simp)
  | (i, x) :: a, (j, y) :: b =>
    match decEq x y, decEqEntries a b with
    | isTrue h, isTrue k =>
      if e : i = j then isTrue (h ▸ k ▸ e ▸ rfl) else isFalse (by simp [e])
    | isFalse h, _ => isFalse (by simp [h])
    | _, isFalse k => isFalse (by simp [k])

end

instance : DecidableEq Value := decEq

/-! ## Written forms -/

/-- Numbers have a point and the fewest digits that read back; below a ten-thousandth and from ten
to the sixteenth on they have an exponent of at least two digits. -/
def numberLayout : Number.Layout where
  leastPositional := -4
  greatestPositional := 15
  exponentDigits := 2
  infinity := "inf"
  noNumber := "nan"

/-- The word of a flag. -/
def flagWord (b : Bool) : String := if b then "True" else "False"

/-- The members between brackets. -/
def bracketed (opening closing : String) (members : List String) : String :=
  opening ++ Text.join ", " members ++ closing

mutual

/-- The form in which texts stand between quotes. -/
def literal : Value → String
  | .null => "None"
  | .flag b => flagWord b
  | .integer n => Number.integerText n
  | .number x => Number.numberText numberLayout x
  | .text s => Text.quoted s
  | .list items => bracketed "[" "]" (literals items)
  | .map entries => bracketed "\x7b" "\x7d" (entryLiterals entries)

/-- The literals of the items. -/
def literals : List Value → List String
  | [] => []
  | v :: r => literal v :: literals r

/-- The entries, each as key, colon and value. -/
def entryLiterals : List (String × Value) → List String
  | [] => []
  | (k, v) :: r => (Text.quoted k ++ ": " ++ literal v) :: entryLiterals r

end

mutual

/-- Whether the integers of a datum have no more digits than are written. -/
def isWritable : Value → Bool
  | .integer n => Number.isWritable n
  | .list items => areWritable items
  | .map entries => areWritableEntries entries
  | .null | .flag _ | .number _ | .text _ => true

/-- Whether the integers of all items can be written. -/
def areWritable : List Value → Bool
  | [] => true
  | v :: r => isWritable v && areWritable r

/-- Whether the integers of all entries can be written. -/
def areWritableEntries : List (String × Value) → Bool
  | [] => true
  | (_, v) :: r => isWritable v && areWritableEntries r

end

/-- The word for the kind of a datum. -/
def kindWord : Value → String
  | .null => "NoneType"
  | .flag _ => "bool"
  | .integer _ => "int"
  | .number _ => "float"
  | .text _ => "str"
  | .list _ => "list"
  | .map _ => "dict"

/-- The form in which a text is itself. -/
def plain : Value → String
  | .text s => s
  | v => v.literal

/-! ## Maps -/

/-- The map of the pairs: of a repeated key the first place and the last value stay. -/
def ofPairs (pairs : List (String × Value)) : Value :=
  .map (pairs.foldl (fun es e => Table.setEntry e.1 e.2 es) [])

/-- The value at a key of the entries. -/
def find? (key : String) (entries : Entries) : Option Value := Table.findEntry key entries

/-- The map of texts as data. -/
def ofTable (t : Table String) : Value := .map (t.map .text).entries

/-- The list of texts as data. -/
def ofTexts (texts : List String) : Value := .list (texts.map .text)

/-- Whether the value counts as true: everything but null, false, zero, and what is empty. -/
def isTruthy : Value → Bool
  | .null => false
  | .flag b => b
  | .integer n => n ≠ 0
  | .number x => !x.isZero
  | .text s => !s.isEmpty
  | .list items => !items.isEmpty
  | .map entries => !entries.isEmpty

end Value

end FlinkCluster
