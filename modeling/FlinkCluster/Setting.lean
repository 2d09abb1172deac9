import FlinkCluster.Error
import FlinkCluster.Number.Decimal
import FlinkCluster.Text.Capital

/-!
# Typed settings

A configuration stores texts; a `Setting` says under which keys a value is found and of which `Kind`
it is. `Kind.read` reads a stored text as a value of the kind, `Value.stored` is the text that is
stored for a datum, and `Kind.toValue` connects the two. Lists are separated by semicolons; maps
have commas between entries and a colon behind each key.
-/

set_option autoImplicit false

namespace FlinkCluster

/-- The kinds of settings. -/
inductive Kind where
  | text
  | integer
  | number
  | flag
  | list
  | map
  | maps
  deriving DecidableEq, Repr

namespace Kind

/-- The values of a kind. -/
abbrev Carrier : Kind → Type
  | .text => String
  | .integer => Int
  | .number => Number.Binary64
  | .flag => Bool
  | .list => List String
  | .map => Table String
  | .maps => List (Table String)

/-- The word for a kind. -/
def word : Kind → String
  | .text => "str"
  | .integer => "int"
  | .number => "float"
  | .flag => "bool"
  | .list => "list"
  | .map => "dict"
  | .maps => "map_list"

/-- A value of the kind as a datum. -/
def toValue : (k : Kind) → k.Carrier → Value
  | .text, s => .text s
  | .integer, n => .integer n
  | .number, x => .number x
  | .flag, b => .flag b
  | .list, items => .ofTexts items
  | .map, t => .ofTable t
  | .maps, ts => .list (ts.map .ofTable)

end Kind

/-! ## Reading -/

/-- The separator of list items. -/
def itemSeparator : Char := ';'

/-- The separator of map entries. -/
def entrySeparator : Char := ','

/-- The separator of key and value. -/
def keySeparator : Char := ':'

/-- The pieces of a text without surrounding blanks, and without the empty ones. -/
def trimmedPieces (sep : Char) (raw : String) : List String :=
  ((Text.split sep raw).map Text.strip).filter (· ≠ "")

/-- Reads one entry of a map onto those before it. -/
def readEntry (key : String) (t : Table String) (entry : String) : Outcome (Table String) :=
  match Text.cut? keySeparator entry with
  | some (k, v) => .ok (t.set (Text.strip k) (Text.strip v))
  | none => misconfigured (.invalidMapEntry entry) key

/-- Reads a map. -/
def readMap (key raw : String) : Outcome (Table String) :=
  (trimmedPieces entrySeparator raw).foldlM (readEntry key) Table.empty

/-- Reads a list of maps; pieces that are blank are no maps. -/
def readMaps (key raw : String) : Outcome (List (Table String)) :=
  ((Text.split itemSeparator raw).filter (fun s => Text.strip s ≠ "")).mapM (readMap key)

/-- Reads a flag, in any case. -/
def readFlag? (raw : String) : Option Bool :=
  match Text.lowerAscii (Text.strip raw) with
  | "true" => some true
  | "false" => some false
  | _ => none

/-- Reads a stored text as a value of a kind; `key` is named where that fails. -/
def Kind.read (key raw : String) : (k : Kind) → Outcome k.Carrier
  | .text => .ok raw
  | .integer => orUnreadable .integer (Number.readInteger (Text.strip raw)).toOption
  | .number => orUnreadable .number (Number.readNumber (Text.strip raw))
  | .flag => orUnreadable .flag (readFlag? raw)
  | .list => .ok (trimmedPieces itemSeparator raw)
  | .map => readMap key raw
  | .maps => readMaps key raw
where
  orUnreadable (k : Kind) {α : Type} : Option α → Outcome α
    | some a => .ok a
    | none => misconfigured (.unreadableValue raw k.word) key

/-! ## Storing -/

namespace Value

/-- The stored form of a map. -/
def storedMap (entries : Entries) : String :=
  Text.join (String.singleton entrySeparator)
    (entries.map fun (k, v) => k ++ String.singleton keySeparator ++ v.plain)

/-- The stored form of a list item. -/
def storedItem : Value → String
  | .map entries => storedMap entries
  | v => v.plain

/-- The text that is stored for a datum. -/
def stored : Value → String
  | .flag b => if b then "true" else "false"
  | .map entries => storedMap entries
  | .list items => Text.join (String.singleton itemSeparator) (items.map storedItem)
  | v => v.plain

@[simp] theorem stored_text (s : String) : (Value.text s).stored = s := rfl

end Value

/-! ## Settings -/

/-- Where a value of the kind is found: under its key, else under the first fallback key that is
set. -/
structure Setting (k : Kind) where
  key : String
  fallback : List String := []
  deriving DecidableEq, Repr

/-- A setting with the value that holds when no key is set. -/
structure Preset (k : Kind) extends Setting k where
  default : k.Carrier

end FlinkCluster
