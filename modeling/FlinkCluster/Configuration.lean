import FlinkCluster.Setting

/-!
# Configurations

A `Configuration` maps keys to stored texts in the order in which they were first set. Values enter
through `Value.stored` and leave through `Kind.read`. The view is `text?`, the stored text at a key.
-/

set_option autoImplicit false

namespace FlinkCluster

/-- The stored texts of a cluster's settings. -/
structure Configuration where
  table : Table String := Table.empty
  deriving DecidableEq, Repr, Inhabited

namespace Configuration

/-- The configuration without entries. -/
def empty : Configuration := ⟨Table.empty⟩

/-- The text stored at a key. -/
def text? (conf : Configuration) (key : String) : Option String := conf.table.get? key

/-- Stores a text at a key. -/
def setText (conf : Configuration) (key text : String) : Configuration :=
  ⟨conf.table.set key text⟩

/-- Stores a datum at a key. -/
def set (conf : Configuration) (key : String) (v : Value) : Configuration :=
  conf.setText key v.stored

/-- Stores a value of a setting. -/
def put {k : Kind} (conf : Configuration) (s : Setting k) (v : k.Carrier) : Configuration :=
  conf.set s.key (k.toValue v)

/-- Removes a key. -/
def erase (conf : Configuration) (key : String) : Configuration := ⟨conf.table.erase key⟩

/-- Whether a key is set. -/
def contains (conf : Configuration) (key : String) : Bool := conf.table.contains key

/-- The number of entries. -/
def size (conf : Configuration) : Nat := conf.table.size

/-- Stores the data in order. -/
def setAll (conf : Configuration) (entries : List (String × Value)) : Configuration :=
  entries.foldl (fun c e => c.set e.1 e.2) conf

/-- The configuration of the data, stored in order. -/
def ofEntries (entries : List (String × Value)) : Configuration := empty.setAll entries

/-- The value of a setting, if one of its keys is set. -/
def find? {k : Kind} (conf : Configuration) (s : Setting k) : Outcome (Option k.Carrier) :=
  match (s.key :: s.fallback).findSome? conf.text? with
  | some raw => (k.read s.key raw).map some
  | none => .ok none

/-- The value of a setting, or its default. -/
def get {k : Kind} (conf : Configuration) (p : Preset k) : Outcome k.Carrier :=
  (conf.find? p.toSetting).map (·.getD p.default)

/-- The value of a setting as a datum, or the given datum. -/
def lookup {k : Kind} (conf : Configuration) (s : Setting k) (default : Value) : Outcome Value :=
  (conf.find? s).map fun
    | some v => k.toValue v
    | none => default

/-- The entries whose keys start with `lead`, in the order of the keys, without `lead`. -/
def under (conf : Configuration) (lead : String) : Table String :=
  Table.ofEntries
    (conf.table.sorted.filterMap fun (k, v) => (Text.dropLeading? lead k).map (·, v))

/-- Whether both hold the same entries, in any order. -/
def sameEntries (a b : Configuration) : Bool := a.table.sameEntries b.table

/-- The written form. -/
def literal (conf : Configuration) : String :=
  "FlinkConfiguration(" ++ (Value.ofTable conf.table).literal ++ ")"

/-! ## The view -/

@[simp] theorem text?_empty (key : String) : empty.text? key = none := rfl

@[simp] theorem text?_setText (conf : Configuration) (key text j : String) :
    (conf.setText key text).text? j = if j = key then some text else conf.text? j :=
  Table.get?_set ..

@[simp] theorem text?_set (conf : Configuration) (key : String) (v : Value) (j : String) :
    (conf.set key v).text? j = if j = key then some v.stored else conf.text? j :=
  Table.get?_set ..

@[simp] theorem text?_erase (conf : Configuration) (key j : String) :
    (conf.erase key).text? j = if j = key then none else conf.text? j :=
  Table.get?_erase ..

end Configuration

end FlinkCluster
