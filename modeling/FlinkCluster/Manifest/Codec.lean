import FlinkCluster.Error

/-!
# Codecs

A `Codec α` reads values of a type from plain data and writes them. Scalars are lenient: a text field
takes any datum in its plain form, an integer field a text that writes an integer, a flag field
anything. Records are built from `Fields`, one per field, so that each field name is written once.
Reading a record takes the fields in order; after all of them the required ones are asked for, in
order as well. Nulls in lists and maps are kept: whether an object is there is asked by whoever needs
one of its fields. The fields of a record that nothing reads are kept together as data
(`Fields.others`).
-/

set_option autoImplicit false

namespace FlinkCluster

/-- How the values of a type are read from data that is not null, and written. -/
structure Codec (α : Type) where
  read : Value → Outcome α
  write : α → Value

/-- What an integer field holds: an integer, or a list or map, which has none and stays. -/
inductive IntegerField where
  | integer (n : Int)
  | datum (v : Value)
  deriving DecidableEq, Repr

instance : Coe Int IntegerField := ⟨.integer⟩

/-- The field as data. -/
def IntegerField.toValue : IntegerField → Value
  | .integer n => .integer n
  | .datum v => v

namespace Codec

/-- The normal form of a datum: what is read from it, written. -/
def normalize {α : Type} (c : Codec α) (v : Value) : Outcome Value := (c.read v).map c.write

/-! ## Scalars -/

/-- Any datum as a text. -/
def text : Codec String where
  read v := .ok v.plain
  write := .text

/-- A datum as an integer: texts are read, flags count, numbers are cut off at the point. -/
def integer : Codec IntegerField where
  read
    | .flag b => .ok (.integer (if b then 1 else 0))
    | .integer n => .ok (.integer n)
    | .number (.finite negative m e) =>
      let whole : Int := Number.Binary64.floor m e
      .ok (.integer (if negative then -whole else whole))
    | .number (.infinite _) => .error .integerOfInfinity
    | .number .nan => .error .integerOfNoNumber
    | .text s =>
      match Number.readInteger s with
      | .ok n => .ok (.integer n)
      | .error fault => .error (.invalidInteger s fault)
    | v => .ok (.datum v)
  write := IntegerField.toValue

/-- A datum as a flag: whether it counts as true. -/
def flag : Codec Bool where
  read v := .ok v.isTruthy
  write := .flag

/-- A datum as it is. -/
def any : Codec Value where
  read := .ok
  write v := v

/-! ## Lists and maps -/

/-- The items of a datum: those of a list, the characters of a text, the keys of a map. -/
def itemsOf : Value → Outcome (List Value)
  | .list items => .ok items
  | .text s => .ok (s.toList.map fun c => .text (String.singleton c))
  | .map entries => .ok (entries.map fun e => .text e.1)
  | v => .error (.notIterable v.kindWord)

/-- The entries of a map. -/
def entriesOf : Value → Outcome Entries
  | .map entries => .ok entries
  | v => .error (.notMapping v.kindWord "items")

/-- Applies a reading function to what is not null. -/
def unlessNull {α : Type} (f : Value → Outcome α) : Value → Outcome (Option α)
  | .null => .ok none
  | v => (f v).map some

/-- Writes what is there, and null for what is not. -/
def orNull {α : Type} (f : α → Value) (x : Option α) : Value := (x.map f).getD .null

/-- A list of data, of which some may be null. -/
def listOf {α : Type} (c : Codec α) : Codec (List (Option α)) where
  read v := do (← itemsOf v).mapM (unlessNull c.read)
  write items := .list (items.map (orNull c.write))

/-- A map to texts, of which some may be null. -/
def textMap : Codec (Table (Option String)) where
  read v := do
    let entries ← (← entriesOf v).mapM fun (k, x) => do return (k, ← unlessNull text.read x)
    return .ofEntries entries
  write t := .map (t.map (orNull .text)).entries

end Codec

/-! ## Records -/

/-- A part of the fields of a record `ρ` that yields a value of `α`. Reading fails at once on a bad
field; what it yields fails on a missing one. -/
structure Fields (ρ α : Type) where
  names : List String
  read : Entries → Outcome (Outcome α)
  write : ρ → Entries

namespace Fields

variable {ρ α β : Type}

/-- The value of a field, if it is given and not null. -/
def given? (name : String) (entries : Entries) : Option Value :=
  (Value.find? name entries).filter (· ≠ .null)

instance : Functor (Fields ρ) where
  map f x := { x with read := fun es => (x.read es).map (·.map f) }

instance : Seq (Fields ρ) where
  seq f x :=
    let x := x ()
    { names := f.names ++ x.names
      read := fun es => do
        let g ← f.read es
        let a ← x.read es
        return (do return (← g) (← a))
      write := fun r => f.write r ++ x.write r }

/-- A field that may be absent. -/
def optional (name : String) (c : Codec α) (get : ρ → Option α) : Fields ρ (Option α) where
  names := [name]
  read es :=
    match given? name es with
    | some v => (c.read v).map fun a => .ok (some a)
    | none => .ok (.ok none)
  write r :=
    match get r with
    | some a => [(name, c.write a)]
    | none => []

/-- A field that has to be given; `title` names it when it is missing. -/
def required (name title : String) (c : Codec α) (get : ρ → α) : Fields ρ α where
  names := [name]
  read es :=
    match given? name es with
    | some v => (c.read v).map .ok
    | none => .ok (.error (.missingField title))
  write r := [(name, c.write (get r))]

/-- Fields that are kept as they are given, without a look into them. -/
def others (names : List String) (get : ρ → Entries) : Fields ρ Entries where
  names := names
  read es := .ok (.ok (names.filterMap fun name => (given? name es).map (name, ·)))
  write := get

/-- The entries of the datum of a record. A list has none, unless one of its items is the name of
a field; data of other kinds than these has none. -/
def entries (names : List String) : Value → Outcome Entries
  | .map es => .ok es
  | .list items =>
    if names.any (fun n => items.contains (.text n)) then .error .listForObject else .ok []
  | _ => .ok []

/-- The codec of a record. -/
def codec (fs : Fields α α) : Codec α where
  read v := do (← fs.read (← entries fs.names v))
  write a := .map (fs.write a)

end Fields

end FlinkCluster
