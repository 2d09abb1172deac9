import FlinkCluster.Error

/-!
# Rules of documents

A document is checked as a whole: `Checked` holds a value or all the faults that were found, and
two checks side by side report the faults of both. A `Rule` checks a datum and writes a value; the
rule of a record is built from its `Members`, one per field, so that each field name and each
default is written once.
-/

set_option autoImplicit false

namespace FlinkCluster

/-- A value, or the faults that were found instead. -/
inductive Checked (α : Type) where
  | valid (value : α)
  | faulty (errors : List FieldError)
  deriving Repr

namespace Checked

variable {α β : Type}

instance : Functor Checked where
  map f
    | .valid a => .valid (f a)
    | .faulty errors => .faulty errors

instance : Seq Checked where
  seq f x :=
    match f, x () with
    | .valid g, .valid a => .valid (g a)
    | .valid _, .faulty errors => .faulty errors
    | .faulty errors, .valid _ => .faulty errors
    | .faulty first, .faulty second => .faulty (first ++ second)

/-- One fault, at the datum itself. -/
def fault (f : FieldFault) : Checked α := .faulty [⟨[], f⟩]

/-- The check of a part, with its faults placed in the whole. -/
def inside (place : String) : Checked α → Checked α
  | .valid a => .valid a
  | .faulty errors => .faulty (errors.map fun e => { e with path := place :: e.path })

/-- The value if it meets a condition. -/
def only (ok : α → Bool) (f : FieldFault) : Checked α → Checked α
  | .valid a => if ok a then .valid a else fault f
  | .faulty errors => .faulty errors

/-- The values of all checks. -/
def all : List (Checked α) → Checked (List α)
  | [] => .valid []
  | c :: r => List.cons <$> c <*> all r

/-- The value, or a failure with all faults. -/
def outcome : Checked α → Outcome α
  | .valid a => .ok a
  | .faulty errors => .error (.document errors)

end Checked

/-! ## Rules -/

/-- The two spellings of field names. -/
inductive Spelling where
  | camel
  | snake
  deriving DecidableEq, Repr

/-- How the values of a type are checked and written in documents. -/
structure Rule (α : Type) where
  check : Value → Checked α
  write : Spelling → α → Value

namespace Rule

variable {α : Type}

/-- The rule for values that meet a condition. -/
def only (r : Rule α) (ok : α → Bool) (f : FieldFault) : Rule α :=
  { r with check := fun v => (r.check v).only ok f }

/-- The rule for values that may be null. -/
def optional (r : Rule α) : Rule (Option α) where
  check
    | .null => .valid none
    | v => some <$> r.check v
  write s
    | some a => r.write s a
    | none => .null

/-- The rule for lists; faults are placed by their index. -/
def list (r : Rule α) : Rule (List α) where
  check
    | .list items => Checked.all (items.mapIdx fun i v =>
        (r.check v).inside (Number.integerText i))
    | _ => .fault .listExpected
  write s items := .list (items.map (r.write s))

/-- The rule for maps; faults are placed by their key. -/
def table (r : Rule α) : Rule (Table α) where
  check
    | .map entries => Table.ofEntries <$> Checked.all (entries.map fun (k, v) =>
        (Prod.mk k) <$> (r.check v).inside k)
    | _ => .fault .mapExpected
  write s t := .map (t.map (r.write s)).entries

/-- The rule for maps of any data. -/
def anyMap : Rule Entries where
  check
    | .map entries => .valid entries
    | _ => .fault .mapExpected
  write _ entries := .map entries

end Rule

/-! ## Records -/

/-- A field name in both spellings. -/
structure FieldName where
  camel : String
  snake : String
  deriving DecidableEq, Repr

namespace FieldName

/-- The name in a spelling. -/
def spelled (n : FieldName) : Spelling → String
  | .camel => n.camel
  | .snake => n.snake

/-- A name that is the same in both spellings. -/
def plain (name : String) : FieldName := ⟨name, name⟩

/-- The value of the field and the name under which it stands; the camel spelling goes before the
snake spelling. -/
def given? (n : FieldName) (entries : Entries) : Option (String × Value) :=
  ((Value.find? n.camel entries).map (n.camel, ·)).or ((Value.find? n.snake entries).map (n.snake, ·))

end FieldName

/-- A part of the fields of a record `ρ` that yields a value of `α`. -/
structure Members (ρ α : Type) where
  check : Entries → Checked α
  write : Spelling → ρ → Entries

namespace Members

variable {ρ α β : Type}

instance : Functor (Members ρ) where
  map f m := { m with check := fun es => f <$> m.check es }

instance : Seq (Members ρ) where
  seq f m :=
    let m := m ()
    { check := fun es => f.check es <*> m.check es
      write := fun s r => f.write s r ++ m.write s r }

/-- The check of a field. Its faults are placed under the name at which it stands; without it
`absent` holds, at the camel spelling. -/
def field (n : FieldName) (r : Rule α) (get : ρ → α) (absent : Checked α) : Members ρ α where
  check es :=
    match n.given? es with
    | some (name, v) => (r.check v).inside name
    | none => absent.inside n.camel
  write s a := [(n.spelled s, r.write s (get a))]

/-- A field with a default. -/
def withDefault (n : FieldName) (r : Rule α) (get : ρ → α) (default : α) : Members ρ α :=
  field n r get (.valid default)

/-- A field that has to be given. -/
def required (n : FieldName) (r : Rule α) (get : ρ → α) : Members ρ α :=
  field n r get (.fault .missing)

/-- A field that may be absent or null. -/
def optional (n : FieldName) (r : Rule α) (get : ρ → Option α) : Members ρ (Option α) :=
  field n r.optional get (.valid none)

/-- The rule of a record. -/
def rule (m : Members α α) : Rule α where
  check
    | .map entries => m.check entries
    | _ => .fault .objectExpected
  write s a := .map (m.write s a)

end Members

end FlinkCluster
