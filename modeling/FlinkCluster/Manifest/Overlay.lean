import FlinkCluster.Error

/-!
# Overlays

`Overlay.merge` lays one manifest over another. Maps are merged key by key, and lists whose items
all carry a name (containers, volumes, variables) item by item on that name; any other value of the
overlay replaces what stands at its place. Keys and items keep the place that they have in the
manifest below, new ones follow in the order of the overlay. `mergeNamed` does the same and refuses
lists and maps as names where it has to compare them, and `mergeData` also takes what is no manifest.
-/

set_option autoImplicit false

namespace FlinkCluster.Overlay

/-! ## Names of items -/

/-- The name of an item: the value at `name`, whatever it is. -/
def itemName? : Value → Option Value
  | .map entries => Value.find? "name" entries
  | _ => none

/-- Whether every item carries a name. The empty list does. -/
def allNamed (items : List Value) : Bool := items.all (fun v => (itemName? v).isSome)

/-- The number that a name stands for: flags count as one and zero. -/
def numeric? : Value → Option Rat
  | .flag b => some (if b then 1 else 0)
  | .integer n => some n
  | .number x => x.toRat?
  | _ => none

/-- Whether two names are the same: numbers by their value, others by their form. -/
def sameKey (a b : Value) : Bool :=
  match numeric? a, numeric? b with
  | some x, some y => x == y
  | none, none => a == b
  | _, _ => false

/-- Whether two items carry the same name. -/
def sameName (a b : Value) : Bool :=
  match itemName? a, itemName? b with
  | some x, some y => sameKey x y
  | _, _ => false

/-! ## Lists by name -/

/-- Changes the first item of the class `p` by `f`, or adds `new` at the end. -/
def updateFirst {α : Type} (p : α → Bool) (f : α → α) (new : α) : List α → List α
  | [] => [new]
  | x :: r => if p x then f x :: r else x :: updateFirst p f new r

/-- One item per name: of a repeated name the first place and the last item stay. -/
def collapse (items : List Value) : List Value :=
  items.foldl (fun kept v => updateFirst (sameName v) (fun _ => v) v kept) []

/-! ## Merging -/

mutual

/-- The value that results where an overlay meets the current value, if there is one. -/
def overValue : Value → Option Value → Value
  | .map o, some (.map b) => .map (overEntries o b)
  | .list o, some (.list b) =>
    if allNamed b && allNamed o then .list (overItems o (collapse b)) else .list o
  | v, _ => v

/-- Lays entries over others. -/
def overEntries : List (String × Value) → List (String × Value) → List (String × Value)
  | [], b => b
  | (k, v) :: r, b => overEntries r (Table.setEntry k (overValue v (Table.findEntry k b)) b)

/-- Lays named items over others. -/
def overItems : List Value → List Value → List Value
  | [], b => b
  | v :: r, b => overItems r (updateFirst (sameName v) (fun x => overValue v (some x)) v b)

end

/-- Lays a manifest over another; an absent one leaves the other as it is. -/
def merge : Option Entries → Option Entries → Option Entries
  | none, o => o
  | some b, none => some b
  | some b, some o => some (overEntries o b)

/-! ## Names that cannot be compared -/

/-- The failure of an item whose name is a list or a map. -/
def unusableName? (v : Value) : Option Failure :=
  match itemName? v with
  | some (.list items) => some (.unusableName (Value.list items).kindWord)
  | some (.map entries) => some (.unusableName (Value.map entries).kindWord)
  | _ => none

mutual

/-- The failure where an overlay meets the current value. -/
def fault? : Value → Option Value → Option Failure
  | .map o, some (.map b) => faultInEntries? o b
  | .list o, some (.list b) =>
    if allNamed b && allNamed o then
      (b.findSome? unusableName?).or (faultInItems? o (collapse b))
    else none
  | _, _ => none

/-- The first failure of laying entries over others. -/
def faultInEntries? : List (String × Value) → List (String × Value) → Option Failure
  | [], _ => none
  | (k, v) :: r, b =>
    (fault? v (Table.findEntry k b)).or
      (faultInEntries? r (Table.setEntry k (overValue v (Table.findEntry k b)) b))

/-- The first failure of laying named items over others. -/
def faultInItems? : List Value → List Value → Option Failure
  | [], _ => none
  | v :: r, b =>
    ((unusableName? v).or (fault? v (b.find? (sameName v)))).or
      (faultInItems? r (updateFirst (sameName v) (fun x => overValue v (some x)) v b))

end

/-- Lays a manifest over another, unless a name cannot be compared. -/
def mergeNamed (b o : Option Entries) : Outcome (Option Entries) :=
  match b, o with
  | some b', some o' =>
    match faultInEntries? o' b' with
    | some f => .error f
    | none => .ok (merge b o)
  | _, _ => .ok (merge b o)

/-- Lays a datum over another. Null counts as absent, and only a map can be laid over anything; one
that is not empty asks for a map below it. -/
def mergeData : Value → Value → Outcome Value
  | .null, o => .ok o
  | b, .null => .ok b
  | .map b, .map o => (mergeNamed (some b) (some o)).map fun merged => .map (merged.getD b)
  | b, .map [] => .ok b
  | b, .map (_ :: _) => .error (.notMapping b.kindWord "get")
  | _, o => .error (.notMapping o.kindWord "items")

/-! ## Laws -/

@[simp] theorem merge_none (b : Option Entries) : merge b none = b := by cases b <;> rfl

@[simp] theorem none_merge (o : Option Entries) : merge none o = o := rfl

@[simp] theorem overEntries_nil (b : Entries) : overEntries [] b = b := by simp [overEntries]

theorem overValue_map_map (o b : Entries) :
    overValue (.map o) (some (.map b)) = .map (overEntries o b) := by simp [overValue]

end FlinkCluster.Overlay
