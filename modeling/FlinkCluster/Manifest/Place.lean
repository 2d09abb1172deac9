import FlinkCluster.Manifest.Overlay

/-!
# Places in manifests

A place is where a list of `Turn`s leads in a manifest: to the value at a key of a map, or to the
item of a name in a list whose items all carry one. Values of other shapes are leaves, and lead
nowhere. `Value.reach` are all values at a place. Where items repeat a name, the last of them
counts, and `Value.at?` is the value that counts.
-/

set_option autoImplicit false

namespace FlinkCluster

open Overlay

/-! ## Names -/

namespace Overlay

/-- The name of an item, if it is a text. -/
def textName? (v : Value) : Option String :=
  match itemName? v with
  | some (.text n) => some n
  | _ => none

/-- Whether an item has a name. -/
def hasName (n : String) (v : Value) : Bool := textName? v == some n

/-- The names of items, in their order. -/
def names (items : List Value) : List String := items.filterMap textName?

end Overlay

/-! ## Shapes -/

/-- What a value is to an overlay. -/
inductive Shape where
  | map
  | named
  | leaf
  deriving DecidableEq, Repr

namespace Value

/-- The shape of a value. The empty list is one of named items. -/
def shape : Value → Shape
  | .map _ => .map
  | .list items => if allNamed items then .named else .leaf
  | _ => .leaf

end Value

/-! ## Places -/

/-- One step into a manifest. -/
inductive Turn where
  | key (k : String)
  | item (name : String)
  deriving DecidableEq, Repr

/-- The shape of the values that a step leads into. -/
def Turn.shape : Turn → Shape
  | .key _ => .map
  | .item _ => .named

theorem Turn.shape_ne_leaf (t : Turn) : t.shape ≠ .leaf := by
  cases t <;> exact nofun

namespace Value

/-- The values to which a step leads. -/
def children : Turn → Value → List Value
  | .key k, .map entries => (Table.findEntry k entries).toList
  | .item n, .list items => if allNamed items then items.filter (hasName n) else []
  | _, _ => []

/-- The value to which a step leads. -/
def child? (t : Turn) (v : Value) : Option Value := (v.children t).getLast?

/-- The values at a place. -/
def reach : List Turn → Value → List Value
  | [], v => [v]
  | t :: p, v => (v.children t).flatMap (reach p)

/-- The value at a place. -/
def at? : List Turn → Value → Option Value
  | [], v => some v
  | t :: p, v => (v.child? t).bind (at? p)

/-- The names of the items in all lists at a place. -/
def namesAt (p : List Turn) (v : Value) : List String :=
  (v.reach p).flatMap fun
    | .list items => names items
    | _ => []

/-- Whether a place leads to lists of named items only, and on the way there to values of the shapes
that its steps ask for. -/
def leadsToItems : List Turn → Value → Bool
  | [], v => v.shape = .named
  | t :: p, v => v.shape = t.shape && (v.children t).all (leadsToItems p)

/-! ## Well-formed manifests -/

mutual

/-- Whether a value and all values inside it are of a class. -/
def everywhere (p : Value → Bool) : Value → Bool
  | .list items => p (.list items) && everyItem p items
  | .map entries => p (.map entries) && everyEntry p entries
  | v => p v

/-- Whether everything in the items is of the class. -/
def everyItem (p : Value → Bool) : List Value → Bool
  | [] => true
  | v :: r => everywhere p v && everyItem p r

/-- Whether everything in the values of the entries is of the class. -/
def everyEntry (p : Value → Bool) : List (String × Value) → Bool
  | [] => true
  | (_, v) :: r => everywhere p v && everyEntry p r

end

/-- Whether the keys of a map are distinct, and the names of a list of named items are texts. -/
def isProper : Value → Bool
  | .map entries => decide (entries.map Prod.fst).Nodup
  | .list items => !allNamed items || items.all fun v => (textName? v).isSome
  | _ => true

/-- Whether the names of a list of named items are distinct. -/
def isUnrepeated : Value → Bool
  | .list items => !allNamed items || decide (names items).Nodup
  | _ => true

/-- Whether a value is a manifest: no map in it repeats a key, and items are named by texts. -/
def isManifest (v : Value) : Bool := v.everywhere isProper

/-- Whether no list of named items in a value repeats a name. -/
def repeatsNoName (v : Value) : Bool := v.everywhere isUnrepeated

/-! ## Parts -/

variable {p : Value → Bool} {v w : Value} {t : Turn}

theorem everyItem_iff {items : List Value} :
    everyItem p items = true ↔ ∀ v ∈ items, v.everywhere p = true := by
  induction items with
  | nil => simp [everyItem]
  | cons v r ih => simp [everyItem, ih]

theorem everyEntry_iff {entries : Entries} :
    everyEntry p entries = true ↔ ∀ e ∈ entries, e.2.everywhere p = true := by
  induction entries with
  | nil => simp [everyEntry]
  | cons e r ih => obtain ⟨k, v⟩ := e; simp [everyEntry, ih]

theorem everywhere_list_iff {items : List Value} :
    (Value.list items).everywhere p = true ↔
      p (.list items) = true ∧ ∀ v ∈ items, v.everywhere p = true := by
  rw [everywhere, Bool.and_eq_true, everyItem_iff]

theorem everywhere_map_iff {entries : Entries} :
    (Value.map entries).everywhere p = true ↔
      p (.map entries) = true ∧ ∀ e ∈ entries, e.2.everywhere p = true := by
  rw [everywhere, Bool.and_eq_true, everyEntry_iff]

theorem holds_of_everywhere (h : v.everywhere p = true) : p v = true := by
  cases v with
  | list items => exact (everywhere_list_iff.1 h).1
  | map entries => exact (everywhere_map_iff.1 h).1
  | _ => simpa [everywhere] using h

theorem mem_of_findEntry {entries : Entries} {k : String} (h : Table.findEntry k entries = some v) :
    (k, v) ∈ entries := by
  induction entries with
  | nil => cases h
  | cons e r ih =>
    obtain ⟨j, w⟩ := e
    rw [Table.findEntry] at h
    split at h
    · rename_i hj
      obtain rfl := Option.some.inj h
      exact hj ▸ List.mem_cons_self
    · exact List.mem_cons_of_mem _ (ih h)

/-- What holds everywhere in a value holds everywhere in its parts. -/
theorem everywhere_of_mem_children (h : v.everywhere p = true) (hw : w ∈ v.children t) :
    w.everywhere p = true := by
  unfold children at hw
  split at hw
  · have hmem := mem_of_findEntry (Option.mem_toList.1 hw)
    exact (everywhere_map_iff.1 h).2 _ hmem
  · split at hw
    · exact (everywhere_list_iff.1 h).2 w (List.mem_filter.1 hw).1
    · cases hw
  · cases hw

theorem mem_children_of_child? (h : v.child? t = some w) : w ∈ v.children t :=
  List.mem_of_getLast? h

theorem everywhere_of_at? {path : List Turn} (h : v.everywhere p = true)
    (hw : v.at? path = some w) : w.everywhere p = true := by
  induction path generalizing v with
  | nil => exact Option.some.inj hw ▸ h
  | cons t path ih =>
    obtain ⟨c, hc, hw⟩ := Option.bind_eq_some_iff.1 hw
    exact ih (everywhere_of_mem_children h (mem_children_of_child? hc)) hw

/-- A step leads somewhere only from the shape of values that it asks for. -/
theorem shape_of_mem_children (h : w ∈ v.children t) : v.shape = t.shape := by
  unfold children at h
  split at h
  · rfl
  · rename_i items
    split at h
    · rename_i hnamed
      exact if_pos hnamed
    · cases h
  · cases h

theorem children_eq_nil (h : v.shape ≠ t.shape) : v.children t = [] :=
  List.eq_nil_iff_forall_not_mem.2 fun _ hw => h (shape_of_mem_children hw)

end Value

end FlinkCluster
