/-!
# Tables

`Table α` maps texts to values and remembers the order in which the keys arrived: setting a key
that is present keeps its place, a new key goes to the end. No key occurs twice, and the type
says so. The view is `get?`; each operation has one lemma that says what it does to the view.
-/

set_option autoImplicit false

namespace FlinkCluster

/-- A finite map from texts, in the order in which its keys were first set. -/
structure Table (α : Type) where
  entries : List (String × α)
  nodup : (entries.map Prod.fst).Nodup
  deriving DecidableEq, Repr

namespace Table

variable {α β : Type}

/-! ## Entries -/

/-- The first value at `k`. -/
def findEntry {κ : Type} [DecidableEq κ] (k : κ) : List (κ × α) → Option α
  | [] => none
  | (j, w) :: r => if j = k then some w else findEntry k r

/-- Overwrites the value at `k` in place, or adds the pair at the end. -/
def setEntry {κ : Type} [DecidableEq κ] (k : κ) (v : α) : List (κ × α) → List (κ × α)
  | [] => [(k, v)]
  | (j, w) :: r => if j = k then (j, v) :: r else (j, w) :: setEntry k v r

theorem mem_map_fst_setEntry {κ : Type} [DecidableEq κ] {k j : κ} {v : α} {es : List (κ × α)} :
    j ∈ (setEntry k v es).map Prod.fst ↔ j = k ∨ j ∈ es.map Prod.fst := by
  induction es with
  | nil => simp [setEntry]
  | cons e r ih =>
    obtain ⟨i, w⟩ := e
    by_cases h : i = k
    · subst h; simp [setEntry]
    · rw [setEntry, if_neg h, List.map_cons, List.mem_cons, ih, List.map_cons, List.mem_cons]
      constructor <;> rintro (h | h | h) <;> simp [h]

theorem nodup_setEntry {κ : Type} [DecidableEq κ] {k : κ} {v : α} {es : List (κ × α)}
    (h : (es.map Prod.fst).Nodup) : ((setEntry k v es).map Prod.fst).Nodup := by
  induction es with
  | nil => simp [setEntry]
  | cons e r ih =>
    obtain ⟨i, w⟩ := e
    rw [List.map_cons, List.nodup_cons] at h
    by_cases hi : i = k
    · rw [setEntry, if_pos hi, List.map_cons, List.nodup_cons]
      exact h
    · rw [setEntry, if_neg hi, List.map_cons, List.nodup_cons, mem_map_fst_setEntry]
      exact ⟨fun hm => hm.elim hi h.1, ih h.2⟩

theorem findEntry_setEntry {κ : Type} [DecidableEq κ] {k j : κ} {v : α} {es : List (κ × α)} :
    findEntry j (setEntry k v es) = if j = k then some v else findEntry j es := by
  induction es with
  | nil => simp [setEntry, findEntry, eq_comm]
  | cons e r ih => obtain ⟨i, w⟩ := e; grind [setEntry, findEntry]

theorem findEntry_filter {κ : Type} [DecidableEq κ] {k j : κ} {es : List (κ × α)} :
    findEntry j (es.filter (fun e => e.1 ≠ k)) = if j = k then none else findEntry j es := by
  induction es with
  | nil => simp [findEntry]
  | cons e r ih => obtain ⟨i, w⟩ := e; grind [findEntry]

/-! ## Operations -/

/-- The table without entries. -/
def empty : Table α := ⟨[], List.nodup_nil⟩

instance : EmptyCollection (Table α) := ⟨empty⟩

instance : Inhabited (Table α) := ⟨empty⟩

/-- The value at `k`, if `k` is set. -/
def get? (t : Table α) (k : String) : Option α := findEntry k t.entries

/-- The keys in the order in which they were first set. -/
def keys (t : Table α) : List String := t.entries.map Prod.fst

/-- Whether `k` is set. -/
def contains (t : Table α) (k : String) : Bool := (t.get? k).isSome

/-- The number of entries. -/
def size (t : Table α) : Nat := t.entries.length

/-- Whether the table has no entry. -/
def isEmpty (t : Table α) : Bool := t.entries.isEmpty

/-- Sets `k` to `v`. -/
def set (t : Table α) (k : String) (v : α) : Table α :=
  ⟨setEntry k v t.entries, nodup_setEntry t.nodup⟩

/-- Removes `k`. -/
def erase (t : Table α) (k : String) : Table α :=
  ⟨t.entries.filter (fun e => e.1 ≠ k),
    t.nodup.sublist (List.Sublist.map _ (List.filter_sublist (p := _) (l := _)))⟩

/-- Sets the pairs in order, so that of a repeated key the first place and the last value stay. -/
def ofEntries (es : List (String × α)) : Table α :=
  es.foldl (fun t e => t.set e.1 e.2) empty

/-- Sets every entry of `u` on top of `t`. -/
def union (t u : Table α) : Table α :=
  u.entries.foldl (fun t e => t.set e.1 e.2) t

/-- Changes every value by `f`. -/
def map (f : α → β) (t : Table α) : Table β :=
  ⟨t.entries.map (fun e => (e.1, f e.2)), by simpa [List.map_map, Function.comp_def] using t.nodup⟩

/-- The entries by key in code point order. -/
def sorted (t : Table α) : List (String × α) :=
  t.entries.mergeSort (fun a b => a.1 ≤ b.1)

/-- Whether both tables hold the same entries in any order. -/
def sameEntries [DecidableEq α] (t u : Table α) : Bool :=
  t.size == u.size && t.entries.all (fun e => u.get? e.1 == some e.2)

/-! ## The view -/

@[simp] theorem get?_empty (k : String) : (empty : Table α).get? k = none := rfl

@[simp] theorem get?_set (t : Table α) (k j : String) (v : α) :
    (t.set k v).get? j = if j = k then some v else t.get? j := findEntry_setEntry

@[simp] theorem get?_erase (t : Table α) (k j : String) :
    (t.erase k).get? j = if j = k then none else t.get? j := findEntry_filter

@[simp] theorem get?_map (f : α → β) (t : Table α) (k : String) :
    (t.map f).get? k = (t.get? k).map f := by
  simp only [get?, map]
  induction t.entries with
  | nil => rfl
  | cons e r ih => obtain ⟨i, w⟩ := e; grind [findEntry]

theorem get?_ofEntries_append (es : List (String × α)) (k : String) (v : α) (j : String) :
    (ofEntries (es ++ [(k, v)])).get? j = if j = k then some v else (ofEntries es).get? j := by
  simp [ofEntries, List.foldl_append]

theorem mem_keys_set (t : Table α) (k j : String) (v : α) :
    j ∈ (t.set k v).keys ↔ j = k ∨ j ∈ t.keys := mem_map_fst_setEntry

theorem mem_keys_ofEntries {es : List (String × α)} {k : String} :
    k ∈ (ofEntries es).keys ↔ k ∈ es.map Prod.fst := by
  have hfold (t : Table α) : k ∈ (es.foldl (fun t e => t.set e.1 e.2) t).keys ↔
      k ∈ t.keys ∨ k ∈ es.map Prod.fst := by
    induction es generalizing t with
    | nil => simp
    | cons e es ih =>
      rw [List.foldl_cons, ih, mem_keys_set, List.map_cons, List.mem_cons]
      grind
  simpa [ofEntries, keys, empty] using hfold empty

end Table

end FlinkCluster
