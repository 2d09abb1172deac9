import FlinkCluster.Manifest.Place
import FlinkCluster.Proofs.Labels
import Mathlib.Data.List.Nodup

/-!
# Lists of named items

What laying one list of named items over another does to the names, to the item of each name, and to
the items of all other names. The names of the items are texts throughout, and so two items have the
same name exactly when their texts are equal (`sameName_eq_hasName`).

* `collapse`: the names without repetitions, for each name its last item (`item?_collapse`).
* `overItems`: the names below and then the new ones (`names_overItems`), for each name the items of
  the overlay laid one after the other over the item below (`item?_overItems`).
* `filter_overItems`: items that the overlay does not name are kept, in their order.
-/

set_option autoImplicit false

namespace FlinkCluster.Overlay

variable {v x new : Value} {n m : String} {xs ys : List Value} {f : Value → Value}
  {q : Value → Bool}

/-! ## Names -/

@[simp] theorem hasName_iff : hasName n v = true ↔ textName? v = some n := by
  simp [hasName]

theorem textName?_eq_some_iff : textName? v = some n ↔ itemName? v = some (.text n) := by
  unfold textName?
  split
  · rename_i hname
    simp [hname]
  · rename_i hname
    exact ⟨nofun, fun h => absurd h (hname n)⟩

theorem mem_names_iff : n ∈ names xs ↔ ∃ x ∈ xs, textName? x = some n := List.mem_filterMap

@[simp] theorem names_append : names (xs ++ ys) = names xs ++ names ys := List.filterMap_append

theorem names_cons_of (h : textName? x = some n) : names (x :: xs) = n :: names xs :=
  List.filterMap_cons_some h

/-- Every item has a text for its name. -/
def TextNamed (xs : List Value) : Prop := ∀ x ∈ xs, ∃ n, textName? x = some n

theorem TextNamed.allNamed (h : TextNamed xs) : allNamed xs = true := by
  rw [Overlay.allNamed, List.all_eq_true]
  intro x hx
  obtain ⟨n, hn⟩ := h x hx
  rw [textName?_eq_some_iff.1 hn]
  rfl

/-- The item of a name that counts, which is the last one. -/
def item? (n : String) (xs : List Value) : Option Value := (xs.filter (hasName n)).getLast?

theorem filter_hasName_of_nodup (h : (names xs).Nodup) :
    xs.filter (hasName n) = (item? n xs).toList := by
  have hshort : (xs.filter (hasName n)).length ≤ 1 := by
    have hcount : (names xs).count n = (xs.filter (hasName n)).length := by
      rw [names, List.count_filterMap, List.countP_eq_length_filter]
      rfl
    rw [← hcount]
    exact List.nodup_iff_count_le_one.1 h n
  unfold item?
  match xs.filter (hasName n), hshort with
  | [], _ => rfl
  | [x], _ => rfl

theorem item?_append_singleton (h : textName? v = some n) :
    item? m (xs ++ [v]) = if m = n then some v else item? m xs := by
  unfold item?
  rw [List.filter_append, List.filter_singleton]
  by_cases hm : m = n
  · subst hm
    simp [hasName, h]
  · have hother : hasName m v = false := by
      rw [hasName, h]
      simpa using Ne.symm hm
    simp [hother, hm]

/-- Two items have one name if their texts are equal. -/
theorem sameName_eq_hasName (hv : textName? v = some n) (hx : ∃ m, textName? x = some m) :
    sameName v x = hasName n x := by
  obtain ⟨m, hm⟩ := hx
  rw [sameName, textName?_eq_some_iff.1 hv, textName?_eq_some_iff.1 hm, hasName, hm]
  simp [sameKey, numeric?, eq_comm]

/-! ## Changing the item of a name -/

theorem updateFirst_congr {α : Type} {p p' : α → Bool} {f : α → α} {new : α} {xs : List α}
    (h : ∀ x ∈ xs, p x = p' x) : updateFirst p f new xs = updateFirst p' f new xs := by
  induction xs with
  | nil => rfl
  | cons x xs ih =>
    rw [updateFirst, updateFirst, h x List.mem_cons_self,
      ih fun y hy => h y (List.mem_cons_of_mem x hy)]

theorem updateFirst_sameName (hv : textName? v = some n) (hxs : TextNamed xs) :
    updateFirst (sameName v) f new xs = updateFirst (hasName n) f new xs :=
  updateFirst_congr fun x hx => sameName_eq_hasName hv (hxs x hx)

theorem mem_of_mem_updateFirst {α : Type} {p : α → Bool} {f : α → α} {new y : α} {xs : List α}
    (h : y ∈ updateFirst p f new xs) : y = new ∨ y ∈ xs ∨ ∃ x ∈ xs, p x = true ∧ y = f x := by
  induction xs with
  | nil => exact .inl (List.mem_singleton.1 h)
  | cons x xs ih =>
    rw [updateFirst] at h
    split at h
    · rename_i hx
      obtain rfl | h := List.mem_cons.1 h
      · exact .inr (.inr ⟨x, List.mem_cons_self, hx, rfl⟩)
      · exact .inr (.inl (List.mem_cons_of_mem x h))
    · obtain rfl | h := List.mem_cons.1 h
      · exact .inr (.inl List.mem_cons_self)
      · obtain h | h | ⟨z, hz, hp, hy⟩ := ih h
        · exact .inl h
        · exact .inr (.inl (List.mem_cons_of_mem x h))
        · exact .inr (.inr ⟨z, List.mem_cons_of_mem x hz, hp, hy⟩)

section Update

variable (hnew : textName? new = some n) (hf : ∀ x, textName? x = some n → textName? (f x) = some n)
include hnew hf

theorem names_updateFirst :
    names (updateFirst (hasName n) f new xs) =
      if n ∈ names xs then names xs else names xs ++ [n] := by
  induction xs with
  | nil =>
    show names [new] = if n ∈ [] then [] else [n]
    rw [if_neg List.not_mem_nil, names_cons_of hnew]
    rfl
  | cons x xs ih =>
    rw [updateFirst]
    split
    · rename_i hx
      rw [hasName_iff] at hx
      rw [names_cons_of (hf x hx), names_cons_of hx, if_pos List.mem_cons_self]
    · rename_i hx
      rw [hasName_iff] at hx
      have hne : n ∉ names [x] := by simpa [mem_names_iff] using hx
      show names ([x] ++ updateFirst (hasName n) f new xs) =
        if n ∈ names ([x] ++ xs) then names ([x] ++ xs) else names ([x] ++ xs) ++ [n]
      simp only [names_append, ih, List.mem_append, or_iff_right hne]
      split
      · rfl
      · rw [List.append_assoc]

theorem nodup_names_updateFirst (h : (names xs).Nodup) :
    (names (updateFirst (hasName n) f new xs)).Nodup := by
  rw [names_updateFirst hnew hf]
  split
  · exact h
  · rename_i hn
    exact List.nodup_append.2 ⟨h, List.nodup_singleton n,
      fun a ha b hb hab => hn (List.mem_singleton.1 hb ▸ hab ▸ ha)⟩

theorem textNamed_updateFirst (h : TextNamed xs) :
    TextNamed (updateFirst (hasName n) f new xs) := by
  intro y hy
  obtain rfl | hy | ⟨x, -, hx, rfl⟩ := mem_of_mem_updateFirst hy
  · exact ⟨n, hnew⟩
  · exact h y hy
  · exact ⟨n, hf x (hasName_iff.1 hx)⟩

/-- Items of other names are not touched. -/
theorem filter_updateFirst_of_not (hq : ∀ x, textName? x = some n → q x = false) :
    (updateFirst (hasName n) f new xs).filter q = xs.filter q := by
  induction xs with
  | nil => simp [updateFirst, hq new hnew]
  | cons x xs ih =>
    rw [updateFirst]
    split
    · rename_i hx
      rw [hasName_iff] at hx
      rw [List.filter_cons_of_neg (by simp [hq _ (hf x hx)]),
        List.filter_cons_of_neg (by simp [hq _ hx])]
    · rw [List.filter_cons, List.filter_cons, ih]

/-- Items of a class that holds all items of the name. -/
theorem filter_updateFirst_of (hq : ∀ x, textName? x = some n → q x = true) :
    (updateFirst (hasName n) f new xs).filter q = updateFirst (hasName n) f new (xs.filter q) := by
  induction xs with
  | nil => simp [updateFirst, hq new hnew]
  | cons x xs ih =>
    by_cases hx : hasName n x = true
    · have hxn := hasName_iff.1 hx
      rw [updateFirst, if_pos hx, List.filter_cons_of_pos (hq _ (hf x hxn)),
        List.filter_cons_of_pos (hq x hxn), updateFirst, if_pos hx]
    · rw [updateFirst, if_neg hx, List.filter_cons, List.filter_cons, ih]
      split
      · rw [updateFirst, if_neg hx]
      · rfl

theorem item?_updateFirst (h : (names xs).Nodup) :
    item? m (updateFirst (hasName n) f new xs) =
      if m = n then some ((item? n xs).elim new f) else item? m xs := by
  by_cases hm : m = n
  · subst hm
    rw [if_pos rfl, item?, filter_updateFirst_of hnew hf fun x hx => hasName_iff.2 hx,
      filter_hasName_of_nodup h]
    cases hx : item? m xs with
    | none => rfl
    | some x =>
      have hname : hasName m x = true := (List.mem_filter.1 (List.mem_of_getLast? hx)).2
      rw [Option.toList_some, updateFirst, if_pos hname]
      rfl
  · rw [if_neg hm, item?, filter_updateFirst_of_not hnew hf, item?]
    intro x hx
    rw [hasName, hx]
    simpa using Ne.symm hm

end Update

/-! ## One item for each name -/

theorem collapse_append_singleton (xs : List Value) (v : Value) :
    collapse (xs ++ [v]) = updateFirst (sameName v) (fun _ => v) v (collapse xs) := by
  rw [collapse, List.foldl_append]
  rfl

theorem TextNamed.of_append (h : TextNamed (xs ++ ys)) : TextNamed xs ∧ TextNamed ys :=
  ⟨fun x hx => h x (List.mem_append_left ys hx), fun y hy => h y (List.mem_append_right xs hy)⟩

/-- What holds of the collapsed items after each item in turn. -/
theorem TextNamed.collapse_induction {P : List Value → List Value → Prop} (h : TextNamed xs)
    (nil : P [] [])
    (snoc : ∀ ys v n, textName? v = some n → TextNamed ys → TextNamed (collapse ys) →
      (names (collapse ys)).Nodup → P ys (collapse ys) →
      P (ys ++ [v]) (updateFirst (hasName n) (fun _ => v) v (collapse ys))) :
    TextNamed (collapse xs) ∧ (names (collapse xs)).Nodup ∧ P xs (collapse xs) := by
  induction xs using List.reverseRecOn with
  | nil => exact ⟨nofun, List.nodup_nil, nil⟩
  | append_singleton ys v ih =>
    obtain ⟨hys, hv⟩ := h.of_append
    obtain ⟨n, hn⟩ := hv v (List.mem_singleton_self v)
    obtain ⟨hnamed, hnodup, hP⟩ := ih hys
    rw [collapse_append_singleton, updateFirst_sameName hn hnamed]
    exact ⟨textNamed_updateFirst hn (fun _ _ => hn) hnamed,
      nodup_names_updateFirst hn (fun _ _ => hn) hnodup, snoc ys v n hn hys hnamed hnodup hP⟩

theorem textNamed_collapse (h : TextNamed xs) : TextNamed (collapse xs) :=
  (h.collapse_induction (P := fun _ _ => True) trivial fun _ _ _ _ _ _ _ _ => trivial).1

theorem nodup_names_collapse (h : TextNamed xs) : (names (collapse xs)).Nodup :=
  (h.collapse_induction (P := fun _ _ => True) trivial fun _ _ _ _ _ _ _ _ => trivial).2.1

/-- Of each name the last item stays. -/
theorem item?_collapse (h : TextNamed xs) (m : String) : item? m (collapse xs) = item? m xs := by
  refine (h.collapse_induction (P := fun ys zs => item? m zs = item? m ys) rfl ?_).2.2
  intro ys v n hn _ _ hnodup ih
  rw [item?_updateFirst hn (fun _ _ => hn) hnodup, item?_append_singleton hn, ih]
  cases item? n (collapse ys) <;> rfl

/-- Collapsing goes name by name. -/
theorem filter_collapse (h : TextNamed xs) (hq : ∀ x y, textName? x = textName? y → q x = q y) :
    (collapse xs).filter q = collapse (xs.filter q) := by
  refine (h.collapse_induction (P := fun ys zs => zs.filter q = collapse (ys.filter q)) rfl ?_).2.2
  intro ys v n hn hys _ _ ih
  rw [List.filter_append, List.filter_singleton]
  cases hqv : q v with
  | true =>
    have hnamed : TextNamed (collapse (ys.filter q)) :=
      textNamed_collapse fun x hx => hys x (List.mem_filter.1 hx).1
    rw [filter_updateFirst_of hn (fun _ _ => hn)
      (fun x hx => (hq x v (hx.trans hn.symm)).trans hqv), ih, cond_true, collapse_append_singleton, updateFirst_sameName hn hnamed]
  | false =>
    rw [filter_updateFirst_of_not hn (fun _ _ => hn)
      (fun x hx => (hq x v (hx.trans hn.symm)).trans hqv), ih, cond_false, List.append_nil]

theorem updateFirst_of_not_mem (h : n ∉ names xs) :
    updateFirst (hasName n) f new xs = xs ++ [new] := by
  induction xs with
  | nil => rfl
  | cons x xs ih =>
    have hx : ¬ hasName n x = true := fun hx =>
      h (mem_names_iff.2 ⟨x, List.mem_cons_self, hasName_iff.1 hx⟩)
    have hxs : n ∉ names xs := fun hxs => by
      obtain ⟨y, hy, hn⟩ := mem_names_iff.1 hxs
      exact h (mem_names_iff.2 ⟨y, List.mem_cons_of_mem x hy, hn⟩)
    rw [updateFirst, if_neg hx, ih hxs, List.cons_append]

/-- Items are collapsed to themselves exactly if no name is repeated. -/
theorem collapse_eq_self_iff (h : TextNamed xs) : collapse xs = xs ↔ (names xs).Nodup := by
  constructor
  · intro heq
    rw [← heq]
    exact nodup_names_collapse h
  · refine (h.collapse_induction (P := fun ys zs => (names ys).Nodup → zs = ys) (fun _ => rfl)
      ?_).2.2
    intro ys v n hn _ _ _ ih hnodup
    rw [names_append, names_cons_of hn, List.nodup_append] at hnodup
    have hnew : n ∉ names (collapse ys) := by
      rw [ih hnodup.1]
      exact fun hmem => hnodup.2.2 n hmem n List.mem_cons_self rfl
    rw [updateFirst_of_not_mem hnew, ih hnodup.1]

/-! ## Laying values one after the other -/

/-- The values laid in their order over the current value, if there is one. -/
def layAll (vs : List Value) (current : Option Value) : Option Value :=
  vs.foldl (fun current v => some (overValue v current)) current

theorem layAll_cons (v : Value) (vs : List Value) (current : Option Value) :
    layAll (v :: vs) current = layAll vs (some (overValue v current)) := rfl

theorem overValue_none (v : Value) : overValue v none = v := by
  cases v <;> rfl

/-- The value at a key is that of the overlay, laid over the one below. -/
theorem findEntry_overEntries {o b : Entries} (h : (o.map Prod.fst).Nodup) (k : String) :
    Table.findEntry k (overEntries o b) =
      layAll (Table.findEntry k o).toList (Table.findEntry k b) := by
  induction o generalizing b with
  | nil => rfl
  | cons e o ih =>
    obtain ⟨j, v⟩ := e
    rw [List.map_cons, List.nodup_cons] at h
    rw [overEntries, ih h.2, Table.findEntry_setEntry, Table.findEntry]
    by_cases hk : j = k
    · subst hk
      rw [Table.findEntry_eq_none h.1, if_pos rfl, if_pos rfl]
      rfl
    · rw [if_neg hk, if_neg (Ne.symm hk)]

/-- An item keeps its name under an overlay of that name. -/
theorem textName?_overValue (hproper : v.isProper = true) (hv : textName? v = some n)
    (hx : textName? x = some n) : textName? (overValue v (some x)) = some n := by
  rw [textName?_eq_some_iff] at hv hx ⊢
  unfold itemName? at hv hx
  split at hv
  · split at hx
    · have hnodup := of_decide_eq_true hproper
      show Table.findEntry "name" (overEntries _ _) = some (.text n)
      rw [findEntry_overEntries hnodup]
      rw [Value.find?] at hv hx
      rw [hv, hx]
      rfl
    · cases hx
  · cases hv

section Items

variable (hproper : ∀ y ∈ ys, y.isProper = true) (hys : TextNamed ys) (hxs : TextNamed xs)
include hproper hys hxs

/-- What holds of items before and after each item that is laid over them, where `P` may speak of
the items that are still to come. -/
theorem overItems_induction {P : List Value → List Value → Prop} {Q : List Value → Prop}
    (start : P ys xs) (stop : ∀ xs, P [] xs → Q xs)
    (step : ∀ v r xs n, textName? v = some n → TextNamed xs →
      (∀ x, textName? x = some n → textName? (overValue v (some x)) = some n) → P (v :: r) xs →
      P r (updateFirst (hasName n) (fun x => overValue v (some x)) v xs)) :
    TextNamed (overItems ys xs) ∧ Q (overItems ys xs) := by
  induction ys generalizing xs with
  | nil => exact ⟨hxs, stop xs start⟩
  | cons v r ih =>
    obtain ⟨n, hn⟩ := hys v List.mem_cons_self
    have hf (x : Value) := textName?_overValue (x := x) (hproper v List.mem_cons_self) hn
    rw [overItems, updateFirst_sameName hn hxs]
    exact ih (fun y hy => hproper y (List.mem_cons_of_mem v hy))
      (fun y hy => hys y (List.mem_cons_of_mem v hy)) (textNamed_updateFirst hn hf hxs)
      (step v r xs n hn hxs hf start)

theorem textNamed_overItems : TextNamed (overItems ys xs) :=
  (overItems_induction hproper hys hxs (P := fun _ _ => True) (Q := fun _ => True) trivial
    (fun _ _ => trivial) fun _ _ _ _ _ _ _ _ => trivial).1

theorem nodup_names_overItems (h : (names xs).Nodup) : (names (overItems ys xs)).Nodup :=
  (overItems_induction hproper hys hxs (P := fun _ zs => (names zs).Nodup) h (fun _ h => h)
    fun _ _ _ _ hn _ hf h => nodup_names_updateFirst hn hf h).2

/-- Over the item of a name are laid the items of that name, one after the other. -/
theorem item?_overItems (h : (names xs).Nodup) (m : String) :
    item? m (overItems ys xs) = layAll (ys.filter (hasName m)) (item? m xs) := by
  refine ((overItems_induction hproper hys hxs
    (P := fun r zs => (names zs).Nodup ∧ layAll (r.filter (hasName m)) (item? m zs) =
      layAll (ys.filter (hasName m)) (item? m xs)) ⟨h, rfl⟩ (fun _ h => h.2) ?_).2)
  rintro v r zs n hn _ hf ⟨hnodup, heq⟩
  refine ⟨nodup_names_updateFirst hn hf hnodup, ?_⟩
  rw [← heq, item?_updateFirst hn hf hnodup]
  by_cases hm : m = n
  · subst hm
    rw [if_pos rfl, List.filter_cons_of_pos (hasName_iff.2 hn), layAll_cons]
    cases item? m zs with
    | none => rw [overValue_none]; rfl
    | some x => rfl
  · have hother : ¬ hasName m v = true := by
      rw [hasName_iff, hn, Option.some_inj]
      exact Ne.symm hm
    rw [if_neg hm, List.filter_cons_of_neg hother]

/-- Items whose names the overlay does not have are kept. -/
theorem filter_overItems (hq : ∀ x y, textName? x = textName? y → q x = q y)
    (hys' : ∀ y ∈ ys, q y = false) : (overItems ys xs).filter q = xs.filter q := by
  refine ((overItems_induction hproper hys hxs
    (P := fun r zs => (∀ y ∈ r, q y = false) ∧ zs.filter q = xs.filter q) ⟨hys', rfl⟩
    (fun _ h => h.2) ?_).2)
  rintro v r zs n hn _ hf ⟨hr, heq⟩
  refine ⟨fun y hy => hr y (List.mem_cons_of_mem v hy), ?_⟩
  rw [filter_updateFirst_of_not hn hf, heq]
  intro x hx
  rw [hq x v (hx.trans hn.symm), hr v List.mem_cons_self]

/-- The names below keep their places, and the new ones follow in the order of the overlay. -/
theorem names_overItems (h : (names ys).Nodup) :
    names (overItems ys xs) = names xs ++ (names ys).filter (· ∉ names xs) := by
  refine ((overItems_induction hproper hys hxs
    (P := fun r zs => (names r).Nodup ∧ names zs ++ (names r).filter (· ∉ names zs) =
      names xs ++ (names ys).filter (· ∉ names xs)) ⟨h, rfl⟩
    (fun zs h => (List.append_nil (names zs)).symm.trans h.2) ?_).2)
  rintro v r zs n hn _ hf ⟨hnodup, heq⟩
  rw [names_cons_of hn] at hnodup heq
  obtain ⟨hnr, hnodup⟩ := List.nodup_cons.1 hnodup
  refine ⟨hnodup, ?_⟩
  rw [← heq, names_updateFirst hn hf, List.filter_cons]
  by_cases hmem : n ∈ names zs
  · simp [hmem]
  · have hrest : (names r).filter (fun a => decide (a ∉ names zs ++ [n])) =
        (names r).filter (fun a => decide (a ∉ names zs)) := by
      refine List.filter_congr fun a ha => ?_
      have hne : a ≠ n := fun heq => hnr (heq ▸ ha)
      simp [hne]
    rw [if_neg hmem, if_pos (decide_eq_true hmem), hrest, List.append_assoc, List.singleton_append]

end Items

end FlinkCluster.Overlay
