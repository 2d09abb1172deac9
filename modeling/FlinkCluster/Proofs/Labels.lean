import FlinkCluster.Cluster
import FlinkCluster.Proofs.Pieces

/-!
# Labels and selectors

Labels are tables, and a selector selects what carries all of its labels.

* `Table.Within`: one table's entries are entries of another. `Cluster.carries` decides it for the
  labels of an object (`Cluster.carries_iff`).
* `Naming.selectors_within_iff`, `Naming.commonLabels_within_iff`: the labels of a role, set on top
  of any others, are within those of the same cluster and role alone, and the common labels within
  those of the same cluster.
* `Naming.selectedLabels_labelSelector`: labels without separators are read back from the text of
  their selector, and so are all labels of a cluster (`Naming.selectedLabels_of_sorted`).
  `Naming.get?_selectedLabels_of_last`: the last of them is read back in any case.
-/

set_option autoImplicit false

namespace FlinkCluster

open Kubernetes

/-! ## Tables -/

namespace Table

variable {α β : Type}

theorem findEntry_eq_none {κ : Type} [DecidableEq κ] {es : List (κ × α)} {k : κ}
    (h : k ∉ es.map Prod.fst) : findEntry k es = none := by
  induction es with
  | nil => rfl
  | cons e es ih =>
    obtain ⟨j, w⟩ := e
    rw [List.map_cons, List.mem_cons, not_or] at h
    rw [findEntry, if_neg (Ne.symm h.1), ih h.2]

theorem mem_iff_findEntry {κ : Type} [DecidableEq κ] {es : List (κ × α)}
    (hnodup : (es.map Prod.fst).Nodup) {k : κ} {v : α} :
    (k, v) ∈ es ↔ findEntry k es = some v := by
  induction es with
  | nil => simp [findEntry]
  | cons e es ih =>
    obtain ⟨j, w⟩ := e
    rw [List.map_cons, List.nodup_cons] at hnodup
    obtain ⟨hj, hnodup⟩ := hnodup
    rw [List.mem_cons, ih hnodup, findEntry]
    by_cases hk : j = k
    · subst hk
      simp [findEntry_eq_none hj, eq_comm]
    · simp [hk, Ne.symm hk]

theorem mem_entries_iff {t : Table α} {k : String} {v : α} :
    (k, v) ∈ t.entries ↔ t.get? k = some v :=
  mem_iff_findEntry t.nodup

theorem get?_foldl_set {es : List (String × α)} (hnodup : (es.map Prod.fst).Nodup) (t : Table α)
    (k : String) :
    (es.foldl (fun t e => t.set e.1 e.2) t).get? k = (findEntry k es).or (t.get? k) := by
  induction es generalizing t with
  | nil => rfl
  | cons e es ih =>
    obtain ⟨j, w⟩ := e
    rw [List.map_cons, List.nodup_cons] at hnodup
    obtain ⟨hj, hnodup⟩ := hnodup
    rw [List.foldl_cons, ih hnodup, get?_set, findEntry]
    by_cases hk : j = k
    · subst hk
      simp [findEntry_eq_none hj]
    · simp [hk, Ne.symm hk]

/-- The entries of the table on top win. -/
@[simp] theorem get?_union (t u : Table α) (k : String) :
    (t.union u).get? k = (u.get? k).or (t.get? k) :=
  get?_foldl_set u.nodup t k

theorem sorted_perm (t : Table α) : t.sorted.Perm t.entries := List.mergeSort_perm t.entries _

/-- Entries in the order of their keys need no sorting. -/
theorem sorted_of_ordered {t : Table α} (h : t.entries.Pairwise fun a b => a.1 ≤ b.1) :
    t.sorted = t.entries :=
  List.mergeSort_of_pairwise (h.imp decide_eq_true)

theorem keys_sorted_perm (t : Table α) : (t.sorted.map Prod.fst).Perm t.keys :=
  t.sorted_perm.map Prod.fst

theorem nodup_keys_sorted (t : Table α) : (t.sorted.map Prod.fst).Nodup :=
  t.keys_sorted_perm.nodup_iff.2 t.nodup

/-- The order of the entries does not matter to the view. -/
theorem get?_ofEntries_sorted (t : Table α) (k : String) :
    (ofEntries t.sorted).get? k = t.get? k := by
  rw [ofEntries, get?_foldl_set t.nodup_keys_sorted, get?_empty, Option.or_none]
  ext v
  rw [← mem_iff_findEntry t.nodup_keys_sorted, ← mem_entries_iff]
  exact t.sorted_perm.mem_iff

/-- Every entry of `t` is an entry of `u`. -/
def Within (t u : Table α) : Prop := ∀ e ∈ t.entries, u.get? e.1 = some e.2

instance [DecidableEq α] (t u : Table α) : Decidable (t.Within u) :=
  inferInstanceAs (Decidable (∀ e ∈ t.entries, u.get? e.1 = some e.2))

theorem within_iff {t u : Table α} : t.Within u ↔ ∀ k v, t.get? k = some v → u.get? k = some v := by
  constructor
  · intro h k v hk
    exact h (k, v) (mem_entries_iff.2 hk)
  · rintro h ⟨k, v⟩ he
    exact h k v (mem_entries_iff.1 he)

theorem map_within_iff {t : Table α} {f : α → β} {u : Table β} :
    (t.map f).Within u ↔ ∀ k v, t.get? k = some v → u.get? k = some (f v) := by
  rw [within_iff]
  constructor
  · intro h k v hk
    exact h k (f v) (by rw [get?_map, hk, Option.map_some])
  · intro h k w hk
    rw [get?_map, Option.map_eq_some_iff] at hk
    obtain ⟨v, hv, rfl⟩ := hk
    exact h k v hv

end Table

/-- An object carries labels when they are within its own. -/
theorem Cluster.carries_iff {labels : Table String} {r : Resource} :
    Cluster.carries labels r = true ↔
      (ofTexts labels).Within (r.metadata.labels.getD .empty) := by
  rw [Cluster.carries, List.all_eq_true, ofTexts, Table.map_within_iff]
  constructor
  · intro h k v hk
    exact beq_iff_eq.1 (h (k, v) (Table.mem_entries_iff.2 hk))
  · rintro h ⟨k, v⟩ he
    exact beq_iff_eq.2 (h k v (Table.mem_entries_iff.1 he))

/-- What an object carries depends on the view of the labels only. -/
theorem Cluster.carries_congr {labels labels' : Table String}
    (h : ∀ k, labels.get? k = labels'.get? k) (r : Resource) :
    Cluster.carries labels r = Cluster.carries labels' r := by
  rw [Bool.eq_iff_iff, carries_iff, carries_iff, ofTexts, ofTexts, Table.map_within_iff,
    Table.map_within_iff]
  simp only [h]

/-! ## The labels of a cluster -/

namespace Naming

variable {i j : String} {r s : Role}

theorem get?_commonLabels (id key : String) :
    (commonLabels id).get? key =
      if key = "app" then some id
      else if key = "type" then some "flink-standalone-kubernetes" else none := by
  simp [commonLabels, Table.ofEntries]

theorem get?_selectors (id : String) (role : Role) (key : String) :
    (selectors id role).get? key =
      if key = "component" then some (component role) else (commonLabels id).get? key := by
  simp [selectors]

theorem component_injective : Function.Injective component := by
  intro r s
  cases r <;> cases s <;> decide

/-- Whatever labels are below those of a role, the role's common labels are the cluster's. -/
theorem commonLabels_within_iff {labels : TextMap} :
    (ofTexts (commonLabels i)).Within (labels.union (ofTexts (selectors j s))) ↔ i = j := by
  rw [ofTexts, Table.map_within_iff]
  constructor
  · intro h
    have happ := h "app" i (by simp [get?_commonLabels])
    simp [ofTexts, get?_selectors, get?_commonLabels] at happ
    exact happ.symm
  · rintro rfl key v hkey
    have hcomponent : key ≠ "component" := by
      rintro rfl
      simp [get?_commonLabels] at hkey
    simp [ofTexts, get?_selectors, hcomponent, hkey]

/-- Whatever labels are below those of a role, the role's selectors select this role of this
cluster. -/
theorem selectors_within_iff {labels : TextMap} :
    (ofTexts (selectors i r)).Within (labels.union (ofTexts (selectors j s))) ↔ i = j ∧ r = s := by
  rw [ofTexts, Table.map_within_iff]
  constructor
  · intro h
    have happ := h "app" i (by simp [get?_selectors, get?_commonLabels])
    have hcomponent := h "component" (component r) (by simp [get?_selectors])
    simp [ofTexts, get?_selectors, get?_commonLabels] at happ hcomponent
    exact ⟨happ.symm, component_injective hcomponent.symm⟩
  · rintro ⟨rfl, rfl⟩ key v hkey
    simp [ofTexts, hkey]

theorem sorted_commonLabels (id : String) :
    (commonLabels id).sorted = [("app", id), ("type", "flink-standalone-kubernetes")] := by
  simp [Table.sorted, commonLabels, Table.ofEntries, Table.set, Table.empty, Table.setEntry,
    List.mergeSort, List.MergeSort.Internal.splitInTwo]

theorem sorted_selectors (id : String) (role : Role) :
    (selectors id role).sorted =
      [("app", id), ("component", component role), ("type", "flink-standalone-kubernetes")] := by
  simp [Table.sorted, selectors, commonLabels, Table.ofEntries, Table.set, Table.empty,
    Table.setEntry, List.mergeSort, List.MergeSort.Internal.splitInTwo]

theorem sorted_highAvailabilityLabels (id : String) :
    (highAvailabilityLabels id).sorted =
      [("app", id), ("configmap-type", "high-availability"),
        ("type", "flink-native-kubernetes")] := by
  simp [Table.sorted, highAvailabilityLabels, Table.ofEntries, Table.set, Table.empty,
    Table.setEntry, List.mergeSort, List.MergeSort.Internal.splitInTwo]

/-- The labels of high availability metadata are of another type than those of a cluster. -/
theorem not_highAvailabilityLabels_within :
    ¬ (ofTexts (highAvailabilityLabels i)).Within (ofTexts (commonLabels j)) := by
  rw [ofTexts, Table.map_within_iff]
  intro h
  have htype := h "type" "flink-native-kubernetes" (by
    simp [highAvailabilityLabels, Table.ofEntries])
  simp [ofTexts, get?_commonLabels] at htype

/-! ## The text of a selector -/

/-- A label whose term in a selector holds no further separator. -/
def IsTerm (key value : String) : Prop :=
  '=' ∉ key.toList ∧ ',' ∉ key.toList ∧ ',' ∉ value.toList

instance (key value : String) : Decidable (IsTerm key value) :=
  inferInstanceAs (Decidable (_ ∧ _ ∧ _))

theorem cut?_term {key value : String} (h : '=' ∉ key.toList) :
    Text.cut? '=' (key ++ "=" ++ value) = some (key, value) :=
  Text.cut?_eq_some_iff.2 ⟨rfl, h⟩

theorem split_term {key value : String} (h : IsTerm key value) :
    Text.split ',' (key ++ "=" ++ value) = [key ++ "=" ++ value] := by
  refine Text.split_of_not_mem ?_
  simp [h.2.1, h.2.2]

theorem selectedLabels_ok {selector : String} {asked : Table String}
    (h : selectedLabels selector = .ok asked) :
    asked = .ofEntries ((Text.split ',' selector).filterMap (Text.cut? '=')) := by
  unfold selectedLabels at h
  dsimp only at h
  split at h
  · cases h
  · exact (Except.ok.inj h).symm

/-- The terms of a selector, cut at the commas in them. -/
theorem split_labelSelector {t : Table String} (hne : t.sorted ≠ []) :
    Text.split ',' (labelSelector t) =
      t.sorted.flatMap fun e => Text.split ',' (e.1 ++ "=" ++ e.2) := by
  rw [labelSelector, show "," = String.singleton ',' from rfl, Text.split_join (by simpa using hne),
    List.flatMap_map]

/-- The terms of a selector of labels without separators are those of the labels. -/
theorem split_labelSelector_of_terms {t : Table String} (hne : t.sorted ≠ [])
    (hterms : ∀ e ∈ t.sorted, IsTerm e.1 e.2) :
    Text.split ',' (labelSelector t) = t.sorted.map fun e => e.1 ++ "=" ++ e.2 := by
  rw [split_labelSelector hne, List.flatMap_congr fun e he => split_term (hterms e he),
    List.map_eq_flatMap]

/-- **Labels without separators are read back** from the text of their selector. -/
theorem selectedLabels_labelSelector {t : Table String} (hne : t.sorted ≠ [])
    (hterms : ∀ e ∈ t.sorted, IsTerm e.1 e.2) :
    selectedLabels (labelSelector t) = .ok (.ofEntries t.sorted) := by
  have hsplit := split_labelSelector_of_terms hne hterms
  have hread : (Text.split ',' (labelSelector t)).findIdx?
      (fun term => (Text.cut? '=' term).isNone) = none := by
    rw [List.findIdx?_eq_none_iff, hsplit]
    intro term hterm
    obtain ⟨e, he, rfl⟩ := List.mem_map.1 hterm
    rw [cut?_term (hterms e he).1]
    rfl
  have hpairs : (Text.split ',' (labelSelector t)).filterMap (Text.cut? '=') = t.sorted := by
    rw [hsplit, List.filterMap_map]
    calc t.sorted.filterMap (Text.cut? '=' ∘ fun e => e.1 ++ "=" ++ e.2)
        = t.sorted.filterMap some := List.filterMap_congr fun e he => cut?_term (hterms e he).1
      _ = t.sorted := List.filterMap_some
  unfold selectedLabels
  simp only [hread, hpairs]

/-- A selector asks for the labels that it was made of, if they are those of an id without a comma
and others without separators. -/
theorem selectedLabels_of_sorted {t : Table String} {others : List (String × String)}
    (hsorted : t.sorted = ("app", i) :: others) (hi : ',' ∉ i.toList)
    (hothers : ∀ e ∈ others, IsTerm e.1 e.2) :
    ∃ labels, selectedLabels (labelSelector t) = .ok labels ∧
      ∀ key, labels.get? key = t.get? key := by
  have happ : '=' ∉ "app".toList ∧ ',' ∉ "app".toList := by decide
  refine ⟨_, selectedLabels_labelSelector ?_ ?_, Table.get?_ofEntries_sorted _⟩
  · simp [hsorted]
  · rw [hsorted]
    exact List.forall_mem_cons.2 ⟨⟨happ.1, happ.2, hi⟩, hothers⟩

theorem selectedLabels_commonLabels (h : ',' ∉ i.toList) :
    ∃ labels, selectedLabels (labelSelector (commonLabels i)) = .ok labels ∧
      ∀ key, labels.get? key = (commonLabels i).get? key :=
  selectedLabels_of_sorted (sorted_commonLabels i) h (by decide)

theorem selectedLabels_selectors (h : ',' ∉ i.toList) (role : Role) :
    ∃ labels, selectedLabels (labelSelector (selectors i role)) = .ok labels ∧
      ∀ key, labels.get? key = (selectors i role).get? key :=
  selectedLabels_of_sorted (sorted_selectors i role) h (by cases role <;> decide)

/-- The selector of high availability metadata asks for its labels, if the id of the cluster has no
comma. -/
theorem selectedLabels_highAvailability (h : ',' ∉ i.toList) :
    ∃ labels, selectedLabels (labelSelector (highAvailabilityLabels i)) = .ok labels ∧
      ∀ key, labels.get? key = (highAvailabilityLabels i).get? key :=
  selectedLabels_of_sorted (sorted_highAvailabilityLabels i) h (by decide)

/-- A selector asks for the last of its labels, whatever the others hold. -/
theorem get?_selectedLabels_of_last {t asked : Table String} {es : List (String × String)}
    {key value : String} (hsorted : t.sorted = es ++ [(key, value)]) (hterm : IsTerm key value)
    (h : selectedLabels (labelSelector t) = .ok asked) : asked.get? key = some value := by
  have hne : t.sorted ≠ [] := by simp [hsorted]
  rw [selectedLabels_ok h, split_labelSelector hne, hsorted, List.flatMap_append,
    List.flatMap_singleton, split_term hterm, List.filterMap_append, List.filterMap_cons,
    cut?_term hterm.1, List.filterMap_nil, Table.get?_ofEntries_append, if_pos rfl]

end Naming

end FlinkCluster
