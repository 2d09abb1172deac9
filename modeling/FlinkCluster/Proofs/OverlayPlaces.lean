import FlinkCluster.Proofs.NamedItems
import FlinkCluster.Proofs.StoredValues

/-!
# Overlays place by place

Where the values of an overlaid manifest come from. `Overlay.merges` says that manifests can be laid
over manifests, with a manifest as the result. One step into the result leads to the values of the
overlay at that step, laid over the one below (`child?_overValue`), unless the shapes differ, where
the overlay replaces what is below (`overValue_of_shape_ne`).

`Overlay.merge_places` follows places through manifests that repeat no name: leaves of the overlay
win, those below stay where no value of the overlay stands in their way, nothing else is at any
place, and joined lists hold the items below first and then the new ones.
-/

set_option autoImplicit false

namespace FlinkCluster

open Overlay

/-! ## Manifests -/

namespace Value

variable {items : List Value} {entries : Entries}

theorem isManifest_list_iff :
    (Value.list items).isManifest = true ↔
      (allNamed items = true → TextNamed items) ∧ ∀ v ∈ items, v.isManifest = true := by
  rw [isManifest, everywhere_list_iff]
  refine and_congr_left fun _ => ?_
  simp only [isProper, TextNamed, Bool.or_eq_true, Bool.not_eq_true', List.all_eq_true,
    Option.isSome_iff_exists]
  cases allNamed items <;> simp

theorem isManifest_map_iff :
    (Value.map entries).isManifest = true ↔
      (entries.map Prod.fst).Nodup ∧ ∀ e ∈ entries, e.2.isManifest = true := by
  rw [isManifest, everywhere_map_iff]
  refine and_congr_left fun _ => ?_
  simp only [isProper, decide_eq_true_eq]

end Value

namespace Overlay

variable {v x : Value}

theorem isProper_of_isManifest (h : v.isManifest = true) : v.isProper = true :=
  Value.holds_of_everywhere h

/-- A value can be laid over another: that does not fail, and makes a manifest of manifests. -/
def LaysValue (v : Value) (current : Option Value) : Prop :=
  v.isManifest = true → (∀ b, current = some b → b.isManifest = true) →
    (overValue v current).isManifest = true ∧ fault? v current = none

/-- Named items can be laid over others. -/
def LaysItems (ys xs : List Value) : Prop :=
  TextNamed ys → TextNamed xs → (∀ y ∈ ys, y.isManifest = true) → (∀ x ∈ xs, x.isManifest = true) →
    (∀ x ∈ overItems ys xs, x.isManifest = true) ∧ faultInItems? ys xs = none

/-- Entries can be laid over others. -/
def LaysEntries (o b : Entries) : Prop :=
  (∀ e ∈ o, e.2.isManifest = true) → (b.map Prod.fst).Nodup → (∀ e ∈ b, e.2.isManifest = true) →
    (((overEntries o b).map Prod.fst).Nodup ∧ ∀ e ∈ overEntries o b, e.2.isManifest = true) ∧
      faultInEntries? o b = none

theorem unusableName?_of_textName? {n : String} (h : textName? v = some n) :
    unusableName? v = none := by
  rw [unusableName?, textName?_eq_some_iff.1 h]

theorem mem_of_mem_collapse {xs : List Value} {x : Value} (h : x ∈ collapse xs) : x ∈ xs := by
  induction xs using List.reverseRecOn with
  | nil => exact h
  | append_singleton ys v ih =>
    rw [collapse_append_singleton] at h
    rw [List.mem_append, List.mem_singleton]
    obtain h | h | ⟨-, -, -, h⟩ := mem_of_mem_updateFirst h
    · exact .inr h
    · exact .inl (ih h)
    · exact .inr h

theorem lays : (∀ v current, LaysValue v current) ∧ (∀ ys xs, LaysItems ys xs) ∧
    ∀ o b, LaysEntries o b := by
  refine overValue.mutual_induct LaysValue LaysItems LaysEntries ?_ ?_ ?_ ?_ ?_ ?_ ?_ ?_
  -- maps
  · intro o b ih hv hb
    obtain ⟨-, hov⟩ := Value.isManifest_map_iff.1 hv
    obtain ⟨hbn, hbv⟩ := Value.isManifest_map_iff.1 (hb _ rfl)
    obtain ⟨hmanifest, hfault⟩ := ih hov hbn hbv
    exact ⟨Value.isManifest_map_iff.2 hmanifest, hfault⟩
  -- lists of named items
  · intro o b hnamed ih hv hb
    obtain ⟨hbn, hon⟩ := Bool.and_eq_true_iff.1 hnamed
    obtain ⟨hot, hov⟩ := Value.isManifest_list_iff.1 hv
    obtain ⟨hbt, hbv⟩ := Value.isManifest_list_iff.1 (hb _ rfl)
    have hcollapse := textNamed_collapse (hbt hbn)
    obtain ⟨hmanifest, hfault⟩ := ih (hot hon) hcollapse hov
      fun x hx => hbv x (mem_of_mem_collapse hx)
    have husable : b.findSome? unusableName? = none := by
      rw [List.findSome?_eq_none_iff]
      intro x hx
      obtain ⟨n, hn⟩ := hbt hbn x hx
      exact unusableName?_of_textName? hn
    rw [overValue, fault?, if_pos hnamed, if_pos hnamed, husable, Option.none_or]
    exact ⟨Value.isManifest_list_iff.2 ⟨fun _ => textNamed_overItems
      (fun y hy => isProper_of_isManifest (hov y hy)) (hot hon) hcollapse, hmanifest⟩, hfault⟩
  -- other lists
  · intro o b hnamed hv _
    rw [overValue, fault?, if_neg hnamed, if_neg hnamed]
    exact ⟨hv, rfl⟩
  -- values of different kinds
  · intro v current hmap hlist hv _
    rw [overValue.eq_3 v current hmap hlist, fault?.eq_3 v current hmap hlist]
    exact ⟨hv, rfl⟩
  -- no item
  · intro xs _ _ _ hxs
    exact ⟨hxs, rfl⟩
  -- an item and the rest
  · intro v r xs ihv ihr hys hxn hyv hxs
    obtain ⟨n, hn⟩ := hys v List.mem_cons_self
    have hv := hyv v List.mem_cons_self
    have hover (x : Value) (hx : x ∈ xs) := ihv x hv fun b hb => Option.some.inj hb ▸ hxs x hx
    have hxs' : ∀ x ∈ updateFirst (sameName v) (fun x => overValue v (some x)) v xs,
        x.isManifest = true := by
      intro x hx
      obtain rfl | hx | ⟨y, hy, -, rfl⟩ := mem_of_mem_updateFirst hx
      · exact hv
      · exact hxs x hx
      · exact (hover y hy).1
    have hxn' : TextNamed (updateFirst (sameName v) (fun x => overValue v (some x)) v xs) := by
      rw [updateFirst_sameName hn hxn]
      exact textNamed_updateFirst hn (fun x => textName?_overValue (isProper_of_isManifest hv) hn)
        hxn
    obtain ⟨hmanifest, hfault⟩ := ihr (fun y hy => hys y (List.mem_cons_of_mem v hy)) hxn'
      (fun y hy => hyv y (List.mem_cons_of_mem v hy)) hxs'
    have hfound : fault? v (xs.find? (sameName v)) = none := by
      cases hfind : xs.find? (sameName v) with
      | none => cases v <;> rfl
      | some x => exact (hover x (List.mem_of_find?_eq_some hfind)).2
    rw [overItems, faultInItems?, unusableName?_of_textName? hn, hfound, hfault]
    exact ⟨hmanifest, rfl⟩
  -- no entry
  · intro b _ hbn hbv
    exact ⟨⟨hbn, hbv⟩, rfl⟩
  -- an entry and the rest
  · intro k v r b ihv ihr hov hbn hbv
    have hcurrent : ∀ w, Table.findEntry k b = some w → w.isManifest = true := fun w hw =>
      hbv _ (Value.mem_of_findEntry hw)
    obtain ⟨hmanifest, hfault⟩ := ihv (hov _ List.mem_cons_self) hcurrent
    rw [overEntries, faultInEntries?, hfault, Option.none_or]
    refine ihr (fun e he => hov e (List.mem_cons_of_mem _ he)) (Table.nodup_setEntry hbn) ?_
    intro e he
    obtain rfl | he := Table.mem_setEntry he
    · exact hmanifest
    · exact hbv e he

/-- Manifests can be laid over manifests. -/
theorem merges {b o : Entries} (hb : (Value.map b).isManifest = true)
    (ho : (Value.map o).isManifest = true) :
    mergeNamed (some b) (some o) = .ok (some (overEntries o b)) := by
  obtain ⟨-, hov⟩ := Value.isManifest_map_iff.1 ho
  obtain ⟨hbn, hbv⟩ := Value.isManifest_map_iff.1 hb
  rw [mergeNamed, (lays.2.2 o b hov hbn hbv).2]
  rfl

theorem isManifest_overEntries {b o : Entries} (hb : (Value.map b).isManifest = true)
    (ho : (Value.map o).isManifest = true) : (Value.map (overEntries o b)).isManifest = true := by
  obtain ⟨-, hov⟩ := Value.isManifest_map_iff.1 ho
  obtain ⟨hbn, hbv⟩ := Value.isManifest_map_iff.1 hb
  exact Value.isManifest_map_iff.2 (lays.2.2 o b hov hbn hbv).1

/-! ## One step -/

variable {b : Value} {t : Turn}

theorem isManifest_child {c : Value} (hv : v.isManifest = true) (hc : v.child? t = some c) :
    c.isManifest = true :=
  Value.everywhere_of_mem_children hv (Value.mem_children_of_child? hc)

theorem shape_of_child {c : Value} (hc : v.child? t = some c) : v.shape = t.shape :=
  Value.shape_of_mem_children (Value.mem_children_of_child? hc)

theorem shape_list {items : List Value} (h : allNamed items = true) :
    (Value.list items).shape = .named := if_pos h

theorem allNamed_of_shape {items : List Value} (h : (Value.list items).shape = .named) :
    allNamed items = true := by
  rw [Value.shape] at h
  split at h
  · assumption
  · cases h

theorem exists_of_shape_map (h : v.shape = .map) : ∃ entries, v = .map entries := by
  cases v with
  | map entries => exact ⟨entries, rfl⟩
  | list items => rw [Value.shape] at h; split at h <;> cases h
  | _ => cases h

theorem exists_of_shape_named (h : v.shape = .named) :
    ∃ items, v = .list items ∧ allNamed items = true := by
  cases v with
  | list items => exact ⟨items, rfl, allNamed_of_shape h⟩
  | _ => cases h

/-- A leaf, and a value of another shape than the one below, replaces what is below. -/
theorem overValue_of_shape (h : v.shape = .leaf ∨ v.shape ≠ b.shape) :
    overValue v (some b) = v := by
  cases v with
  | map o =>
    cases b with
    | map e =>
      refine absurd rfl (h.resolve_left ?_)
      intro hleaf
      cases hleaf
    | _ => rfl
  | list ys =>
    cases b with
    | list xs =>
      rw [overValue, if_neg]
      intro hnamed
      obtain ⟨hxs, hys⟩ := Bool.and_eq_true_iff.1 hnamed
      rw [shape_list hys, shape_list hxs] at h
      rcases h with hleaf | hne
      · cases hleaf
      · exact hne rfl
    | _ => rfl
  | _ => rfl

theorem child?_key (entries : Entries) (k : String) :
    (Value.map entries).child? (.key k) = Table.findEntry k entries := by
  rw [Value.child?, Value.children]
  cases Table.findEntry k entries <;> rfl

theorem children_item {items : List Value} (h : allNamed items = true) (n : String) :
    (Value.list items).children (.item n) = items.filter (hasName n) := by
  rw [Value.children, if_pos h]

theorem child?_item {items : List Value} (h : allNamed items = true) (n : String) :
    (Value.list items).child? (.item n) = item? n items := by
  rw [Value.child?, children_item h, item?]

theorem overValue_list {xs ys : List Value} (hxs : allNamed xs = true) (hys : allNamed ys = true) :
    overValue (.list ys) (some (.list xs)) = .list (overItems ys (collapse xs)) := by
  rw [overValue, if_pos (Bool.and_eq_true_iff.2 ⟨hxs, hys⟩)]

/-- Joined lists of named items. -/
structure Joined (ys xs : List Value) : Prop where
  textNamed : TextNamed (overItems ys (collapse xs))
  nodup : (names (overItems ys (collapse xs))).Nodup
  item? : ∀ n, item? n (overItems ys (collapse xs)) = layAll (ys.filter (hasName n)) (item? n xs)
  names : (names ys).Nodup → names (overItems ys (collapse xs)) =
    names (collapse xs) ++ (names ys).filter (· ∉ names (collapse xs))

theorem joined {xs ys : List Value} (hy : (Value.list ys).isManifest = true)
    (hx : (Value.list xs).isManifest = true) (hyn : allNamed ys = true)
    (hxn : allNamed xs = true) : Joined ys xs := by
  obtain ⟨hyt, hym⟩ := Value.isManifest_list_iff.1 hy
  obtain ⟨hxt, -⟩ := Value.isManifest_list_iff.1 hx
  have hproper : ∀ y ∈ ys, y.isProper = true := fun y hmem => isProper_of_isManifest (hym y hmem)
  have hcollapse := textNamed_collapse (hxt hxn)
  have hnodup := nodup_names_collapse (hxt hxn)
  refine ⟨textNamed_overItems hproper (hyt hyn) hcollapse,
    nodup_names_overItems hproper (hyt hyn) hcollapse hnodup, fun n => ?_,
    names_overItems hproper (hyt hyn) hcollapse⟩
  rw [item?_overItems hproper (hyt hyn) hcollapse hnodup, item?_collapse (hxt hxn)]

/-- A step into a merge leads to the values of the overlay, laid over the value below. -/
theorem child?_overValue (hv : v.isManifest = true) (hb : b.isManifest = true)
    (hshape : v.shape = b.shape) (t : Turn) :
    (overValue v (some b)).child? t = layAll (v.children t) (b.child? t) := by
  cases hv' : v.shape with
  | map =>
    obtain ⟨o, rfl⟩ := exists_of_shape_map hv'
    obtain ⟨e, rfl⟩ := exists_of_shape_map (hshape ▸ hv')
    cases t with
    | key k =>
      rw [overValue_map_map, child?_key, child?_key,
        findEntry_overEntries (Value.isManifest_map_iff.1 hv).1]
      rfl
    | item n => rfl
  | named =>
    obtain ⟨ys, rfl, hys⟩ := exists_of_shape_named hv'
    obtain ⟨xs, rfl, hxs⟩ := exists_of_shape_named (hshape ▸ hv')
    have hjoined := joined hv hb hys hxs
    cases t with
    | key k => rw [overValue_list hxs hys]; rfl
    | item n =>
      rw [overValue_list hxs hys, child?_item hjoined.textNamed.allNamed, child?_item hxs,
        children_item hys, hjoined.item? n]
  | leaf =>
    have hv0 : v.children t = [] := Value.children_eq_nil (hv' ▸ t.shape_ne_leaf.symm)
    have hb0 : b.children t = [] := Value.children_eq_nil (hshape ▸ hv' ▸ t.shape_ne_leaf.symm)
    rw [overValue_of_shape (.inl hv'), Value.child?, Value.child?, hv0, hb0]
    rfl

/-- A merge has the shape of the overlay. -/
theorem shape_overValue (hv : v.isManifest = true) (hb : b.isManifest = true) :
    (overValue v (some b)).shape = v.shape := by
  by_cases h : v.shape = b.shape
  · cases hv' : v.shape with
    | map =>
      obtain ⟨o, rfl⟩ := exists_of_shape_map hv'
      obtain ⟨e, rfl⟩ := exists_of_shape_map (h ▸ hv')
      rfl
    | named =>
      obtain ⟨ys, rfl, hys⟩ := exists_of_shape_named hv'
      obtain ⟨xs, rfl, hxs⟩ := exists_of_shape_named (h ▸ hv')
      rw [overValue_list hxs hys, shape_list (joined hv hb hys hxs).textNamed.allNamed]
    | leaf => rw [overValue_of_shape (.inl hv'), hv']
  · rw [overValue_of_shape (.inr h)]

/-! ## Places in manifests without repeated names -/

theorem nodup_names_of_isUnrepeated {items : List Value}
    (h : (Value.list items).isUnrepeated = true) (hnamed : allNamed items = true) :
    (names items).Nodup := by
  rw [Value.isUnrepeated, hnamed, Bool.not_true, Bool.false_or] at h
  exact of_decide_eq_true h

theorem collapse_of_isUnrepeated {items : List Value} (hitems : (Value.list items).isManifest = true)
    (h : (Value.list items).isUnrepeated = true) (hnamed : allNamed items = true) :
    collapse items = items :=
  (collapse_eq_self_iff ((Value.isManifest_list_iff.1 hitems).1 hnamed)).2
    (nodup_names_of_isUnrepeated h hnamed)

/-- Where no name is repeated, a step leads to one value at most. -/
theorem children_of_isUnrepeated (h : v.isUnrepeated = true) (t : Turn) :
    v.children t = (v.child? t).toList := by
  by_cases hshape : v.shape = t.shape
  · cases t with
    | key k =>
      obtain ⟨o, rfl⟩ := exists_of_shape_map hshape
      rw [child?_key]
      rfl
    | item n =>
      obtain ⟨ys, rfl, hys⟩ := exists_of_shape_named hshape
      rw [children_item hys, child?_item hys,
        filter_hasName_of_nodup (nodup_names_of_isUnrepeated h hys)]
  · rw [Value.child?, Value.children_eq_nil hshape]
    rfl

/-- What the proofs below need of a value. -/
structure Plain (v : Value) : Prop where
  manifest : v.isManifest = true
  names : v.repeatsNoName = true

theorem Plain.isUnrepeated (h : Plain v) : v.isUnrepeated = true :=
  Value.holds_of_everywhere h.names

theorem Plain.child {c : Value} (h : Plain v) (hc : v.child? t = some c) : Plain c :=
  have hmem := Value.mem_children_of_child? hc
  ⟨Value.everywhere_of_mem_children h.manifest hmem, Value.everywhere_of_mem_children h.names hmem⟩

theorem Plain.at {p : List Turn} (h : Plain v) (hx : v.at? p = some x) : Plain x :=
  ⟨Value.everywhere_of_at? h.manifest hx, Value.everywhere_of_at? h.names hx⟩

theorem at?_cons_of {c : Value} {p : List Turn} (h : v.child? t = some c) :
    v.at? (t :: p) = c.at? p := by
  rw [Value.at?, h, Option.bind_some]

theorem at?_cons_of_none {p : List Turn} (h : v.child? t = none) : v.at? (t :: p) = none := by
  rw [Value.at?, h, Option.bind_none]

/-- One step into a merge, by the steps into both manifests. -/
theorem child?_of_plain (hv : Plain v) (hb : Plain b) (hshape : v.shape = b.shape) (t : Turn) :
    (overValue v (some b)).child? t = layAll (v.child? t).toList (b.child? t) := by
  rw [child?_overValue hv.manifest hb.manifest hshape, children_of_isUnrepeated hv.isUnrepeated]

variable {p : List Turn} {y : Value}

/-- The values of the overlay are at their places, laid over those below. -/
theorem at?_overValue (hv : Plain v) (hb : Plain b) (hx : v.at? p = some x) :
    (overValue v (some b)).at? p = some (overValue x (b.at? p)) := by
  induction p generalizing v b with
  | nil => rw [← Option.some.inj hx]; rfl
  | cons t p ih =>
    obtain ⟨w, hw, hx⟩ := Option.bind_eq_some_iff.1 hx
    by_cases hshape : v.shape = b.shape
    · have hstep := child?_of_plain hv hb hshape t
      rw [hw] at hstep
      cases hc : b.child? t with
      | none =>
        rw [hc] at hstep
        rw [at?_cons_of hstep, at?_cons_of_none hc, overValue_none, overValue_none, hx]
      | some c =>
        rw [hc] at hstep
        rw [at?_cons_of hstep, at?_cons_of hc]
        exact ih (hv.child hw) (hb.child hc) hx
    · have hc : b.child? t = none := by
        rw [Option.eq_none_iff_forall_ne_some]
        intro c hc
        exact hshape ((shape_of_child hw).trans (shape_of_child hc).symm)
      rw [overValue_of_shape (.inr hshape), at?_cons_of hw, at?_cons_of_none hc, overValue_none, hx]

/-- A leaf below stays if nothing of the overlay stands in its way. -/
theorem at?_below (hv : Plain v) (hb : Plain b) (hy : b.at? p = some y) (hleaf : y.shape = .leaf)
    (hfree : ∀ q, q <+: p → ∀ x, v.at? q = some x →
      x.shape ≠ .leaf ∧ ∀ z, b.at? q = some z → x.shape = z.shape) :
    (overValue v (some b)).at? p = some y := by
  induction p generalizing v b with
  | nil =>
    obtain ⟨hne, hsame⟩ := hfree [] (List.prefix_refl []) v rfl
    exact absurd ((hsame y hy).trans hleaf) hne
  | cons t p ih =>
    have hshape : v.shape = b.shape := (hfree [] List.nil_prefix v rfl).2 b rfl
    obtain ⟨c, hc, hy⟩ := Option.bind_eq_some_iff.1 hy
    have hstep := child?_of_plain hv hb hshape t
    rw [hc] at hstep
    cases hw : v.child? t with
    | none =>
      rw [hw] at hstep
      rw [at?_cons_of hstep, hy]
    | some w =>
      rw [hw] at hstep
      rw [at?_cons_of hstep]
      refine ih (hv.child hw) (hb.child hc) hy fun q hq x hx => ?_
      have hcons : t :: q <+: t :: p := List.cons_prefix_cons.2 ⟨rfl, hq⟩
      obtain ⟨hne, hsame⟩ := hfree (t :: q) hcons x (by rw [at?_cons_of hw, hx])
      exact ⟨hne, fun z hz => hsame z (by rw [at?_cons_of hc, hz])⟩

/-- Every place of a merge is one of the manifests. -/
theorem at?_or (hv : Plain v) (hb : Plain b) (hx : (overValue v (some b)).at? p = some x) :
    (v.at? p).isSome = true ∨ (b.at? p).isSome = true := by
  induction p generalizing v b with
  | nil => exact .inl rfl
  | cons t p ih =>
    by_cases hshape : v.shape = b.shape
    · obtain ⟨d, hd, hx⟩ := Option.bind_eq_some_iff.1 hx
      rw [child?_of_plain hv hb hshape] at hd
      cases hw : v.child? t with
      | none =>
        rw [hw] at hd
        exact .inr (by rw [at?_cons_of hd, hx]; rfl)
      | some w =>
        rw [hw] at hd
        obtain rfl := Option.some.inj hd
        cases hc : b.child? t with
        | none =>
          rw [hc, overValue_none] at hx
          exact .inl (by rw [at?_cons_of hw, hx]; rfl)
        | some c =>
          rw [hc] at hx
          rw [at?_cons_of hw, at?_cons_of hc]
          exact ih (hv.child hw) (hb.child hc) hx
    · rw [overValue_of_shape (.inr hshape)] at hx
      exact .inl (by rw [hx]; rfl)

theorem names_joined {xs ys : List Value} (hy : Plain (.list ys)) (hx : Plain (.list xs))
    (hyn : allNamed ys = true) (hxn : allNamed xs = true) :
    ∃ zs, overValue (.list ys) (some (.list xs)) = .list zs ∧ TextNamed zs ∧
      names zs = names xs ++ (names ys).filter (· ∉ names xs) ∧ (names zs).Nodup := by
  have hjoined := joined hy.manifest hx.manifest hyn hxn
  have hnames := hjoined.names (nodup_names_of_isUnrepeated hy.isUnrepeated hyn)
  rw [collapse_of_isUnrepeated hx.manifest hx.isUnrepeated hxn] at hnames
  refine ⟨_, overValue_list hxn hyn, hjoined.textNamed, ?_, hjoined.nodup⟩
  rw [collapse_of_isUnrepeated hx.manifest hx.isUnrepeated hxn, hnames]

/-! ## Merges -/

/-- What a merge of two manifests holds at every place. -/
structure MergesPlaces (b o m : Value) : Prop where
  /-- It is a manifest itself. -/
  manifest : m.isManifest = true
  /-- The leaves of the overlay are at their places. -/
  leaf_above : ∀ p x, o.at? p = some x → x.shape = .leaf → m.at? p = some x
  /-- A leaf below stays, unless at its place or on the way there the overlay has a leaf or a value
  of another shape. -/
  leaf_below : ∀ p y, b.at? p = some y → y.shape = .leaf →
    (∀ q, q <+: p → ∀ x, o.at? q = some x →
      x.shape ≠ .leaf ∧ ∀ z, b.at? q = some z → x.shape = z.shape) →
    m.at? p = some y
  /-- Where the overlay has a map or a list of named items, there is one; likewise for leaves. -/
  shape_above : ∀ p x, o.at? p = some x → ∃ z, m.at? p = some z ∧ z.shape = x.shape
  /-- There are no other places. -/
  place : ∀ p, (m.at? p).isSome = true → (b.at? p).isSome = true ∨ (o.at? p).isSome = true
  /-- Joined lists have the items below, in their order, and then the new ones, in theirs, each with
  a text as its name. -/
  items : ∀ p xs ys, b.at? p = some (.list xs) → o.at? p = some (.list ys) →
    allNamed xs = true → allNamed ys = true →
    ∃ zs, m.at? p = some (.list zs) ∧ TextNamed zs ∧
      names zs = names xs ++ (names ys).filter (· ∉ names xs) ∧ (names zs).Nodup

/-- **Merging goes place by place.** -/
theorem merge_places {b o : Entries} (hb : (Value.map b).isManifest = true)
    (ho : (Value.map o).isManifest = true) (hbn : (Value.map b).repeatsNoName = true)
    (hon : (Value.map o).repeatsNoName = true) :
    ∃ m, mergeNamed (some b) (some o) = .ok (some m) ∧ MergesPlaces (.map b) (.map o) (.map m) := by
  have hbp : Plain (.map b) := ⟨hb, hbn⟩
  have hop : Plain (.map o) := ⟨ho, hon⟩
  have habove {p : List Turn} {x : Value} (hx : (Value.map o).at? p = some x) :
      (Value.map (overEntries o b)).at? p = some (overValue x ((Value.map b).at? p)) :=
    at?_overValue hop hbp hx
  refine ⟨overEntries o b, merges hb ho, isManifest_overEntries hb ho, ?_, ?_, ?_, ?_, ?_⟩
  · intro p x hx hleaf
    rw [habove hx]
    cases (Value.map b).at? p with
    | none => rw [overValue_none]
    | some y => rw [overValue_of_shape (.inl hleaf)]
  · intro p y hy hleaf hfree
    exact at?_below hop hbp hy hleaf hfree
  · intro p x hx
    refine ⟨_, habove hx, ?_⟩
    cases hy : (Value.map b).at? p with
    | none => rw [overValue_none]
    | some y => exact shape_overValue (hop.at hx).manifest (hbp.at hy).manifest
  · intro p hp
    obtain ⟨x, hx⟩ := Option.isSome_iff_exists.1 hp
    exact (at?_or hop hbp hx).symm
  · intro p xs ys hxs hys hxn hyn
    obtain ⟨zs, hzs, hnames⟩ := names_joined (hop.at hys) (hbp.at hxs) hyn hxn
    exact ⟨zs, by rw [habove hys, hxs, hzs], hnames⟩

/-- A manifest of a pod with containers. -/
def podWith (containers : List Value) : Entries :=
  [("spec", .map [("containers", .list containers)])]

/-- A container that runs an image. -/
def runs (container image : String) : Value :=
  .map [("name", .text container), ("image", .text image)]

/-- A pod whose second container gets another image, and which gets a third container. -/
theorem merge_places_containers :
    ∃ m zs, mergeNamed (some (podWith [runs "main" "flink:1", runs "log" "log:1"]))
        (some (podWith [runs "new" "new:1", runs "log" "log:2"])) = .ok (some m) ∧
      (Value.map m).at? [.key "spec", .key "containers", .item "log", .key "image"] =
        some (.text "log:2") ∧
      (Value.map m).at? [.key "spec", .key "containers"] = some (.list zs) ∧
      names zs = ["main", "log", "new"] := by
  obtain ⟨m, hm, hplaces⟩ := merge_places
    (b := podWith [runs "main" "flink:1", runs "log" "log:1"])
    (o := podWith [runs "new" "new:1", runs "log" "log:2"])
    (by decide +kernel) (by decide +kernel) (by decide +kernel) (by decide +kernel)
  have himage := hplaces.leaf_above [.key "spec", .key "containers", .item "log", .key "image"]
    (.text "log:2") (by decide +kernel) rfl
  obtain ⟨zs, hzs, -, hnames, -⟩ := hplaces.items [.key "spec", .key "containers"]
    [runs "main" "flink:1", runs "log" "log:1"] [runs "new" "new:1", runs "log" "log:2"]
    (by decide +kernel) (by decide +kernel) (by decide +kernel) (by decide +kernel)
  exact ⟨m, zs, hm, himage, hzs, hnames.trans (by decide +kernel)⟩

end Overlay

end FlinkCluster
