import FlinkCluster.Proofs.OverlayPlaces

/-!
# Laws of overlays

Manifests are laid over one another like ordered maps are united: nothing at all is neutral on
either side, an overlay that is laid a second time changes nothing, and of three layers the lower
two or the upper two may be merged first. `Overlay.merge_laws` has these laws, as equations of
manifests with the order of their keys and items.

A value with parts is known by the labels of its parts, in their order, and by the part at each step
(`Value.eq_of_children`). So both sides of a law are compared by their labels, which are joined
(`labels_overValue`), and part by part, where the law is that of the parts (`overValue_again`,
`overValue_assoc`).
-/

set_option autoImplicit false

namespace FlinkCluster

open Overlay

/-! ## Lists with keys -/

/-- Lists with the same distinct keys are equal if one holds the items of the other. -/
theorem eq_of_nodup_keys {α κ : Type} {f : α → κ} {xs ys : List α}
    (hkeys : xs.map f = ys.map f) (hnodup : (xs.map f).Nodup) (hsub : xs ⊆ ys) :
    xs = ys := by
  induction xs generalizing ys with
  | nil => exact (List.map_eq_nil_iff.1 hkeys.symm).symm
  | cons x xs ih =>
    cases ys with
    | nil => cases hkeys
    | cons y ys =>
      obtain ⟨hkey, hrest⟩ := List.cons.inj hkeys
      obtain ⟨hnew, hnodup⟩ := List.nodup_cons.1 hnodup
      have hxy : x = y := by
        refine (List.mem_cons.1 (hsub List.mem_cons_self)).resolve_right fun hx => hnew ?_
        exact hrest ▸ List.mem_map_of_mem hx
      subst hxy
      refine congrArg (x :: ·) (ih hrest hnodup fun z hz => ?_)
      refine (List.mem_cons.1 (hsub (List.mem_cons_of_mem x hz))).resolve_left ?_
      rintro rfl
      exact hnew (List.mem_map_of_mem hz)

/-- Labels, and behind them those of others that are new. -/
def joinLabels (below above : List String) : List String := below ++ above.filter (· ∉ below)

section Labels

variable {as bs cs : List String}

theorem mem_joinLabels {l : String} : l ∈ joinLabels as bs ↔ l ∈ as ∨ l ∈ bs := by
  rw [joinLabels, List.mem_append, List.mem_filter, decide_eq_true_eq]
  constructor
  · rintro (h | ⟨h, -⟩)
    · exact .inl h
    · exact .inr h
  · intro h
    by_cases ha : l ∈ as
    · exact .inl ha
    · exact .inr ⟨h.resolve_left ha, ha⟩

theorem joinLabels_of_subset (h : bs ⊆ as) : joinLabels as bs = as := by
  have hnone : bs.filter (fun l => decide (l ∉ as)) = [] :=
    List.filter_eq_nil_iff.2 fun l hl => by simpa using h hl
  rw [joinLabels, hnone, List.append_nil]

theorem joinLabels_assoc :
    joinLabels (joinLabels as bs) cs = joinLabels as (joinLabels bs cs) := by
  have hnew : cs.filter (fun l => decide (l ∉ joinLabels as bs)) =
      (cs.filter (fun l => decide (l ∉ bs))).filter (fun l => decide (l ∉ as)) := by
    rw [List.filter_filter]
    refine List.filter_congr fun l _ => ?_
    simp only [mem_joinLabels, not_or, Bool.decide_and]
  rw [joinLabels, hnew, joinLabels, joinLabels, joinLabels, List.filter_append,
    List.append_assoc]

end Labels

theorem Table.keys_setEntry {α : Type} {k : String} {v : α} {es : List (String × α)} :
    (setEntry k v es).map Prod.fst =
      if k ∈ es.map Prod.fst then es.map Prod.fst else es.map Prod.fst ++ [k] := by
  by_cases hk : k ∈ es.map Prod.fst
  · rw [if_pos hk]
    induction es with
    | nil => cases hk
    | cons e es ih =>
      obtain ⟨j, w⟩ := e
      rw [setEntry]
      split
      · rfl
      · rename_i hj
        rw [List.map_cons, List.map_cons, ih ((List.mem_cons.1 hk).resolve_left (Ne.symm hj))]
  · rw [if_neg hk, setEntry_of_not_mem hk, List.map_append]
    rfl

/-- The keys below keep their places, and the new ones follow in the order of the overlay. -/
theorem Overlay.keys_overEntries {o b : Entries} (h : (o.map Prod.fst).Nodup) :
    (overEntries o b).map Prod.fst = joinLabels (b.map Prod.fst) (o.map Prod.fst) := by
  induction o generalizing b with
  | nil => simp [joinLabels]
  | cons e o ih =>
    obtain ⟨k, v⟩ := e
    obtain ⟨hk, hnodup⟩ := List.nodup_cons.1 h
    have hone : (Table.setEntry k (overValue v (Table.findEntry k b)) b).map Prod.fst =
        joinLabels (b.map Prod.fst) [k] := by
      rw [Table.keys_setEntry, joinLabels, List.filter_singleton]
      by_cases hb : k ∈ b.map Prod.fst <;> simp [hb]
    have hcons : joinLabels [k] (o.map Prod.fst) = k :: o.map Prod.fst := by
      have hnew : (o.map Prod.fst).filter (fun l => decide (l ∉ [k])) = o.map Prod.fst :=
        List.filter_eq_self.2 fun l hl => by
          simpa using fun heq : l = k => hk (heq ▸ hl)
      rw [joinLabels, hnew]
      rfl
    rw [overEntries, ih hnodup, hone, joinLabels_assoc, hcons, List.map_cons]

/-! ## Parts of values -/

theorem Overlay.TextNamed.map_textName? {xs : List Value} (h : TextNamed xs) :
    xs.map textName? = (names xs).map some := by
  induction xs with
  | nil => rfl
  | cons x xs ih =>
    obtain ⟨n, hn⟩ := h x List.mem_cons_self
    rw [names_cons_of hn, List.map_cons, List.map_cons, hn,
      ih fun y hy => h y (List.mem_cons_of_mem x hy)]

namespace Value

variable {v w : Value}

/-- The labels of the parts of a value, in their order: the keys of a map, and the names of a list
of named items. -/
def labels : Value → List String
  | .map entries => entries.map Prod.fst
  | .list items => names items
  | _ => []

theorem sizeOf_lt_of_mem_children {t : Turn} (h : w ∈ v.children t) : sizeOf w < sizeOf v := by
  unfold children at h
  split at h
  · have hmem := List.sizeOf_lt_of_mem (mem_of_findEntry (Option.mem_toList.1 h))
    simp only [Prod.mk.sizeOf_spec, map.sizeOf_spec] at hmem ⊢
    omega
  · split at h
    · have hmem := List.sizeOf_lt_of_mem (List.mem_filter.1 h).1
      rw [list.sizeOf_spec]
      omega
    · cases h
  · cases h

/-- What holds of a value if it holds of its parts holds of all values. -/
theorem child_induction {P : Value → Prop}
    (step : ∀ v, (∀ t w, v.child? t = some w → P w) → P v) (v : Value) : P v :=
  step v fun _ w hw =>
    have : sizeOf w < sizeOf v := sizeOf_lt_of_mem_children (mem_children_of_child? hw)
    child_induction step w
termination_by sizeOf v

theorem mem_children_iff (h : v.isUnrepeated = true) {t : Turn} :
    w ∈ v.children t ↔ v.child? t = some w := by
  rw [children_of_isUnrepeated h, Option.mem_toList]

/-- A value with parts is known by the labels of its parts and the part at each step. -/
theorem eq_of_children (hv : v.isManifest = true) (hw : w.isManifest = true)
    (hvu : v.isUnrepeated = true) (hwu : w.isUnrepeated = true) (hshape : w.shape = v.shape)
    (hparts : v.shape ≠ .leaf) (hlabels : v.labels = w.labels)
    (hchild : ∀ t, v.child? t = w.child? t) : v = w := by
  have hsub (t : Turn) {x : Value} (hx : x ∈ v.children t) : x ∈ w.children t := by
    rw [mem_children_iff hvu] at hx
    rw [mem_children_iff hwu, ← hchild, hx]
  cases hs : v.shape with
  | map =>
    obtain ⟨es, rfl⟩ := exists_of_shape_map hs
    obtain ⟨fs, rfl⟩ := exists_of_shape_map (hshape.trans hs)
    have hnodup := (isManifest_map_iff.1 hv).1
    refine congrArg Value.map (eq_of_nodup_keys hlabels hnodup fun e he => ?_)
    have hfound : e.2 ∈ (Value.map es).children (.key e.1) :=
      Option.mem_toList.2 ((Table.mem_iff_findEntry hnodup).1 he)
    exact mem_of_findEntry (Option.mem_toList.1 (hsub _ hfound))
  | named =>
    obtain ⟨xs, rfl, hxs⟩ := exists_of_shape_named hs
    obtain ⟨ys, rfl, hys⟩ := exists_of_shape_named (hshape.trans hs)
    have hxt := (isManifest_list_iff.1 hv).1 hxs
    have hyt := (isManifest_list_iff.1 hw).1 hys
    have hnames : names xs = names ys := hlabels
    have hnodup : (names xs).Nodup := nodup_names_of_isUnrepeated hvu hxs
    refine congrArg Value.list (eq_of_nodup_keys (f := textName?) ?_ ?_ fun x hx => ?_)
    · rw [hxt.map_textName?, hyt.map_textName?, hnames]
    · rw [hxt.map_textName?]
      exact hnodup.map fun _ _ => Option.some.inj
    · obtain ⟨n, hn⟩ := hxt x hx
      have hfound : x ∈ (Value.list xs).children (.item n) := by
        rw [children_item hxs]
        exact List.mem_filter.2 ⟨hx, hasName_iff.2 hn⟩
      have hthere := hsub _ hfound
      rw [children_item hys] at hthere
      exact (List.mem_filter.1 hthere).1
  | leaf => exact absurd hs hparts

end Value

/-! ## Parts of overlays -/

namespace Overlay

variable {v b c : Value} {t : Turn}

/-- The parts of an overlay are joined to those below. -/
theorem labels_overValue (hv : v.isManifest = true) (hb : b.isManifest = true)
    (hvu : v.isUnrepeated = true) (hbu : b.isUnrepeated = true) (hshape : v.shape = b.shape)
    (hparts : v.shape ≠ .leaf) :
    (overValue v (some b)).labels = joinLabels b.labels v.labels := by
  cases hs : v.shape with
  | map =>
    obtain ⟨o, rfl⟩ := exists_of_shape_map hs
    obtain ⟨e, rfl⟩ := exists_of_shape_map (hshape ▸ hs)
    exact keys_overEntries (Value.isManifest_map_iff.1 hv).1
  | named =>
    obtain ⟨ys, rfl, hys⟩ := exists_of_shape_named hs
    obtain ⟨xs, rfl, hxs⟩ := exists_of_shape_named (hshape ▸ hs)
    have hnames := (joined hv hb hys hxs).names (nodup_names_of_isUnrepeated hvu hys)
    rw [overValue_list hxs hys]
    rwa [collapse_of_isUnrepeated hb hbu hxs] at hnames ⊢
  | leaf => exact absurd hs hparts

theorem layAll_none (x? : Option Value) : layAll x?.toList none = x? := by
  cases x? with
  | none => rfl
  | some x => exact congrArg some (overValue_none x)

/-- A value with parts, laid over another or over nothing. -/
structure Overlaid (v m : Value) : Prop where
  manifest : m.isManifest = true
  unrepeated : m.isUnrepeated = true
  shape : m.shape = v.shape
  labels : v.labels ⊆ m.labels
  /-- At each step the part of `v` is laid over a manifest or over nothing. -/
  child : ∀ t, ∃ below : Option Value, (∀ x, below = some x → x.isManifest = true) ∧
    m.child? t = layAll (v.child? t).toList below

theorem Overlaid.refl (hv : v.isManifest = true) (hvu : v.isUnrepeated = true) : Overlaid v v where
  manifest := hv
  unrepeated := hvu
  shape := rfl
  labels := List.Subset.refl _
  child _ := ⟨none, nofun, (layAll_none _).symm⟩

/-- A joined value has the labels of the overlay and repeats no name, whatever is below it. -/
theorem overlaid_of_shape (hv : v.isManifest = true) (hb : b.isManifest = true)
    (hvu : v.isUnrepeated = true) (hshape : v.shape = b.shape) (hparts : v.shape ≠ .leaf) :
    Overlaid v (overValue v (some b)) := by
  have hmanifest := (lays.1 v (some b) hv fun _ h => Option.some.inj h ▸ hb).1
  have hchild (t : Turn) : ∃ below : Option Value, (∀ x, below = some x → x.isManifest = true) ∧
      (overValue v (some b)).child? t = layAll (v.child? t).toList below := by
    refine ⟨b.child? t, fun x hx => isManifest_child hb hx, ?_⟩
    rw [child?_overValue hv hb hshape, children_of_isUnrepeated hvu]
  cases hs : v.shape with
  | map =>
    obtain ⟨o, rfl⟩ := exists_of_shape_map hs
    obtain ⟨e, rfl⟩ := exists_of_shape_map (hshape ▸ hs)
    refine ⟨hmanifest, rfl, shape_overValue hv hb, ?_, hchild⟩
    intro l hl
    rw [labels_overValue hv hb hvu rfl hshape hparts]
    exact mem_joinLabels.2 (.inr hl)
  | named =>
    obtain ⟨ys, rfl, hys⟩ := exists_of_shape_named hs
    obtain ⟨xs, rfl, hxs⟩ := exists_of_shape_named (hshape ▸ hs)
    have hjoined := joined hv hb hys hxs
    refine ⟨hmanifest, ?_, shape_overValue hv hb, ?_, hchild⟩
    · rw [overValue_list hxs hys, Value.isUnrepeated, decide_eq_true hjoined.nodup, Bool.or_true]
    · rw [overValue_list hxs hys, Value.labels, Value.labels,
        hjoined.names (nodup_names_of_isUnrepeated hvu hys)]
      exact fun l hl => mem_joinLabels.2 (.inr hl)
  | leaf => exact absurd hs hparts

theorem overlaid {current : Option Value} (hv : v.isManifest = true) (hvu : v.isUnrepeated = true)
    (hcurrent : ∀ b, current = some b → b.isManifest = true) (hparts : v.shape ≠ .leaf) :
    Overlaid v (overValue v current) := by
  cases current with
  | none =>
    rw [overValue_none]
    exact .refl hv hvu
  | some b =>
    by_cases hshape : v.shape = b.shape
    · exact overlaid_of_shape hv (hcurrent b rfl) hvu hshape hparts
    · rw [overValue_of_shape (.inr hshape)]
      exact .refl hv hvu

/-- A value without parts replaces what is below it. -/
theorem overValue_of_leaf (h : v.shape = .leaf) (current : Option Value) :
    overValue v current = v := by
  cases current with
  | none => exact overValue_none v
  | some b => exact overValue_of_shape (.inl h)

theorem overValue_empty {o : Entries} (ho : (Value.map o).isManifest = true) :
    overValue (.map o) (some (.map [])) = .map o := by
  have hempty : (Value.map []).isManifest = true := rfl
  have hm := overlaid_of_shape ho hempty rfl rfl nofun
  refine Value.eq_of_children hm.manifest ho hm.unrepeated rfl rfl nofun ?_ fun t => ?_
  · rw [labels_overValue ho hempty rfl rfl rfl nofun]
    simp [joinLabels, Value.labels]
  · have hnone : (Value.map []).child? t = none := by cases t <;> rfl
    rw [child?_overValue ho hempty rfl, children_of_isUnrepeated rfl, hnone, layAll_none]

/-! ## Laying a value over another again -/

/-- What is laid a second time changes nothing. -/
theorem overValue_again (hv : Plain v) {current : Option Value}
    (hcurrent : ∀ b, current = some b → b.isManifest = true) :
    overValue v (some (overValue v current)) = overValue v current := by
  induction v using Value.child_induction generalizing current with
  | step v ih =>
    by_cases hparts : v.shape = .leaf
    · rw [overValue_of_leaf hparts, overValue_of_leaf hparts]
    · have hm := overlaid hv.manifest hv.isUnrepeated hcurrent hparts
      have hagain := overlaid_of_shape hv.manifest hm.manifest hv.isUnrepeated hm.shape.symm hparts
      refine Value.eq_of_children hagain.manifest hm.manifest hagain.unrepeated hm.unrepeated
        (hm.shape.trans hagain.shape.symm) (hagain.shape ▸ hparts) ?_ fun t => ?_
      · rw [labels_overValue hv.manifest hm.manifest hv.isUnrepeated hm.unrepeated hm.shape.symm
          hparts, joinLabels_of_subset hm.labels]
      · obtain ⟨below, hbelow, hstep⟩ := hm.child t
        rw [child?_overValue hv.manifest hm.manifest hm.shape.symm,
          children_of_isUnrepeated hv.isUnrepeated, hstep]
        cases hw : v.child? t with
        | none => rfl
        | some w => exact congrArg some (ih t w hw (hv.child hw) hbelow)

/-! ## Three layers -/

/-- Two values have the same shape at every place that both have. -/
def AgreeInShape (a b : Value) : Prop :=
  ∀ p x y, a.at? p = some x → b.at? p = some y → x.shape = y.shape

theorem AgreeInShape.shape (h : AgreeInShape b c) : b.shape = c.shape := h [] b c rfl rfl

theorem AgreeInShape.child {x y : Value} (h : AgreeInShape b c) (hx : b.child? t = some x)
    (hy : c.child? t = some y) : AgreeInShape x y := fun p x' y' hx' hy' =>
  h (t :: p) x' y' (by rw [at?_cons_of hx, hx']) (by rw [at?_cons_of hy, hy'])

theorem agreeInShape_of_children (hshape : b.shape = c.shape)
    (h : ∀ t x y, b.child? t = some x → c.child? t = some y → AgreeInShape x y) :
    AgreeInShape b c := by
  intro p x y hx hy
  cases p with
  | nil => rwa [← Option.some.inj hx, ← Option.some.inj hy]
  | cons t p =>
    obtain ⟨x', hx', hx⟩ := Option.bind_eq_some_iff.1 hx
    obtain ⟨y', hy', hy⟩ := Option.bind_eq_some_iff.1 hy
    exact h t x' y' hx' hy' p x y hx hy

/-- Optional values may be laid in either order if that holds where there are all three. -/
theorem layAll_assoc {x? y? z? : Option Value}
    (h : ∀ z y x, z? = some z → y? = some y → x? = some x →
      overValue z (some (overValue y (some x))) = overValue (overValue z (some y)) (some x)) :
    layAll z?.toList (layAll y?.toList x?) = layAll (layAll z?.toList y?).toList x? := by
  cases z? with
  | none => rfl
  | some z =>
    cases y? with
    | none => exact congrArg (fun w => some (overValue w x?)) (overValue_none z).symm
    | some y =>
      cases x? with
      | none =>
        show some (overValue z (some (overValue y none))) =
          some (overValue (overValue z (some y)) none)
        rw [overValue_none, overValue_none]
      | some x => exact congrArg some (h z y x rfl rfl rfl)

/-- Of three layers that agree in shape, the lower two or the upper two may be merged first. -/
theorem overValue_assoc {a : Value} (ha : Plain a) (hb : Plain b) (hc : Plain c)
    (hab : AgreeInShape a b) (hac : AgreeInShape a c) (hbc : AgreeInShape b c) :
    overValue c (some (overValue b (some a))) = overValue (overValue c (some b)) (some a) := by
  induction c using Value.child_induction generalizing a b with
  | step c ih =>
    by_cases hparts : c.shape = .leaf
    · rw [overValue_of_leaf hparts, overValue_of_leaf hparts, overValue_of_leaf hparts]
    · have hbs : b.shape = c.shape := hbc.shape
      have hab' := overlaid_of_shape hb.manifest ha.manifest hb.isUnrepeated hab.shape.symm
        (hbs ▸ hparts)
      have hbc' := overlaid_of_shape hc.manifest hb.manifest hc.isUnrepeated hbs.symm hparts
      have hleft := overlaid_of_shape hc.manifest hab'.manifest hc.isUnrepeated
        (hbs.symm.trans hab'.shape.symm) hparts
      have hright := overlaid_of_shape hbc'.manifest ha.manifest hbc'.unrepeated
        (hbc'.shape.trans hac.shape.symm) (hbc'.shape ▸ hparts)
      refine Value.eq_of_children hleft.manifest hright.manifest hleft.unrepeated hright.unrepeated
        (hright.shape.trans (hbc'.shape.trans hleft.shape.symm)) (hleft.shape ▸ hparts) ?_
        fun t => ?_
      · rw [labels_overValue hc.manifest hab'.manifest hc.isUnrepeated hab'.unrepeated
            (hbs.symm.trans hab'.shape.symm) hparts,
          labels_overValue hb.manifest ha.manifest hb.isUnrepeated ha.isUnrepeated hab.shape.symm
            (hbs ▸ hparts),
          labels_overValue hbc'.manifest ha.manifest hbc'.unrepeated ha.isUnrepeated
            (hbc'.shape.trans hac.shape.symm) (hbc'.shape ▸ hparts),
          labels_overValue hc.manifest hb.manifest hc.isUnrepeated hb.isUnrepeated hbs.symm hparts,
          joinLabels_assoc]
      · rw [child?_overValue hc.manifest hab'.manifest (hbs.symm.trans hab'.shape.symm),
          child?_overValue hb.manifest ha.manifest hab.shape.symm,
          child?_overValue hbc'.manifest ha.manifest (hbc'.shape.trans hac.shape.symm),
          children_of_isUnrepeated hbc'.unrepeated,
          child?_overValue hc.manifest hb.manifest hbs.symm,
          children_of_isUnrepeated hc.isUnrepeated, children_of_isUnrepeated hb.isUnrepeated]
        refine layAll_assoc fun z y x hz hy hx => ?_
        exact ih t z hz (ha.child hx) (hb.child hy) (hc.child hz) (hab.child hx hy)
          (hac.child hx hz) (hbc.child hy hz)

/-! ## Merges -/

/-- What holds of manifests that are laid over one another. -/
structure LayerLaws (a b c : Entries) : Prop where
  /-- Nothing, laid over a manifest, changes nothing. -/
  above : mergeNamed (some a) none = .ok (some a) ∧ mergeNamed (some a) (some []) = .ok (some a)
  /-- A manifest is laid over nothing. -/
  below : mergeNamed none (some a) = .ok (some a) ∧ mergeNamed (some []) (some a) = .ok (some a)
  /-- An overlay that repeats no name changes nothing when it is laid again. -/
  again : (Value.map b).repeatsNoName = true →
    ∃ m, mergeNamed (some a) (some b) = .ok (some m) ∧ mergeNamed (some m) (some b) = .ok (some m)
  /-- Of three layers without repeated names that agree in shape, the lower or the upper two may be
  merged first. -/
  assoc : (Value.map a).repeatsNoName = true → (Value.map b).repeatsNoName = true →
    (Value.map c).repeatsNoName = true → AgreeInShape (.map a) (.map b) →
    AgreeInShape (.map a) (.map c) → AgreeInShape (.map b) (.map c) →
    ∃ ab bc abc, mergeNamed (some a) (some b) = .ok (some ab) ∧
      mergeNamed (some b) (some c) = .ok (some bc) ∧
      mergeNamed (some ab) (some c) = .ok (some abc) ∧
      mergeNamed (some a) (some bc) = .ok (some abc)

/-- **Laws of overlays.** -/
theorem merge_laws {a b c : Entries} (ha : (Value.map a).isManifest = true)
    (hb : (Value.map b).isManifest = true) (hc : (Value.map c).isManifest = true) :
    LayerLaws a b c where
  above := ⟨rfl, rfl⟩
  below := by
    refine ⟨rfl, ?_⟩
    rw [merges rfl ha, Value.map.inj (overValue_empty ha)]
  again hbn := by
    have hab := isManifest_overEntries ha hb
    refine ⟨overEntries b a, merges ha hb, ?_⟩
    have hagain : overValue (.map b) (some (overValue (.map b) (some (.map a)))) =
        overValue (.map b) (some (.map a)) :=
      overValue_again ⟨hb, hbn⟩ fun _ h => Option.some.inj h ▸ ha
    rw [merges hab hb, Value.map.inj hagain]
  assoc han hbn hcn hab hac hbc := by
    have hassoc := overValue_assoc ⟨ha, han⟩ ⟨hb, hbn⟩ ⟨hc, hcn⟩ hab hac hbc
    refine ⟨overEntries b a, overEntries c b, overEntries c (overEntries b a), merges ha hb,
      merges hb hc, merges (isManifest_overEntries ha hb) hc, ?_⟩
    rw [merges ha (isManifest_overEntries hb hc), Value.map.inj hassoc]

/-! ### Three layers of a pod -/

theorem agreeInShape_map {es fs : Entries}
    (h : ∀ v ∈ es, ∀ w ∈ fs, v.1 = w.1 → AgreeInShape v.2 w.2) :
    AgreeInShape (.map es) (.map fs) := by
  refine agreeInShape_of_children rfl fun t x y hx hy => ?_
  cases t with
  | item n => cases hx
  | key k =>
    rw [child?_key] at hx hy
    exact h _ (Value.mem_of_findEntry hx) _ (Value.mem_of_findEntry hy) rfl

theorem agreeInShape_list {xs ys : List Value} (hxs : allNamed xs = true) (hys : allNamed ys = true)
    (h : ∀ x ∈ xs, ∀ y ∈ ys, AgreeInShape x y) : AgreeInShape (.list xs) (.list ys) := by
  refine agreeInShape_of_children ((shape_list hxs).trans (shape_list hys).symm)
    fun t x y hx hy => ?_
  cases t with
  | key k => cases hx
  | item n =>
    have hmem {items : List Value} {z : Value} (hnamed : allNamed items = true)
        (hz : (Value.list items).child? (.item n) = some z) : z ∈ items := by
      rw [child?_item hnamed] at hz
      exact (List.mem_filter.1 (List.mem_of_getLast? hz)).1
    exact h x (hmem hxs hx) y (hmem hys hy)

theorem agreeInShape_text (s s' : String) : AgreeInShape (.text s) (.text s') :=
  agreeInShape_of_children rfl fun t _ _ hx _ => by cases t <;> cases hx

/-- Containers by their names and images. -/
def containers (images : List (String × String)) : List Value :=
  images.map fun e => runs e.1 e.2

theorem agreeInShape_podWith (images images' : List (String × String)) :
    AgreeInShape (.map (podWith (containers images))) (.map (podWith (containers images'))) := by
  have hnamed (images : List (String × String)) : allNamed (containers images) = true := by
    simp [allNamed, containers, runs, itemName?, Value.find?, Table.findEntry]
  have hruns (c i c' i' : String) : AgreeInShape (runs c i) (runs c' i') := by
    refine agreeInShape_map fun v hv w hw _ => ?_
    simp only [List.mem_cons, List.not_mem_nil, or_false] at hv hw
    obtain rfl | rfl := hv <;> obtain rfl | rfl := hw <;> exact agreeInShape_text _ _
  refine agreeInShape_map fun v hv w hw _ => ?_
  obtain rfl := List.mem_singleton.1 hv
  obtain rfl := List.mem_singleton.1 hw
  refine agreeInShape_map fun v hv w hw _ => ?_
  obtain rfl := List.mem_singleton.1 hv
  obtain rfl := List.mem_singleton.1 hw
  refine agreeInShape_list (hnamed images) (hnamed images') fun x hx y hy => ?_
  obtain ⟨e, -, rfl⟩ := List.mem_map.1 hx
  obtain ⟨e', -, rfl⟩ := List.mem_map.1 hy
  exact hruns _ _ _ _

/-- Three layers of a pod, two of which name each container. -/
theorem merge_laws_containers :
    let a := podWith (containers [("main", "flink:1"), ("log", "log:1")])
    let b := podWith (containers [("new", "new:1"), ("log", "log:2")])
    let c := podWith (containers [("new", "new:2"), ("main", "flink:2")])
    let all := podWith (containers [("main", "flink:2"), ("log", "log:2"), ("new", "new:2")])
    ∃ ab bc, mergeNamed (some a) (some b) = .ok (some ab) ∧
      mergeNamed (some ab) (some b) = .ok (some ab) ∧
      mergeNamed (some b) (some c) = .ok (some bc) ∧
      mergeNamed (some ab) (some c) = .ok (some all) ∧
      mergeNamed (some a) (some bc) = .ok (some all) := by
  intro a b c all
  have laws : LayerLaws a b c :=
    merge_laws (by decide +kernel) (by decide +kernel) (by decide +kernel)
  obtain ⟨ab, hab, hagain⟩ := laws.again (by decide +kernel)
  obtain ⟨ab', bc, abc, hab', hbc, habc, habc'⟩ := laws.assoc (by decide +kernel)
    (by decide +kernel) (by decide +kernel) (agreeInShape_podWith _ _) (agreeInShape_podWith _ _)
    (agreeInShape_podWith _ _)
  obtain rfl : ab = ab' := Option.some.inj (Except.ok.inj (hab.symm.trans hab'))
  have hall : mergeNamed (some ab) (some c) = .ok (some all) := by
    have hfirst : mergeNamed (some a) (some b) = .ok (some (podWith (containers
        [("main", "flink:1"), ("log", "log:2"), ("new", "new:1")]))) := by decide +kernel
    obtain rfl := Option.some.inj (Except.ok.inj (hab.symm.trans hfirst))
    decide +kernel
  obtain rfl : abc = all := Option.some.inj (Except.ok.inj (habc.symm.trans hall))
  exact ⟨ab, bc, hab, hagain, hbc, habc, habc'⟩

end Overlay

end FlinkCluster
