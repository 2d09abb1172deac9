import FlinkCluster.Proofs.OverlayPlaces

/-!
# Items that repeat a name

Names need not identify items: a container may mount one volume at two paths. `Overlay.unnamed_kept`
says what becomes of the items that an overlay does not name, at every place where both manifests
have lists of named items, whatever names they repeat: of each name one item is kept, the last, at
the place of the first. So these items are all kept exactly if their names are distinct.

One overlay may reach a list through several items of one name. They are laid one after the other,
and what each of them keeps (`keeps_overValue`) is kept by all (`Keeps.trans`).
-/

set_option autoImplicit false

namespace FlinkCluster.Overlay

variable {v w b c : Value} {N : List String} {p : List Turn} {t : Turn} {xs ys : List Value}
  {fresh fresh' : Prop}

/-! ## Items of other names -/

/-- The items whose names are not among `N`. -/
def unnamedBy (N : List String) (xs : List Value) : List Value :=
  xs.filter fun x => !N.any fun n => hasName n x

theorem any_hasName_congr {x y : Value} (h : textName? x = textName? y) :
    (!N.any fun n => hasName n x) = !N.any fun n => hasName n y := by
  simp only [hasName, h]

theorem any_hasName_of_mem (hys : TextNamed ys) (hN : names ys ⊆ N) {y : Value} (hy : y ∈ ys) :
    (!N.any fun n => hasName n y) = false := by
  obtain ⟨n, hn⟩ := hys y hy
  rw [Bool.not_eq_false', List.any_eq_true]
  exact ⟨n, hN (mem_names_iff.2 ⟨y, hy, hn⟩), hasName_iff.2 hn⟩

theorem unnamedBy_collapse (h : TextNamed xs) :
    unnamedBy N (collapse xs) = collapse (unnamedBy N xs) :=
  filter_collapse h fun _ _ => any_hasName_congr

/-! ## Keeping -/

/-- A value has at a place what another has there: a list of named items with the same items of
other names than `N`, up to repetitions. It repeats no name if the other does not, and if it is
`fresh`. -/
def Keeps (N : List String) (p : List Turn) (fresh : Prop) (b c : Value) : Prop :=
  ∀ xs, b.at? p = some (.list xs) → allNamed xs = true →
    ∃ zs, c.at? p = some (.list zs) ∧ allNamed zs = true ∧
      unnamedBy N (collapse zs) = unnamedBy N (collapse xs) ∧
      (fresh ∨ (names xs).Nodup → (names zs).Nodup)

theorem Keeps.refl (N : List String) (p : List Turn) (b : Value) : Keeps N p False b b :=
  fun xs hxs hnamed => ⟨xs, hxs, hnamed, rfl, fun h => h.resolve_left id⟩

theorem Keeps.trans {d : Value} (h : Keeps N p fresh b c) (h' : Keeps N p fresh' c d) :
    Keeps N p (fresh ∨ fresh') b d := by
  intro xs hxs hnamed
  obtain ⟨ys, hys, hnamed, heq, hnodup⟩ := h xs hxs hnamed
  obtain ⟨zs, hzs, hnamed, heq', hnodup'⟩ := h' ys hys hnamed
  refine ⟨zs, hzs, hnamed, heq'.trans heq, ?_⟩
  rintro ((hfresh | hfresh) | hxs)
  · exact hnodup' (.inr (hnodup (.inl hfresh)))
  · exact hnodup' (.inl hfresh)
  · exact hnodup' (.inr (hnodup (.inr hxs)))

theorem Keeps.mono (h : Keeps N p fresh b c) (himp : fresh' → fresh) : Keeps N p fresh' b c := by
  intro xs hxs hnamed
  obtain ⟨zs, hzs, hnamed, heq, hnodup⟩ := h xs hxs hnamed
  exact ⟨zs, hzs, hnamed, heq, fun h => hnodup (h.imp_left himp)⟩

/-- A list keeps the items that an overlay does not name, and its names are distinct after it. -/
theorem keeps_list (hv : (Value.list ys).isManifest = true) (hb : b.isManifest = true)
    (hys : allNamed ys = true) (hN : names ys ⊆ N) :
    Keeps N [] True b (overValue (.list ys) (some b)) := by
  intro xs hxs hnamed
  obtain rfl := Option.some.inj hxs
  obtain ⟨hyt, hym⟩ := Value.isManifest_list_iff.1 hv
  obtain ⟨hxt, -⟩ := Value.isManifest_list_iff.1 hb
  have hjoined := joined hv hb hys hnamed
  have hself : collapse (overItems ys (collapse xs)) = overItems ys (collapse xs) :=
    (collapse_eq_self_iff hjoined.textNamed).2 hjoined.nodup
  refine ⟨_, congrArg some (overValue_list hnamed hys), hjoined.textNamed.allNamed, ?_,
    fun _ => hjoined.nodup⟩
  rw [hself]
  exact filter_overItems (fun y hy => isProper_of_isManifest (hym y hy)) (hyt hys)
    (textNamed_collapse (hxt hnamed)) (fun _ _ => any_hasName_congr)
    fun y hy => any_hasName_of_mem (hyt hys) hN hy

/-- What one value keeps, several keep that are laid one after the other. -/
theorem keeps_layAll {vs : List Value}
    (hvs : ∀ v ∈ vs, v.isManifest = true ∧
      ∀ b, b.isManifest = true → Keeps N p (v.reach p ≠ []) b (overValue v (some b)))
    (hb : b.isManifest = true) :
    ∃ d, layAll vs (some b) = some d ∧ Keeps N p (vs.flatMap (Value.reach p) ≠ []) b d := by
  induction vs generalizing b with
  | nil => exact ⟨b, rfl, (Keeps.refl N p b).mono fun h => h rfl⟩
  | cons v vs ih =>
    obtain ⟨hv, hkeeps⟩ := hvs v List.mem_cons_self
    have hmanifest := (lays.1 v (some b) hv fun _ h => Option.some.inj h ▸ hb).1
    obtain ⟨d, hd, hrest⟩ := ih (fun w hw => hvs w (List.mem_cons_of_mem v hw)) hmanifest
    refine ⟨d, hd, ((hkeeps b hb).trans hrest).mono fun h => ?_⟩
    rw [List.flatMap_cons, ne_eq, List.append_eq_nil_iff, Classical.not_and_iff_not_or_not] at h
    exact h

/-- An overlay keeps, at a place where it has lists of named items only, the items that these do not
name. -/
theorem keeps_overValue (hv : v.isManifest = true) (hb : b.isManifest = true)
    (hlead : v.leadsToItems p = true) (hN : v.namesAt p ⊆ N) :
    Keeps N p (v.reach p ≠ []) b (overValue v (some b)) := by
  induction p generalizing v b with
  | nil =>
    obtain ⟨ys, rfl, hys⟩ := exists_of_shape_named (of_decide_eq_true hlead)
    refine (keeps_list hv hb hys ?_).mono fun _ => trivial
    simpa [Value.namesAt, Value.reach] using hN
  | cons t p ih =>
    intro xs hxs hnamed
    obtain ⟨c, hc, hxs⟩ := Option.bind_eq_some_iff.1 hxs
    rw [Value.leadsToItems, Bool.and_eq_true_iff, decide_eq_true_eq, List.all_eq_true] at hlead
    obtain ⟨hshape, hlead⟩ := hlead
    have hstep := child?_overValue hv hb (hshape.trans (shape_of_child hc).symm) t
    rw [hc] at hstep
    have hchildren : ∀ w ∈ v.children t, w.isManifest = true ∧ ∀ b, b.isManifest = true →
        Keeps N p (w.reach p ≠ []) b (overValue w (some b)) := by
      intro w hw
      have hw' := Value.everywhere_of_mem_children hv hw
      refine ⟨hw', fun b hb => ih hw' hb (hlead w hw) fun n hn => hN ?_⟩
      obtain ⟨x, hx, hn⟩ := List.mem_flatMap.1 hn
      exact List.mem_flatMap.2 ⟨x, List.mem_flatMap.2 ⟨w, hw, hx⟩, hn⟩
    obtain ⟨d, hd, hkeeps⟩ := keeps_layAll hchildren (isManifest_child hb hc)
    obtain ⟨zs, hzs, hrest⟩ := hkeeps xs hxs hnamed
    exact ⟨zs, by rw [at?_cons_of (hstep.trans hd), hzs], hrest⟩

/-! ## Merges -/

/-- A manifest that repeats no name leads to the list at a place, and to nothing else. -/
theorem leadsToItems_of_at? (hv : v.isManifest = true) (hnames : v.repeatsNoName = true)
    (hys : v.at? p = some (.list ys)) (hnamed : allNamed ys = true) :
    v.reach p = [.list ys] ∧ v.leadsToItems p = true := by
  induction p generalizing v with
  | nil =>
    obtain rfl := Option.some.inj hys
    exact ⟨rfl, decide_eq_true (shape_list hnamed)⟩
  | cons t p ih =>
    obtain ⟨c, hc, hys⟩ := Option.bind_eq_some_iff.1 hys
    have hchild := Plain.child ⟨hv, hnames⟩ hc
    have hall : v.children t = [c] := by
      rw [children_of_isUnrepeated (Value.holds_of_everywhere hnames), hc]
      rfl
    obtain ⟨hreach, hlead⟩ := ih hchild.manifest hchild.names hys
    constructor
    · rw [Value.reach, hall, List.flatMap_singleton, hreach]
    · rw [Value.leadsToItems, hall, decide_eq_true (shape_of_child hc), Bool.true_and,
        List.all_cons, hlead]
      rfl

/-- **What becomes of the items that an overlay does not name.** At every place where the manifest
below has a list of named items and the overlay has such lists and nothing else, the merge has one.
Of the items below that the overlay does not name, it has one for each name, and so all of them
exactly if their names are distinct. -/
theorem unnamed_kept {b o : Entries} {p : List Turn} {xs : List Value}
    (hb : (Value.map b).isManifest = true) (ho : (Value.map o).isManifest = true)
    (hxs : (Value.map b).at? p = some (.list xs)) (hnamed : allNamed xs = true)
    (hreach : (Value.map o).reach p ≠ []) (hlead : (Value.map o).leadsToItems p = true) :
    ∃ m zs, mergeNamed (some b) (some o) = .ok (some m) ∧
      (Value.map m).at? p = some (.list zs) ∧
      unnamedBy ((Value.map o).namesAt p) zs =
        collapse (unnamedBy ((Value.map o).namesAt p) xs) ∧
      (unnamedBy ((Value.map o).namesAt p) zs = unnamedBy ((Value.map o).namesAt p) xs ↔
        (names (unnamedBy ((Value.map o).namesAt p) xs)).Nodup) := by
  have hkeeps := keeps_overValue ho hb hlead (List.Subset.refl ((Value.map o).namesAt p))
  obtain ⟨zs, hzs, hzn, heq, hnodup⟩ := hkeeps xs hxs hnamed
  have htext {m : Value} {ws : List Value} (hm : m.isManifest = true)
      (hws : m.at? p = some (.list ws)) : allNamed ws = true → TextNamed ws :=
    (Value.isManifest_list_iff.1 (Value.everywhere_of_at? hm hws)).1
  have hxt : TextNamed xs := htext hb hxs hnamed
  have hmerge : (overValue (.map o) (some (.map b))).isManifest = true :=
    (lays.1 (.map o) (some (.map b)) ho fun _ h => Option.some.inj h ▸ hb).1
  have hself : collapse zs = zs :=
    (collapse_eq_self_iff (htext hmerge hzs hzn)).2 (hnodup (.inl hreach))
  have hunnamed : unnamedBy ((Value.map o).namesAt p) zs =
      collapse (unnamedBy ((Value.map o).namesAt p) xs) := by
    rw [← unnamedBy_collapse hxt, ← heq, hself]
  refine ⟨overEntries o b, zs, merges hb ho, hzs, hunnamed, ?_⟩
  rw [hunnamed]
  exact collapse_eq_self_iff fun x hx => hxt x (List.mem_filter.1 hx).1

/-- A mount of a volume. -/
def mount (volume path : String) : Value :=
  .map [("name", .text volume), ("mountPath", .text path)]

/-- A pod template whose container has some mounts. -/
def templateWith (mounts : List Value) : Entries :=
  podWith [.map [("name", .text "main"), ("volumeMounts", .list mounts)]]

/-- The place of the mounts of a container. -/
def mountsPlace : List Turn := [.key "spec", .key "containers", .item "main", .key "volumeMounts"]

/-- A volume that is mounted twice, and an overlay that mounts it elsewhere: the mount of the other
volume stays. -/
theorem unnamed_kept_mount :
    ∃ m zs, mergeNamed
        (some (templateWith [mount "data" "/a", mount "tmp" "/t", mount "data" "/b"]))
        (some (templateWith [mount "data" "/c"])) = .ok (some m) ∧
      (Value.map m).at? mountsPlace = some (.list zs) ∧
      unnamedBy ["data"] zs = [mount "tmp" "/t"] := by
  have ho : (Value.map (templateWith [mount "data" "/c"])).isManifest = true := by decide +kernel
  have hmounts : (Value.map (templateWith [mount "data" "/c"])).at? mountsPlace =
      some (.list [mount "data" "/c"]) := by decide +kernel
  obtain ⟨hreach, hlead⟩ := leadsToItems_of_at? ho (by decide +kernel) hmounts (by decide +kernel)
  have hnames : (Value.map (templateWith [mount "data" "/c"])).namesAt mountsPlace = ["data"] := by
    decide +kernel
  obtain ⟨m, zs, hm, hzs, -, hkept⟩ := unnamed_kept
    (b := templateWith [mount "data" "/a", mount "tmp" "/t", mount "data" "/b"])
    (p := mountsPlace) (by decide +kernel) ho rfl (by decide +kernel)
    (hreach ▸ List.cons_ne_nil _ _) hlead
  rw [hnames] at hkept
  exact ⟨m, zs, hm, hzs, (hkept.2 (by decide +kernel)).trans (by decide +kernel)⟩

/-- A volume that is mounted twice, and an overlay that does not name it: one mount is lost. -/
theorem unnamed_lost_mount :
    mergeNamed (some (templateWith [mount "data" "/a", mount "data" "/b"]))
        (some (templateWith [mount "logs" "/l"])) =
      .ok (some (templateWith [mount "data" "/b", mount "logs" "/l"])) ∧
    unnamedBy ["logs"] [mount "data" "/a", mount "data" "/b"] =
      [mount "data" "/a", mount "data" "/b"] ∧
    unnamedBy ["logs"] [mount "data" "/b", mount "logs" "/l"] = [mount "data" "/b"] := by
  refine ⟨?_, ?_, ?_⟩ <;> decide +kernel

end FlinkCluster.Overlay
