import FlinkCluster.Proofs.Agreement
import FlinkCluster.Proofs.Removal
import FlinkCluster.Proofs.Verdict

/-!
# Objects that go by labels

A selector is a text, by which pods are listed and config maps are deleted.

* `Naming.parses_labelSelector`: labels without separators are read back from their selector, term
  by term, so selectors are the same exactly if the labels are (`Naming.labelSelector_eq_iff`).
* `Session.Path.listsOnly`: along a path, each listing is answered with the pods that carry the
  labels at that time.
* `Naming.eq_of_carries`: no object goes by the labels of two clusters.
* `Service.selects_exactly`: what is listed and deleted for a cluster.
-/

set_option autoImplicit false

namespace FlinkCluster

open Kubernetes Cluster Session

/-! ## Reading selectors -/

namespace Naming

variable {t u : Table String}

/-- The terms of a selector; the empty one has none. -/
def terms (selector : String) : List String :=
  if selector = "" then [] else Text.split ',' selector

/-- A selector is read as labels: each of its terms is cut at the first equals sign. -/
def Parses (selector : String) (labels : List (String × String)) : Prop :=
  (terms selector).map (Text.cut? '=') = labels.map some

/-- No key has a separator, and no value has a comma. -/
def Legible (t : Table String) : Prop := ∀ e ∈ t.entries, IsTerm e.1 e.2

instance (t : Table String) : Decidable (Legible t) :=
  inferInstanceAs (Decidable (∀ e ∈ t.entries, IsTerm e.1 e.2))

theorem Legible.sorted (h : Legible t) : ∀ e ∈ t.sorted, IsTerm e.1 e.2 :=
  fun e he => h e (t.sorted_perm.mem_iff.1 he)

theorem terms_labelSelector (h : Legible t) :
    terms (labelSelector t) = t.sorted.map fun e => e.1 ++ "=" ++ e.2 := by
  by_cases hnil : t.sorted = []
  · simp [terms, labelSelector, hnil, Text.join]
  · have hsplit := split_labelSelector_of_terms hnil h.sorted
    have hne : labelSelector t ≠ "" := by
      intro hempty
      have hmem : "" ∈ t.sorted.map fun e => e.1 ++ "=" ++ e.2 := by
        rw [← hsplit, hempty]
        decide
      obtain ⟨e, -, he⟩ := List.mem_map.1 hmem
      simp at he
    rw [terms, if_neg hne, hsplit]

/-- **Labels without separators are read back** from their selector, in the order of the keys. -/
theorem parses_labelSelector (h : Legible t) : Parses (labelSelector t) t.sorted := by
  rw [Parses, terms_labelSelector h, List.map_map]
  exact List.map_congr_left fun e he => cut?_term (h.sorted e he).1

theorem Parses.unique {selector : String} {labels labels' : List (String × String)}
    (h : Parses selector labels) (h' : Parses selector labels') : labels = labels' :=
  List.map_injective_iff.2 (Option.some_injective _) (h.symm.trans h')

/-- The order in which labels were set does not matter. -/
theorem labelSelector_congr (h : t.entries.Perm u.entries) : labelSelector t = labelSelector u := by
  rw [labelSelector, labelSelector, Table.sorted_congr (Table.perm_iff.1 h)]

/-- Labels without separators have the same selector exactly if they are the same. -/
theorem labelSelector_eq_iff (ht : Legible t) (hu : Legible u) :
    labelSelector t = labelSelector u ↔ t.entries.Perm u.entries := by
  refine ⟨fun h => ?_, labelSelector_congr⟩
  have hsorted : t.sorted = u.sorted :=
    (parses_labelSelector ht).unique (h ▸ parses_labelSelector hu)
  exact t.sorted_perm.symm.trans (hsorted ▸ u.sorted_perm)

/-! ## Clusters apart -/

/-- The labels by which the objects of a cluster are found. -/
inductive IsSelection (id : String) : Table String → Prop
  | cluster : IsSelection id (commonLabels id)
  | role (role : Role) : IsSelection id (selectors id role)
  | metadata : IsSelection id (highAvailabilityLabels id)

theorem IsSelection.get?_app {id : String} {labels : Table String} (h : IsSelection id labels) :
    labels.get? "app" = some id := by
  cases h with
  | cluster => simp [get?_commonLabels]
  | role role => simp [get?_selectors, get?_commonLabels]
  | metadata => simp [highAvailabilityLabels, Table.ofEntries]

/-- **No object goes by the labels of two clusters.** -/
theorem eq_of_carries {i j : String} {labels labels' : Table String} (h : IsSelection i labels)
    (h' : IsSelection j labels') {r : Resource} (hr : carries labels r = true)
    (hr' : carries labels' r = true) : i = j := by
  rw [carries_iff, ofTexts, Table.map_within_iff] at hr hr'
  have happ := hr "app" i h.get?_app
  have happ' := hr' "app" j h'.get?_app
  simpa using happ.symm.trans happ'

end Naming

section Worlds

/-! ## Listings along a path -/

variable {σ τ : Type} {server : Server σ τ} {view : σ → Place → Option Resource}
  {due : σ → Request → Option ApiError} {sound : σ → Prop} {P : Request → Prop} {w w' : σ}
  {trace : List (Event τ)}

/-- Whatever pods events list, they are those of the namespace that carry the labels at that time,
unless the call is refused. -/
def ListsOnly (server : Server σ τ) (view : σ → Place → Option Resource)
    (due : σ → Request → Option ApiError) (ns : String) (labels : Table String) (w : σ)
    (trace : List (Event τ)) : Prop :=
  ∀ before after asked selector answer,
    trace = before ++ .exchange (.listPods asked selector) answer :: after →
    ∃ v, Path server (fun _ => True) w before v ∧
      ((∃ e, due v (.listPods asked selector) = some e ∧ answer = .error (.api e)) ∨
        due v (.listPods asked selector) = none ∧
          ∃ pods, answer = .ok pods ∧ Lists (view v) ns labels pods)

/-- The listings of a path that lists pods by one selector. -/
theorem Session.Path.listsOnly (laws : ListingStore server view due sound)
    (confined : Confined server view sound) (hsound : sound w) {ns selector : String}
    {labels asked : Table String} (hselected : Naming.selectedLabels selector = .ok asked)
    (hasked : ∀ key, asked.get? key = labels.get? key)
    (hP : ∀ ns' selector', P (.listPods ns' selector') → ns' = ns ∧ selector' = selector)
    (h : Path server P w trace w') : ListsOnly server view due ns labels w trace := by
  rintro before after ns' selector' answer rfl
  obtain ⟨hlist, v, v', hbefore, hrespond, -⟩ := h.at_exchange
  obtain ⟨rfl, rfl⟩ := hP ns' selector' hlist
  refine ⟨v, hbefore.mono fun _ _ => trivial, ?_⟩
  cases hdue : due v (.listPods ns' selector') with
  | some e =>
    obtain ⟨_, hrefused, -⟩ := laws.refused _ v e hdue
    exact .inl ⟨e, rfl, congrArg Prod.fst (hrespond.symm.trans hrefused)⟩
  | none =>
    have hv : sound v := hbefore.sound confined hsound
    obtain ⟨pods, _, hlisted, hpods⟩ := laws.listed ns' selector' asked v hv hdue hselected
    exact .inr ⟨rfl, pods, congrArg Prod.fst (hrespond.symm.trans hlisted), hpods.congr hasked⟩

/-! ## The objects of a cluster -/

/-- Whether there is a config map with a cluster's high availability metadata in a place. -/
def HasMetadata (metadata : DeploymentMetadata) (objects : Place → Option Resource)
    (place : Place) : Prop :=
  place.kind = .configMap ∧ place.namespaceName = metadata.namespaceName ∧
    ∃ r, objects place = some r ∧ carries (Naming.highAvailabilityLabels metadata.name) r = true

namespace Service

variable {service : Service σ τ} {metadata : DeploymentMetadata}

theorem makes_conclude (verdict : Except DeploymentFailure JobManagerState) :
    Makes server P (conclude verdict) :=
  (makes_record _).bind fun _ => makes_pure verdict

theorem makes_observe (hread : P metadata.readJobManager) (hlist : P metadata.listJobManagerPods) :
    Makes service.server P (service.observe metadata) := by
  refine (makes_attempt hread).bind fun answer => (makes_ofOutcome _).bind fun found => ?_
  cases found with
  | none => exact makes_conclude _
  | some s =>
    exact (makes_ask hlist).bind fun pods => (makes_ofOutcome _).bind makes_conclude

theorem observed_listsOnly (laws : ListingStore service.server view due sound)
    (confined : Confined service.server view sound) (hname : ',' ∉ metadata.name.toList)
    (hsound : sound w) :
    ∃ out trace w', (service.observe metadata).Yields w out trace w' ∧
      ListsOnly service.server view due metadata.namespaceName
        (Naming.selectors metadata.name .jobManager) w trace := by
  obtain ⟨asked, hselected, hasked⟩ := Naming.selectedLabels_selectors hname Role.jobManager
  have hmakes : Makes service.server
      (fun r => r = metadata.readJobManager ∨ r = metadata.listJobManagerPods)
      (service.observe metadata) := makes_observe (.inl rfl) (.inr rfl)
  obtain ⟨out, trace, w', hyields, hpath⟩ := hmakes w
  refine ⟨out, trace, w', hyields, hpath.listsOnly laws confined hsound hselected hasked ?_⟩
  rintro ns selector (heq | heq)
  · cases heq
  · cases heq
    exact ⟨rfl, rfl⟩

variable [Clock τ]

/-- What is listed and deleted for a cluster, from a world on. -/
structure SelectsExactly (service : Service σ τ) (view : σ → Place → Option Resource)
    (due : σ → Request → Option ApiError) (metadata : DeploymentMetadata) (w : σ) : Prop where
  /-- The wait for a shutdown lists the pods with the cluster's labels. -/
  awaited : ∀ looks, ∃ out trace w',
    (service.awaitShutdown looks metadata).Yields w out trace w' ∧
      ListsOnly service.server view due metadata.namespaceName (Naming.commonLabels metadata.name) w
        trace
  /-- An observation lists the pods with the labels of its job manager. -/
  observed : ∃ out trace w', (service.observe metadata).Yields w out trace w' ∧
    ListsOnly service.server view due metadata.namespaceName
      (Naming.selectors metadata.name .jobManager) w trace
  /-- The store deletes the config maps with the cluster's metadata, and changes nothing else; if it
  fails it changes nothing. -/
  purged : ∃ out trace w', ((AvailabilityStore.configMaps service.server).delete
      metadata.namespaceName metadata.name).Yields w out trace w' ∧
    ((out = .ok () ∧ (∀ place, HasMetadata metadata (view w) place → view w' place = none) ∧
        ∀ place, ¬ HasMetadata metadata (view w) place → view w' place = view w place) ∨
      (∃ e, out = .error e) ∧ view w' = view w)

theorem awaited_listsOnly (laws : ListingStore service.server view due sound)
    (confined : Confined service.server view sound) (hname : ',' ∉ metadata.name.toList)
    (hsound : sound w) (looks : Nat) :
    ∃ out trace w', (service.awaitShutdown looks metadata).Yields w out trace w' ∧
      ListsOnly service.server view due metadata.namespaceName (Naming.commonLabels metadata.name) w
        trace := by
  obtain ⟨asked, hselected, hasked⟩ := Naming.selectedLabels_commonLabels hname
  have hmakes : Makes service.server (· = .listPods metadata.namespaceName
      (Naming.labelSelector (Naming.commonLabels metadata.name)))
      (service.awaitShutdown looks metadata) := makes_awaitShutdown (by rfl) looks
  obtain ⟨out, trace, w', hyields, hpath⟩ := hmakes w
  refine ⟨out, trace, w', hyields, hpath.listsOnly laws confined hsound hselected hasked ?_⟩
  rintro ns selector heq
  cases heq
  exact ⟨rfl, rfl⟩

theorem selectsExactly (laws : ListingStore service.server view due sound)
    (confined : Confined service.server view sound) (removes : Removes service.server view sound)
    (hname : ',' ∉ metadata.name.toList) (hsound : sound w) :
    SelectsExactly service view due metadata w where
  awaited := awaited_listsOnly laws confined hname hsound
  observed := observed_listsOnly laws confined hname hsound
  purged := by
    obtain ⟨out, trace, w', htolerated, hyields⟩ :=
      configMaps_yields service.server metadata.namespaceName metadata.name w
    have hremoved := (removes.configMaps _ _ w hsound).outcome htolerated
    simp only [reaches_highAvailability_iff hname] at hremoved
    exact ⟨out, trace, w', hyields, hremoved⟩

/-- **Selectors select exactly.** Labels without separators are read back from their selector, which
does not depend on the order in which they were set and is that of no other labels. So, for a
cluster whose name has no comma, the pods that are listed and the config maps that are deleted are
those of the namespace that carry the labels; and no object goes by those of two clusters. -/
theorem selects_exactly (laws : ListingStore service.server view due sound)
    (confined : Confined service.server view sound) (removes : Removes service.server view sound) :
    (∀ t, Naming.Legible t → Naming.Parses (Naming.labelSelector t) t.sorted ∧
      t.sorted.Perm t.entries) ∧
    (∀ t u : Table String, t.entries.Perm u.entries →
      Naming.labelSelector t = Naming.labelSelector u) ∧
    (∀ t u, Naming.Legible t → Naming.Legible u →
      Naming.labelSelector t = Naming.labelSelector u → t.entries.Perm u.entries) ∧
    (∀ metadata w, ',' ∉ metadata.name.toList → sound w →
      SelectsExactly service view due metadata w) ∧
    ∀ i j labels labels' r, Naming.IsSelection i labels → Naming.IsSelection j labels' →
      carries labels r = true → carries labels' r = true → i = j :=
  ⟨fun t ht => ⟨Naming.parses_labelSelector ht, t.sorted_perm⟩,
    fun _ _ => Naming.labelSelector_congr,
    fun _ _ ht hu => (Naming.labelSelector_eq_iff ht hu).1,
    fun _ _ => selectsExactly laws confined removes,
    fun _ _ _ _ _ h h' => Naming.eq_of_carries h h'⟩

end Service

end Worlds

/-! ## Two clusters in memory -/

namespace Cluster

theorem listingStore_honest : ListingStore server get? due Honest where
  toReadableStore := readableStore
  sound_read ns name c h := confined_honest.respond_sound (.readStatefulSet ns name) c h
  listed ns selector labels c h := listingStore.listed ns selector labels c h.sound

/-- A cluster in memory with a pod and metadata of each of two clusters. -/
def crowded : Cluster where
  objects := [
    (⟨.pod, "default", some "another-0"⟩, .pod (.ofStatuses "another" [] [])),
    (⟨.pod, "default", some "demo-0"⟩, .pod (.ofStatuses "demo" [] [])),
    (⟨.configMap, "default", some "another-leader"⟩, .configMap { metadata := some {
      labels := some (ofTexts (Naming.highAvailabilityLabels "another")) } }),
    (⟨.configMap, "default", some "demo-leader"⟩, .configMap { metadata := some {
      labels := some (ofTexts (Naming.highAvailabilityLabels "demo")) } })]

/-- The deletion of the metadata of one of them. -/
def purgeDemo : Outcome Unit × Run Cluster Seconds :=
  ((AvailabilityStore.configMaps server).delete "default" "demo").run.run { world := crowded }

end Cluster

/-- Labels that were set in another order, and two clusters of which one is purged. -/
theorem Service.selects_exactly_crowded :
    Cluster.crowded.Honest ∧ ',' ∉ "demo".toList ∧
      Naming.Legible (.ofEntries [("b", "x=y"), ("a", "")]) ∧
      Naming.Parses (Naming.labelSelector (.ofEntries [("b", "x=y"), ("a", "")]))
        (Table.ofEntries [("b", "x=y"), ("a", "")]).sorted ∧
      Cluster.purgeDemo.1 = .ok () ∧
      Cluster.purgeDemo.2.world.get? ⟨.configMap, "default", some "demo-leader"⟩ = none ∧
      Cluster.purgeDemo.2.world.get? ⟨.configMap, "default", some "another-leader"⟩ =
        Cluster.crowded.get? ⟨.configMap, "default", some "another-leader"⟩ := by
  have hhonest : Cluster.crowded.Honest := by decide
  have hname : ',' ∉ "demo".toList := by decide
  have hlegible : Naming.Legible (.ofEntries [("b", "x=y"), ("a", "")]) := by decide
  have laws : ListingStore (Cluster.service ⟨.whole 0, .whole 1⟩).server get? due Honest :=
    listingStore_honest
  obtain ⟨hparses, -, -, hselects, hforeign⟩ :=
    selects_exactly laws confined_honest Cluster.removes
  have hdone : Cluster.purgeDemo.1 = .ok () := by
    simp only [Cluster.purgeDemo, AvailabilityStore.configMaps]
    rw [Naming.labelSelector_highAvailability_demo]
    decide +kernel
  obtain ⟨out, trace, c, hyields, hpurged⟩ :=
    (hselects { name := "demo" } Cluster.crowded hname hhonest).purged
  obtain ⟨left, hrun⟩ : ∃ left, Cluster.purgeDemo = (out, ⟨c, [] ++ trace, left⟩) :=
    hyields [] none
  rw [hrun] at hdone ⊢
  refine ⟨hhonest, hname, hlegible, (hparses _ hlegible).1, hdone, ?_⟩
  obtain ⟨-, hgone, hkept⟩ | ⟨⟨e, rfl⟩, -⟩ := hpurged
  · have hdemo : ∃ r, Cluster.crowded.get? ⟨.configMap, "default", some "demo-leader"⟩ = some r ∧
        carries (Naming.highAvailabilityLabels "demo") r = true := ⟨_, rfl, by decide +kernel⟩
    refine ⟨hgone _ ⟨rfl, rfl, hdemo⟩, hkept _ ?_⟩
    rintro ⟨-, -, r, hr, hcarries⟩
    have hother : carries (Naming.highAvailabilityLabels "another") r = true := by
      obtain rfl := Option.some.inj hr
      decide
    exact absurd (hforeign _ _ _ _ r .metadata .metadata hcarries hother) (by decide)
  · cases hdone

end FlinkCluster
