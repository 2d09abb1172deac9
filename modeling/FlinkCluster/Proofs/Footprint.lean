import FlinkCluster.Proofs.Labels
import FlinkCluster.Proofs.ObjectStore
import FlinkCluster.Proofs.Outcome
import FlinkCluster.Proofs.Paths

/-!
# What requests can change

`Request.Reaches`: the places whose object a request may change, given the objects that there are.
A server is `Confined` if its requests change no others, and if time changes nothing. The cluster in
memory is confined (`Cluster.confined`), as long as it holds one object in each place.

* `Session.Path.frame`: an object that no request of a path reaches is the same at its end.
-/

set_option autoImplicit false

namespace FlinkCluster

open Kubernetes Cluster

variable {σ τ : Type}

/-! ## Reach -/

/-- Whether a request may change what is in a place. Where objects go by labels, these are the
labels that the object in the place carries. Pods may end while they are listed. -/
def Request.Reaches (objects : Place → Option Resource) : Request → Place → Prop
  | .create ns body, place => place = placeOf ns body
  | .patch ns name body, place => place = ⟨body.kind, ns, some name⟩
  | .readStatefulSet .., _ => False
  | .deleteStatefulSet ns name _, place => place = ⟨.statefulSet, ns, some name⟩
  | .scaleStatefulSet ns name _, place => place = ⟨.statefulSet, ns, some name⟩
  | .listPods .., place => place.kind = .pod
  | .deleteConfigMaps ns selector, place =>
    place.kind = .configMap ∧ place.namespaceName = ns ∧
      ∃ labels r, Naming.selectedLabels selector = .ok labels ∧ objects place = some r ∧
        carries labels r = true

/-- A server whose requests change only what they reach, in the worlds that are sound, and whose
time changes nothing. -/
structure Confined (server : Server σ τ) (view : σ → Place → Option Resource)
    (sound : σ → Prop) : Prop where
  respond_sound : ∀ r w, sound w → sound (server.respond r w).2
  respond : ∀ (r : Request) w place, sound w → ¬ r.Reaches (view w) place →
    view (server.respond r w).2 place = view w place
  now_sound : ∀ w, sound w → sound (server.now w).2
  now : ∀ w, view (server.now w).2 = view w
  pause_sound : ∀ length w w', server.pause length w = .ok w' → sound w → sound w'
  pause : ∀ length w w', server.pause length w = .ok w' → view w' = view w

/-- What no request of a path reaches while it is as it was stays as it was. -/
theorem Session.Path.frame {server : Server σ τ} {view : σ → Place → Option Resource}
    {sound : σ → Prop} {P : Request → Prop} {w w' : σ} {trace : List (Event τ)} {place : Place}
    (confined : Confined server view sound) (hsound : sound w)
    (hreach : ∀ (r : Request) objects, P r → objects place = view w place →
      ¬ r.Reaches objects place)
    (h : Path server P w trace w') : view w' place = view w place := by
  refine (Path.keeps (I := fun v => sound v ∧ view v place = view w place) ?_ ?_ ?_ h
    ⟨hsound, rfl⟩).2
  · rintro r v hr ⟨hv, hsame⟩
    exact ⟨confined.respond_sound r v hv,
      (confined.respond r v place hv (hreach r (view v) hr hsame)).trans hsame⟩
  · rintro v ⟨hv, hsame⟩
    exact ⟨confined.now_sound v hv, by rw [confined.now, hsame]⟩
  · rintro length v v' hpause ⟨hv, hsame⟩
    exact ⟨confined.pause_sound length v v' hpause hv, by
      rw [confined.pause length v v' hpause, hsame]⟩

/-- A path leads from sound worlds to sound ones. -/
theorem Session.Path.sound {server : Server σ τ} {view : σ → Place → Option Resource}
    {sound : σ → Prop} {P : Request → Prop} {w w' : σ} {trace : List (Event τ)}
    (confined : Confined server view sound) (h : Path server P w trace w') (hsound : sound w) :
    sound w' :=
  h.keeps (fun r v _ => confined.respond_sound r v) confined.now_sound confined.pause_sound hsound

/-! ## The cluster in memory -/

namespace Cluster

/-- No place holds two objects. -/
def Sound (c : Cluster) : Prop := (c.objects.map Prod.fst).Nodup

instance (c : Cluster) : Decidable c.Sound := inferInstanceAs (Decidable (List.Nodup _))

theorem get?_eraseWhere (c : Cluster) (gone : Place → Bool) (p : Place) :
    (c.eraseWhere gone).get? p = if gone p then none else c.get? p := by
  rw [get?, get?, eraseWhere]
  dsimp only
  induction c.objects with
  | nil => simp [Table.findEntry]
  | cons e es ih =>
    obtain ⟨q, r⟩ := e
    by_cases hq : q = p
    · subst hq
      cases hgone : gone q <;> simp_all [Table.findEntry]
    · cases hgone : gone q <;> simp_all [Table.findEntry]

theorem Sound.set {c : Cluster} (h : c.Sound) (p : Place) (r : Resource) : (c.set p r).Sound :=
  Table.nodup_setEntry h

theorem Sound.eraseWhere {c : Cluster} (h : c.Sound) (gone : Place → Bool) :
    (c.eraseWhere gone).Sound :=
  h.sublist ((List.filter_sublist (l := c.objects)).map Prod.fst)

theorem Sound.store {c : Cluster} (h : c.Sound) (ns : String) (r : Resource) :
    (c.store ns r).2.Sound := by
  unfold Cluster.store
  dsimp only
  split
  · exact h.set _ _
  · exact h.set _ _

/-- In a sound cluster, the objects of a kind that a selector selects carry its labels. -/
theorem carries_of_mem_selected {c : Cluster} (h : c.Sound) {kind : ObjectKind}
    {ns selector : String} {places : List Place}
    (hplaces : c.selected kind ns selector = .ok places) {p : Place} (hp : p ∈ places) :
    p.kind = kind ∧ p.namespaceName = ns ∧
      ∃ labels r, Naming.selectedLabels selector = .ok labels ∧ c.get? p = some r ∧
        carries labels r = true := by
  unfold selected at hplaces
  split at hplaces
  · rename_i labels hlabels
    obtain rfl := Except.ok.inj hplaces
    rw [carriers, List.mem_mergeSort] at hp
    obtain ⟨⟨q, r⟩, hq, rfl⟩ := List.mem_map.1 hp
    obtain ⟨hmem, hcarries⟩ := List.mem_filter.1 hq
    simp only [Bool.and_eq_true, beq_iff_eq] at hcarries
    obtain ⟨⟨hkind, hns⟩, hcarries⟩ := hcarries
    exact ⟨hkind, hns, labels, r, hlabels, (Table.mem_iff_findEntry h).1 hmem, hcarries⟩
  · cases hplaces

/-- What carries the labels of a selector is selected. -/
theorem mem_selected {c : Cluster} (h : c.Sound) {kind : ObjectKind} {ns selector : String}
    {places : List Place} (hplaces : c.selected kind ns selector = .ok places) {p : Place}
    {labels : Table String} {r : Resource} (hkind : p.kind = kind) (hns : p.namespaceName = ns)
    (hselected : Naming.selectedLabels selector = .ok labels) (hr : c.get? p = some r)
    (hcarries : carries labels r = true) : p ∈ places := by
  rw [selected, hselected] at hplaces
  obtain rfl := Except.ok.inj hplaces
  rw [carriers, List.mem_mergeSort]
  refine List.mem_map.2 ⟨(p, r), List.mem_filter.2 ⟨?_, by simp [hkind, hns, hcarries]⟩, rfl⟩
  exact (Table.mem_iff_findEntry h).2 hr

theorem get?_countListing_of_not_mem (c : Cluster) {listed : List Place} {p : Place}
    (h : p ∉ listed) : (c.countListing listed).get? p = c.get? p := by
  have hkept (left : List (Place × Nat)) :
      ((left.filter fun e => e.2 = 0 && listed.contains e.1).map Prod.fst).contains p = false := by
    rw [Bool.eq_false_iff, Ne, List.contains_iff_mem]
    intro hp
    obtain ⟨e, he, rfl⟩ := List.mem_map.1 hp
    have hlisted := (List.mem_filter.1 he).2
    simp only [Bool.and_eq_true, List.contains_iff_mem] at hlisted
    exact h hlisted.2
  exact (c.get?_eraseWhere _ p).trans (if_neg (by rw [hkept]; decide))

theorem Sound.answer {c : Cluster} (h : c.Sound) (r : Request) : (c.answer r).2.Sound := by
  cases r with
  | create ns body =>
    simp only [Cluster.answer]
    split
    · exact h
    · exact h.store ns body
  | patch ns name body =>
    simp only [Cluster.answer]
    split
    · exact h.set _ _
    · exact h
  | readStatefulSet ns name =>
    simp only [Cluster.answer]
    split <;> exact h
  | deleteStatefulSet ns name policy =>
    simp only [Cluster.answer]
    split
    · exact h.eraseWhere _
    · exact h
  | scaleStatefulSet ns name replicas =>
    simp only [Cluster.answer]
    split
    · split
      · exact h.set _ _
      · exact h
    · exact h
  | listPods ns selector =>
    simp only [Cluster.answer]
    split
    · exact h.eraseWhere _
    · exact h
  | deleteConfigMaps ns selector =>
    simp only [Cluster.answer]
    split
    · exact h.eraseWhere _
    · exact h

/-- A request changes nothing but what it reaches. -/
theorem answer_frame {c : Cluster} (h : c.Sound) {r : Request} {place : Place}
    (hreach : ¬ r.Reaches c.get? place) : (c.answer r).2.get? place = c.get? place := by
  cases r with
  | create ns body =>
    have hcreate := c.answer_create ns body
    generalize c.answer (.create ns body) = reply at hcreate
    cases hcreate with
    | stored _ hview => rw [hview, Function.update_of_ne hreach]
    | refused hview => rw [hview]
  | patch ns name body =>
    have hpatch := c.answer_patch ns name body
    generalize c.answer (.patch ns name body) = reply at hpatch
    cases hpatch with
    | replaced _ _ hview => rw [hview, Function.update_of_ne hreach]
    | refused hview => rw [hview]
  | readStatefulSet ns name =>
    have hread := c.answer_read ns name
    generalize c.answer (.readStatefulSet ns name) = reply at hread
    cases hread with
    | found _ hview => rw [hview]
    | refused hview => rw [hview]
  | deleteStatefulSet ns name policy =>
    have hne : place ≠ ⟨.statefulSet, ns, some name⟩ := hreach
    simp only [answer]
    split
    · rw [erase, get?_eraseWhere, if_neg (by simpa using hne)]
    · rfl
  | scaleStatefulSet ns name replicas =>
    simp only [answer]
    split
    · split
      · rw [get?_set, Function.update_of_ne hreach]
      · rfl
    · rfl
  | listPods ns selector =>
    simp only [answer]
    split
    · rename_i listed hlisted
      exact c.get?_countListing_of_not_mem fun hp =>
        hreach (carries_of_mem_selected h hlisted hp).1
    · rfl
  | deleteConfigMaps ns selector =>
    simp only [answer]
    split
    · rename_i gone hgone
      rw [get?_eraseWhere, if_neg]
      rw [List.contains_iff_mem]
      exact fun hp => hreach (carries_of_mem_selected h hgone hp)
    · rfl

/-- The cluster in memory changes only what requests reach. -/
theorem confined : Confined server get? Sound where
  respond_sound r c h := by
    change (respond r c).2.Sound
    unfold respond
    split
    · exact h
    · exact h.answer r
  respond r c place h hreach := by
    change (respond r c).2.get? place = c.get? place
    rcases c.respond_cases r with ⟨e, c', heq, hview⟩ | heq
    · rw [heq, hview]
    · rw [heq]
      exact answer_frame h hreach
  now_sound c h := h
  now c := rfl
  pause_sound length c c' hpause h := by
    obtain ⟨time, -, rfl⟩ := Outcome.map_ok hpause
    exact h
  pause length c c' hpause := by
    obtain ⟨time, -, rfl⟩ := Outcome.map_ok hpause
    rfl

end Cluster

end FlinkCluster
