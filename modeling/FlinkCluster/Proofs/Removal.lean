import FlinkCluster.Proofs.Footprint
import FlinkCluster.Proofs.Refusals

/-!
# Deleting again

Deleting a cluster may be refused at any of its requests, and may be tried again.

* `Removes`: the laws of a server that deletes what it is asked to, or refuses without effect. The
  cluster in memory is one (`Cluster.removes`), where no call is made to fail as if its object were
  missing.
* `Service.Attempted.spec`: what any attempts to delete a cluster leave of objects and status.
* `Service.delete_retries`: the course of one attempt, and what is left once one of them completes.
-/

set_option autoImplicit false

namespace FlinkCluster

open Kubernetes Cluster Session

variable {σ τ α : Type}

/-! ## Laws -/

/-- The answers to a request to delete what is in some places, with the state after them. -/
inductive Removed (view : σ → Place → Option Resource) (gone : Place → Prop) (w : σ) :
    Outcome α × σ → Prop
  | deleted {answer : α} {w' : σ} :
    (∀ place, gone place → view w' place = none) →
    (∀ place, ¬ gone place → view w' place = view w place) →
    Removed view gone w (.ok answer, w')
  | missing {reason : String} {w' : σ} :
    (∀ place, gone place → view w place = none) → view w' = view w →
    Removed view gone w (.error (.api ⟨404, reason⟩), w')
  | refused {e : Failure} {w' : σ} :
    (∀ reason, e ≠ .api ⟨404, reason⟩) → view w' = view w → Removed view gone w (.error e, w')

/-- A server that deletes what it is asked to delete, or refuses without effect, in the worlds that
are sound. It is missing only if it is. -/
structure Removes (server : Server σ τ) (view : σ → Place → Option Resource)
    (sound : σ → Prop) : Prop where
  statefulSet : ∀ ns name policy w, sound w →
    Removed view (· = ⟨.statefulSet, ns, some name⟩) w
      (server.respond (.deleteStatefulSet ns name policy) w)
  configMaps : ∀ ns selector w, sound w →
    Removed view ((Request.deleteConfigMaps ns selector).Reaches (view w)) w
      (server.respond (.deleteConfigMaps ns selector) w)

/-- Whether there is something in a place that goes when a cluster is deleted: one of its stateful
sets or, if its metadata goes too, a config map with the labels of that. -/
def Doomed (metadata : DeploymentMetadata) (withMetadata : Bool)
    (objects : Place → Option Resource) (place : Place) : Prop :=
  ∃ r, objects place = some r ∧
    ((∃ role, place = ⟨.statefulSet, metadata.namespaceName,
        some (Naming.statefulSet metadata.name role)⟩) ∨
      withMetadata = true ∧ place.kind = .configMap ∧
        place.namespaceName = metadata.namespaceName ∧
        carries (Naming.highAvailabilityLabels metadata.name) r = true)

/-- Pods apart, nothing has changed but that some of what goes with a cluster is gone. -/
def Reduced (metadata : DeploymentMetadata) (withMetadata : Bool)
    (objects objects' : Place → Option Resource) : Prop :=
  ∀ place, place.kind ≠ .pod → objects' place = objects place ∨
    Doomed metadata withMetadata objects place ∧ objects' place = none

variable {view : σ → Place → Option Resource} {sound : σ → Prop} {server : Server σ τ}
  {metadata : DeploymentMetadata} {withMetadata : Bool} {r : Request} {w w' : σ}
  {trace : List (Event τ)}

namespace Reduced

variable {objects objects' objects'' : Place → Option Resource}

theorem of_eq (h : ∀ place, place.kind ≠ .pod → objects' place = objects place) :
    Reduced metadata withMetadata objects objects' :=
  fun place hplace => .inl (h place hplace)

theorem none (h : Reduced metadata withMetadata objects objects') {place : Place}
    (hplace : place.kind ≠ .pod) (hnone : objects place = none) : objects' place = none := by
  rcases h place hplace with heq | ⟨-, hgone⟩
  · rw [heq, hnone]
  · exact hgone

theorem trans (h : Reduced metadata withMetadata objects objects')
    (h' : Reduced metadata withMetadata objects' objects'') :
    Reduced metadata withMetadata objects objects'' := by
  intro place hplace
  rcases h place hplace with heq | ⟨hdoomed, hgone⟩
  · refine (h' place hplace).imp (·.trans heq) (And.imp_left ?_)
    rintro ⟨r, hr, hcause⟩
    exact ⟨r, heq.symm.trans hr, hcause⟩
  · exact .inr ⟨hdoomed, h'.none hplace hgone⟩

end Reduced

namespace Removed

variable {gone : Place → Prop}

theorem reduced {reply : Outcome α × σ} (h : Removed view gone w reply)
    (hgone : ∀ place o, view w place = some o → gone place →
      Doomed metadata withMetadata (view w) place) :
    Reduced metadata withMetadata (view w) (view reply.2) := by
  cases h with
  | deleted hnone hsame =>
    intro place _
    by_cases hplace : gone place
    · cases hview : view w place with
      | none => exact .inl (hnone place hplace)
      | some o => exact .inr ⟨hgone place o hview hplace, hnone place hplace⟩
    · exact .inl (hsame place hplace)
  | missing _ hview | refused _ hview => exact .of_eq fun place _ => congrFun hview place

/-- What a request to delete something leaves: what it was to delete is gone, and else nothing has
changed, or nothing at all has if it failed. -/
theorem outcome {out : Outcome Unit}
    (h : Removed view gone w (server.respond r w))
    (htolerated : Service.Tolerated server r w out trace w') :
    (out = .ok () ∧ (∀ place, gone place → view w' place = none) ∧
        ∀ place, ¬ gone place → view w' place = view w place) ∨
      (∃ e, out = .error e) ∧ view w' = view w := by
  cases htolerated with
  | deleted heq =>
    rw [heq] at h
    cases h with
    | deleted hnone hsame => exact .inl ⟨rfl, hnone, hsame⟩
  | @missing e _ heq he =>
    rw [heq] at h
    cases h with
    | missing hnone hview =>
      exact .inl ⟨rfl, fun place hplace => hview ▸ hnone place hplace, fun _ _ => by rw [hview]⟩
    | refused hne _ =>
      obtain ⟨status, reason⟩ := e
      obtain rfl := he
      exact absurd rfl (hne reason)
  | refused heq hne =>
    rw [heq] at h
    cases h with
    | missing => exact absurd rfl (hne _)
    | refused _ hview => exact .inr ⟨⟨_, rfl⟩, hview⟩

/-- What remains after a request to delete something was there before, and is something else. -/
theorem remains (h : Removed view gone w (server.respond r w))
    (htolerated : Service.Tolerated server r w (.ok ()) trace w') {place : Place} {o : Resource}
    (ho : view w' place = some o) : ¬ gone place ∧ view w place = some o := by
  obtain ⟨-, hnone, hsame⟩ | ⟨⟨_, herror⟩, -⟩ := h.outcome htolerated
  · have hnot : ¬ gone place := fun hplace => by
      rw [hnone place hplace] at ho
      cases ho
    exact ⟨hnot, hsame place hnot ▸ ho⟩
  · cases herror

end Removed

/-! ## Deletions -/

/-- Deleting high availability metadata reaches the config maps with its labels. -/
theorem reaches_highAvailability_iff {ns id : String} (hid : ',' ∉ id.toList)
    {objects : Place → Option Resource} {place : Place} :
    (Request.deleteConfigMaps ns (Naming.labelSelector (Naming.highAvailabilityLabels id))).Reaches
        objects place ↔
      place.kind = .configMap ∧ place.namespaceName = ns ∧
        ∃ r, objects place = some r ∧ carries (Naming.highAvailabilityLabels id) r = true := by
  obtain ⟨labels, hselected, hlabels⟩ := Naming.selectedLabels_highAvailability hid
  constructor
  · rintro ⟨hkind, hns, labels', r, hselected', hr, hcarries⟩
    obtain rfl := Except.ok.inj (hselected.symm.trans hselected')
    exact ⟨hkind, hns, r, hr, carries_congr hlabels r ▸ hcarries⟩
  · rintro ⟨hkind, hns, r, hr, hcarries⟩
    exact ⟨hkind, hns, labels, r, hselected, hr, (carries_congr hlabels r).trans hcarries⟩

/-- A request of a deletion removes only what goes with the cluster. -/
theorem reduced_respond (confined : Confined server view sound)
    (removes : Removes server view sound) (hname : ',' ∉ metadata.name.toList)
    (hr : r.OfDeletion metadata withMetadata) (hsound : sound w) :
    Reduced metadata withMetadata (view w) (view (server.respond r w).2) := by
  cases hr with
  | statefulSet role =>
    refine (removes.statefulSet _ _ _ w hsound).reduced fun place o ho hplace => ?_
    exact ⟨o, ho, .inl ⟨role, hplace⟩⟩
  | pods _ => exact .of_eq fun place hplace => confined.respond _ w place hsound hplace
  | configMaps hmetadata =>
    refine (removes.configMaps _ _ w hsound).reduced fun place o ho hreaches => ?_
    obtain ⟨hkind, hns, r, hr, hcarries⟩ := (reaches_highAvailability_iff hname).1 hreaches
    obtain rfl := Option.some.inj (ho.symm.trans hr)
    exact ⟨o, ho, .inr ⟨hmetadata, hkind, hns, hcarries⟩⟩

theorem Session.Path.reduced (confined : Confined server view sound)
    (removes : Removes server view sound) (hname : ',' ∉ metadata.name.toList) (hsound : sound w)
    (h : Path server (Request.OfDeletion metadata withMetadata) w trace w') :
    Reduced metadata withMetadata (view w) (view w') := by
  refine (Path.keeps (I := fun v => sound v ∧ Reduced metadata withMetadata (view w) (view v))
    ?_ ?_ ?_ h ⟨hsound, .of_eq fun _ _ => rfl⟩).2
  · rintro r v hr ⟨hv, hreduced⟩
    exact ⟨confined.respond_sound r v hv,
      hreduced.trans (reduced_respond confined removes hname hr hv)⟩
  · rintro v ⟨hv, hreduced⟩
    exact ⟨confined.now_sound v hv, by rwa [confined.now]⟩
  · rintro length v v' hpause ⟨hv, hreduced⟩
    exact ⟨confined.pause_sound length v v' hpause hv, by
      rwa [confined.pause length v v' hpause]⟩

namespace Service

theorem Tolerated.path {P : Request → Prop} {out : Outcome Unit} (hr : P r)
    (h : Tolerated server r w out trace w') : Path server P w trace w' := by
  cases h with
  | deleted heq | missing heq _ | refused heq _ => exact .exchange hr heq (.done w')

theorem BothDeleted.path {out : Outcome Unit} (h : BothDeleted server metadata w out trace w') :
    Path server (Request.OfDeletion metadata withMetadata) w trace w' := by
  cases h with
  | refused h => exact h.path (.statefulSet .taskManager)
  | andThen h h' =>
    exact (h.path (.statefulSet .taskManager)).append (h'.path (.statefulSet .jobManager))

/-- Once both stateful sets are deleted there is none. -/
theorem BothDeleted.gone (confined : Confined server view sound)
    (removes : Removes server view sound) (hname : ',' ∉ metadata.name.toList) (hsound : sound w)
    (h : BothDeleted server metadata w (.ok ()) trace w') (role : Role) :
    view w' ⟨.statefulSet, metadata.namespaceName, some (Naming.statefulSet metadata.name role)⟩ =
      none := by
  cases h with
  | @andThen _ _ _ u _ htask hjob =>
    have hpath : Path server (Request.OfDeletion metadata false) w _ u :=
      htask.path (.statefulSet .taskManager)
    have hsound' : sound u := hpath.sound confined hsound
    cases role with
    | jobManager =>
      refine Option.eq_none_iff_forall_ne_some.2 fun o ho => ?_
      exact ((removes.statefulSet _ _ _ u hsound').remains hjob ho).1 rfl
    | taskManager =>
      have hpath' : Path server (Request.OfDeletion metadata false) u _ w' :=
        hjob.path (.statefulSet .jobManager)
      have hreduced := hpath'.reduced confined removes hname hsound'
      refine hreduced.none (by simp) (Option.eq_none_iff_forall_ne_some.2 fun o ho => ?_)
      exact ((removes.statefulSet _ _ _ w hsound).remains htask ho).1 rfl

variable [Clock τ] {service : Service σ τ} {looks : Nat}

theorem path_of_awaitShutdown {out : Outcome Bool}
    (h : (service.awaitShutdown looks metadata).Yields w out trace w') :
    Path service.server (Request.OfDeletion metadata true) w trace w' :=
  (makes_awaitShutdown (.pods rfl) looks).path h

/-- **A deletion that completes** leaves nothing that goes with the cluster. -/
theorem Deletion.not_doomed (confined : Confined service.server view sound)
    (removes : Removes service.server view sound) (hname : ',' ∉ metadata.name.toList)
    (hstore : service.store = .configMaps service.server) (hsound : sound w)
    (h : Deletion service looks metadata withMetadata w (.ok ()) trace w') (place : Place) :
    ¬ Doomed metadata withMetadata (view w') place := by
  rintro ⟨o, ho, hcause⟩
  cases h with
  | plain hmetadata hboth =>
    obtain ⟨role, rfl⟩ | ⟨h, -⟩ := hcause
    · rw [hboth.gone confined removes hname hsound role] at ho
      cases ho
    · cases h.symm.trans hmetadata
  | @purged ended _ deletes wait called v v' _ hmetadata hboth hwait hcalled =>
    obtain rfl := hmetadata
    rw [hstore] at hcalled
    have htolerated := tolerated_of_configMaps hcalled
    have hdeletes : Path service.server (Request.OfDeletion metadata true) w deletes v :=
      hboth.path
    have hsound' : sound v := hdeletes.sound confined hsound
    have hawait := path_of_awaitShutdown hwait
    obtain ⟨role, rfl⟩ | ⟨-, hkind, hns, hcarries⟩ := hcause
    · have hreduced := Path.reduced confined removes hname hsound'
        (hawait.append (htolerated.path (.configMaps rfl)))
      have hgone := hboth.gone confined removes hname hsound role
      rw [hreduced.none (by simp) hgone] at ho
      cases ho
    · obtain ⟨hnot, ho'⟩ := (removes.configMaps _ _ v' (hawait.sound confined hsound')).remains
        htolerated ho
      exact hnot ((reaches_highAvailability_iff hname).2 ⟨hkind, hns, o, ho', hcarries⟩)

/-! ## Attempts -/

/-- The worlds and statuses that attempts to delete a cluster lead to. Each may end as it will, and
between two of them anything may happen that leaves all objects but pods as they are. -/
inductive Attempted (service : Service σ τ) (view : σ → Place → Option Resource)
    (sound : σ → Prop) (metadata : DeploymentMetadata) (withMetadata : Bool) (w : σ)
    (status : Option DeploymentStatus) : σ → Option DeploymentStatus → Prop
  | start : Attempted service view sound metadata withMetadata w status w status
  | meanwhile {w' w'' : σ} {status' : Option DeploymentStatus} :
    Attempted service view sound metadata withMetadata w status w' status' →
    (∀ place, place.kind ≠ .pod → view w'' place = view w' place) → sound w'' →
    Attempted service view sound metadata withMetadata w status w'' status'
  | attempt {looks : Nat} {w' w'' : σ} {status' status'' : Option DeploymentStatus}
    {out : Outcome Unit} {trace : List (Event τ)} :
    Attempted service view sound metadata withMetadata w status w' status' →
    (service.delete looks metadata withMetadata).Yields w' out trace w'' →
    (service.delete looks metadata withMetadata).Leaves w' status' status'' →
    Attempted service view sound metadata withMetadata w status w'' status''

variable {status status' : Option DeploymentStatus}

theorem path_of_delete {out : Outcome Unit}
    (hstore : service.store = .configMaps service.server)
    (h : (service.delete looks metadata withMetadata).Yields w out trace w') :
    Path service.server (Request.OfDeletion metadata withMetadata) w trace w' :=
  (makes_delete hstore).path h

/-- Attempts remove only what goes with the cluster, and those that fail do not touch the status. -/
theorem Attempted.spec (confined : Confined service.server view sound)
    (removes : Removes service.server view sound) (hname : ',' ∉ metadata.name.toList)
    (hstore : service.store = .configMaps service.server) (hsound : sound w)
    (h : Attempted service view sound metadata withMetadata w status w' status') :
    sound w' ∧ Reduced metadata withMetadata (view w) (view w') ∧
      status'.map (·.deleted) = status.map (·.deleted) := by
  induction h with
  | start => exact ⟨hsound, .of_eq fun _ _ => rfl, rfl⟩
  | meanwhile _ hview hsound' ih => exact ⟨hsound', ih.2.1.trans (.of_eq hview), ih.2.2⟩
  | @attempt looks v v' status' status'' out trace _ hyields hleaves ih =>
    obtain ⟨hsound', hreduced, hstatus⟩ := ih
    have hpath := path_of_delete hstore hyields
    refine ⟨hpath.sound confined hsound',
      hreduced.trans (hpath.reduced confined removes hname hsound'), ?_⟩
    rw [hleaves.unique (leaves_delete hyields status'), ← hstatus]
    cases out with
    | error e => rfl
    | ok _ =>
      cases status' with
      | none => rfl
      | some s => exact congrArg some s.deleted_deleted

/-- **Deleting a cluster may be tried again.** One attempt goes through the requests of a deletion;
a refusal is its end, unless something to delete is missing. It leaves the status of a deleted
cluster if no request failed, and else the status as it was. Once an attempt completes, after any
others that ended anywhere, what goes with the cluster is gone and all else is as it was before the
first of them, pods apart. -/
theorem delete_retries (service : Service σ τ) (hstore : service.store.Answers)
    (metadata : DeploymentMetadata) (withMetadata : Bool) :
    (∀ looks status w, ∃ out trace w' after,
      Deletion service looks metadata withMetadata w out trace w' ∧
      (service.delete looks metadata withMetadata).Yields w out trace w' ∧
      (service.delete looks metadata withMetadata).Leaves w status after ∧
      (out = .ok () → Option.Rel DeploymentStatus.DeletedFrom status after) ∧
      (out ≠ .ok () → after = status) ∧
      (service.store.StopsAtRefusal → StopsAtRefusal out trace)) ∧
    (service.store = .configMaps service.server →
      service.store.StopsAtRefusal ∧
      ∀ (view : σ → Place → Option Resource) (sound : σ → Prop),
        Confined service.server view sound → Removes service.server view sound →
        ',' ∉ metadata.name.toList →
        ∀ looks status status' after w w' w'' trace, sound w →
          Attempted service view sound metadata withMetadata w status w' status' →
          (service.delete looks metadata withMetadata).Yields w' (.ok ()) trace w'' →
          (service.delete looks metadata withMetadata).Leaves w' status' after →
          (∀ place, ¬ Doomed metadata withMetadata (view w'') place) ∧
          Reduced metadata withMetadata (view w) (view w'') ∧
          after = status.map (·.deleted)) := by
  refine ⟨fun looks status w => ?_, fun hmaps => ⟨hmaps ▸ configMaps_stopsAtRefusal _, ?_⟩⟩
  · obtain ⟨out, trace, w', hdeletion, hyields⟩ :=
      delete_yields hstore looks metadata withMetadata w
    refine ⟨out, trace, w', _, hdeletion, hyields, leaves_delete hyields status, ?_, ?_,
      hdeletion.stopsAtRefusal⟩
    · rintro rfl
      cases status with
      | none => exact .none
      | some s => exact .some s.deletedFrom_deleted
    · intro hfailed
      cases out with
      | error e => rfl
      | ok _ => exact absurd rfl hfailed
  · intro view sound confined removes hname looks status status' after w w' w'' trace hsound
      hattempted hdone hleaves
    obtain ⟨hsound', hreduced, hstatus⟩ := hattempted.spec confined removes hname hmaps hsound
    have hdeletion := deletion_of_yields hstore hdone
    have hlast := (path_of_delete hmaps hdone).reduced confined removes hname hsound'
    exact ⟨hdeletion.not_doomed confined removes hname hmaps hsound', hreduced.trans hlast,
      (hleaves.unique (leaves_delete hdone status')).trans hstatus⟩

end Service

/-! ## The cluster in memory -/

namespace Cluster

/-- No place holds two objects, and no call is going to be refused as if its object were missing. -/
structure Honest (c : Cluster) : Prop where
  sound : c.Sound
  faults : ∀ f ∈ c.faults, f.error.status ≠ 404

instance (c : Cluster) : Decidable c.Honest :=
  decidable_of_iff (c.Sound ∧ ∀ f ∈ c.faults, f.error.status ≠ 404)
    ⟨fun h => ⟨h.1, h.2⟩, fun h => ⟨h.sound, h.faults⟩⟩

theorem takeFault_errors {operation : String} {faults rest : List Fault} {e : ApiError}
    (h : takeFault operation faults = some (e, rest)) :
    e ∈ faults.map (·.error) ∧ ∀ f ∈ rest, f.error ∈ faults.map (·.error) := by
  induction faults generalizing rest with
  | nil => cases h
  | cons f fs ih =>
    rw [takeFault] at h
    split at h
    · obtain ⟨rfl, rfl⟩ := Prod.mk.inj (Option.some.inj h)
      refine ⟨by simp, fun f' hf' => ?_⟩
      rcases List.mem_cons.1 hf' with rfl | hf'
      · exact List.mem_cons_self
      · exact List.mem_cons_of_mem _ (List.mem_map_of_mem hf')
    · obtain ⟨⟨e', rest'⟩, htake, heq⟩ := Option.map_eq_some_iff.1 h
      obtain ⟨rfl, rfl⟩ := Prod.mk.inj heq
      obtain ⟨he, hrest⟩ := ih htake
      refine ⟨List.mem_cons_of_mem _ he, fun f' hf' => ?_⟩
      rcases List.mem_cons.1 hf' with rfl | hf'
      · exact List.mem_cons_self
      · exact List.mem_cons_of_mem _ (hrest f' hf')

theorem faults_answer (c : Cluster) (r : Request) : (c.answer r).2.faults = c.faults := by
  cases r with
  | create ns body =>
    obtain ⟨_, -, -, hfaults⟩ := c.store_spec ns body
    simp only [answer]
    split
    · rfl
    · exact hfaults
  | patch | readStatefulSet | deleteStatefulSet | listPods | deleteConfigMaps =>
    simp only [answer]
    split <;> rfl
  | scaleStatefulSet =>
    simp only [answer]
    split
    · split <;> rfl
    · rfl

/-- A call to an honest cluster is refused without effect, but not as if its object were missing,
or answered. -/
theorem Honest.respond_cases {c : Cluster} (h : c.Honest) (r : Request) :
    (∃ e c', respond r c = (.error (.api e), c') ∧ e.status ≠ 404 ∧ c'.get? = c.get? ∧ c'.Honest) ∨
      respond r c = c.answer r := by
  unfold respond
  cases htake : takeFault r.operation c.faults with
  | none => exact .inr rfl
  | some taken =>
    obtain ⟨he, hrest⟩ := takeFault_errors htake
    have herrors {e : ApiError} (he : e ∈ c.faults.map (·.error)) : e.status ≠ 404 := by
      obtain ⟨f, hf, rfl⟩ := List.mem_map.1 he
      exact h.faults f hf
    exact .inl ⟨taken.1, _, rfl, herrors he, rfl, h.sound, fun f hf => herrors (hrest f hf)⟩

theorem confined_honest : Confined Cluster.server get? Honest where
  respond_sound r c h := by
    change (respond r c).2.Honest
    rcases h.respond_cases r with ⟨e, c', heq, -, -, hhonest⟩ | heq <;> rw [heq]
    · exact hhonest
    · exact ⟨h.sound.answer r, by rw [faults_answer]; exact h.faults⟩
  respond r c place h := confined.respond r c place h.sound
  now_sound c h := h
  now := confined.now
  pause_sound length c c' hpause h := by
    obtain ⟨time, -, rfl⟩ := Outcome.map_ok hpause
    exact ⟨h.sound, h.faults⟩
  pause := confined.pause

theorem answer_deleteStatefulSet (c : Cluster) (ns name policy : String) :
    Removed get? (· = ⟨.statefulSet, ns, some name⟩) c
      (c.answer (.deleteStatefulSet ns name policy)) := by
  cases hplace : c.get? ⟨.statefulSet, ns, some name⟩ with
  | none =>
    simp only [answer, hplace]
    exact .missing (fun place h => h ▸ hplace) rfl
  | some o =>
    simp only [answer, hplace]
    refine .deleted (fun place h => ?_) fun place h => ?_
    · rw [erase, get?_eraseWhere, if_pos (by simpa using h)]
    · rw [erase, get?_eraseWhere, if_neg (by simpa using h)]

theorem answer_deleteConfigMaps {c : Cluster} (h : c.Sound) (ns selector : String) :
    Removed get? ((Request.deleteConfigMaps ns selector).Reaches c.get?) c
      (c.answer (.deleteConfigMaps ns selector)) := by
  cases hselected : c.selected .configMap ns selector with
  | error e =>
    simp only [answer, hselected]
    refine .refused (fun reason => ?_) rfl
    unfold selected at hselected
    split at hselected
    · cases hselected
    · obtain rfl := Except.error.inj hselected
      simp
  | ok gone =>
    simp only [answer, hselected]
    refine .deleted (fun place hreaches => ?_) fun place hreaches => ?_
    · obtain ⟨hkind, hns, labels, r, hlabels, hr, hcarries⟩ := hreaches
      have hmem : place ∈ gone := mem_selected h hselected hkind hns hlabels hr hcarries
      rw [get?_eraseWhere, if_pos (List.contains_iff_mem.2 hmem)]
    · rw [get?_eraseWhere, if_neg]
      rw [List.contains_iff_mem]
      exact fun hmem => hreaches (carries_of_mem_selected h hselected hmem)

/-- The cluster in memory deletes what it is asked to. -/
theorem removes : Removes Cluster.server get? Honest where
  statefulSet ns name policy c h := by
    change Removed get? _ c (respond (.deleteStatefulSet ns name policy) c)
    rcases h.respond_cases (.deleteStatefulSet ns name policy) with
      ⟨e, c', heq, he, hview, -⟩ | heq <;> rw [heq]
    · exact .refused (by rintro reason ⟨⟩; exact he rfl) hview
    · exact c.answer_deleteStatefulSet ns name policy
  configMaps ns selector c h := by
    change Removed get? _ c (respond (.deleteConfigMaps ns selector) c)
    rcases h.respond_cases (.deleteConfigMaps ns selector) with
      ⟨e, c', heq, he, hview, -⟩ | heq <;> rw [heq]
    · exact .refused (by rintro reason ⟨⟩; exact he rfl) hview
    · exact answer_deleteConfigMaps h.sound ns selector

end Cluster

/-! ## A deletion that fails once -/

namespace Naming

theorem labelSelector_demo :
    labelSelector (commonLabels "demo") = "app=demo,type=flink-standalone-kubernetes" := by
  rw [labelSelector, sorted_commonLabels]
  decide +kernel

theorem labelSelector_highAvailability_demo :
    labelSelector (highAvailabilityLabels "demo") =
      "app=demo,configmap-type=high-availability,type=flink-native-kubernetes" := by
  rw [labelSelector, sorted_highAvailabilityLabels]
  decide +kernel

end Naming

/-- A cluster in memory that refuses once to delete high availability metadata. It holds the
stateful sets of a deployment, a config map with such metadata, and one without. -/
def Cluster.standing : Cluster where
  objects := [
    (⟨.statefulSet, "default", some "demo-taskmanager"⟩, .statefulSet {}),
    (⟨.statefulSet, "default", some "demo"⟩, .statefulSet {}),
    (⟨.configMap, "default", some "demo-leader"⟩, .configMap { metadata := some {
      labels := some (ofTexts (Naming.highAvailabilityLabels "demo")) } }),
    (⟨.configMap, "default", some "flink-config-demo"⟩, .configMap {})]
  faults := [⟨"delete_collection_namespaced_config_map", ⟨500, "InternalError"⟩, 1⟩]

/-- Deletes that deployment from a state of the cluster in memory. -/
def Cluster.deleteDemo (c : Cluster) : Outcome Unit × Run Cluster Seconds :=
  ((Cluster.service ⟨.whole 0, .whole 1⟩).delete 1 { name := "demo" } true).run.run
    { world := c, status := some {} }

/-- The cluster in memory after the attempt that was refused. -/
def Cluster.halfDeleted : Cluster := Cluster.standing.deleteDemo.2.world

theorem Cluster.deleteDemo_standing :
    Cluster.standing.deleteDemo.1 = .error (.api ⟨500, "InternalError"⟩) := by
  simp only [deleteDemo, Service.delete, Service.awaitShutdown, service,
    AvailabilityStore.configMaps, Naming.labelSelector_demo]
  decide +kernel

theorem Cluster.deleteDemo_halfDeleted : Cluster.halfDeleted.deleteDemo.1 = .ok () := by
  simp only [halfDeleted, deleteDemo, Service.delete, Service.awaitShutdown, service,
    AvailabilityStore.configMaps, Naming.labelSelector_demo]
  rw [Naming.labelSelector_highAvailability_demo]
  decide +kernel

/-- The second attempt removes what the first one left, and no other config map. -/
theorem Service.delete_retries_once :
    Cluster.standing.Honest ∧ ',' ∉ "demo".toList ∧
      Cluster.standing.deleteDemo.1 = .error (.api ⟨500, "InternalError"⟩) ∧
      Cluster.halfDeleted.deleteDemo.1 = .ok () ∧
      Cluster.halfDeleted.deleteDemo.2.status = some (DeploymentStatus.deleted {}) ∧
      Cluster.halfDeleted.deleteDemo.2.world.get? ⟨.configMap, "default", some "demo-leader"⟩ =
        none ∧
      Cluster.halfDeleted.deleteDemo.2.world.get?
          ⟨.configMap, "default", some "flink-config-demo"⟩ = some (.configMap {}) := by
  have hhonest : Cluster.standing.Honest := by decide
  have hname : ',' ∉ "demo".toList := by decide
  obtain ⟨hcourse, hretries⟩ := delete_retries (Cluster.service ⟨.whole 0, .whole 1⟩)
    (answers_configMaps _) { name := "demo" } true
  have hrun (c : Cluster) : ∃ trace, Session.Yields
      ((Cluster.service ⟨.whole 0, .whole 1⟩).delete 1 { name := "demo" } true) c
      c.deleteDemo.1 trace c.deleteDemo.2.world := by
    obtain ⟨_, trace, _, _, -, hyields, -⟩ := hcourse 1 (some {}) c
    exact ⟨trace, hyields.of_run⟩
  obtain ⟨_, hfailed⟩ := hrun Cluster.standing
  obtain ⟨_, hdone⟩ := hrun Cluster.halfDeleted
  have hkept := leaves_delete hfailed (some {})
  have hleft := leaves_delete hdone (some {})
  rw [Cluster.deleteDemo_halfDeleted] at hdone hleft
  rw [Cluster.deleteDemo_standing] at hfailed hkept
  obtain ⟨hgone, hreduced, hstatus⟩ := (hretries rfl).2 Cluster.get? Cluster.Honest
    Cluster.confined_honest Cluster.removes hname 1 (some {}) (some {}) _ Cluster.standing _ _ _
    hhonest (.attempt .start hfailed hkept) hdone hleft
  refine ⟨hhonest, hname, Cluster.deleteDemo_standing, Cluster.deleteDemo_halfDeleted,
    (hleft []).trans hstatus, ?_, ?_⟩
  · rcases hreduced ⟨.configMap, "default", some "demo-leader"⟩ (by decide) with
      hsame | ⟨-, hnone⟩
    · refine absurd ⟨_, hsame.trans rfl, .inr ⟨rfl, rfl, rfl, ?_⟩⟩
        (hgone ⟨.configMap, "default", some "demo-leader"⟩)
      decide +kernel
    · exact hnone
  · rcases hreduced ⟨.configMap, "default", some "flink-config-demo"⟩ (by decide) with
      hsame | ⟨⟨o, ho, hcause⟩, -⟩
    · exact hsame
    · obtain rfl := Option.some.inj ho
      rcases hcause with ⟨role, hrole⟩ | ⟨-, -, -, hcarries⟩
      · cases hrole
      · exact absurd hcarries (by decide +kernel)

end FlinkCluster
