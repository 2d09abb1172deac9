import FlinkCluster.Proofs.Deploying
import FlinkCluster.Proofs.EffectiveLayers
import FlinkCluster.Proofs.ObjectStore

/-!
# Deploying again

Deploying a cluster on a server that keeps objects. Whatever was there before, and however many
attempts failed on the way, a deployment that completes leaves the objects of its plan in their
places and every other place as it was.

* `Service.AppliedAll.frame`, `Service.AppliedAll.stored`: what applying objects leaves unchanged,
  and what it stores if none is refused.
* `Plan.StoredIn`: all objects of a plan are stored, the resources under the uid of the job manager.
* `Service.deploy_completes`: without disturbance a deployment completes.
* `Service.deploy_converges`: after failed attempts the objects are those that one undisturbed
  deployment leaves, up to uids.
-/

set_option autoImplicit false

namespace FlinkCluster

open Kubernetes Cluster

variable {σ τ : Type} {server : Server σ τ} {view : σ → Place → Option Resource} {ns : String}

/-! ## Places -/

theorem placeOf_of_identity? {r : Resource} {kind : ObjectKind} {name : String}
    (h : r.identity? = some (kind, name)) : placeOf ns r = ⟨r.kind, ns, some r.name⟩ := by
  obtain ⟨-, -, hname⟩ := Resource.identity?_eq_some.1 h
  rw [placeOf, hname, Resource.name_of_identity? h]

namespace Plan

variable {plan : Plan}

/-- The places of the objects of a plan. -/
def places (plan : Plan) : List Place :=
  (.statefulSet plan.jobManager.statefulSet ::
    (plan.jobManager.resources ++ [.statefulSet plan.taskManager])).map
      (placeOf plan.namespaceName)

theorem placeOf_owned (uid : String) (r : Resource) :
    placeOf ns (plan.owned uid r) = placeOf ns r := by
  rw [placeOf, placeOf, owned, Resource.kind_withMetadata, Resource.metadata_withMetadata]

theorem places_objects (plan : Plan) (uid : String) :
    (plan.objects uid).map (placeOf plan.namespaceName) = plan.places := by
  simp only [objects, places, List.map_cons, List.map_append, List.map_map, List.map_nil]
  congr 2
  exact List.map_congr_left fun r _ => placeOf_owned uid r

theorem Built.nodup_places (h : plan.Built) (uid : String) :
    ((plan.objects uid).map (placeOf plan.namespaceName)).Nodup := by
  have hpairs := List.pairwise_map.1 (h.nodup_objects uid)
  refine List.pairwise_map.2 (hpairs.imp_of_mem fun {r r'} hr hr' hne heq => hne ?_)
  obtain ⟨kind, name, hi⟩ := h.exists_identity_of_mem_objects hr
  obtain ⟨kind', name', hi'⟩ := h.exists_identity_of_mem_objects hr'
  obtain ⟨rfl, -, hname⟩ := Resource.identity?_eq_some.1 hi
  obtain ⟨rfl, -, hname'⟩ := Resource.identity?_eq_some.1 hi'
  obtain ⟨hkind, -, hplaces⟩ := Place.mk.inj heq
  rw [hi, hi', hkind, Option.some.inj (hname.symm.trans (hplaces.trans hname'))]

end Plan

/-! ## Applying objects -/

namespace Service

variable {r : Resource} {rs answers : List Resource} {w w' : σ} {trace : List (Event τ)}

/-- Applying an object stores it in its place, or changes nothing. -/
theorem Applied.stored_or_unchanged (laws : ObjectStore server view) {answer : Outcome Resource}
    (hr : ∃ kind name, r.identity? = some (kind, name))
    (h : Applied server ns r w trace answer w') :
    (∃ uid, answer = .ok (settled ns uid r) ∧
      view w' = Function.update (view w) (placeOf ns r) (some (settled ns uid r))) ∨
    ((∃ e, answer = .error e) ∧ view w' = view w) := by
  obtain ⟨kind, name, hi⟩ := hr
  have hcreate := laws.create ns r w
  cases h with
  | created hresponse =>
    rw [hresponse] at hcreate
    cases hcreate with
    | stored hfree hview => exact .inl ⟨_, rfl, hview⟩
  | refused hresponse hconflict =>
    rw [hresponse] at hcreate
    cases hcreate with
    | refused hview => exact .inr ⟨⟨_, rfl⟩, hview⟩
  | @patched e answer v w' hresponse hconflict hpatched =>
    rw [hresponse] at hcreate
    have hpatch := laws.patch ns r.name r v
    rw [hpatched] at hpatch
    cases hcreate with
    | refused hview =>
      cases hpatch with
      | replaced hplace huid hview' =>
        rw [← placeOf_of_identity? hi, hview] at hview'
        exact .inl ⟨_, rfl, hview'⟩
      | refused hview' => exact .inr ⟨⟨_, rfl⟩, hview'.trans hview⟩

namespace AppliedAll

variable {failure : Option Failure}

/-- Applying objects changes nothing outside their places. -/
theorem frame (laws : ObjectStore server view)
    (hrs : ∀ r ∈ rs, ∃ kind name, r.identity? = some (kind, name))
    (h : AppliedAll server ns rs w trace answers failure w') {place : Place}
    (hplace : place ∉ rs.map (placeOf ns)) : view w' place = view w place := by
  induction h with
  | done w => rfl
  | @next r stored rs answers w w' w'' _ _ _ hfirst _ ih =>
    rw [List.map_cons, List.mem_cons, not_or] at hplace
    rw [ih (fun r' hr' => hrs r' (List.mem_cons_of_mem r hr')) hplace.2]
    rcases hfirst.stored_or_unchanged laws (hrs r List.mem_cons_self) with
      ⟨uid, -, hview⟩ | ⟨-, hview⟩
    · rw [hview, Function.update_of_ne hplace.1]
    · rw [hview]
  | @stop r rs w w' _ _ hfirst =>
    rw [List.map_cons, List.mem_cons, not_or] at hplace
    rcases hfirst.stored_or_unchanged laws (hrs r List.mem_cons_self) with
      ⟨uid, hok, -⟩ | ⟨-, hview⟩
    · cases hok
    · rw [hview]

/-- Objects that were all applied are stored in their places as they were answered. -/
theorem stored (laws : ObjectStore server view)
    (hrs : ∀ r ∈ rs, ∃ kind name, r.identity? = some (kind, name))
    (hnodup : (rs.map (placeOf ns)).Nodup)
    (h : AppliedAll server ns rs w trace answers failure w') (hnone : failure = none) :
    List.Forall₂ (fun r answer => view w' (placeOf ns r) = some answer ∧
      ∃ uid, answer = settled ns uid r) rs answers := by
  induction h with
  | done w => exact .nil
  | @next r stored rs answers w w' w'' _ _ _ hfirst hrest ih =>
    rw [List.map_cons, List.nodup_cons] at hnodup
    have hrs' : ∀ r' ∈ rs, ∃ kind name, r'.identity? = some (kind, name) :=
      fun r' hr' => hrs r' (List.mem_cons_of_mem r hr')
    refine .cons ?_ (ih hrs' hnodup.2 hnone)
    rcases hfirst.stored_or_unchanged laws (hrs r List.mem_cons_self) with
      ⟨uid, hok, hview⟩ | ⟨⟨e, he⟩, -⟩
    · rw [hrest.frame laws hrs' hnodup.1, hview, Function.update_self, Except.ok.inj hok]
      exact ⟨rfl, uid, rfl⟩
    · cases he
  | stop _ => cases hnone

end AppliedAll

end Service

/-! ## Stored plans -/

/-- All objects of a plan are in their places: the job manager under the given uid, the resources
with it as their owner, and the task managers. -/
structure Plan.StoredIn (plan : Plan) (uid : String) (objects : Place → Option Resource) :
    Prop where
  jobManager : objects (placeOf plan.namespaceName (.statefulSet plan.jobManager.statefulSet)) =
    some (settled plan.namespaceName uid (.statefulSet plan.jobManager.statefulSet))
  resources : ∀ r ∈ plan.jobManager.resources, ∃ u, objects (placeOf plan.namespaceName r) =
    some (settled plan.namespaceName u (plan.owned uid r))
  taskManager : ∃ u, objects (placeOf plan.namespaceName (.statefulSet plan.taskManager)) =
    some (settled plan.namespaceName u (.statefulSet plan.taskManager))

namespace Service

variable {plan : Plan} {w w' : σ} {trace : List (Event τ)}

theorem Written.frame (laws : ObjectStore server view) (hplan : plan.Built) {out : Outcome Unit}
    (h : Written server plan w out trace w') {place : Place} (hplace : place ∉ plan.places) :
    view w' place = view w place := by
  cases h with
  | objects uid hall _ =>
    rw [← plan.places_objects uid] at hplace
    exact hall.frame laws (fun r hr => hplan.exists_identity_of_mem_objects hr) hplace
  | nameless happlied _ =>
    obtain ⟨uid, -, hview⟩ | ⟨-, hview⟩ :=
      happlied.stored_or_unchanged laws ⟨_, _, hplan.jobManager⟩
    · have hne : place ≠
          placeOf plan.namespaceName (.statefulSet plan.jobManager.statefulSet) :=
        fun heq => hplace (heq.symm ▸ List.mem_cons_self)
      rw [hview, Function.update_of_ne hne]
    · rw [hview]

theorem Written.stored (laws : ObjectStore server view) (hplan : plan.Built)
    (h : Written server plan w (.ok ()) trace w') : ∃ uid, plan.StoredIn uid (view w') := by
  generalize hout : Except.ok () = out at h
  cases h with
  | nameless _ _ => cases hout
  | @objects uid trace answers failure _ hall huid =>
    refine ⟨uid, ?_⟩
    have hnone : failure = none := by
      cases failure with
      | none => rfl
      | some e => cases hout
    have hstored := hall.stored laws (fun r hr => hplan.exists_identity_of_mem_objects hr)
      (hplan.nodup_places uid) hnone
    -- The first answer is the job manager's, whose uid the resources carry.
    obtain ⟨answer, answers, ⟨hjobManager, u, rfl⟩, hrest, rfl⟩ :=
      List.forall₂_cons_left_iff.1 hstored
    have hu : u = uid := by
      have h := huid _ (by rw [List.head?_cons]; rfl)
      rw [settled, Resource.metadata_withMetadata] at h
      exact Option.some.inj h
    have hmem {r : Resource}
        (hr : r ∈ plan.jobManager.resources.map (plan.owned uid) ++
          [.statefulSet plan.taskManager]) :
        ∃ u, view w' (placeOf plan.namespaceName r) =
          some (settled plan.namespaceName u r) := by
      obtain ⟨i, hi, rfl⟩ := List.getElem_of_mem hr
      obtain ⟨hview, u, hu⟩ := hrest.get hi (hrest.length_eq ▸ hi)
      exact ⟨u, hview.trans (congrArg some hu)⟩
    refine ⟨hu ▸ hjobManager, fun r hr => ?_, hmem (List.mem_append_right _ (by simp))⟩
    rw [← plan.placeOf_owned uid r]
    exact hmem (List.mem_append_left _ (List.mem_map_of_mem hr))

/-! ## Without disturbance -/

variable {calm : σ → Prop} {r : Resource} {rs answers : List Resource}

theorem Applied.ok_of_calm (laws : ObjectStore server view) (quiet : Undisturbed server view calm)
    (hr : ∃ kind name, r.identity? = some (kind, name)) {answer : Outcome Resource}
    (h : Applied server ns r w trace answer w') (hcalm : calm w) :
    (∃ stored, answer = .ok stored) ∧ calm w' := by
  obtain ⟨kind, name, hi⟩ := hr
  have hlaw := laws.create ns r w
  have hafter := quiet.create_calm ns r w hcalm
  cases h with
  | created hresponse =>
    rw [hresponse] at hafter
    exact ⟨⟨_, rfl⟩, hafter⟩
  | refused hresponse hconflict =>
    have h := quiet.create_conflict ns r w _ hcalm (congrArg Prod.fst hresponse)
    rw [hconflict] at h
    cases h
  | @patched e answer v w' hresponse _ hpatched =>
    -- The object that was in the way is still there, so that it can be patched.
    have htaken : (view w (placeOf ns r)).isSome := by
      by_contra hfree
      have hok := quiet.create_free ns r w hcalm (Option.not_isSome_iff_eq_none.1 hfree)
      rw [hresponse] at hok
      cases hok
    rw [hresponse] at hlaw hafter
    cases hlaw with
    | refused hview =>
      rw [← hview, placeOf_of_identity? hi] at htaken
      have hok := quiet.patch_taken ns r.name r v hafter htaken
      have hafter' := quiet.patch_calm ns r.name r v hafter
      rw [hpatched] at hok hafter'
      exact ⟨Outcome.exists_of_isOk hok, hafter'⟩

theorem AppliedAll.none_of_calm (laws : ObjectStore server view)
    (quiet : Undisturbed server view calm) {failure : Option Failure}
    (hrs : ∀ r ∈ rs, ∃ kind name, r.identity? = some (kind, name))
    (h : AppliedAll server ns rs w trace answers failure w') (hcalm : calm w) :
    failure = none ∧ calm w' := by
  induction h with
  | done w => exact ⟨rfl, hcalm⟩
  | @next r _ rs _ _ _ _ _ _ _ hfirst _ ih =>
    obtain ⟨-, hcalm'⟩ := hfirst.ok_of_calm laws quiet (hrs r List.mem_cons_self) hcalm
    exact ih (fun r' hr' => hrs r' (List.mem_cons_of_mem r hr')) hcalm'
  | @stop r _ _ _ _ _ hfirst =>
    obtain ⟨⟨stored, hok⟩, -⟩ := hfirst.ok_of_calm laws quiet (hrs r List.mem_cons_self) hcalm
    cases hok

variable {service : Service σ τ} {host : Host} {spec : DeploymentSpec} {conf : Configuration}

/-- Without disturbance a deployment completes. -/
theorem deploy_completes (laws : ObjectStore service.server view)
    (quiet : Undisturbed service.server view calm) (hplan : Plan.make host spec conf = .ok plan)
    (hcalm : calm w) :
    ∃ trace w', (service.deploy host spec conf).Yields w (.ok ()) trace w' ∧ calm w' := by
  have hbuilt := Plan.built_of_make hplan
  obtain ⟨out, trace, w', hwritten, hyields⟩ := service.deploy_yields hplan w
  cases hwritten with
  | objects uid hall _ =>
    obtain ⟨rfl, hcalm'⟩ := hall.none_of_calm laws quiet
      (fun r hr => hbuilt.exists_identity_of_mem_objects hr) hcalm
    exact ⟨trace, w', hyields, hcalm'⟩
  | nameless happlied huid =>
    -- What is stored has a uid.
    obtain ⟨uid, hok, -⟩ | ⟨⟨e, he⟩, -⟩ :=
      happlied.stored_or_unchanged laws ⟨_, _, hbuilt.jobManager⟩
    · rw [Except.ok.inj hok, settled, Resource.metadata_withMetadata] at huid
      cases huid
    · cases he

/-! ## Attempts -/

theorem deploy_frame (laws : ObjectStore service.server view)
    (hplan : Plan.make host spec conf = .ok plan) {out : Outcome Unit}
    (h : (service.deploy host spec conf).Yields w out trace w') {place : Place}
    (hplace : place ∉ plan.places) : view w' place = view w place := by
  obtain ⟨_, _, v, hwritten, hyields⟩ := service.deploy_yields hplan w
  obtain ⟨-, -, rfl⟩ := h.unique hyields
  exact hwritten.frame laws (Plan.built_of_make hplan) hplace

theorem deploy_stored (laws : ObjectStore service.server view)
    (h : (service.deploy host spec conf).Yields w (.ok ()) trace w') :
    ∃ plan uid, Plan.make host spec conf = .ok plan ∧ plan.StoredIn uid (view w') := by
  cases hplan : Plan.make host spec conf with
  | error e =>
    obtain ⟨hout, -⟩ := h.unique (service.deploy_yields_of_error hplan w)
    cases hout
  | ok plan =>
    obtain ⟨out, _, v, hwritten, hyields⟩ := service.deploy_yields hplan w
    obtain ⟨rfl, -, rfl⟩ := h.unique hyields
    obtain ⟨uid, hstored⟩ := hwritten.stored laws (Plan.built_of_make hplan)
    exact ⟨plan, uid, rfl, hstored⟩

/-- The worlds that attempts to deploy lead to. Each may end as it will, and between two of them
anything may happen that leaves the objects as they are. -/
inductive Retried (service : Service σ τ) (view : σ → Place → Option Resource) (host : Host)
    (spec : DeploymentSpec) (conf : Configuration) (w : σ) : σ → Prop
  | start : Retried service view host spec conf w w
  | meanwhile {w' w'' : σ} : Retried service view host spec conf w w' → view w'' = view w' →
    Retried service view host spec conf w w''
  | attempt {w' w'' : σ} {out : Outcome Unit} {trace : List (Event τ)} :
    Retried service view host spec conf w w' →
    (service.deploy host spec conf).Yields w' out trace w'' →
    Retried service view host spec conf w w''

theorem Retried.frame (laws : ObjectStore service.server view)
    (hplan : Plan.make host spec conf = .ok plan)
    (h : Retried service view host spec conf w w') {place : Place} (hplace : place ∉ plan.places) :
    view w' place = view w place := by
  induction h with
  | start => rfl
  | meanwhile _ hview ih => rw [hview, ih]
  | attempt _ hyields ih => rw [deploy_frame laws hplan hyields hplace, ih]

end Service

/-! ## Uids -/

/-- The object without its uid and those of its owners. -/
def Kubernetes.Resource.withoutUids (r : Resource) : Resource :=
  r.withMetadata { r.metadata with
    uid := none
    ownerReferences := r.metadata.ownerReferences.map
      (·.map (·.map fun ref => { ref with uid := "" })) }

theorem Kubernetes.Resource.withoutUids_settled (ns u u' : String) (r : Resource) :
    (settled ns u r).withoutUids = (settled ns u' r).withoutUids := by
  simp only [withoutUids, settled, withMetadata_withMetadata, metadata_withMetadata]

theorem Plan.withoutUids_owned (plan : Plan) (ns u u' uid uid' : String) (r : Resource) :
    (settled ns u (plan.owned uid r)).withoutUids =
      (settled ns u' (plan.owned uid' r)).withoutUids := by
  simp only [Resource.withoutUids, settled, owned, ownerReference,
    Resource.withMetadata_withMetadata, Resource.metadata_withMetadata, Option.map_some,
    List.map_cons, List.map_nil]

/-- Where a plan is stored, its places hold the same objects up to uids. -/
theorem Plan.StoredIn.withoutUids {plan : Plan} {uid uid' : String}
    {objects objects' : Place → Option Resource} (h : plan.StoredIn uid objects)
    (h' : plan.StoredIn uid' objects') {place : Place} (hplace : place ∈ plan.places) :
    (objects place).map Resource.withoutUids = (objects' place).map Resource.withoutUids := by
  obtain ⟨r, hr, rfl⟩ := List.mem_map.1 hplace
  rcases List.mem_cons.1 hr with rfl | hr
  · rw [h.jobManager, h'.jobManager, Option.map_some, Option.map_some,
      Resource.withoutUids_settled]
  rcases List.mem_append.1 hr with hr | hr
  · obtain ⟨u, hu⟩ := h.resources r hr
    obtain ⟨u', hu'⟩ := h'.resources r hr
    rw [hu, hu', Option.map_some, Option.map_some, plan.withoutUids_owned]
  · obtain rfl := List.mem_singleton.1 hr
    obtain ⟨u, hu⟩ := h.taskManager
    obtain ⟨u', hu'⟩ := h'.taskManager
    rw [hu, hu', Option.map_some, Option.map_some, Resource.withoutUids_settled]

/-! ## Convergence -/

namespace Service

variable {service : Service σ τ} {host : Host} {spec : DeploymentSpec} {conf : Configuration}

/-- **Deploying converges.** When a deployment completes after any attempts, its plan is stored and
every other place is as it was before the first of them. Up to uids these are the objects that one
deployment without disturbance leaves, from the same objects on any server. -/
theorem deploy_converges (laws : ObjectStore service.server view) {w w₁ w₂ : σ}
    {trace : List (Event τ)} (hretried : Retried service view host spec conf w w₁)
    (hdone : (service.deploy host spec conf).Yields w₁ (.ok ()) trace w₂) :
    ∃ plan uid, Plan.make host spec conf = .ok plan ∧ plan.places.Nodup ∧
      plan.StoredIn uid (view w₂) ∧
      (∀ r ∈ plan.jobManager.resources,
        OwnedBy plan.jobManager.statefulSet uid r (plan.owned uid r)) ∧
      (∀ place ∉ plan.places, view w₂ place = view w place) ∧
      ∀ (σ' τ' : Type) (service' : Service σ' τ') (view' : σ' → Place → Option Resource)
        (calm : σ' → Prop) (w' : σ'),
        ObjectStore service'.server view' → Undisturbed service'.server view' calm → calm w' →
        view' w' = view w →
        ∃ trace' w'', (service'.deploy host spec conf).Yields w' (.ok ()) trace' w'' ∧
          (∀ status, (service'.deploy host spec conf).Leaves w' (some status)
            (some status.deployed)) ∧
          ∀ place, (view w₂ place).map Resource.withoutUids =
            (view' w'' place).map Resource.withoutUids := by
  obtain ⟨plan, uid, hplan, hstored⟩ := deploy_stored laws hdone
  have hbuilt := Plan.built_of_make hplan
  have hframe : ∀ place ∉ plan.places, view w₂ place = view w place := fun place hplace =>
    (deploy_frame laws hplan hdone hplace).trans (hretried.frame laws hplan hplace)
  refine ⟨plan, uid, hplan, plan.places_objects uid ▸ hbuilt.nodup_places uid, hstored,
    fun r hr => ownedBy_owned hbuilt uid hr, hframe, ?_⟩
  intro σ' τ' service' view' calm w' laws' quiet hcalm hview
  obtain ⟨trace', w'', hyields, -⟩ := deploy_completes laws' quiet hplan hcalm
  refine ⟨trace', w'', hyields, fun status =>
    (service'.records_deploy host spec conf).leaves hyields (some status), fun place => ?_⟩
  by_cases hplace : place ∈ plan.places
  · obtain ⟨plan', uid', hplan', hstored'⟩ := deploy_stored laws' hyields
    obtain rfl := Except.ok.inj (hplan.symm.trans hplan')
    exact hstored.withoutUids hstored' hplace
  · rw [hframe place hplace, deploy_frame laws' hplan hyields hplace, hview]

theorem deploy_yields_run (service : Service σ τ) (host : Host) (spec : DeploymentSpec)
    (conf : Configuration) (w : σ) (status : Option DeploymentStatus) :
    ∃ trace, (service.deploy host spec conf).Yields w
      ((service.deploy host spec conf).run.run ⟨w, [], status⟩).1 trace
      ((service.deploy host spec conf).run.run ⟨w, [], status⟩).2.world := by
  cases hplan : Plan.make host spec conf with
  | error e => exact ⟨_, (service.deploy_yields_of_error hplan w).of_run⟩
  | ok plan =>
    obtain ⟨_, trace, _, -, hyields⟩ := service.deploy_yields hplan w
    exact ⟨trace, hyields.of_run⟩

end Service

/-! ## A deployment that fails once -/

/-- Deploys with an effective configuration from a state of the cluster in memory. -/
def Cluster.deployed (c : Cluster) (d : Deployment) : Outcome Unit × Run Cluster Seconds :=
  ((Cluster.service ⟨.whole 0, .whole 1⟩).deploy .bare d.spec (d.configuration .empty)).run.run
    { world := c, status := some d.status }

/-- A session cluster. -/
def Deployment.session : Deployment where
  metadata := { name := "demo" }

/-- A cluster in memory that refuses to create one config map. -/
def Cluster.faulty : Cluster where
  faults := [⟨"create_namespaced_config_map", ⟨500, "InternalError"⟩, 1⟩]

/-- The cluster in memory after the attempt that was refused. -/
def Cluster.halfDeployed : Cluster := (Cluster.faulty.deployed .session).2.world

theorem Service.deploy_converges_once :
    (Cluster.faulty.deployed .session).1.isOk = false ∧
      (Cluster.halfDeployed.deployed .session).1 = .ok () ∧
      ∃ plan uid, Plan.StoredIn plan uid
        (Cluster.halfDeployed.deployed .session).2.world.get? := by
  have hdone : (Cluster.halfDeployed.deployed .session).1 = .ok () := by decide +kernel
  refine ⟨by decide +kernel, hdone, ?_⟩
  obtain ⟨_, hfailed⟩ := deploy_yields_run (Cluster.service ⟨.whole 0, .whole 1⟩) .bare
    Deployment.session.spec (Deployment.session.configuration .empty) Cluster.faulty
    (some Deployment.session.status)
  obtain ⟨_, hyields⟩ := deploy_yields_run (Cluster.service ⟨.whole 0, .whole 1⟩) .bare
    Deployment.session.spec (Deployment.session.configuration .empty) Cluster.halfDeployed
    (some Deployment.session.status)
  change Session.Yields _ _ (Cluster.halfDeployed.deployed .session).1 _ _ at hyields
  rw [hdone] at hyields
  obtain ⟨plan, uid, -, -, hstored, -⟩ :=
    deploy_converges Cluster.objectStore (.attempt .start hfailed) hyields
  exact ⟨plan, uid, hstored⟩

end FlinkCluster
