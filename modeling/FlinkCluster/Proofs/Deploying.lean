import FlinkCluster.Proofs.BuiltResources
import FlinkCluster.Proofs.Statuses

/-!
# The requests of a deployment

Which requests deploying a cluster makes of a server, of which nothing is assumed.

* `Service.Applied`: one object is created and, if it exists already, patched.
* `Service.AppliedAll`: objects are applied in order, up to the first that is refused.
* `Service.deploy_trace`: nothing is asked of the server unless the plan can be made; otherwise the
  objects of the plan are applied, the resources with the job manager as their only owner, and the
  status changes exactly if all of them were applied.
-/

set_option autoImplicit false

namespace FlinkCluster

open Kubernetes

namespace Service

variable {σ τ : Type} {server : Server σ τ} {service : Service σ τ} {ns : String}

/-! ## One object -/

/-- The exchanges in which an object is applied, the answer to the last of them, and the world
after it. -/
inductive Applied (server : Server σ τ) (ns : String) (r : Resource) (w : σ) :
    List (Event τ) → Outcome Resource → σ → Prop
  | created {stored : Resource} {w' : σ} :
    server.respond (.create ns r) w = (.ok stored, w') →
    Applied server ns r w [.exchange (.create ns r) (.ok stored)] (.ok stored) w'
  | refused {e : Failure} {w' : σ} :
    server.respond (.create ns r) w = (.error e, w') → e.isConflict = false →
    Applied server ns r w [.exchange (.create ns r) (.error e)] (.error e) w'
  | patched {e : Failure} {answer : Outcome Resource} {w' w'' : σ} :
    server.respond (.create ns r) w = (.error e, w') → e.isConflict = true →
    server.respond (.patch ns r.name r) w' = (answer, w'') →
    Applied server ns r w
      [.exchange (.create ns r) (.error e), .exchange (.patch ns r.name r) answer] answer w''

theorem apply_yields (service : Service σ τ) (ns : String) (r : Resource) (w : σ) :
    ∃ trace answer w', Applied service.server ns r w trace answer w' ∧
      (service.apply ns r.name r).Yields w answer trace w' := by
  obtain ⟨created, w', hcreate⟩ : ∃ created w',
      service.server.respond (.create ns r) w = (created, w') := ⟨_, _, rfl⟩
  have hattempt := Session.yields_attempt hcreate
  -- What `apply` does with the outcome of creating or patching adds no event.
  have hdone {out : Outcome Resource} {trace : List (Event τ)} {v : σ}
      (h : (Api.createOrPatch (Session.attempt service.server (.create ns r))
        (Session.attempt service.server (.patch ns r.name r))).Yields w (.ok out) trace v) :
      (service.apply ns r.name r).Yields w out trace v := by
    have h' := h.bind (Session.yields_ofOutcome out v)
    rwa [List.append_nil] at h'
  cases created with
  | ok stored =>
    exact ⟨_, _, _, .created hcreate, hdone (hattempt.bind (Session.yields_pure _ w'))⟩
  | error e =>
    cases hconflict : e.isConflict with
    | false =>
      refine ⟨_, _, _, .refused hcreate hconflict, hdone (hattempt.bind ?_)⟩
      simp only [hconflict]
      exact Session.yields_pure _ w'
    | true =>
      obtain ⟨patched, w'', hpatch⟩ : ∃ patched w'',
          service.server.respond (.patch ns r.name r) w' = (patched, w'') := ⟨_, _, rfl⟩
      refine ⟨_, _, _, .patched hcreate hconflict hpatch, hdone (hattempt.bind ?_)⟩
      simp only [hconflict]
      exact Session.yields_attempt hpatch

/-! ## Objects in order -/

/-- Objects are applied in order: the exchanges, the answers to those that were applied, the failure
of the first that was not, and the world at the end. -/
inductive AppliedAll (server : Server σ τ) (ns : String) :
    List Resource → σ → List (Event τ) → List Resource → Option Failure → σ → Prop
  | done (w : σ) : AppliedAll server ns [] w [] [] none w
  | next {r stored : Resource} {rs answers : List Resource} {w w' w'' : σ}
    {trace trace' : List (Event τ)} {failure : Option Failure} :
    Applied server ns r w trace (.ok stored) w' →
    AppliedAll server ns rs w' trace' answers failure w'' →
    AppliedAll server ns (r :: rs) w (trace ++ trace') (stored :: answers) failure w''
  | stop {r : Resource} {rs : List Resource} {w w' : σ} {trace : List (Event τ)} {e : Failure} :
    Applied server ns r w trace (.error e) w' →
    AppliedAll server ns (r :: rs) w trace [] (some e) w'

/-- Success, or the given failure. -/
def outcomeOf : Option Failure → Outcome Unit
  | none => .ok ()
  | some e => .error e

namespace AppliedAll

variable {rs rs' answers answers' : List Resource} {w w' w'' : σ} {trace trace' : List (Event τ)}
  {failure : Option Failure}

theorem append (h : AppliedAll server ns rs w trace answers none w')
    (h' : AppliedAll server ns rs' w' trace' answers' failure w'') :
    AppliedAll server ns (rs ++ rs') w (trace ++ trace') (answers ++ answers') failure w'' := by
  generalize hnone : (none : Option Failure) = f at h
  induction h with
  | done w => exact h'
  | next hfirst _ ih =>
    rw [List.append_assoc]
    exact .next hfirst (ih h' hnone)
  | stop _ => cases hnone

theorem append_of_failure {e : Failure} (h : AppliedAll server ns rs w trace answers (some e) w')
    (rs' : List Resource) : AppliedAll server ns (rs ++ rs') w trace answers (some e) w' := by
  generalize hsome : some e = f at h ⊢
  induction h with
  | done w => cases hsome
  | next hfirst _ ih => exact .next hfirst (ih hsome)
  | stop hfirst => exact .stop hfirst

/-- There is no failure exactly if all objects were applied. -/
theorem failure_eq_none_iff (h : AppliedAll server ns rs w trace answers failure w') :
    failure = none ↔ answers.length = rs.length := by
  induction h with
  | done w => simp
  | next _ _ ih => simpa using ih
  | stop _ => simp

end AppliedAll

theorem applyAll_yields (service : Service σ τ) (ns : String) {rs : List Resource}
    (hrs : ∀ r ∈ rs, ∃ operations, accompanyingOperations r.kind.model = .ok operations) (w : σ) :
    ∃ trace answers failure w', AppliedAll service.server ns rs w trace answers failure w' ∧
      (service.applyAll ns rs).Yields w (outcomeOf failure) trace w' := by
  induction rs generalizing w with
  | nil => exact ⟨[], [], none, w, .done w, Session.yields_pure () w⟩
  | cons r rs ih =>
    obtain ⟨operations, hoperations⟩ := hrs r List.mem_cons_self
    obtain ⟨trace, answer, w', happlied, happly⟩ := service.apply_yields ns r w
    cases answer with
    | error e =>
      exact ⟨trace, [], some e, w', .stop happlied,
        Session.Yields.of_ok hoperations happly.bind_error⟩
    | ok stored =>
      obtain ⟨trace', answers, failure, w'', hall, hyields⟩ :=
        ih (fun r' hr' => hrs r' (List.mem_cons_of_mem r hr')) w'
      exact ⟨trace ++ trace', stored :: answers, failure, w'', .next happlied hall,
        Session.Yields.of_ok hoperations (happly.bind hyields)⟩

/-! ## Plans -/

variable {plan : Plan}

/-- The resources of a plan have operations, those of the requests that are made with them. -/
theorem operations_of_built (hplan : plan.Built) (ns : String) {r : Resource}
    (hr : r ∈ plan.jobManager.resources) :
    accompanyingOperations r.kind.model =
      .ok ((Request.create ns r).operation, (Request.patch ns r.name r).operation) := by
  obtain ⟨kind, name, hkind, hidentity⟩ := hplan.exists_identity hr
  obtain ⟨rfl, -, -⟩ := Resource.identity?_eq_some.1 hidentity
  simp only [Request.operation]
  generalize r.kind = kind at hkind
  revert kind
  decide

/-- Writing a plan: its objects are applied under the uid that the job manager's answer carries, up
to the first failure. An answer without a uid is a failure before any resource is applied. -/
inductive Written (server : Server σ τ) (plan : Plan) (w : σ) :
    Outcome Unit → List (Event τ) → σ → Prop
  | objects (uid : String) {trace : List (Event τ)} {answers : List Resource}
    {failure : Option Failure} {w' : σ} :
    AppliedAll server plan.namespaceName (plan.objects uid) w trace answers failure w' →
    (∀ stored ∈ answers.head?, stored.metadata.uid = some uid) →
    Written server plan w (outcomeOf failure) trace w'
  | nameless {stored : Resource} {trace : List (Event τ)} {w' : σ} :
    Applied server plan.namespaceName (.statefulSet plan.jobManager.statefulSet) w trace
      (.ok stored) w' →
    stored.metadata.uid = none →
    Written server plan w (.error (.missingField "uid")) trace w'

theorem write_yields (service : Service σ τ) (hplan : plan.Built) (w : σ) :
    ∃ out trace w', Written service.server plan w out trace w' ∧
      (service.write plan).Yields w out trace w' := by
  have hjobManager := Resource.name_of_identity? hplan.jobManager
  have htaskManager := Resource.name_of_identity? hplan.taskManager
  obtain ⟨trace, answer, w', happlied, happly⟩ := service.apply_yields plan.namespaceName
    (.statefulSet plan.jobManager.statefulSet) w
  rw [hjobManager] at happly
  cases answer with
  | error e =>
    refine ⟨_, trace, w', .objects "" (.stop happlied) ?_, happly.bind_error⟩
    simp
  | ok stored =>
    cases huid : stored.metadata.uid with
    | none =>
      have hmissing : uidOf stored = .error (.missingField "uid") := by simp [uidOf, huid]
      refine ⟨_, trace, w', .nameless happlied huid, ?_⟩
      rw [← List.append_nil trace]
      exact happly.bind (Session.Yields.of_error hmissing)
    | some uid =>
      have hfound : uidOf stored = .ok uid := by simp [uidOf, huid]
      have hoperations : ∀ r ∈ plan.jobManager.resources.map (plan.owned uid),
          ∃ operations, accompanyingOperations r.kind.model = .ok operations := by
        intro r hr
        obtain ⟨built, hbuilt, rfl⟩ := List.mem_map.1 hr
        rw [Plan.owned, Resource.kind_withMetadata]
        exact ⟨_, operations_of_built hplan plan.namespaceName hbuilt⟩
      obtain ⟨trace', answers, failure, v, hall, hyields⟩ :=
        service.applyAll_yields plan.namespaceName hoperations w'
      cases failure with
      | some e =>
        refine ⟨_, _, v, .objects uid (.next happlied (hall.append_of_failure _)) ?_,
          happly.bind (Session.Yields.of_ok hfound hyields.bind_error)⟩
        simpa using huid
      | none =>
        obtain ⟨trace'', answer, v', htask, htaskApply⟩ := service.apply_yields plan.namespaceName
          (.statefulSet plan.taskManager) v
        rw [htaskManager] at htaskApply
        cases answer with
        | error e =>
          refine ⟨_, _, v', .objects uid (.next happlied (hall.append (.stop htask))) ?_,
            happly.bind (Session.Yields.of_ok hfound (hyields.bind htaskApply.bind_error))⟩
          simpa using huid
        | ok task =>
          refine ⟨_, _, v', .objects uid (.next happlied (hall.append (.next htask (.done v')))) ?_,
            happly.bind (Session.Yields.of_ok hfound
              (hyields.bind (htaskApply.bind (Session.yields_pure () v'))))⟩
          simpa using huid

/-! ## Deployments -/

variable {host : Host} {spec : DeploymentSpec} {conf : Configuration}

theorem deploy_yields_of_error (service : Service σ τ) {e : Failure}
    (h : Plan.make host spec conf = .error e) (w : σ) :
    (service.deploy host spec conf).Yields w (.error e) [] w :=
  Session.Yields.of_error h

theorem deploy_yields (service : Service σ τ) (h : Plan.make host spec conf = .ok plan) (w : σ) :
    ∃ out trace w', Written service.server plan w out trace w' ∧
      (service.deploy host spec conf).Yields w out trace w' := by
  obtain ⟨out, trace, w', hwritten, hyields⟩ := service.write_yields (Plan.built_of_make h) w
  refine ⟨out, trace, w', hwritten, Session.Yields.of_ok h ?_⟩
  cases out with
  | error e => exact hyields.bind_error
  | ok _ =>
    rw [← List.append_nil trace]
    exact hyields.bind (Session.yields_record _ w')

/-- The second resource is the first with a single owner, the stateful set with the given uid. -/
def OwnedBy (owner : StatefulSet) (uid : String) (built owned : Resource) : Prop :=
  ∃ ref : OwnerReference, owned.metadata.ownerReferences = some [some ref] ∧
    ref.kind = "StatefulSet" ∧ owner.metadata.bind (·.name) = some ref.name ∧ ref.uid = uid ∧
    owned.withMetadata { owned.metadata with ownerReferences := built.metadata.ownerReferences } =
      built

theorem ownedBy_owned (hplan : plan.Built) (uid : String) {r : Resource}
    (hr : r ∈ plan.jobManager.resources) :
    OwnedBy plan.jobManager.statefulSet uid r (plan.owned uid r) := by
  obtain ⟨-, hmetadata, hname⟩ := Resource.identity?_eq_some.1 hplan.jobManager
  obtain ⟨kind, name, -, hidentity⟩ := hplan.exists_identity hr
  obtain ⟨-, hr', -⟩ := Resource.identity?_eq_some.1 hidentity
  refine ⟨plan.ownerReference uid, ?_, rfl, ?_, rfl, ?_⟩
  · rw [Plan.owned, Resource.metadata_withMetadata]
  · change (Resource.statefulSet plan.jobManager.statefulSet).metadata?.bind (·.name) = _
    rw [hmetadata]
    exact hname
  · rw [Plan.owned, Resource.metadata_withMetadata, Resource.withMetadata_withMetadata]
    exact Resource.withMetadata_self hr'

/-- **The trace of a deployment**, for any server. Without a plan nothing is asked. With one, its
objects are applied in order, each resource owned by the job manager that was written first. The
status becomes that of a deployed cluster exactly if all were applied. -/
theorem deploy_trace (service : Service σ τ) (host : Host) (spec : DeploymentSpec)
    (conf : Configuration) (w : σ) (status : DeploymentStatus) :
    ∃ out trace w' after, (service.deploy host spec conf).Yields w out trace w' ∧
      (service.deploy host spec conf).Leaves w (some status) (some after) ∧
      match Plan.make host spec conf with
      | .error e => out = .error e ∧ trace = [] ∧ w' = w ∧ after = status
      | .ok plan =>
        (∀ r ∈ plan.jobManager.resources, accompanyingOperations r.kind.model =
          .ok ((Request.create plan.namespaceName r).operation,
            (Request.patch plan.namespaceName r.name r).operation)) ∧
        ((∃ uid owned objects answers failure,
            List.Forall₂ (OwnedBy plan.jobManager.statefulSet uid) plan.jobManager.resources
              owned ∧
            objects = .statefulSet plan.jobManager.statefulSet ::
              (owned ++ [.statefulSet plan.taskManager]) ∧
            AppliedAll service.server plan.namespaceName objects w trace answers failure w' ∧
            (∀ stored ∈ answers.head?, stored.metadata.uid = some uid) ∧
            out = outcomeOf failure ∧
            (failure = none ↔ answers.length = objects.length) ∧
            after =
              if failure = none then { status with jobManager := .deploying, error := none }
              else status) ∨
          ∃ stored, Applied service.server plan.namespaceName
              (.statefulSet plan.jobManager.statefulSet) w trace (.ok stored) w' ∧
            stored.metadata.uid = none ∧ out = .error (.missingField "uid") ∧
            after = status) := by
  have hrecords := service.records_deploy host spec conf
  cases hplan : Plan.make host spec conf with
  | error e =>
    have hyields := service.deploy_yields_of_error hplan w
    exact ⟨_, _, w, _, hyields, hrecords.leaves hyields (some status), rfl, rfl, rfl, rfl⟩
  | ok plan =>
    have hbuilt := Plan.built_of_make hplan
    obtain ⟨out, trace, w', hwritten, hyields⟩ := service.deploy_yields hplan w
    refine ⟨_, trace, w', _, hyields, hrecords.leaves hyields (some status),
      fun r hr => operations_of_built hbuilt plan.namespaceName hr, ?_⟩
    cases hwritten with
    | nameless happlied huid => exact .inr ⟨_, happlied, huid, rfl, rfl⟩
    | @objects uid _ answers failure _ hall huid =>
      refine .inl ⟨uid, plan.jobManager.resources.map (plan.owned uid), plan.objects uid, answers,
        failure, ?_, rfl, hall, huid, rfl, hall.failure_eq_none_iff, ?_⟩
      · exact List.forall₂_map_right_iff.2 (List.forall₂_same.2 fun r hr =>
          ownedBy_owned hbuilt uid hr)
      · cases failure <;> rfl

end Service

end FlinkCluster
