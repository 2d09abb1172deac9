import FlinkCluster.Lifecycle
import FlinkCluster.Proofs.BuiltResources
import FlinkCluster.Proofs.Paths

/-!
# What managing a cluster asks for

Deploying, scaling and deleting a cluster make requests under the names of that cluster, and for the
labels of its high availability metadata (`Service.Managing.makes`). Nothing is assumed of the
server that answers them.
-/

set_option autoImplicit false

namespace FlinkCluster

open Kubernetes

variable {σ τ : Type} {id : String}

/-! ## Names -/

namespace Naming

/-- The names of the objects of a kind that a cluster can have. -/
def names (id : String) : ObjectKind → List String
  | .statefulSet => [jobManager id, taskManager id]
  | .service => [internalService id, externalService id]
  | .configMap => [hadoopConfigMap id, kerberosConfigMap id, flinkConfigMap id]
  | .secret => [keytabSecret id]
  | .pod => []

theorem mem_identities_iff {kind : ObjectKind} {name : String} :
    (kind, name) ∈ Plan.identities id ↔ name ∈ names id kind := by
  cases kind <;>
    simp [Plan.identities, Step.chain, Step.identities, names]

end Naming

/-! ## Requests -/

/-- Kind and name of the object that a request writes or deletes by its name. -/
def Request.target? : Request → Option (ObjectKind × String)
  | .create _ body => body.identity?
  | .patch _ name body => some (body.kind, name)
  | .deleteStatefulSet _ name _ | .scaleStatefulSet _ name _ => some (.statefulSet, name)
  | .readStatefulSet .. | .listPods .. | .deleteConfigMaps .. => none

/-- The requests that managing a cluster may make: what they write or delete by its name has a name
of the cluster, and what they delete by labels has those of its high availability metadata. -/
structure Request.OfCluster (id : String) (r : Request) : Prop where
  target : ∀ i, r.target? = some i → i ∈ Plan.identities id
  named : ∀ ns body, r = .create ns body → body.identity? ≠ none
  labels : ∀ ns selector, r = .deleteConfigMaps ns selector →
    selector = Naming.labelSelector (Naming.highAvailabilityLabels id)

/-- The requests that deleting a cluster may make: for its stateful sets and, if its metadata goes
too, for its pods and the config maps of its high availability metadata. -/
inductive Request.OfDeletion (metadata : DeploymentMetadata) (withMetadata : Bool) : Request → Prop
  | statefulSet (role : Role) : OfDeletion metadata withMetadata
    (.deleteStatefulSet metadata.namespaceName (Naming.statefulSet metadata.name role)
      Request.foreground)
  | pods : withMetadata = true → OfDeletion metadata withMetadata
    (.listPods metadata.namespaceName (Naming.labelSelector (Naming.commonLabels metadata.name)))
  | configMaps : withMetadata = true → OfDeletion metadata withMetadata
    (.deleteConfigMaps metadata.namespaceName
      (Naming.labelSelector (Naming.highAvailabilityLabels metadata.name)))

/-- The sessions that manage a cluster: deploying it with a configuration that names it, and scaling
and deleting it by its name. -/
inductive Service.Managing (service : Service σ τ) (id : String) :
    {α : Type} → Session σ τ α → Prop
  | deploy (host : Host) (spec : DeploymentSpec) {conf : Configuration} :
    conf.find? Options.clusterId = .ok (some id) →
    Managing service id (service.deploy host spec conf)
  | scale {metadata : DeploymentMetadata} (job : Option JobSpec) (conf : Configuration) :
    metadata.name = id → Managing service id (service.scale metadata job conf)
  | delete [Clock τ] (looks : Nat) {metadata : DeploymentMetadata} (withMetadata : Bool) :
    metadata.name = id → service.store = .configMaps service.server →
    Managing service id (service.delete looks metadata withMetadata)

namespace Service

open Session

variable {service : Service σ τ}

theorem ofCluster_reading {r : Request} (htarget : r.target? = none)
    (hread : ∀ ns selector, r ≠ .deleteConfigMaps ns selector)
    (hcreate : ∀ ns body, r ≠ .create ns body) : r.OfCluster id where
  target i hi := by
    rw [htarget] at hi
    cases hi
  named ns body h := absurd h (hcreate ns body)
  labels ns selector h := absurd h (hread ns selector)

/-- What deleting a cluster asks for is for that cluster. -/
theorem ofCluster_of_ofDeletion {metadata : DeploymentMetadata}
    {withMetadata : Bool} {r : Request} (h : r.OfDeletion metadata withMetadata) :
    r.OfCluster metadata.name := by
  cases h with
  | statefulSet role =>
    refine ⟨fun i hi => ?_, by simp, by simp⟩
    obtain rfl := Option.some.inj hi
    cases role <;> exact Naming.mem_identities_iff.2 (by simp [Naming.names, Naming.statefulSet])
  | pods _ => exact ofCluster_reading rfl (by simp) (by simp)
  | configMaps _ =>
    refine ⟨by simp [Request.target?], by simp, ?_⟩
    rintro ns selector h
    cases h
    rfl

theorem makes_apply {r : Resource} {kind : ObjectKind} {name : String} (ns : String)
    (hr : r.identity? = some (kind, name)) (hmem : (kind, name) ∈ Plan.identities id) :
    Makes service.server (Request.OfCluster id) (service.apply ns name r) := by
  have hcreate : (Request.create ns r).OfCluster id := by
    refine ⟨fun i hi => ?_, fun ns' body h => ?_, fun _ _ h => by cases h⟩
    · obtain rfl := Option.some.inj (hr.symm.trans hi)
      exact hmem
    · cases h
      rw [hr]
      exact Option.some_ne_none _
  have hpatch : (Request.patch ns name r).OfCluster id := by
    refine ⟨fun i hi => ?_, fun _ _ h => by (cases h), fun _ _ h => by cases h⟩
    obtain ⟨rfl, -⟩ := Resource.identity?_eq_some.1 hr
    obtain rfl := Option.some.inj hi
    exact hmem
  refine Makes.bind ?_ makes_ofOutcome
  refine (makes_attempt hcreate).bind fun answer => ?_
  cases answer with
  | ok stored => exact makes_pure _
  | error e =>
    dsimp only
    split
    · exact makes_attempt hpatch
    · exact makes_pure _

theorem makes_applyAll {rs : List Resource} (ns : String)
    (hrs : ∀ r ∈ rs, ∃ kind name, r.identity? = some (kind, name) ∧
      (kind, name) ∈ Plan.identities id) :
    Makes service.server (Request.OfCluster id) (service.applyAll ns rs) := by
  induction rs with
  | nil => exact makes_pure ()
  | cons r rs ih =>
    obtain ⟨kind, name, hr, hmem⟩ := hrs r List.mem_cons_self
    obtain rfl := Resource.name_of_identity? hr
    refine (makes_ofOutcome _).bind fun _ => ?_
    refine (makes_apply ns hr hmem).bind fun _ => ?_
    exact ih fun r' hr' => hrs r' (List.mem_cons_of_mem r hr')

/-- Every object of a plan has a kind and a name of the plan's cluster. -/
theorem identity_of_mem_objects {plan : Plan} (h : plan.Built) {uid : String} {r : Resource}
    (hr : r ∈ plan.objects uid) :
    ∃ kind name, r.identity? = some (kind, name) ∧
      (kind, name) ∈ Plan.identities plan.clusterId := by
  have hmem := (h.identities_objects uid).mem (List.mem_map_of_mem hr)
  obtain ⟨⟨kind, name⟩, hi, heq⟩ := List.mem_map.1 hmem
  exact ⟨kind, name, heq.symm, hi⟩

theorem makes_write {plan : Plan} (h : plan.Built) :
    Makes service.server (Request.OfCluster plan.clusterId) (service.write plan) := by
  have hjobManager : (ObjectKind.statefulSet, Naming.jobManager plan.clusterId) ∈
      Plan.identities plan.clusterId := Naming.mem_identities_iff.2 (by simp [Naming.names])
  have htaskManager : (ObjectKind.statefulSet, Naming.taskManager plan.clusterId) ∈
      Plan.identities plan.clusterId := Naming.mem_identities_iff.2 (by simp [Naming.names])
  refine (makes_apply _ h.jobManager hjobManager).bind fun _ => ?_
  refine (makes_ofOutcome _).bind fun uid => ?_
  refine (makes_applyAll _ fun r hr => ?_).bind fun _ => ?_
  · exact identity_of_mem_objects h (List.mem_cons_of_mem _ (List.mem_append_left _ hr))
  · exact (makes_apply _ h.taskManager htaskManager).bind fun _ => makes_pure ()

theorem makes_deploy {host : Host} {spec : DeploymentSpec} {conf : Configuration}
    (hid : conf.find? Options.clusterId = .ok (some id)) :
    Makes service.server (Request.OfCluster id) (service.deploy host spec conf) := by
  refine Makes.of_ok fun plan hplan => ?_
  have hsame : plan.clusterId = id :=
    Option.some.inj (Except.ok.inj ((Plan.find?_clusterId_of_make hplan).symm.trans hid))
  rw [← hsame]
  exact (makes_write (Plan.built_of_make hplan)).bind fun _ => makes_record _

theorem makes_scale {metadata : DeploymentMetadata} {job : Option JobSpec} {conf : Configuration} :
    Makes service.server (Request.OfCluster metadata.name) (service.scale metadata job conf) := by
  refine (makes_ofOutcome _).bind fun reactive => ?_
  cases reactive with
  | false => exact makes_pure _
  | true =>
    refine (makes_attempt (ofCluster_reading rfl (by simp) (by simp))).bind fun answer => ?_
    refine (makes_ofOutcome _).bind fun found => ?_
    cases found with
    | none => exact makes_pure _
    | some s =>
      refine (makes_ofOutcome _).bind fun wanted => ?_
      split
      · exact makes_pure _
      · refine (makes_ask ⟨fun i hi => ?_, by simp, by simp⟩).bind fun _ => makes_pure _
        obtain rfl := Option.some.inj hi
        exact Naming.mem_identities_iff.2 (by simp [Naming.names])

theorem makes_deleteStatefulSet {P : Request → Prop} {metadata : DeploymentMetadata} {role : Role}
    (h : P (.deleteStatefulSet metadata.namespaceName (Naming.statefulSet metadata.name role)
      Request.foreground)) :
    Makes service.server P (service.deleteStatefulSet metadata role) :=
  (makes_attempt h).bind fun _ => (makes_ofOutcome _).bind fun _ => makes_pure ()

theorem makes_watch [Clock τ] {P : Request → Prop} {ns selector : String}
    (h : P (.listPods ns selector)) (deadline : τ) (looks : Nat) :
    Makes service.server P (service.watch ns selector deadline looks) := by
  induction looks with
  | zero => exact makes_throw _
  | succ looks ih =>
    refine (makes_ask h).bind fun pods => ?_
    split
    · exact makes_pure _
    · refine makes_clock.bind fun time => ?_
      split
      · exact makes_pure _
      · exact (makes_pause _).bind fun _ => ih

theorem makes_awaitShutdown [Clock τ] {P : Request → Prop} {metadata : DeploymentMetadata}
    (h : P (.listPods metadata.namespaceName
      (Naming.labelSelector (Naming.commonLabels metadata.name)))) (looks : Nat) :
    Makes service.server P (service.awaitShutdown looks metadata) :=
  makes_clock.bind fun _ => (makes_ofOutcome _).bind fun deadline => makes_watch h deadline looks

theorem makes_deleteConfigMaps {server : Server σ τ} {P : Request → Prop} {ns id : String}
    (h : P (.deleteConfigMaps ns (Naming.labelSelector (Naming.highAvailabilityLabels id)))) :
    Makes server P ((AvailabilityStore.configMaps server).delete ns id) :=
  (makes_attempt h).bind fun _ => (makes_ofOutcome _).bind fun _ => makes_pure ()

theorem makes_delete [Clock τ] {looks : Nat} {metadata : DeploymentMetadata} {withMetadata : Bool}
    (hstore : service.store = .configMaps service.server) :
    Makes service.server (Request.OfDeletion metadata withMetadata)
      (service.delete looks metadata withMetadata) := by
  refine (makes_deleteStatefulSet (.statefulSet _)).bind fun _ => ?_
  refine (makes_deleteStatefulSet (.statefulSet _)).bind fun _ => ?_
  cases withMetadata with
  | false => exact makes_record _
  | true =>
    refine (makes_awaitShutdown (.pods rfl) looks).bind fun _ => ?_
    refine Makes.bind (Makes.apart ?_) fun _ => makes_record _
    rw [hstore]
    exact makes_deleteConfigMaps (.configMaps rfl)

/-- **The footprint of managing a cluster.** From every world, a session that manages a cluster
makes requests of that cluster only. -/
theorem Managing.makes {α : Type} {s : Session σ τ α} (h : service.Managing id s) :
    Makes service.server (Request.OfCluster id) s := by
  cases h with
  | deploy host spec hid => exact makes_deploy hid
  | scale job conf hname => exact hname ▸ makes_scale
  | delete looks withMetadata hname hstore =>
    exact hname ▸ (makes_delete hstore).mono fun _ => ofCluster_of_ofDeletion

end Service

end FlinkCluster
