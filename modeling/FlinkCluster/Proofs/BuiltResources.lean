import FlinkCluster.Api.Request
import FlinkCluster.Plan
import FlinkCluster.Proofs.Composition
import Mathlib.Data.List.Nodup

/-!
# The resources next to a workload

What is known of the resources that composing a job manager lists, whatever the configuration: the
kind and the name of each stand in a fixed list (`Step.identities_compose`), in which nothing stands
twice (`Step.nodup_identities`). `Plan.Built` collects what follows for a plan.
-/

set_option autoImplicit false

namespace FlinkCluster

open Kubernetes

/-! ## Metadata -/

namespace Kubernetes.Resource

theorem withMetadata_withMetadata (m m' : ObjectMeta) (r : Resource) :
    (r.withMetadata m).withMetadata m' = r.withMetadata m' := by
  cases r <;> rfl

/-- An object with its own metadata is itself, if it has any. -/
theorem withMetadata_self {r : Resource} {m : ObjectMeta} (h : r.metadata? = some m) :
    r.withMetadata m = r := by
  cases r with
  | statefulSet b => exact congrArg Resource.statefulSet (by rw [← show b.metadata = some m from h])
  | service b => exact congrArg Resource.service (by rw [← show b.metadata = some m from h])
  | configMap b => exact congrArg Resource.configMap (by rw [← show b.metadata = some m from h])
  | secret b => exact congrArg Resource.secret (by rw [← show b.metadata = some m from h])
  | pod b => exact congrArg Resource.pod (by rw [← show b.metadata = some m from h])

end Kubernetes.Resource

/-! ## Identities -/

/-- Kind and name of an object that has metadata with a name. -/
def Kubernetes.Resource.identity? (r : Resource) : Option (ObjectKind × String) :=
  r.metadata?.bind fun m => m.name.map (r.kind, ·)

theorem Kubernetes.Resource.identity?_eq_some {r : Resource} {kind : ObjectKind} {name : String} :
    r.identity? = some (kind, name) ↔
      r.kind = kind ∧ r.metadata? = some r.metadata ∧ r.metadata.name = some name := by
  unfold Resource.identity? Resource.metadata
  cases r.metadata? with
  | none => simp
  | some m => cases h : m.name <;> simp [h]

theorem Kubernetes.Resource.name_of_identity? {r : Resource} {kind : ObjectKind} {name : String}
    (h : r.identity? = some (kind, name)) : r.name = name := by
  rw [Resource.name, (Resource.identity?_eq_some.1 h).2.2, Option.getD_some]

namespace Step

variable {p : Parameters} {host : Host}

/-- The kinds and names of the resources that a step can list. -/
def identities (clusterId : String) : Step → List (ObjectKind × String)
  | .internalService => [(.service, Naming.internalService clusterId)]
  | .externalService => [(.service, Naming.externalService clusterId)]
  | .hadoop => [(.configMap, Naming.hadoopConfigMap clusterId)]
  | .kerberos =>
    [(.secret, Naming.keytabSecret clusterId), (.configMap, Naming.kerberosConfigMap clusterId)]
  | .flinkConf => [(.configMap, Naming.flinkConfigMap clusterId)]
  | _ => []

theorem ownedMetadata_name {name : String} {annotations : Table String} {m : ObjectMeta}
    (h : ownedMetadata p name annotations = .ok m) : m.name = some name := by
  obtain ⟨ns, -, h⟩ := Outcome.bind_ok h
  rw [← Outcome.pure_ok h]

theorem identities_singleton {r : Resource} {i : ObjectKind × String}
    (h : r.identity? = some i) : ([r].map Resource.identity?).Sublist [some i] := by
  simp [h]

theorem identity?_configMap {name : String} {data : Table String} {r : Resource}
    (h : configMap p name data = .ok r) : r.identity? = some (.configMap, name) := by
  obtain ⟨m, hm, h⟩ := Outcome.bind_ok h
  rw [← Outcome.pure_ok h]
  exact Resource.identity?_eq_some.2 ⟨rfl, rfl, ownedMetadata_name hm⟩

theorem identities_internalServices {rs : List Resource} (h : internalServices p = .ok rs) :
    (rs.map Resource.identity?).Sublist ((identities p.clusterId .internalService).map some) := by
  obtain ⟨available, -, h⟩ := Outcome.bind_ok h
  split at h
  · obtain rfl := Outcome.pure_ok h
    exact List.nil_sublist _
  · obtain ⟨m, hm, h⟩ := Outcome.bind_ok h
    obtain ⟨rpc, -, h⟩ := Outcome.bind_ok h
    obtain ⟨blob, -, h⟩ := Outcome.bind_ok h
    obtain rfl := Outcome.pure_ok h
    exact identities_singleton (Resource.identity?_eq_some.2 ⟨rfl, rfl, ownedMetadata_name hm⟩)

theorem identities_externalServices {rs : List Resource} (h : externalServices p = .ok rs) :
    (rs.map Resource.identity?).Sublist ((identities p.clusterId .externalService).map some) := by
  obtain ⟨type, -, h⟩ := Outcome.bind_ok h
  obtain ⟨annotations, -, h⟩ := Outcome.bind_ok h
  obtain ⟨m, hm, h⟩ := Outcome.bind_ok h
  obtain ⟨rest, -, h⟩ := Outcome.bind_ok h
  obtain rfl := Outcome.pure_ok h
  exact identities_singleton (Resource.identity?_eq_some.2 ⟨rfl, rfl, ownedMetadata_name hm⟩)

theorem identities_hadoopResources {rs : List Resource} (h : hadoopResources p host = .ok rs) :
    (rs.map Resource.identity?).Sublist ((identities p.clusterId .hadoop).map some) := by
  obtain ⟨name?, -, h⟩ := Outcome.bind_ok h
  cases name? with
  | some name =>
    obtain rfl := Outcome.pure_ok h
    exact List.nil_sublist _
  | none =>
    obtain ⟨files, -, h⟩ := Outcome.bind_ok h
    split at h
    · obtain rfl := Outcome.pure_ok h
      exact List.nil_sublist _
    · obtain ⟨r, hr, h⟩ := Outcome.bind_ok h
      obtain rfl := Outcome.pure_ok h
      exact identities_singleton (identity?_configMap hr)

theorem identities_keytabResources {rs : List Resource} (h : keytabResources p host = .ok rs) :
    (rs.map Resource.identity?).Sublist [some (.secret, Naming.keytabSecret p.clusterId)] := by
  obtain ⟨path?, -, h⟩ := Outcome.bind_ok h
  cases path? with
  | none =>
    obtain rfl := Outcome.pure_ok h
    exact List.nil_sublist _
  | some path =>
    obtain ⟨bytes, -, h⟩ := Outcome.bind_ok h
    obtain ⟨m, hm, h⟩ := Outcome.bind_ok h
    obtain rfl := Outcome.pure_ok h
    exact identities_singleton (Resource.identity?_eq_some.2 ⟨rfl, rfl, ownedMetadata_name hm⟩)

theorem identities_kerberosFileResources {rs : List Resource}
    (h : kerberosFileResources p host = .ok rs) :
    (rs.map Resource.identity?).Sublist
      [some (.configMap, Naming.kerberosConfigMap p.clusterId)] := by
  obtain ⟨path?, -, h⟩ := Outcome.bind_ok h
  cases path? with
  | none =>
    obtain rfl := Outcome.pure_ok h
    exact List.nil_sublist _
  | some path =>
    obtain ⟨text, -, h⟩ := Outcome.bind_ok h
    obtain ⟨r, hr, h⟩ := Outcome.bind_ok h
    obtain rfl := Outcome.pure_ok h
    exact identities_singleton (identity?_configMap hr)

theorem identities_kerberosResources {rs : List Resource}
    (h : kerberosResources p host = .ok rs) :
    (rs.map Resource.identity?).Sublist ((identities p.clusterId .kerberos).map some) := by
  obtain ⟨keytab, hkeytab, h⟩ := Outcome.bind_ok h
  obtain ⟨file, hfile, h⟩ := Outcome.bind_ok h
  obtain rfl := Outcome.pure_ok h
  rw [List.map_append]
  exact (identities_keytabResources hkeytab).append (identities_kerberosFileResources hfile)

theorem identities_flinkConfResources {rs : List Resource}
    (h : flinkConfResources p host = .ok rs) :
    (rs.map Resource.identity?).Sublist ((identities p.clusterId .flinkConf).map some) := by
  obtain ⟨files, -, h⟩ := Outcome.bind_ok h
  obtain ⟨r, hr, h⟩ := Outcome.bind_ok h
  obtain rfl := Outcome.pure_ok h
  exact identities_singleton (identity?_configMap hr)

theorem identities_resources {step : Step} {rs : List Resource}
    (h : step.resources p host = .ok rs) :
    (rs.map Resource.identity?).Sublist ((step.identities p.clusterId).map some) := by
  cases step with
  | internalService => exact identities_internalServices h
  | externalService => exact identities_externalServices h
  | hadoop => exact identities_hadoopResources h
  | kerberos => exact identities_kerberosResources h
  | flinkConf => exact identities_flinkConfResources h
  | _ =>
    rw [← Except.ok.inj h]
    exact List.nil_sublist _

theorem identities_compose {steps : List Step} {draft last : PodDraft} {rs : List Resource}
    (h : compose p host steps draft = .ok (last, rs)) :
    (rs.map Resource.identity?).Sublist
      ((steps.flatMap (identities p.clusterId)).map some) := by
  induction steps generalizing draft rs with
  | nil =>
    obtain ⟨-, rfl⟩ := Prod.mk.inj (Except.ok.inj h)
    exact List.nil_sublist _
  | cons step steps ih =>
    obtain ⟨next, first, others, -, hfirst, hrest, rfl⟩ := compose_cons_ok h
    rw [List.map_append, List.flatMap_cons, List.map_append]
    exact (identities_resources hfirst).append (ih hrest)

theorem kind_of_mem_identities {clusterId : String} {step : Step} {i : ObjectKind × String}
    (h : i ∈ step.identities clusterId) : i.1 ∈ accompanyingKinds := by
  cases step <;> simp_all [identities, accompanyingKinds]
  case kerberos => rcases h with rfl | rfl <;> simp

/-- No two resources of a job manager have one kind and name. -/
theorem nodup_identities (clusterId : String) :
    ((chain .jobManager).flatMap (identities clusterId)).Nodup := by
  have hservices : Naming.internalService clusterId ≠ Naming.externalService clusterId :=
    fun h => absurd (String.append_eq_left_iff.1 h.symm) (by decide)
  have hlead (s t : String) (hne : s ≠ t) : s ++ clusterId ≠ t ++ clusterId :=
    fun h => hne ((String.append_left_inj clusterId).1 h)
  have hkerberos : Naming.hadoopConfigMap clusterId ≠ Naming.kerberosConfigMap clusterId :=
    hlead _ _ (by decide)
  have hflink : Naming.hadoopConfigMap clusterId ≠ Naming.flinkConfigMap clusterId :=
    hlead _ _ (by decide)
  have hboth : Naming.kerberosConfigMap clusterId ≠ Naming.flinkConfigMap clusterId :=
    hlead _ _ (by decide)
  change List.Nodup [(ObjectKind.service, Naming.internalService clusterId),
    (.service, Naming.externalService clusterId), (.configMap, Naming.hadoopConfigMap clusterId),
    (.secret, Naming.keytabSecret clusterId), (.configMap, Naming.kerberosConfigMap clusterId),
    (.configMap, Naming.flinkConfigMap clusterId)]
  simp only [List.nodup_cons, List.mem_cons, List.not_mem_nil, Prod.mk.injEq, reduceCtorEq,
    false_and, true_and, hservices, hkerberos, hflink, hboth, or_false, not_false_eq_true,
    List.nodup_nil, and_self]

end Step

/-! ## Plans -/

theorem Specification.identity?_createStatefulSet {draft : PodDraft}
    {claims : List (Option VolumeClaim)} {p : Parameters} {name : String}
    {owners : List (Option OwnerReference)} {s : StatefulSet}
    (h : createStatefulSet draft claims p name owners = .ok s) :
    (Resource.statefulSet s).identity? = some (.statefulSet, name) := by
  obtain ⟨_, _, _, _, _, -, -, -, -, -, rfl⟩ := createStatefulSet_ok h
  rfl

namespace Plan

variable {host : Host} {spec : DeploymentSpec} {conf : Configuration} {plan : Plan} {uid : String}

/-- The parts of a plan. -/
theorem make_ok (h : make host spec conf = .ok plan) :
    ∃ jobManager taskManager draft draft' task,
      Parameters.of .jobManager conf = .ok jobManager ∧
      Parameters.of .taskManager conf = .ok taskManager ∧
      jobManager.namespaceName = .ok plan.namespaceName ∧
      jobManager.clusterId = plan.clusterId ∧
      Specification.jobManager host draft [] jobManager = .ok plan.jobManager ∧
      Specification.taskManager host draft' [] taskManager = .ok task ∧
      task.statefulSet = plan.taskManager := by
  obtain ⟨jobManager, hjobManager, h⟩ := Outcome.bind_ok h
  obtain ⟨taskManager, htaskManager, h⟩ := Outcome.bind_ok h
  obtain ⟨ns, hns, h⟩ := Outcome.bind_ok h
  obtain ⟨draft, -, h⟩ := Outcome.bind_ok h
  obtain ⟨job, hjob, h⟩ := Outcome.bind_ok h
  obtain ⟨draft', -, h⟩ := Outcome.bind_ok h
  obtain ⟨task, htask, h⟩ := Outcome.bind_ok h
  rw [← Outcome.pure_ok h]
  exact ⟨jobManager, taskManager, draft, draft', task, hjobManager, htaskManager, hns, rfl, hjob,
    htask, rfl⟩

/-- The configuration names the plan's cluster. -/
theorem find?_clusterId_of_make (h : make host spec conf = .ok plan) :
    conf.find? Options.clusterId = .ok (some plan.clusterId) := by
  obtain ⟨p, _, _, _, _, hp, -, -, hid, -⟩ := make_ok h
  exact hid ▸ (Parameters.of_ok hp).2.1

/-- Each role sees the configuration under the plan's cluster id. -/
theorem parameters_of_make {role : Role} {p : Parameters} (h : make host spec conf = .ok plan)
    (hp : Parameters.of role conf = .ok p) : p = { role, conf, clusterId := plan.clusterId } := by
  obtain ⟨heq, hid, -⟩ := Parameters.of_ok hp
  rw [find?_clusterId_of_make h] at hid
  rw [heq, Option.some.inj (Except.ok.inj hid)]

/-- What the objects of a plan are called, whatever it was made of. -/
structure Built (plan : Plan) : Prop where
  jobManager : (Resource.statefulSet plan.jobManager.statefulSet).identity? =
    some (.statefulSet, Naming.jobManager plan.clusterId)
  taskManager : (Resource.statefulSet plan.taskManager).identity? =
    some (.statefulSet, Naming.taskManager plan.clusterId)
  resources : (plan.jobManager.resources.map Resource.identity?).Sublist
    (((Step.chain .jobManager).flatMap (Step.identities plan.clusterId)).map some)

theorem built_of_make (h : make host spec conf = .ok plan) : plan.Built := by
  obtain ⟨p, q, _, _, task, hp, hq, -, hid, hjob, htask, htaskManager⟩ := make_ok h
  obtain ⟨_, _, hcompose, hset⟩ := Specification.jobManager_ok hjob
  obtain ⟨-, _, htaskSet⟩ := Specification.taskManager_ok htask
  have hq' : q.clusterId = plan.clusterId := congrArg Parameters.clusterId (parameters_of_make h hq)
  have hjobManager := Specification.identity?_createStatefulSet hset
  have htask' := Specification.identity?_createStatefulSet htaskSet
  have hresources := Step.identities_compose hcompose
  rw [hid] at hjobManager hresources
  rw [hq', htaskManager] at htask'
  exact ⟨hjobManager, htask', hresources⟩

/-! ## Objects -/

/-- The objects of a plan under an owner, in the order in which they are written. -/
def objects (plan : Plan) (uid : String) : List Resource :=
  .statefulSet plan.jobManager.statefulSet ::
    (plan.jobManager.resources.map (plan.owned uid) ++ [.statefulSet plan.taskManager])

theorem identity?_owned {r : Resource} {i : ObjectKind × String} (h : r.identity? = some i) :
    (plan.owned uid r).identity? = some i := by
  obtain ⟨kind, name⟩ := i
  obtain ⟨hkind, -, hname⟩ := Resource.identity?_eq_some.1 h
  refine Resource.identity?_eq_some.2 ⟨?_, ?_, ?_⟩
  · rw [owned, Resource.kind_withMetadata, hkind]
  · cases r <;> rfl
  · rw [owned, Resource.metadata_withMetadata, hname]

/-- The kinds and names that the objects of a cluster can have. -/
def identities (clusterId : String) : List (ObjectKind × String) :=
  (.statefulSet, Naming.jobManager clusterId) ::
    ((Step.chain .jobManager).flatMap (Step.identities clusterId) ++
      [(.statefulSet, Naming.taskManager clusterId)])

theorem nodup_identities (clusterId : String) : (identities clusterId).Nodup := by
  have hkind : ∀ i ∈ (Step.chain .jobManager).flatMap (Step.identities clusterId),
      i.1 ≠ ObjectKind.statefulSet := by
    intro i hi hstatefulSet
    obtain ⟨step, -, hstep⟩ := List.mem_flatMap.1 hi
    have hmem := Step.kind_of_mem_identities hstep
    rw [hstatefulSet] at hmem
    exact absurd hmem (by decide)
  have hnames : Naming.jobManager clusterId ≠ Naming.taskManager clusterId :=
    fun h => absurd (String.append_eq_left_iff.1 h.symm) (by decide)
  refine List.nodup_cons.2 ⟨fun h => ?_, (Step.nodup_identities clusterId).append
    (List.nodup_singleton _) fun i hi hlast => ?_⟩
  · rcases List.mem_append.1 h with h | h
    · exact hkind _ h rfl
    · exact hnames (Prod.mk.inj (List.mem_singleton.1 h)).2
  · exact hkind i hi (congrArg Prod.fst (List.mem_singleton.1 hlast))

namespace Built

variable {r : Resource}

/-- Every resource of a plan is of a kind that is applied next to workloads, and has a name. -/
theorem exists_identity (h : plan.Built) (hr : r ∈ plan.jobManager.resources) :
    ∃ kind name, kind ∈ accompanyingKinds ∧ r.identity? = some (kind, name) := by
  have hmem := h.resources.mem (List.mem_map_of_mem hr)
  obtain ⟨⟨kind, name⟩, hi, heq⟩ := List.mem_map.1 hmem
  obtain ⟨step, -, hstep⟩ := List.mem_flatMap.1 hi
  exact ⟨kind, name, Step.kind_of_mem_identities hstep, heq.symm⟩

/-- The objects of a plan have their kinds and names from a list without repetitions. -/
theorem identities_objects (h : plan.Built) (uid : String) :
    ((plan.objects uid).map Resource.identity?).Sublist ((identities plan.clusterId).map some) := by
  have howned : (plan.jobManager.resources.map (plan.owned uid)).map Resource.identity? =
      plan.jobManager.resources.map Resource.identity? := by
    rw [List.map_map]
    refine List.map_congr_left fun r hr => ?_
    obtain ⟨kind, name, -, hi⟩ := h.exists_identity hr
    rw [Function.comp_apply, identity?_owned hi, hi]
  rw [objects, List.map_cons, List.map_append, howned, List.map_singleton, h.jobManager,
    h.taskManager, identities, List.map_cons, List.map_append, List.map_singleton]
  exact (h.resources.append (List.Sublist.refl _)).cons_cons _

/-- Every object of a plan has a kind and a name. -/
theorem exists_identity_of_mem_objects (h : plan.Built) (hr : r ∈ plan.objects uid) :
    ∃ kind name, r.identity? = some (kind, name) := by
  have hmem := (h.identities_objects uid).mem (List.mem_map_of_mem hr)
  obtain ⟨⟨kind, name⟩, -, heq⟩ := List.mem_map.1 hmem
  exact ⟨kind, name, heq.symm⟩

/-- No two objects of a plan have one kind and name. -/
theorem nodup_objects (h : plan.Built) (uid : String) :
    ((plan.objects uid).map Resource.identity?).Nodup :=
  (h.identities_objects uid).nodup
    ((nodup_identities plan.clusterId).map fun _ _ => Option.some.inj)

end Built

end Plan

end FlinkCluster
