import FlinkCluster.Proofs.Labels
import FlinkCluster.Proofs.SharedResources

/-!
# Selecting the pods of a cluster

Whom the selectors of a cluster select: those of its stateful sets the pods of their own role, those
of its services the job manager's pods, and the common labels all of its pods. Templates and
configured labels cannot change that, because the selectors are set on top of them.

* `Step.resources_ok`: the metadata of every resource of a step, and the selector of a service.
* `Plan.labels_of_mem_objects`: a plan's resources carry the common labels of its cluster.
* `Specification.selects_iff`: who is selected, for any two configurations.
-/

set_option autoImplicit false

namespace FlinkCluster

open Kubernetes

/-! ## Selecting -/

/-- The labels of the pods of a stateful set. -/
def Kubernetes.StatefulSet.podLabels (s : StatefulSet) : TextMap :=
  ((s.spec.bind (·.template.metadata)).bind (·.labels)).getD .empty

/-- Whether a stateful set takes pods with these labels for its own. -/
def Kubernetes.StatefulSet.Selects (s : StatefulSet) (labels : TextMap) : Prop :=
  ∃ wanted, s.spec.bind (·.selector.matchLabels) = some wanted ∧ wanted.Within labels

/-- Whether a service leads to pods with these labels. -/
def Kubernetes.Service.Selects (v : Kubernetes.Service) (labels : TextMap) : Prop :=
  ∃ wanted, v.spec.bind (·.selector) = some wanted ∧ wanted.Within labels

/-- Whether the text of a selector asks for labels that are all among the given ones. -/
def Naming.Selects (selector : String) (labels : TextMap) : Prop :=
  ∃ wanted, selectedLabels selector = .ok wanted ∧ (ofTexts wanted).Within labels

/-- The text of the common labels selects the pods of its own cluster, if the cluster id cannot be
taken for several terms. -/
theorem Naming.selects_commonLabels_iff {i j : String} {s : Role} {labels : TextMap}
    (hcomma : ',' ∉ i.toList) :
    Naming.Selects (labelSelector (commonLabels i)) (labels.union (ofTexts (selectors j s))) ↔
      i = j := by
  obtain ⟨asked, hread, hview⟩ := selectedLabels_commonLabels hcomma
  have hlabels : (ofTexts (commonLabels i)).Within (labels.union (ofTexts (selectors j s))) ↔
      i = j := commonLabels_within_iff
  rw [← hlabels]
  constructor
  · rintro ⟨wanted, hwanted, hwithin⟩
    obtain rfl := Except.ok.inj (hread.symm.trans hwanted)
    rw [ofTexts, Table.map_within_iff] at hwithin ⊢
    simpa only [hview] using hwithin
  · intro hwithin
    refine ⟨_, hread, ?_⟩
    rw [ofTexts, Table.map_within_iff] at hwithin ⊢
    simpa only [hview] using hwithin

/-! ## Labels of resources -/

namespace Step

variable {p : Parameters} {host : Host} {step : Step} {rs : List Resource} {r : Resource}

/-- The metadata of a resource is that of the cluster's resources, and a service has the selectors
of the role. -/
structure OfCluster (p : Parameters) (r : Resource) : Prop where
  metadata : ∃ name annotations m, ownedMetadata p name annotations = .ok m ∧ r.metadata? = some m
  selector : ∀ v, r = .service v → v.spec.bind (·.selector) = some (ofTexts p.selectors)

theorem ofCluster_service {name : String} {annotations : Table String} {m : ObjectMeta}
    {spec : ServiceSpec} (hm : ownedMetadata p name annotations = .ok m)
    (hselector : spec.selector = some (ofTexts p.selectors)) : OfCluster p (service m spec) where
  metadata := ⟨name, annotations, m, hm, rfl⟩
  selector := by
    rintro v hv
    obtain rfl := Resource.service.inj hv
    exact hselector

theorem ofCluster_configMap {name : String} {data : Table String}
    (h : configMap p name data = .ok r) : OfCluster p r := by
  obtain ⟨m, hm, h⟩ := Outcome.bind_ok h
  obtain rfl := Outcome.pure_ok h
  exact ⟨⟨name, _, m, hm, rfl⟩, fun v hv => by cases hv⟩

theorem ofCluster_hadoopResources (h : hadoopResources p host = .ok rs) (hr : r ∈ rs) :
    OfCluster p r := by
  obtain ⟨name?, -, h⟩ := Outcome.bind_ok h
  cases name? with
  | some name =>
    obtain rfl := Outcome.pure_ok h
    cases hr
  | none =>
    obtain ⟨files, -, h⟩ := Outcome.bind_ok h
    split at h
    · obtain rfl := Outcome.pure_ok h
      cases hr
    · obtain ⟨made, hmade, h⟩ := Outcome.bind_ok h
      obtain rfl := Outcome.pure_ok h
      rw [List.mem_singleton.1 hr]
      exact ofCluster_configMap hmade

theorem ofCluster_keytabResources (h : keytabResources p host = .ok rs) (hr : r ∈ rs) :
    OfCluster p r := by
  obtain ⟨path?, -, h⟩ := Outcome.bind_ok h
  cases path? with
  | none =>
    obtain rfl := Outcome.pure_ok h
    cases hr
  | some path =>
    obtain ⟨bytes, -, h⟩ := Outcome.bind_ok h
    obtain ⟨m, hm, h⟩ := Outcome.bind_ok h
    obtain rfl := Outcome.pure_ok h
    rw [List.mem_singleton.1 hr]
    exact ⟨⟨_, _, m, hm, rfl⟩, fun v hv => by cases hv⟩

theorem ofCluster_kerberosFileResources (h : kerberosFileResources p host = .ok rs)
    (hr : r ∈ rs) : OfCluster p r := by
  obtain ⟨path?, -, h⟩ := Outcome.bind_ok h
  cases path? with
  | none =>
    obtain rfl := Outcome.pure_ok h
    cases hr
  | some path =>
    obtain ⟨text, -, h⟩ := Outcome.bind_ok h
    obtain ⟨made, hmade, h⟩ := Outcome.bind_ok h
    obtain rfl := Outcome.pure_ok h
    rw [List.mem_singleton.1 hr]
    exact ofCluster_configMap hmade

/-- Whatever a step lists is made for the cluster. -/
theorem resources_ok (h : step.resources p host = .ok rs) (hr : r ∈ rs) : OfCluster p r := by
  cases step with
  | internalService =>
    obtain ⟨available, -, h⟩ := Outcome.bind_ok h
    split at h
    · obtain rfl := Outcome.pure_ok h
      cases hr
    · obtain ⟨m, hm, h⟩ := Outcome.bind_ok h
      obtain ⟨rpc, -, h⟩ := Outcome.bind_ok h
      obtain ⟨blob, -, h⟩ := Outcome.bind_ok h
      obtain rfl := Outcome.pure_ok h
      rw [List.mem_singleton.1 hr]
      exact ofCluster_service hm rfl
  | externalService =>
    obtain ⟨type, -, h⟩ := Outcome.bind_ok h
    obtain ⟨annotations, -, h⟩ := Outcome.bind_ok h
    obtain ⟨m, hm, h⟩ := Outcome.bind_ok h
    obtain ⟨rest, -, h⟩ := Outcome.bind_ok h
    obtain rfl := Outcome.pure_ok h
    rw [List.mem_singleton.1 hr]
    exact ofCluster_service hm rfl
  | hadoop => exact ofCluster_hadoopResources h hr
  | kerberos =>
    obtain ⟨keytab, hkeytab, h⟩ := Outcome.bind_ok h
    obtain ⟨file, hfile, h⟩ := Outcome.bind_ok h
    obtain rfl := Outcome.pure_ok h
    rcases List.mem_append.1 hr with hr | hr
    · exact ofCluster_keytabResources hkeytab hr
    · exact ofCluster_kerberosFileResources hfile hr
  | flinkConf =>
    obtain ⟨files, -, h⟩ := Outcome.bind_ok h
    obtain ⟨made, hmade, h⟩ := Outcome.bind_ok h
    obtain rfl := Outcome.pure_ok h
    rw [List.mem_singleton.1 hr]
    exact ofCluster_configMap hmade
  | _ =>
    rw [← Except.ok.inj h] at hr
    cases hr

theorem OfCluster.labels (h : OfCluster p r) :
    r.metadata.labels = some (ofTexts p.commonLabels) := by
  obtain ⟨⟨name, annotations, m, hm, hmetadata⟩, -⟩ := h
  obtain ⟨ns, -, hm⟩ := Outcome.bind_ok hm
  rw [Resource.metadata, hmetadata, Option.getD_some, ← Outcome.pure_ok hm]

theorem ofCluster_of_compose {steps : List Step} {draft last : PodDraft}
    (h : compose p host steps draft = .ok (last, rs)) (hr : r ∈ rs) : OfCluster p r := by
  obtain ⟨step, -, part, hpart, hr⟩ := exists_step h hr
  exact resources_ok hpart hr

end Step

/-- The config maps of a plan are labelled as its cluster's. -/
theorem Plan.labels_of_mem_objects {host : Host} {spec : DeploymentSpec} {conf : Configuration}
    {plan : Plan} {uid : String} {r : Resource} (h : Plan.make host spec conf = .ok plan)
    (hr : r ∈ plan.objects uid) (hkind : r.kind = .configMap) :
    r.metadata.labels = some (ofTexts (Naming.commonLabels plan.clusterId)) := by
  obtain ⟨p, _, _, _, _, hp, -, -, hid, hjob, -⟩ := Plan.make_ok h
  obtain ⟨_, _, hcompose, -⟩ := Specification.jobManager_ok hjob
  rcases List.mem_cons.1 hr with rfl | hr
  · cases hkind
  rcases List.mem_append.1 hr with hr | hr
  · obtain ⟨made, hmade, rfl⟩ := List.mem_map.1 hr
    rw [Plan.owned, Resource.metadata_withMetadata]
    have hlabels := (Step.ofCluster_of_compose hcompose hmade).labels
    rw [hlabels, Parameters.commonLabels, hid]
  · rw [List.mem_singleton.1 hr] at hkind
    cases hkind

/-! ## Stateful sets -/

namespace Specification

variable {host host' : Host} {template template' : PodDraft}
  {claims claims' : List (Option VolumeClaim)} {p q : Parameters} {a b : Specification}

/-- The specification of the role that the parameters are for. -/
def build (host : Host) (template : PodDraft) (claims : List (Option VolumeClaim))
    (p : Parameters) : Outcome Specification :=
  match p.role with
  | .jobManager => jobManager host template claims p
  | .taskManager => taskManager host template claims p

/-- A specification is built of the pod that the steps of its role compose. -/
theorem exists_composed (h : build host template claims p = .ok a) :
    ∃ last rs name owners, Step.compose p host (Step.chain p.role) template = .ok (last, rs) ∧
      createStatefulSet last claims p name owners = .ok a.statefulSet := by
  unfold build at h
  split at h
  · rename_i hrole
    obtain ⟨last, owners, hcompose, hset⟩ := jobManager_ok h
    exact ⟨last, _, _, owners, hrole ▸ hcompose, hset⟩
  · rename_i hrole
    obtain ⟨⟨last, rs⟩, hcompose, h⟩ := Outcome.bind_ok h
    obtain ⟨statefulSet, hset, h⟩ := Outcome.bind_ok h
    obtain rfl := Outcome.pure_ok h
    exact ⟨last, rs, _, [], hrole ▸ hcompose, hset⟩

/-- A stateful set has the selectors of its role, and sets them on top of the other labels of its
pods. -/
theorem selectors_createStatefulSet {draft : PodDraft} {name : String}
    {owners : List (Option OwnerReference)} {s : StatefulSet}
    (h : createStatefulSet draft claims p name owners = .ok s) :
    s.spec.bind (·.selector.matchLabels) = some (ofTexts p.selectors) ∧
      ∃ labels : TextMap, s.podLabels = labels.union (ofTexts p.selectors) := by
  obtain ⟨_, _, _, _, _, -, -, -, -, -, rfl⟩ := createStatefulSet_ok h
  exact ⟨rfl, _, rfl⟩

/-- The parts of the specification of a role. -/
theorem build_ok (h : build host template claims p = .ok a) :
    (∃ draft name owners, createStatefulSet draft claims p name owners = .ok a.statefulSet) ∧
      ∀ r ∈ a.resources, p.role = .jobManager ∧ Step.OfCluster p r := by
  unfold build at h
  split at h
  · rename_i hrole
    obtain ⟨draft, owners, hcompose, hset⟩ := jobManager_ok h
    exact ⟨⟨draft, _, owners, hset⟩, fun r hr =>
      ⟨hrole, Step.ofCluster_of_compose hcompose hr⟩⟩
  · obtain ⟨hnone, draft, hset⟩ := taskManager_ok h
    refine ⟨⟨draft, _, [], hset⟩, fun r hr => ?_⟩
    rw [hnone] at hr
    cases hr

/-- **Selectors separate clusters and roles.** Of any two configurations, roles, templates and
hosts: a stateful set selects the pods of another if both are of one cluster and role, a service
those of its cluster's job manager, and the common labels those of their cluster, also as a text if
the cluster id holds no comma. The labels of high availability metadata are never those of a config
map that a cluster is deployed with. -/
theorem selects_iff {r s : Role} {conf conf' : Configuration}
    (hp : Parameters.of r conf = .ok p) (hq : Parameters.of s conf' = .ok q)
    (ha : build host template claims p = .ok a) (hb : build host' template' claims' q = .ok b) :
    (a.statefulSet.Selects b.statefulSet.podLabels ↔ p.clusterId = q.clusterId ∧ r = s) ∧
    (∀ v, .service v ∈ a.resources →
      (v.Selects b.statefulSet.podLabels ↔ p.clusterId = q.clusterId ∧ s = .jobManager)) ∧
    ((ofTexts (Naming.commonLabels p.clusterId)).Within b.statefulSet.podLabels ↔
      p.clusterId = q.clusterId) ∧
    (',' ∉ p.clusterId.toList →
      (Naming.Selects (Naming.labelSelector (Naming.commonLabels p.clusterId))
        b.statefulSet.podLabels ↔ p.clusterId = q.clusterId)) ∧
    (∀ deployed spec plan uid m, Plan.make deployed spec conf' = .ok plan →
      m ∈ plan.objects uid → m.kind = .configMap →
      Cluster.carries (Naming.highAvailabilityLabels p.clusterId) m = false) := by
  obtain ⟨⟨_, _, _, hset⟩, hresources⟩ := build_ok ha
  obtain ⟨⟨_, _, _, hset'⟩, -⟩ := build_ok hb
  obtain ⟨hselector, -⟩ := selectors_createStatefulSet hset
  obtain ⟨-, labels, hlabels⟩ := selectors_createStatefulSet hset'
  have hrole : p.role = r := congrArg Parameters.role (Parameters.of_ok hp).1
  have hrole' : q.role = s := congrArg Parameters.role (Parameters.of_ok hq).1
  rw [Parameters.selectors, hrole] at hselector
  rw [Parameters.selectors, hrole'] at hlabels
  rw [hlabels]
  refine ⟨?_, ?_, Naming.commonLabels_within_iff,
    fun hcomma => Naming.selects_commonLabels_iff hcomma, ?_⟩
  · have hwithin : (ofTexts (Naming.selectors p.clusterId r)).Within
        (labels.union (ofTexts (Naming.selectors q.clusterId s))) ↔
          p.clusterId = q.clusterId ∧ r = s := Naming.selectors_within_iff
    rw [← hwithin, StatefulSet.Selects, hselector]
    simp
  · intro v hv
    obtain ⟨hjob, hmade⟩ := hresources _ hv
    have hservice : v.spec.bind (·.selector) =
        some (ofTexts (Naming.selectors p.clusterId .jobManager)) := by
      rw [hmade.selector v rfl, Parameters.selectors, hjob]
    have hwithin : (ofTexts (Naming.selectors p.clusterId .jobManager)).Within
        (labels.union (ofTexts (Naming.selectors q.clusterId s))) ↔
          p.clusterId = q.clusterId ∧ .jobManager = s := Naming.selectors_within_iff
    rw [Kubernetes.Service.Selects, hservice, eq_comm (a := s), ← hwithin]
    simp
  · intro deployed spec plan uid m hplan hm hkind
    rw [← Bool.not_eq_true, Cluster.carries_iff, Plan.labels_of_mem_objects hplan hm hkind,
      Option.getD_some]
    exact Naming.not_highAvailabilityLabels_within

/-- A configuration whose job manager asks for labels that the selectors need. -/
def relabelled : Configuration where
  table := .ofEntries
    [(Options.clusterId.key, "demo"),
      (Options.jobManagerLabels.key, "app:other,component:taskmanager,type:mine")]

theorem selects_iff_relabelled :
    ∃ p q a b, Parameters.of .jobManager relabelled = .ok p ∧
      Parameters.of .taskManager relabelled = .ok q ∧ build .bare {} [] p = .ok a ∧
      build .bare {} [] q = .ok b ∧ ¬ b.statefulSet.Selects a.statefulSet.podLabels ∧
      ((ofTexts (Naming.commonLabels "demo")).Within a.statefulSet.podLabels ∧
        Naming.Selects (Naming.labelSelector (Naming.commonLabels "demo"))
          a.statefulSet.podLabels) := by
  have hp : Parameters.of .jobManager relabelled = .ok ⟨.jobManager, relabelled, "demo"⟩ := by
    decide +kernel
  have hq : Parameters.of .taskManager relabelled = .ok ⟨.taskManager, relabelled, "demo"⟩ := by
    decide +kernel
  obtain ⟨a, ha⟩ : ∃ a, build .bare {} [] ⟨.jobManager, relabelled, "demo"⟩ = .ok a :=
    Outcome.exists_of_isOk (by decide +kernel)
  obtain ⟨b, hb⟩ : ∃ b, build .bare {} [] ⟨.taskManager, relabelled, "demo"⟩ = .ok b :=
    Outcome.exists_of_isOk (by decide +kernel)
  obtain ⟨hselects, -, hcommon, htext, -⟩ := selects_iff hq hp hb ha
  exact ⟨_, _, a, b, hp, hq, ha, hb, fun h => absurd (hselects.1 h).2 (by decide),
    hcommon.2 rfl, (htext (by decide)).2 rfl⟩

end Specification

end FlinkCluster
