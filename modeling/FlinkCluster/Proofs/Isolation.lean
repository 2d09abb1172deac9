import FlinkCluster.Proofs.Footprint
import FlinkCluster.Proofs.Management
import FlinkCluster.Proofs.Scaling
import FlinkCluster.Proofs.Selection

/-!
# Managing one cluster beside another

Two clusters have a name in common exactly if the id of one of them is made of the other's
(`Naming.shared_iff_overlap`).

* `Service.isolated`: managing a cluster writes and deletes no object of another one, and leaves
  its objects as they were, but for the objects whose names the two have in common.
* `Service.not_isolated`: where they have one, the task managers of the one cluster overwrite the
  job manager of the other.
-/

set_option autoImplicit false

namespace FlinkCluster

open Kubernetes Cluster

variable {σ τ : Type} {a b : String}

/-! ## Names in common -/

namespace Naming

/-- The objects that two clusters have in common by name. -/
def Overlap (a b : String) : ObjectKind → String → Prop
  | .statefulSet, name => (a = taskManager b ∧ name = a) ∨ (b = taskManager a ∧ name = b)
  | .service, name => (a = externalService b ∧ name = a) ∨ (b = externalService a ∧ name = b)
  | _, _ => False

/-- What the names of the config maps start with, by their purposes. -/
def configMapPurposes : List String := ["hadoop-config-", "kerberos-krb5conf-", "flink-config-"]

theorem mem_names_configMap {id name : String} (h : name ∈ names id .configMap) :
    ∃ purpose ∈ configMapPurposes, name = purpose ++ id := by
  simp only [names, List.mem_cons, List.not_mem_nil, or_false] at h
  rcases h with rfl | rfl | rfl
  · exact ⟨"hadoop-config-", by decide, rfl⟩
  · exact ⟨"kerberos-krb5conf-", by decide, rfl⟩
  · exact ⟨"flink-config-", by decide, rfl⟩

/-- Purposes start with different letters. -/
theorem purpose_unique {x y : String} (hx : x ∈ configMapPurposes) (hy : y ∈ configMapPurposes)
    (h : x ++ a = y ++ b) : x = y := by
  have hfirst : ∀ x ∈ configMapPurposes, ∀ u : String,
      (x ++ u).toList.head? = x.toList.head? := by
    intro x hx u
    have hfull : x.toList ≠ [] := by
      revert x
      decide
    rw [String.toList_append, List.head?_append_of_ne_nil _ hfull]
  have hheads : ∀ x ∈ configMapPurposes, ∀ y ∈ configMapPurposes,
      x.toList.head? = y.toList.head? → x = y := by decide
  refine hheads x hx y hy ?_
  rw [← hfirst x hx a, h, hfirst y hy b]

theorem shared_suffix_iff (hne : a ≠ b) {x name : String} :
    ((name = a ∨ name = a ++ x) ∧ (name = b ∨ name = b ++ x)) ↔
      (a = b ++ x ∧ name = a) ∨ (b = a ++ x ∧ name = b) := by
  constructor
  · rintro ⟨rfl | rfl, hb⟩
    · exact .inl ⟨hb.resolve_left hne, rfl⟩
    · have hsuffix : a ++ x ≠ b ++ x := fun h => hne ((String.append_left_inj x).1 h)
      have hb := hb.resolve_right hsuffix
      exact .inr ⟨hb.symm, hb⟩
  · rintro (⟨rfl, rfl⟩ | ⟨rfl, rfl⟩)
    · exact ⟨.inl rfl, .inr rfl⟩
    · exact ⟨.inr rfl, .inl rfl⟩

/-- Two clusters have an object in common by name exactly if the id of one of them is made of the
other's. -/
theorem shared_iff_overlap (hne : a ≠ b) {kind : ObjectKind} {name : String} :
    ((kind, name) ∈ Plan.identities a ∧ (kind, name) ∈ Plan.identities b) ↔
      Overlap a b kind name := by
  rw [mem_identities_iff, mem_identities_iff]
  have hprefix {x : String} : x ++ a ≠ x ++ b := fun h => hne ((String.append_right_inj x).1 h)
  cases kind with
  | statefulSet | service =>
    simp only [names, List.mem_cons, List.not_mem_nil, or_false]
    exact shared_suffix_iff hne
  | configMap =>
    refine ⟨?_, False.elim⟩
    rintro ⟨ha, hb⟩
    obtain ⟨x, hx, rfl⟩ := mem_names_configMap ha
    obtain ⟨y, hy, h⟩ := mem_names_configMap hb
    obtain rfl := purpose_unique hx hy h
    exact absurd h hprefix
  | secret =>
    simp only [names, List.mem_singleton]
    refine ⟨?_, False.elim⟩
    rintro ⟨rfl, h⟩
    exact absurd h hprefix
  | pod => exact ⟨fun h => absurd h.1 List.not_mem_nil, False.elim⟩

/-- An object with the labels of a cluster is not selected as high availability metadata. -/
theorem not_carries_highAvailability {labels : Table String} {r : Resource}
    (hselected : selectedLabels (labelSelector (highAvailabilityLabels a)) = .ok labels)
    (hr : carries (commonLabels b) r = true) : ¬ carries labels r = true := by
  have hsorted : (highAvailabilityLabels a).sorted =
      [("app", a), ("configmap-type", "high-availability")] ++
        [("type", "flink-native-kubernetes")] := sorted_highAvailabilityLabels a
  have htype := get?_selectedLabels_of_last hsorted (by decide) hselected
  rw [carries_iff, ofTexts, Table.map_within_iff] at hr
  rw [carries_iff, ofTexts, Table.map_within_iff]
  intro hlabels
  have hnative := hlabels "type" _ htype
  have hstandalone := hr "type" "flink-standalone-kubernetes" (by simp [get?_commonLabels])
  rw [hnative] at hstandalone
  exact absurd (Option.some.inj (Option.some.inj hstandalone)) (by decide)

end Naming

/-! ## Two clusters -/

namespace Service

variable {service : Service σ τ}

/-- The places of a plan have the names of its cluster. -/
theorem identity_of_mem_places {plan : Plan} (h : plan.Built) {place : Place}
    (hplace : place ∈ plan.places) :
    ∃ name, place.name = some name ∧ (place.kind, name) ∈ Plan.identities plan.clusterId := by
  rw [← plan.places_objects ""] at hplace
  obtain ⟨r, hr, rfl⟩ := List.mem_map.1 hplace
  obtain ⟨kind, name, hi, hmem⟩ := identity_of_mem_objects h hr
  obtain ⟨rfl, -, hname⟩ := Resource.identity?_eq_some.1 hi
  exact ⟨name, hname, hmem⟩

/-- The requests for one cluster do not reach the objects of another one, where the two have no name
in common. -/
theorem not_reaches {plan : Plan} {r : Request} {objects : Place → Option Resource} {place : Place}
    (hne : a ≠ plan.clusterId) (hr : r.OfCluster a) (hplan : plan.Built)
    (hplace : place ∈ plan.places)
    (hdisjoint : ∀ name, place.name = some name →
      ¬ Naming.Overlap a plan.clusterId place.kind name)
    (hlabels : place.kind = .configMap → ∀ m, objects place = some m →
      carries (Naming.commonLabels plan.clusterId) m = true) : ¬ r.Reaches objects place := by
  obtain ⟨name, hname, hmem⟩ := identity_of_mem_places hplan hplace
  have hforeign : (place.kind, name) ∉ Plan.identities a :=
    fun h => hdisjoint name hname ((Naming.shared_iff_overlap hne).1 ⟨h, hmem⟩)
  cases r with
  | create ns body =>
    rintro rfl
    obtain ⟨⟨kind, name'⟩, hi⟩ := Option.ne_none_iff_exists'.1 (hr.named ns body rfl)
    obtain ⟨rfl, -, hname'⟩ := Resource.identity?_eq_some.1 hi
    rw [show body.metadata.name = some name from hname] at hname'
    obtain rfl := Option.some.inj hname'
    exact hforeign (hr.target _ hi)
  | patch ns name' body =>
    rintro rfl
    obtain rfl := Option.some.inj hname
    exact hforeign (hr.target _ rfl)
  | readStatefulSet ns name' => exact fun h => h
  | deleteStatefulSet ns name' policy =>
    rintro rfl
    obtain rfl := Option.some.inj hname
    exact hforeign (hr.target _ rfl)
  | scaleStatefulSet ns name' replicas =>
    rintro rfl
    obtain rfl := Option.some.inj hname
    exact hforeign (hr.target _ rfl)
  | listPods ns selector =>
    intro hpod
    rw [show place.kind = .pod from hpod, Naming.mem_identities_iff] at hmem
    cases hmem
  | deleteConfigMaps ns selector =>
    rintro ⟨hconfigMap, -, labels, m, hselected, hm, hcarries⟩
    rw [hr.labels ns selector rfl] at hselected
    exact Naming.not_carries_highAvailability hselected (hlabels hconfigMap m hm) hcarries

/-- **Clusters are isolated** from each other but for the names that they have in common. Managing
one of them, with any outcome, writes and deletes by name no other object that another one is
deployed with, and all these objects stay as they were. A config map is one of them if it carries
the labels of the cluster. -/
theorem isolated {α : Type} {s : Session σ τ α} {view : σ → Place → Option Resource}
    {sound : σ → Prop} {host : Host} {spec : DeploymentSpec} {conf : Configuration} {plan : Plan}
    {w : σ} (hmanaging : service.Managing a s) (hplan : Plan.make host spec conf = .ok plan)
    (hne : a ≠ plan.clusterId) (hconfined : Confined service.server view sound)
    (hsound : sound w) :
    ∃ out trace w', s.Yields w out trace w' ∧
      (∀ r answer, .exchange r answer ∈ trace → ∀ i uid, r.target? = some i →
        i ∈ (plan.objects uid).filterMap Resource.identity? →
        Naming.Overlap a plan.clusterId i.1 i.2) ∧
      ∀ place ∈ plan.places,
        (∀ name, place.name = some name → ¬ Naming.Overlap a plan.clusterId place.kind name) →
        (place.kind = .configMap → ∀ m, view w place = some m →
          carries (Naming.commonLabels plan.clusterId) m = true) →
        view w' place = view w place := by
  have hbuilt := Plan.built_of_make hplan
  obtain ⟨out, trace, w', hyields, hpath⟩ := hmanaging.makes w
  refine ⟨out, trace, w', hyields, ?_, ?_⟩
  · intro r answer hr i uid htarget hi
    obtain ⟨o, ho, hoi⟩ := List.mem_filterMap.1 hi
    obtain ⟨kind, name, hidentity, hmem⟩ := identity_of_mem_objects hbuilt ho
    obtain rfl := Option.some.inj (hidentity.symm.trans hoi)
    exact (Naming.shared_iff_overlap hne).1 ⟨(hpath.of_mem hr).target _ htarget, hmem⟩
  · intro place hplace hdisjoint hlabels
    refine hpath.frame hconfined hsound fun r objects hr hsame => ?_
    refine not_reaches hne hr hbuilt hplace hdisjoint fun hconfigMap m hm => ?_
    exact hlabels hconfigMap m (hsame ▸ hm)

end Service

/-! ## Deployed clusters -/

namespace Plan

variable {host : Host} {spec : DeploymentSpec} {conf : Configuration} {plan : Plan}

/-- The config maps of a stored plan carry the labels of its cluster. -/
theorem StoredIn.carries {uid : String} {objects : Place → Option Resource}
    (hplan : make host spec conf = .ok plan) (h : plan.StoredIn uid objects) {place : Place}
    (hplace : place ∈ plan.places) (hkind : place.kind = .configMap) {m : Resource}
    (hm : objects place = some m) :
    Cluster.carries (Naming.commonLabels plan.clusterId) m = true := by
  obtain ⟨r, hr, rfl⟩ := List.mem_map.1 hplace
  have hresource : r ∈ plan.jobManager.resources := by
    rcases List.mem_cons.1 hr with rfl | hr
    · cases hkind
    rcases List.mem_append.1 hr with hr | hr
    · exact hr
    · rw [List.mem_singleton.1 hr] at hkind
      cases hkind
  obtain ⟨u, hstored⟩ := h.resources r hresource
  obtain rfl := Option.some.inj (hm.symm.trans hstored)
  have howned : plan.owned uid r ∈ plan.objects uid :=
    List.mem_cons_of_mem _ (List.mem_append_left _ (List.mem_map_of_mem hresource))
  have hlabels := labels_of_mem_objects hplan howned (by
    rw [owned, Resource.kind_withMetadata]
    exact hkind)
  rw [carries_iff, settled, Resource.metadata_withMetadata, hlabels, Option.getD_some,
    Table.within_iff]
  exact fun _ _ hk => hk

/-- The stateful sets of a plan name the service of its cluster. -/
theorem serviceName_of_make (h : make host spec conf = .ok plan) :
    plan.jobManager.statefulSet.spec.bind (·.serviceName) = some plan.clusterId ∧
      plan.taskManager.spec.bind (·.serviceName) = some plan.clusterId := by
  obtain ⟨p, q, _, _, task, hp, hq, -, hid, hjob, htask, htaskManager⟩ := make_ok h
  obtain ⟨_, _, -, hset⟩ := Specification.jobManager_ok hjob
  obtain ⟨-, _, htaskSet⟩ := Specification.taskManager_ok htask
  have hid' : q.clusterId = plan.clusterId :=
    congrArg Parameters.clusterId (parameters_of_make h hq)
  obtain ⟨_, _, _, _, _, -, -, -, -, -, hs⟩ := Specification.createStatefulSet_ok hset
  obtain ⟨_, _, _, _, _, -, -, -, -, -, hs'⟩ := Specification.createStatefulSet_ok htaskSet
  rw [← htaskManager, hs, hs', ← hid]
  exact ⟨rfl, by rw [hid, ← hid']; rfl⟩

end Plan

/-! ## Two session clusters -/

namespace Service

variable {service : Service σ τ} {view : σ → Place → Option Resource} {host : Host}
  {d : Deployment} {base : Configuration} {w w' : σ} {trace : List (Event τ)}

/-- The stateful sets of a deployed cluster name its service. -/
theorem deploy_stores_serviceName (laws : ObjectStore service.server view)
    (h : (service.deploy host d.spec (d.configuration base)).Yields w (.ok ()) trace w')
    (role : Role) :
    ∃ s, view w' ⟨.statefulSet, d.metadata.namespaceName,
        some (Naming.statefulSet d.metadata.name role)⟩ = some (.statefulSet s) ∧
      s.spec.bind (·.serviceName) = some d.metadata.name := by
  obtain ⟨plan, uid, hplan, hstored⟩ := deploy_stored laws h
  obtain ⟨hid, hns⟩ := Plan.identity_of_effective hplan
  have hbuilt := Plan.built_of_make hplan
  obtain ⟨hjobName, htaskName⟩ := Plan.serviceName_of_make hplan
  rw [hid] at hjobName htaskName
  cases role with
  | jobManager =>
    have hview := hstored.jobManager
    rw [placeOf_of_identity? hbuilt.jobManager, Resource.name_of_identity? hbuilt.jobManager, hid,
      hns] at hview
    exact ⟨_, hview, hjobName⟩
  | taskManager =>
    obtain ⟨u, hview⟩ := hstored.taskManager
    rw [placeOf_of_identity? hbuilt.taskManager, Resource.name_of_identity? hbuilt.taskManager,
      hid, hns] at hview
    exact ⟨_, hview, htaskName⟩

end Service

/-- A session cluster of a name. -/
def Deployment.named (name : String) : Deployment where
  metadata := { name }

/-- The configuration of that cluster. -/
def Configuration.named (name : String) : Configuration :=
  (Deployment.named name).configuration .empty

/-- Deploys that cluster in memory. -/
def Session.deployNamed (name : String) : Session Cluster Seconds Unit :=
  (Cluster.service ⟨.whole 0, .whole 1⟩).deploy .bare (Deployment.named name).spec (.named name)

/-- Where no call is made to fail, the cluster is deployed. -/
theorem Session.deployNamed_completes {name : String} {plan : Plan}
    (hplan : Plan.make .bare (Deployment.named name).spec (.named name) = .ok plan) {c : Cluster}
    (hcalm : c.faults = []) :
    ∃ trace c', (deployNamed name).Yields c (.ok ()) trace c' ∧ c'.faults = [] :=
  Service.deploy_completes Cluster.objectStore Cluster.undisturbed hplan hcalm

/-- Deploying one of two clusters in memory leaves the other one as it was deployed. -/
theorem Service.isolated_two :
    ∃ plan trace before out trace' after,
      Plan.make .bare (Deployment.named "c2").spec (.named "c2") = .ok plan ∧
      (Session.deployNamed "c2").Yields {} (.ok ()) trace before ∧
      (Session.deployNamed "c1").Yields before out trace' after ∧
      ∀ place ∈ plan.places, after.get? place = before.get? place := by
  obtain ⟨plan, hplan⟩ : ∃ plan, Plan.make .bare (Deployment.named "c2").spec (.named "c2") =
      .ok plan := Outcome.exists_of_isOk (by decide +kernel)
  obtain ⟨hid, -⟩ := Plan.identity_of_effective hplan
  obtain ⟨trace, before, hyields, -⟩ := Session.deployNamed_completes (c := {}) hplan rfl
  obtain ⟨plan', uid, hplan', hstored⟩ := deploy_stored Cluster.objectStore hyields
  obtain rfl := Except.ok.inj (hplan.symm.trans hplan')
  have hmanaging (name : String)
      (hname : (Configuration.named name).find? Options.clusterId = .ok (some name)) :
      (Cluster.service ⟨.whole 0, .whole 1⟩).Managing name (Session.deployNamed name) :=
    .deploy .bare (Deployment.named name).spec hname
  have hsound : before.Sound := by
    obtain ⟨_, _, _, hyields', hpath⟩ := (hmanaging "c2" (by decide +kernel)).makes {}
    obtain ⟨-, -, rfl⟩ := hyields.unique hyields'
    exact hpath.sound Cluster.confined (by decide)
  have hne : "c1" ≠ plan.clusterId := by
    rw [hid]
    decide
  obtain ⟨out, trace', after, hafter, -, hsame⟩ :=
    isolated (hmanaging "c1" (by decide +kernel)) hplan hne Cluster.confined hsound
  refine ⟨plan, trace, before, out, trace', after, hplan, hyields, hafter, fun place hplace =>
    hsame place hplace ?_ fun hkind m hm => hstored.carries hplan hplace hkind hm⟩
  rw [hid]
  intro name _
  cases place.kind with
  | statefulSet | service =>
    rintro (⟨h, -⟩ | ⟨h, -⟩)
    · exact absurd h (by decide)
    · exact absurd h (by decide)
  | _ => exact fun h => h

/-- Deploying a cluster overwrites the job manager of another one that has the name of its task
managers. -/
theorem Service.not_isolated :
    ∃ trace before trace' after s s',
      (Session.deployNamed "c1-taskmanager").Yields {} (.ok ()) trace before ∧
      (Session.deployNamed "c1").Yields before (.ok ()) trace' after ∧
      before.get? ⟨.statefulSet, "default", some "c1-taskmanager"⟩ = some (.statefulSet s) ∧
      after.get? ⟨.statefulSet, "default", some "c1-taskmanager"⟩ = some (.statefulSet s') ∧
      s.spec.bind (·.serviceName) = some "c1-taskmanager" ∧
      s'.spec.bind (·.serviceName) = some "c1" := by
  obtain ⟨plan, hplan⟩ : ∃ plan, Plan.make .bare (Deployment.named "c1-taskmanager").spec
      (.named "c1-taskmanager") = .ok plan := Outcome.exists_of_isOk (by decide +kernel)
  obtain ⟨plan', hplan'⟩ : ∃ plan, Plan.make .bare (Deployment.named "c1").spec (.named "c1") =
      .ok plan := Outcome.exists_of_isOk (by decide +kernel)
  obtain ⟨trace, before, hyields, hcalm⟩ := Session.deployNamed_completes (c := {}) hplan rfl
  obtain ⟨trace', after, hyields', -⟩ := Session.deployNamed_completes hplan' hcalm
  obtain ⟨s, hs, hname⟩ := deploy_stores_serviceName Cluster.objectStore hyields .jobManager
  obtain ⟨s', hs', hname'⟩ := deploy_stores_serviceName Cluster.objectStore hyields' .taskManager
  exact ⟨trace, before, trace', after, s, s', hyields, hyields', hs, hs', hname, hname'⟩

end FlinkCluster
