import FlinkCluster.Proofs.MountedResources
import FlinkCluster.Proofs.RenderedConfiguration
import FlinkCluster.Proofs.Selection

/-!
# References between the objects of a cluster

The pods of a cluster, its configuration and its services refer to each other by names, keys and
paths that are computed apart. They agree in every configuration for which the cluster can be built.

* `Specification.StatesOptions`: the file in the config map of a cluster has a line for each option,
  and reading it gives these options as far as they are legible.
* `Specification.mountsResolve`, `Specification.addressResolves`, `Specification.keytabResolves`:
  what is mounted, the address and the keytab lead to resources of the job manager.
* `Specification.references_resolve`: all of it, for a cluster and the pods of either role. A value
  that is not legible can state another address (`Specification.references_misstated`).
-/

set_option autoImplicit false

namespace FlinkCluster

open Kubernetes

/-! ## Pods of stateful sets -/

/-- The volumes of the pods of a stateful set. -/
def Kubernetes.StatefulSet.volumes (s : StatefulSet) : List (Option Volume) :=
  ((s.spec.bind (·.template.spec)).bind (·.volumes)).getD []

/-- The mounts of the first container of the pods of a stateful set. -/
def Kubernetes.StatefulSet.mainMounts (s : StatefulSet) : List (Option VolumeMount) :=
  match s.containers with
  | some main :: _ => main.volumeMounts.getD []
  | _ => []

namespace Step

variable {p : Parameters} {host : Host} {ns : String} {rs : List Resource}

/-! ## The configuration in the pods -/

theorem podText?_address (hns : p.namespaceName = .ok ns) :
    p.conf.podText? p.clusterId Options.jobManagerRpcAddress.key =
      if p.conf.isHighlyAvailable then p.conf.text? Options.jobManagerRpcAddress.key
      else some (Naming.internalAddress p.clusterId ns) := by
  rw [Parameters.namespaceName, Configuration.get_plain rfl] at hns
  have hother : Options.jobManagerRpcAddress.key ≠ Options.kerberosKeytab.key := by decide
  rw [Configuration.podText?, Except.ok.inj hns, if_neg (by decide)]
  cases p.conf.isHighlyAvailable with
  | false => rw [if_pos ⟨rfl, rfl⟩, if_neg (by decide)]; rfl
  | true =>
    rw [if_neg (fun h => by cases h.2), if_neg fun h => hother h.1, if_pos rfl]

theorem podText?_keytab {path : String} (h : keytab? p = .ok (some path)) :
    p.conf.podText? p.clusterId Options.kerberosKeytab.key =
      some (keytabDirInPod ++ "/" ++ Text.baseName path) := by
  rw [keytab?_eq] at h
  have hother : Options.kerberosKeytab.key ≠ Options.jobManagerRpcAddress.key := by decide
  rw [Configuration.podText?, Except.ok.inj h, if_neg (by decide), if_neg fun h => hother h.1,
    if_pos ⟨rfl, rfl⟩, Option.map_some]

/-- The config map with the configuration that the pods see. -/
theorem flinkConfResources_ok (h : flinkConfResources p host = .ok rs) :
    ∃ written m, podConfiguration p = .ok written ∧ .configMap m ∈ rs ∧
      m.metadata.bind (·.name) = some (Naming.flinkConfigMap p.clusterId) ∧
      (m.data.getD .empty).get? flinkFileName = some (some (renderConfiguration written)) := by
  obtain ⟨files, hfiles, h⟩ := Outcome.bind_ok h
  obtain ⟨r, hr, h⟩ := Outcome.bind_ok h
  obtain rfl := Outcome.pure_ok h
  obtain ⟨m, hm, hr⟩ := Outcome.bind_ok hr
  obtain rfl := Outcome.pure_ok hr
  obtain ⟨logging, written, hwritten, rfl⟩ := flinkFiles_ok hfiles
  refine ⟨written, _, hwritten, List.mem_singleton_self _, ownedMetadata_name hm, ?_⟩
  simp [ofTexts]

/-! ## The services of the job manager -/

/-- Without high availability there is a service at the job manager's address. -/
theorem internalServices_ok (hns : p.namespaceName = .ok ns)
    (havailable : p.highAvailability = .ok false) (h : internalServices p = .ok rs) :
    ∃ v, .service v ∈ rs ∧
      v.metadata.bind (·.name) = some (Naming.internalService p.clusterId) ∧
      v.metadata.bind (·.namespaceName) = some ns := by
  obtain ⟨available, havailable', h⟩ := Outcome.bind_ok h
  obtain rfl := Except.ok.inj (havailable.symm.trans havailable')
  obtain ⟨m, hm, h⟩ := Outcome.bind_ok h
  obtain ⟨rpc, -, h⟩ := Outcome.bind_ok h
  obtain ⟨blob, -, h⟩ := Outcome.bind_ok h
  obtain rfl := Outcome.pure_ok h
  obtain ⟨ns', hns', hm⟩ := Outcome.bind_ok hm
  obtain rfl := Except.ok.inj (hns.symm.trans hns')
  obtain rfl := Outcome.pure_ok hm
  exact ⟨_, List.mem_singleton_self _, rfl, rfl⟩

/-- With high availability no service has the cluster's name. -/
theorem service_name_ne {steps : List Step} {draft last : PodDraft}
    (havailable : p.highAvailability = .ok true)
    (h : compose p host steps draft = .ok (last, rs)) {v : Kubernetes.Service}
    (hv : .service v ∈ rs) : v.metadata.bind (·.name) ≠ some p.clusterId := by
  obtain ⟨step, -, part, hpart, hv⟩ := exists_step h hv
  have hidentity := (identities_resources hpart).mem (List.mem_map_of_mem hv)
  obtain ⟨⟨kind, name⟩, hmem, heq⟩ := List.mem_map.1 hidentity
  obtain ⟨hkind, hmetadata, hname⟩ := Resource.identity?_eq_some.1 heq.symm
  have hfound : v.metadata.bind (·.name) = some name := by
    rw [show v.metadata = some (Resource.service v).metadata from hmetadata]
    exact hname
  rw [hfound]
  have hother := (kind_eq_service_iff hpart hv).1 rfl
  cases step with
  | internalService =>
    obtain ⟨available, havailable', hpart⟩ := Outcome.bind_ok hpart
    obtain rfl := Except.ok.inj (havailable.symm.trans havailable')
    obtain rfl := Outcome.pure_ok hpart
    cases hv
  | externalService =>
    rw [(Prod.mk.inj (List.mem_singleton.1 hmem)).2]
    intro h
    exact absurd (String.append_eq_left_iff.1 (Option.some.inj h)) (by decide)
  | hadoop | kerberos | flinkConf => simp [mountSteps] at hother
  | _ => cases hmem

end Step

/-! ## Specifications -/

namespace Specification

open Step (Mounts chain mountSteps)

variable {host : Host} {template template' : PodDraft}
  {claims claims' : List (Option VolumeClaim)} {p q : Parameters} {a b : Specification}

/-- What the mount steps mount is in the pods of a stateful set, under names that only the template
uses besides, and shows one of the resources, except a Hadoop configuration that the user names. -/
def MountsResolve (q : Parameters) (host : Host) (template : PodDraft) (namespaceName : String)
    (resources : List Resource) (s : StatefulSet) : Prop :=
  ∀ step ∈ mountSteps, ∃ volumes mounts,
    Mounts q host (chain q.role) template step volumes mounts ∧
    volumes.map some ⊆ s.volumes ∧ mounts.map some ⊆ s.mainMounts ∧
    ∀ v ∈ volumes,
      (∀ m, some m ∈ s.mainMounts → m.name = v.name →
        some m ∈ template.main.volumeMounts.getD [] ∨ m ∈ mounts) ∧
      ((step = .hadoop ∧ ∃ name, q.hadoopConfigMap = .ok (some name) ∧ name ≠ "") ∨
        ∃ r ∈ resources, v.Resolves mounts namespaceName r)

/-- The configuration file of a cluster is a text in this config map, with a line for each of the
options, of which no two have one key. What reading the lines gives is exactly these options if, and
only if, the configuration is legible. -/
structure StatesOptions (p : Parameters) (m : ConfigMap) (text : String)
    (options : List (String × String)) : Prop where
  name : m.metadata.bind (·.name) = some ("flink-config-" ++ p.clusterId)
  file : (m.data.getD .empty).get? "flink-conf.yaml" = some (some text)
  lines : text = Text.join "" (options.map fun e => e.1 ++ ": " ++ e.2 ++ "\n")
  ordered : options.Pairwise fun a b => a.1 < b.1
  read_iff : Configuration.readOptions? text = some options ↔ p.conf.IsLegible p.clusterId

/-- The address among the options is that of a service that leads to pods with the labels, or with
high availability the configured one, and then no service has the cluster's name. -/
def AddressResolves (p : Parameters) (namespaceName : String) (resources : List Resource)
    (labels : TextMap) (options : List (String × String)) : Prop :=
  (p.highAvailability = .ok false ∧ ∃ v name, .service v ∈ resources ∧
      v.metadata.bind (·.name) = some name ∧
      v.metadata.bind (·.namespaceName) = some namespaceName ∧ v.Selects labels ∧
      (Options.jobManagerRpcAddress.key, name ++ "." ++ namespaceName) ∈ options) ∨
    (p.highAvailability = .ok true ∧
      (∀ v, .service v ∈ resources → v.metadata.bind (·.name) ≠ some p.clusterId) ∧
      ∀ address, (Options.jobManagerRpcAddress.key, address) ∈ options ↔
        p.conf.text? Options.jobManagerRpcAddress.key = some address)

/-- With a keytab and a principal, the path of the keytab among the options is that of the only key
of a secret among the resources, in the directory in which it is mounted. -/
def KeytabResolves (p : Parameters) (namespaceName : String) (resources : List Resource)
    (s : StatefulSet) (options : List (String × String)) : Prop :=
  ∀ keytab principal, p.kerberosKeytab = .ok (some keytab) → keytab ≠ "" →
    p.kerberosPrincipal = .ok (some principal) → principal ≠ "" →
    ∃ v m r key, some v ∈ s.volumes ∧ some m ∈ s.mainMounts ∧ m.name = v.name ∧
      m.subPath = none ∧ r ∈ resources ∧ r.kind = .secret ∧
      v.Resolves [m] namespaceName r ∧ r.dataKeys = [key] ∧
      (Options.kerberosKeytab.key, m.mountPath ++ "/" ++ key) ∈ options

/-- The pods of a stateful set are those that its role composes. -/
theorem composed_of_build (h : build host template claims p = .ok a) :
    ∃ last rs, Step.compose p host (chain p.role) template = .ok (last, rs) ∧
      a.statefulSet.volumes = last.spec.volumes.getD [] ∧
      a.statefulSet.mainMounts = last.main.volumeMounts.getD [] := by
  obtain ⟨last, rs, _, _, hcompose, hset⟩ := exists_composed h
  obtain ⟨cs, _, _, _, _, hcs, -, -, -, -, hs⟩ := createStatefulSet_ok hset
  obtain ⟨others, rfl, -⟩ := PodDraft.containers_ok hcs
  rw [hs]
  exact ⟨last, rs, hcompose, rfl, rfl⟩

theorem mem_chain_of_mem_mountSteps {step : Step} (h : step ∈ mountSteps) (role : Role) :
    step ∈ chain role := by
  rw [← Step.filter_chain role] at h
  exact (List.mem_filter.1 h).1

variable {ns : String} {draft last : PodDraft} {resources : List Resource}

/-- The pods of both roles show the resources of the job manager. -/
theorem mountsResolve (hconf : q.conf = p.conf) (hid : q.clusterId = p.clusterId)
    (hns : p.namespaceName = .ok ns)
    (hp : Step.compose p host (chain .jobManager) draft = .ok (last, resources))
    (hb : build host template' claims' q = .ok b) :
    MountsResolve q host template' ns resources b.statefulSet := by
  obtain ⟨last', _, hcompose, hvolumes, hmounts⟩ := composed_of_build hb
  have hns' : q.namespaceName = .ok ns := by
    rw [Parameters.namespaceName, hconf]
    exact hns
  intro step hstep
  obtain ⟨part, hpart, hsub⟩ := Step.exists_part hp (mem_chain_of_mem_mountSteps hstep _)
  rw [← Step.resources_mountStep hstep hconf hid] at hpart
  obtain ⟨d, d', volumes, mounts, hdecorate, hadds, hpinned, hkept, hkept', hothers⟩ :=
    Step.mounts_of_compose (Step.nodup_chain q.role) (mem_chain_of_mem_mountSteps hstep _) hcompose
  refine ⟨volumes, mounts, hpinned, hvolumes ▸ hkept, hmounts ▸ hkept', fun v hv => ⟨?_, ?_⟩⟩
  · intro m hm hname
    rw [hmounts] at hm
    exact hothers m hm (by rw [hname, List.mem_singleton.1 (hadds.owned v hv)])
  · refine (Step.resolves_of_decorate hstep hns' hdecorate hadds.adds hpart v hv).imp_right ?_
    rintro ⟨r, hr, hresolves⟩
    exact ⟨r, hsub hr, hresolves⟩

theorem addressResolves {labels : TextMap} {options : List (String × String)}
    (hns : p.namespaceName = .ok ns)
    (hoptions : ∀ key s, (key, s) ∈ options ↔ p.conf.podText? p.clusterId key = some s)
    (hp : Step.compose p host (chain .jobManager) draft = .ok (last, resources))
    (hselectors : (ofTexts p.selectors).Within labels) :
    AddressResolves p ns resources labels options := by
  have haddress := Step.podText?_address hns
  have havailable := p.highAvailability_eq
  cases h : p.conf.isHighlyAvailable with
  | false =>
    rw [h] at haddress havailable
    left
    have hstep : Step.internalService ∈ chain .jobManager := by decide
    obtain ⟨part, hpart, hsub⟩ := Step.exists_part hp hstep
    obtain ⟨v, hv, hname, hnamespace⟩ := Step.internalServices_ok hns havailable hpart
    have hselector := (Step.resources_ok hpart hv).selector v rfl
    exact ⟨havailable, v, _, hsub hv, hname, hnamespace, ⟨_, hselector, hselectors⟩,
      (hoptions _ _).2 haddress⟩
  | true =>
    rw [h, if_pos rfl] at haddress
    rw [h] at havailable
    right
    refine ⟨havailable, fun v hv => Step.service_name_ne havailable hp hv, fun address => ?_⟩
    rw [hoptions, haddress]

theorem keytab?_of_both {keytab principal : String}
    (hkeytab : p.kerberosKeytab = .ok (some keytab)) (hne : keytab ≠ "")
    (hprincipal : p.kerberosPrincipal = .ok (some principal)) (hne' : principal ≠ "") :
    Step.keytab? p = .ok (some keytab) := by
  simp [Step.keytab?, hkeytab, hprincipal, hne, hne', bind, Except.bind, pure, Except.pure,
    Option.filter]

theorem keytabResolves {options : List (String × String)} (hconf : q.conf = p.conf)
    (hid : q.clusterId = p.clusterId) (hns : p.namespaceName = .ok ns)
    (hoptions : ∀ key s, (key, s) ∈ options ↔ p.conf.podText? p.clusterId key = some s)
    (hp : Step.compose p host (chain .jobManager) draft = .ok (last, resources))
    (hb : build host template' claims' q = .ok b) :
    KeytabResolves p ns resources b.statefulSet options := by
  intro keytab principal hkeytab hne hprincipal hne'
  have hboth := keytab?_of_both hkeytab hne hprincipal hne'
  have hboth' : Step.keytab? q = .ok (some keytab) := by
    rw [← hboth, Step.keytab?, Step.keytab?, Parameters.kerberosKeytab,
      Parameters.kerberosPrincipal, hconf]
    rfl
  -- The volume and the mount are among those of the Kerberos step.
  have hstep : Step.kerberos ∈ mountSteps := by decide
  obtain ⟨last', _, hcompose, hvolumes, hmounts⟩ := composed_of_build hb
  obtain ⟨d, d', volumes, mounts, hdecorate, hadds, -, hkept, hkept', -⟩ :=
    Step.mounts_of_compose (Step.nodup_chain q.role) (mem_chain_of_mem_mountSteps hstep _) hcompose
  obtain ⟨d₁, hfirst, hsecond⟩ := Outcome.bind_ok hdecorate
  obtain ⟨hnone, -⟩ | ⟨path, -, hmounted⟩ := Step.mountKeytab_ok hfirst
  · rw [hboth'] at hnone
    cases hnone
  obtain ⟨volumes', mounts', hrest⟩ : ∃ volumes' mounts', d₁.Adds d' volumes' mounts' := by
    obtain ⟨-, hnothing⟩ | ⟨_, -, hfile⟩ := Step.mountKerberosFile_ok hsecond
    · exact ⟨_, _, hnothing⟩
    · exact ⟨_, _, hfile⟩
  obtain ⟨rfl, rfl⟩ := (hmounted.trans hrest).unique hadds.adds
  -- The secret is among the resources of the same step of the job manager.
  obtain ⟨part, hpart, hsub⟩ := Step.exists_part hp (mem_chain_of_mem_mountSteps hstep _)
  obtain ⟨secrets, hsecrets, hpart⟩ := Outcome.bind_ok hpart
  obtain ⟨maps, -, hpart⟩ := Outcome.bind_ok hpart
  obtain rfl := Outcome.pure_ok hpart
  have hwhole : ∀ m ∈ [VolumeMount.mk Step.keytabDirInPod Step.keytabVolume none none []],
      m.name = Step.keytabVolume → m.subPath = none := by simp
  obtain ⟨r, hr, hresolves, hkind, hkeys⟩ := Step.resolves_keytab hns hboth hwhole hsecrets
  rw [← hid] at hresolves
  refine ⟨_, _, r, _, ?_, ?_, rfl, rfl, hsub (List.mem_append_left maps hr), hkind, hresolves,
    hkeys, (hoptions _ _).2 (Step.podText?_keytab hboth)⟩
  · rw [hvolumes]
    exact hkept (by simp)
  · rw [hmounts]
    exact hkept' (by simp)

/-- The configuration file among the resources of a job manager. -/
theorem exists_file
    (hcompose : Step.compose p host (chain .jobManager) draft = .ok (last, resources)) :
    ∃ written m, Step.podConfiguration p = .ok written ∧ .configMap m ∈ resources ∧
      StatesOptions p m (Step.renderConfiguration written) written.table.sorted ∧
      ∀ key s, (key, s) ∈ written.table.sorted ↔ p.conf.podText? p.clusterId key = some s := by
  obtain ⟨written, hwritten, htext⟩ := Step.podConfiguration_eq p
  have hstep : Step.flinkConf ∈ chain .jobManager := by decide
  obtain ⟨part, hpart, hsub⟩ := Step.exists_part hcompose hstep
  obtain ⟨written', m, hwritten', hm, hname, hdata⟩ := Step.flinkConfResources_ok hpart
  obtain rfl := Except.ok.inj (hwritten.symm.trans hwritten')
  refine ⟨written, m, hwritten, hsub hm, ?_, fun key s => ?_⟩
  · exact ⟨hname, hdata, rfl, written.table.pairwise_lt_sorted, Step.readOptions?_rendered_iff htext⟩
  · rw [Table.mem_sorted_iff, ← htext key, Configuration.text?]

/-- **Every generated reference resolves.** Where a job manager and the pods of a role are built
from one configuration, the config map of the cluster has the configuration file, and reading it
gives the options that it was written from if they are legible. What the mount steps mount into the
pods, and the address of the job manager and the path of the keytab among these options, lead to the
resources of the job manager. -/
theorem references_resolve {r : Role} {conf : Configuration}
    (hp : Parameters.of .jobManager conf = .ok p) (hq : Parameters.of r conf = .ok q)
    (ha : build host template claims p = .ok a) (hb : build host template' claims' q = .ok b) :
    ∃ ns m text options, p.namespaceName = .ok ns ∧ .configMap m ∈ a.resources ∧
      StatesOptions p m text options ∧
      MountsResolve q host template' ns a.resources b.statefulSet ∧
      AddressResolves p ns a.resources a.statefulSet.podLabels options ∧
      KeytabResolves p ns a.resources b.statefulSet options := by
  have hconf : q.conf = p.conf := by
    rw [(Parameters.of_ok hp).1, (Parameters.of_ok hq).1]
  have hid : q.clusterId = p.clusterId :=
    Option.some.inj (Except.ok.inj
      ((Parameters.of_ok hq).2.1.symm.trans (Parameters.of_ok hp).2.1))
  have hrole : p.role = .jobManager := congrArg Parameters.role (Parameters.of_ok hp).1
  have hjob : jobManager host template claims p = .ok a := by
    rw [build, hrole] at ha
    exact ha
  obtain ⟨draft, owners, hcompose, hset⟩ := jobManager_ok hjob
  obtain ⟨-, labels, hlabels⟩ := selectors_createStatefulSet hset
  obtain ⟨_, _, ns, _, _, -, -, hns, -⟩ := createStatefulSet_ok hset
  obtain ⟨written, m, -, hm, hstates, hoptions⟩ := exists_file hcompose
  have hselectors : (ofTexts p.selectors).Within a.statefulSet.podLabels := by
    rw [hlabels]
    exact Naming.selectors_within_iff.2 ⟨rfl, rfl⟩
  exact ⟨ns, m, _, _, hns, hm, hstates, mountsResolve hconf hid hns hcompose hb,
    addressResolves hns hoptions hcompose hselectors,
    keytabResolves hconf hid hns hoptions hcompose hb⟩

/-- What reading the file gives leads to the keytab. -/
theorem references_resolve_kerberized :
    ∃ (a b : Specification) (ns : String) (m : ConfigMap) (text : String)
      (options : List (String × String)),
      build .furnished {} [] ⟨.jobManager, .kerberized, "demo"⟩ = .ok a ∧
      build .furnished {} [] ⟨.taskManager, .kerberized, "demo"⟩ = .ok b ∧
      .configMap m ∈ a.resources ∧
      (m.data.getD .empty).get? "flink-conf.yaml" = some (some text) ∧
      Configuration.readOptions? text = some options ∧
      MountsResolve ⟨.taskManager, .kerberized, "demo"⟩ .furnished {} ns a.resources
        b.statefulSet ∧
      (∃ v m r key, some v ∈ b.statefulSet.volumes ∧ r ∈ a.resources ∧ r.kind = .secret ∧
        v.Resolves [m] ns r ∧ r.dataKeys = [key] ∧
        (Options.kerberosKeytab.key, m.mountPath ++ "/" ++ key) ∈ options) := by
  have hp : Parameters.of .jobManager .kerberized = .ok ⟨.jobManager, .kerberized, "demo"⟩ := by
    decide +kernel
  have hq : Parameters.of .taskManager .kerberized = .ok ⟨.taskManager, .kerberized, "demo"⟩ := by
    decide +kernel
  obtain ⟨a, ha⟩ : ∃ a, build .furnished {} [] ⟨.jobManager, .kerberized, "demo"⟩ = .ok a :=
    Outcome.exists_of_isOk (by decide +kernel)
  obtain ⟨b, hb⟩ : ∃ b, build .furnished {} [] ⟨.taskManager, .kerberized, "demo"⟩ = .ok b :=
    Outcome.exists_of_isOk (by decide +kernel)
  have hlines : ∀ e ∈ Configuration.kerberized.table.entries, Configuration.IsLine e := by
    decide +kernel
  have hlegible := Step.isLegible_of_isLine hp fun key s hs =>
    hlines _ (Table.mem_entries_iff.2 hs)
  obtain ⟨ns, m, text, options, -, hm, hstates, hmounts, -, hkeytab⟩ :=
    references_resolve hp hq ha hb
  obtain ⟨v, m', r, key, hv, -, -, -, hr, hkind, hresolves, hkeys, hpath⟩ :=
    hkeytab "etc/flink.keytab" "flink" (by decide +kernel) (by decide) (by decide +kernel)
      (by decide)
  exact ⟨a, b, ns, m, text, options, ha, hb, hm, hstates.file, hstates.read_iff.2 hlegible, hmounts,
    v, m', r, key, hv, hr, hkind, hresolves, hkeys, hpath⟩

/-- A configuration of the cluster `c1` with a value that is not legible. -/
def misstated : Configuration :=
  .ofEntries [(Options.jobManagerRpcAddress.key, .text "c1"), (Options.clusterId.key, .text "c1"),
    ("z", .text "x\njobmanager.rpc.address: elsewhere")]

/-- The last address that the file of that cluster states is of no service. -/
theorem references_misstated :
    ∃ a m text options, build .bare {} [] ⟨.jobManager, misstated, "c1"⟩ = .ok a ∧
      .configMap m ∈ a.resources ∧
      (m.data.getD .empty).get? "flink-conf.yaml" = some (some text) ∧
      Configuration.readOptions? text = some options ∧
      options.getLast? = some ("jobmanager.rpc.address", "elsewhere") ∧
      ∀ name ns : String, name ++ "." ++ ns ≠ "elsewhere" := by
  obtain ⟨a, ha⟩ : ∃ a, build .bare {} [] ⟨.jobManager, misstated, "c1"⟩ = .ok a :=
    Outcome.exists_of_isOk (by decide +kernel)
  obtain ⟨draft, owners, hcompose, -⟩ := jobManager_ok ha
  obtain ⟨written, m, hwritten, hm, hstates, -⟩ := exists_file hcompose
  have htext : (Step.podConfiguration ⟨.jobManager, misstated, "c1"⟩).map
      Step.renderConfiguration = .ok ("jobmanager.rpc.address: c1.default\n" ++
        "kubernetes.cluster-id: c1\nz: x\njobmanager.rpc.address: elsewhere\n") := by
    refine congrArg Except.ok ((Step.renderConfiguration_of_ordered ?_).trans ?_) <;>
      decide +kernel
  rw [hwritten] at htext
  have hread : Configuration.readOptions? (Step.renderConfiguration written) =
      some [("jobmanager.rpc.address", "c1.default"), ("kubernetes.cluster-id", "c1"), ("z", "x"),
        ("jobmanager.rpc.address", "elsewhere")] := by
    rw [Except.ok.inj htext]
    decide +kernel
  refine ⟨a, m, _, _, ha, hm, hstates.file, hread, rfl, fun name ns h => ?_⟩
  have hdot : '.' ∈ (name ++ "." ++ ns).toList := by simp
  rw [h] at hdot
  exact absurd hdot (by decide)

end Specification

end FlinkCluster
