import FlinkCluster.Proofs.Agreement
import FlinkCluster.Proofs.Composition
import Mathlib.Data.List.Forall2

/-!
# Composing twice

Composing a role under two configurations that agree for it.

* `Outcome.Alike`: two computations have related results, or the same failure.
* `Step.decorate_reading`: each step of the role does the same to a pod.
* `Step.resources_reading`: each step of the role has the same resources, but for the text of the
  configuration in its config map (`Step.SameButConfiguration`).
* `Specification.jobManager_reading`, `Specification.taskManager_reading`: so have the roles.
-/

set_option autoImplicit false

namespace FlinkCluster

open Kubernetes

/-! ## Outcomes -/

namespace Outcome

variable {α α' β β' : Type} {R : α → α' → Prop} {S : β → β' → Prop} {x : Outcome α}
  {x' : Outcome α'}

/-- Both computations have results, which are related, or they fail in the same way. -/
inductive Alike (R : α → α' → Prop) : Outcome α → Outcome α' → Prop
  | ok {a : α} {a' : α'} : R a a' → Alike R (.ok a) (.ok a')
  | error (e : Failure) : Alike R (.error e) (.error e)

namespace Alike

theorem of_refl {R : α → α → Prop} (hR : ∀ a, R a a) (x : Outcome α) : Alike R x x := by
  cases x with
  | ok a => exact .ok (hR a)
  | error e => exact .error e

theorem mono {R' : α → α' → Prop} (hR : ∀ a a', R a a' → R' a a') (h : Alike R x x') :
    Alike R' x x' := by
  cases h with
  | ok h => exact .ok (hR _ _ h)
  | error e => exact .error e

theorem bind {f : α → Outcome β} {f' : α' → Outcome β'} (h : Alike R x x')
    (hf : ∀ a a', R a a' → Alike S (f a) (f' a')) : Alike S (x >>= f) (x' >>= f') := by
  cases h with
  | ok h => exact hf _ _ h
  | error e => exact .error e

theorem bind_eq {f : α → Outcome β} {f' : α' → Outcome β} (h : Alike R x x')
    (hf : ∀ a a', R a a' → f a = f' a') : x >>= f = x' >>= f' := by
  cases h with
  | ok h => exact hf _ _ h
  | error e => rfl

theorem eq {x' : Outcome α} (h : Alike Eq x x') : x = x' := by
  cases h with
  | ok h => rw [h]
  | error e => rfl

end Alike

end Outcome

/-! ## Parameters -/

namespace Parameters

open Outcome

variable {conf conf' : Configuration} {role : Role}

/-- Configurations that name the same cluster have parameters, or none, alike. -/
theorem of_alike (h : conf.find? Options.clusterId = conf'.find? Options.clusterId) :
    Alike (fun p p' => p = p'.reading conf ∧ p'.role = role ∧ p'.conf = conf' ∧
        conf.find? Options.clusterId = .ok (some p'.clusterId))
      (Parameters.of role conf) (Parameters.of role conf') := by
  unfold Parameters.of
  rw [h]
  cases conf'.find? Options.clusterId with
  | error e => exact .error e
  | ok id? =>
    cases id? with
    | none => exact .error _
    | some id =>
      change Alike _ (if id = "" then _ else _) (if id = "" then _ else _)
      split
      · exact .error _
      · exact .ok ⟨rfl, rfl, rfl, rfl⟩

end Parameters

/-! ## Steps -/

namespace Step

open Parameters Outcome

variable {p : Parameters} {conf : Configuration} {host : Host} {draft : PodDraft}

/-- Two texts are those of configurations that agree wherever two others do. -/
def Rendered (conf conf' : Configuration) (text text' : String) : Prop :=
  ∃ c c', text = renderConfiguration c ∧ text' = renderConfiguration c' ∧
    ∀ key, conf.text? key = conf'.text? key → c.text? key = c'.text? key

/-- The resources are the same, or the config maps of a cluster's configuration with different texts
of that. -/
inductive SameButConfiguration (id : String) (texts : String → String → Prop) :
    Resource → Resource → Prop
  | same (r : Resource) : SameButConfiguration id texts r r
  | flinkConf {m : ConfigMap} {text text' : String} :
    m.metadata.bind (·.name) = some (Naming.flinkConfigMap id) → (files : Table String) →
    texts text text' →
    SameButConfiguration id texts
      (.configMap { m with data := some (ofTexts (files.set flinkFileName text)) })
      (.configMap { m with data := some (ofTexts (files.set flinkFileName text')) })

/-! ### Pods -/

section

variable (h : p.Agrees conf)
include h

theorem decorateInitially_reading (ports : Outcome (List ContainerPort)) :
    decorateInitially (p.reading conf) ports draft = decorateInitially p ports draft := by
  simp only [decorateInitially, initialContainer, roleEnv, h.labels, h.annotations,
    h.serviceAccount, h.imagePullSecrets, h.nodeSelector, h.image, h.imagePullPolicy, h.cpu,
    h.memory, h.environments]

theorem jobManagerPorts_reading (hrole : p.role = .jobManager) :
    jobManagerPorts (p.reading conf) = jobManagerPorts p := by
  simp only [jobManagerPorts, h.restPort hrole, h.rpcPort hrole, h.blobServerPort hrole]

theorem taskManagerPorts_reading : taskManagerPorts (p.reading conf) = taskManagerPorts p := by
  simp only [taskManagerPorts, h.taskManagerRpcPort]

theorem addSecretVariables_reading :
    addSecretVariables (p.reading conf) draft = addSecretVariables p draft := by
  simp only [addSecretVariables, h.environmentSecrets]

theorem mountSecrets_reading : mountSecrets (p.reading conf) draft = mountSecrets p draft := by
  simp only [mountSecrets, h.secrets, refuse_reading, clusterId_reading]

theorem startJobManager_reading :
    startJobManager (p.reading conf) draft = startJobManager p draft := by
  simp only [startJobManager, applicationArgs, h.entryPath, h.isApplication, h.mainClass,
    h.savepointPath, h.allowsUnclaimedState, h.programArgs]

theorem startTaskManager_reading :
    startTaskManager (p.reading conf) draft = startTaskManager p draft := by
  simp only [startTaskManager, h.entryPath]

theorem namedHadoopMap?_reading : namedHadoopMap? (p.reading conf) = namedHadoopMap? p := by
  simp only [namedHadoopMap?, h.hadoopConfigMap]

theorem mountHadoop_reading :
    mountHadoop (p.reading conf) host draft = mountHadoop p host draft := by
  simp only [mountHadoop, hadoopMap?, hadoopFiles, namedHadoopMap?_reading h, clusterId_reading]

theorem keytab?_reading : keytab? (p.reading conf) = keytab? p := by
  simp only [keytab?, h.kerberosKeytab, h.kerberosPrincipal]

theorem kerberosFile?_reading : kerberosFile? (p.reading conf) = kerberosFile? p := by
  simp only [kerberosFile?, h.kerberosConfigFile]

theorem mountKerberos_reading :
    mountKerberos (p.reading conf) draft = mountKerberos p draft := by
  simp only [mountKerberos, mountKeytab, mountKerberosFile, keytab?_reading h,
    kerberosFile?_reading h, clusterId_reading]

theorem mountUserLib_reading : mountUserLib (p.reading conf) draft = mountUserLib p draft := by
  simp only [mountUserLib, h.isApplication, clusterId_reading]

/-! ### The cluster's configuration -/

omit h in
/-- The path of the keytab is written into either of two configurations. -/
theorem keytabWritten_alike {c c' : Configuration}
    (hc : ∀ key, conf.text? key = p.conf.text? key → c.text? key = c'.text? key) :
    Alike (fun c c' => ∀ key, conf.text? key = p.conf.text? key → c.text? key = c'.text? key)
      (do
        match ← keytab? p with
        | some path =>
          return c.setText Options.kerberosKeytab.key (keytabDirInPod ++ "/" ++ Text.baseName path)
        | none => return c)
      (do
        match ← keytab? p with
        | some path =>
          return c'.setText Options.kerberosKeytab.key (keytabDirInPod ++ "/" ++ Text.baseName path)
        | none => return c') := by
  refine Alike.bind (.of_refl (R := Eq) (fun _ => rfl) _) ?_
  rintro keytab _ rfl
  cases keytab with
  | none => exact .ok hc
  | some path => exact .ok fun key hkey => by simp [hc key hkey]

/-- The configurations that the pods see agree wherever those that are read do. -/
theorem podConfiguration_reading :
    Alike (fun c c' => ∀ key, conf.text? key = p.conf.text? key → c.text? key = c'.text? key)
      (podConfiguration (p.reading conf)) (podConfiguration p) := by
  simp only [podConfiguration, h.highAvailability, h.jobManagerAddress, keytab?_reading h]
  cases p.highAvailability with
  | error e => exact .error e
  | ok available =>
    cases available with
    | true => exact keytabWritten_alike fun key hkey => by simp [hkey]
    | false =>
      cases p.jobManagerAddress with
      | error e => exact .error e
      | ok address => exact keytabWritten_alike fun key hkey => by simp [hkey]

/-- The files are the same but for the text of the configuration. -/
theorem flinkFiles_reading :
    Alike (fun files files' => ∃ (logging : Table String) (text text' : String),
        files = logging.set flinkFileName text ∧ files' = logging.set flinkFileName text' ∧
        Rendered conf p.conf text text')
      (flinkFiles (p.reading conf) host) (flinkFiles p host) := by
  have hset (logging : Table String) :
      Alike (fun files files' => ∃ (logging : Table String) (text text' : String),
          files = logging.set flinkFileName text ∧ files' = logging.set flinkFileName text' ∧
          Rendered conf p.conf text text')
        (podConfiguration (p.reading conf) >>= fun c =>
          pure (logging.set flinkFileName (renderConfiguration c)))
        (podConfiguration p >>= fun c =>
          pure (logging.set flinkFileName (renderConfiguration c))) :=
    (podConfiguration_reading h).bind fun c c' hc =>
      .ok ⟨logging, _, _, rfl, rfl, c, c', rfl, rfl, hc⟩
  unfold flinkFiles
  cases host.loggingDir? with
  | none => exact hset .empty
  | some dir =>
    refine Alike.bind (.of_refl (R := Eq) (fun _ => rfl) _) ?_
    rintro logging _ rfl
    exact hset logging

theorem mountFlinkConf_reading :
    mountFlinkConf (p.reading conf) host draft = mountFlinkConf p host draft := by
  refine (flinkFiles_reading h).bind_eq ?_
  rintro _ _ ⟨logging, text, text', rfl, rfl, -⟩
  simp only [Table.keys_sorted_set logging flinkFileName text text', h.flinkConfDir,
    clusterId_reading]

/-! ### Resources -/

theorem ownedMetadata_reading (name : String) (annotations : Table String) :
    ownedMetadata (p.reading conf) name annotations = ownedMetadata p name annotations := by
  simp only [ownedMetadata, h.namespaceName, commonLabels_reading]

theorem configMap_reading (name : String) (data : Table String) :
    configMap (p.reading conf) name data = configMap p name data := by
  simp only [configMap, ownedMetadata_reading h]

theorem internalServices_reading (hrole : p.role = .jobManager) :
    internalServices (p.reading conf) = internalServices p := by
  simp only [internalServices, h.highAvailability, ownedMetadata_reading h, h.rpcPort hrole,
    h.blobServerPort hrole, clusterId_reading, selectors_reading]

theorem externalServices_reading (hrole : p.role = .jobManager) :
    externalServices (p.reading conf) = externalServices p := by
  simp only [externalServices, h.exposedType, ownedMetadata_reading h, h.restServiceAnnotations,
    h.restPort hrole, clusterId_reading, selectors_reading]

theorem flinkConfResources_reading :
    Alike (List.Forall₂ (SameButConfiguration p.clusterId (Rendered conf p.conf)))
      (flinkConfResources (p.reading conf) host) (flinkConfResources p host) := by
  refine (flinkFiles_reading h).bind ?_
  rintro _ _ ⟨logging, text, text', rfl, rfl, htexts⟩
  rw [configMap_reading h, configMap, configMap, clusterId_reading, ownedMetadata]
  cases p.namespaceName with
  | error e => exact .error e
  | ok ns =>
    exact .ok (List.Forall₂.cons (.flinkConf (m := {
      apiVersion := some "v1", kind := some "ConfigMap", metadata := some _ }) rfl logging htexts)
      .nil)

theorem hadoopResources_reading :
    hadoopResources (p.reading conf) host = hadoopResources p host := by
  simp only [hadoopResources, hadoopFiles, namedHadoopMap?_reading h, configMap_reading h,
    clusterId_reading]

theorem kerberosResources_reading :
    kerberosResources (p.reading conf) host = kerberosResources p host := by
  simp only [kerberosResources, keytabResources, kerberosFileResources, keytab?_reading h,
    kerberosFile?_reading h, ownedMetadata_reading h, configMap_reading h, clusterId_reading]

/-! ### Runs of steps -/

theorem decorate_reading {step : Step} (hstep : step ∈ chain p.role) :
    step.decorate (p.reading conf) host draft = step.decorate p host draft := by
  cases step with
  | identity | internalService | externalService => rfl
  | initialJobManager =>
    have hrole := jobManager_of_mem_chain hstep (by decide)
    rw [decorate, decorate, jobManagerPorts_reading h hrole, decorateInitially_reading h]
  | initialTaskManager =>
    rw [decorate, decorate, taskManagerPorts_reading h, decorateInitially_reading h]
  | environmentSecrets => exact addSecretVariables_reading h
  | mountedSecrets => exact mountSecrets_reading h
  | jobManagerCommand => exact startJobManager_reading h
  | taskManagerCommand => exact startTaskManager_reading h
  | hadoop => exact mountHadoop_reading h
  | kerberos => exact mountKerberos_reading h
  | flinkConf => exact mountFlinkConf_reading h
  | userLib => exact mountUserLib_reading h

theorem resources_reading {step : Step} (hstep : step ∈ chain p.role) :
    Alike (List.Forall₂ (SameButConfiguration p.clusterId (Rendered conf p.conf)))
      (step.resources (p.reading conf) host) (step.resources p host) := by
  have hsame {x x' : Outcome (List Resource)} (hx : x = x') :
      Alike (List.Forall₂ (SameButConfiguration p.clusterId (Rendered conf p.conf))) x x' :=
    hx ▸ .of_refl (fun rs => List.forall₂_same.2 fun r _ => .same r) x
  cases step with
  | internalService =>
    exact hsame (internalServices_reading h (jobManager_of_mem_chain hstep (by decide)))
  | externalService =>
    exact hsame (externalServices_reading h (jobManager_of_mem_chain hstep (by decide)))
  | hadoop => exact hsame (hadoopResources_reading h)
  | kerberos => exact hsame (kerberosResources_reading h)
  | flinkConf => exact flinkConfResources_reading h
  | _ => exact hsame rfl

/-- Steps of the role compose the same pod, and the same resources but for the text of the
configuration. -/
theorem compose_reading {steps : List Step} (hsteps : steps ⊆ chain p.role) :
    Alike (fun x x' => x.1 = x'.1 ∧
        List.Forall₂ (SameButConfiguration p.clusterId (Rendered conf p.conf)) x.2 x'.2)
      (compose (p.reading conf) host steps draft) (compose p host steps draft) := by
  induction steps generalizing draft with
  | nil => exact .ok ⟨rfl, .nil⟩
  | cons step steps ih =>
    obtain ⟨hstep, hrest⟩ := List.cons_subset.1 hsteps
    have happly : Alike (fun x x' => x.1 = x'.1 ∧
          List.Forall₂ (SameButConfiguration p.clusterId (Rendered conf p.conf)) x.2 x'.2)
        (step.apply (p.reading conf) host draft) (step.apply p host draft) := by
      unfold Step.apply
      rw [decorate_reading h hstep]
      refine Alike.bind (.of_refl (R := Eq) (fun _ => rfl) _) ?_
      rintro next _ rfl
      exact (resources_reading h hstep).bind fun rs rs' hrs => .ok ⟨rfl, hrs⟩
    refine happly.bind ?_
    rintro ⟨next, first⟩ ⟨_, first'⟩ ⟨rfl, hfirst⟩
    refine (ih hrest).bind ?_
    rintro ⟨last, others⟩ ⟨_, others'⟩ ⟨rfl, hothers⟩
    exact .ok ⟨rfl, List.rel_append hfirst hothers⟩

end

end Step

/-! ## Specifications -/

namespace Specification

open Parameters Outcome Step

variable {p : Parameters} {conf : Configuration} {host : Host} {template draft : PodDraft}
  {claims : List (Option VolumeClaim)}

/-- Two specifications have the same stateful set, and the same resources but for the text of the
cluster's configuration. -/
structure SameButConfiguration (id : String) (texts : String → String → Prop)
    (s s' : Specification) : Prop where
  statefulSet : s.statefulSet = s'.statefulSet
  resources : List.Forall₂ (Step.SameButConfiguration id texts) s.resources s'.resources

variable (h : p.Agrees conf)
include h

theorem createStatefulSet_reading {name : String} {owners : List (Option OwnerReference)} :
    createStatefulSet draft claims (p.reading conf) name owners =
      createStatefulSet draft claims p name owners := by
  simp only [createStatefulSet, h.replicas, h.namespaceName, h.labels, h.annotations,
    selectors_reading, clusterId_reading]

theorem ownerReferences_reading : ownerReferences (p.reading conf) = ownerReferences p := by
  simp only [ownerReferences, h.ownerReferences, refuse_reading]

theorem jobManager_reading (hrole : p.role = .jobManager) :
    Alike (SameButConfiguration p.clusterId (Rendered conf p.conf))
      (jobManager host template claims (p.reading conf)) (jobManager host template claims p) := by
  unfold jobManager
  refine (compose_reading h (by rw [hrole]; exact List.Subset.refl _)).bind ?_
  rintro ⟨draft, resources⟩ ⟨_, resources'⟩ ⟨rfl, hresources⟩
  simp only [ownerReferences_reading h, createStatefulSet_reading h, clusterId_reading]
  refine Alike.bind (.of_refl (R := Eq) (fun _ => rfl) _) ?_
  rintro owners _ rfl
  refine Alike.bind (.of_refl (R := Eq) (fun _ => rfl) _) ?_
  rintro statefulSet _ rfl
  exact .ok ⟨rfl, hresources⟩

theorem taskManager_reading (hrole : p.role = .taskManager) :
    taskManager host template claims (p.reading conf) = taskManager host template claims p := by
  unfold taskManager
  refine (compose_reading h (by rw [hrole]; exact List.Subset.refl _)).bind_eq ?_
  rintro ⟨draft, resources⟩ ⟨_, resources'⟩ ⟨rfl, -⟩
  simp only [createStatefulSet_reading h, clusterId_reading]

end Specification

end FlinkCluster
