import FlinkCluster.Proofs.Labels
import FlinkCluster.Proofs.LargeNumbers
import FlinkCluster.Proofs.Mounting
import Mathlib.Data.List.Nodup

/-!
# What the steps fail for

A step of a role fails because the configuration is refused, because a volume that it adds is there
already, or for a cause that the configuration alone does not have.

* `Step.Clash`: the volume that makes a step fail, and the fault that says so.
* `Step.ForeignCause`: a null in the pod, a text file that is not UTF-8, a NUL in a path, or
  a number that is too large.
* `Step.decorate_fails`, `Step.resources_fails`: a step of a role fails for nothing else.
-/

set_option autoImplicit false

namespace FlinkCluster

open Kubernetes Outcome

/-- A list of the pod that the steps go through has a null in it. -/
inductive PodDraft.HasNull (d : PodDraft) : Prop
  | containers (h : none ∈ d.spec.containers)
  | volumes (h : none ∈ d.spec.volumes.getD [])
  | environment (h : none ∈ d.main.env.getD [])
  | ports (h : none ∈ d.main.ports.getD [])
  | mounts (h : none ∈ d.main.volumeMounts.getD [])

namespace Step

/-! ## Causes -/

/-- The volume of a step of a pod is taken, and the fault names it. Secrets may take neither the
name of a volume of the pod nor a reserved one. The libraries of an application have a volume unless
something is `mounted` at their directory already. -/
inductive Clash (p : Parameters) (host : Host) (d : PodDraft) (mounted : Prop) :
    Step → ConfigurationFault → Prop
  | secret {secrets : Table String} {s : String} (hsecrets : p.secrets = .ok secrets)
      (hs : s ∈ secrets.keys)
      (htaken : secretVolumeName s ∈ reservedVolumes ∨ d.HasVolume (secretVolumeName s)) :
      Clash p host d mounted .mountedSecrets (.secretVolumeTaken (secretVolumeName s) s)
  | hadoop {name : String} (hname : hadoopMap? p host = .ok (some name))
      (htaken : d.HasVolume hadoopVolume) :
      Clash p host d mounted .hadoop (.volumeTaken hadoopVolume)
  | keytab {path : String} (hpath : keytab? p = .ok (some path))
      (htaken : d.HasVolume keytabVolume) :
      Clash p host d mounted .kerberos (.volumeTaken keytabVolume)
  | kerberosFile {path : String} (hpath : kerberosFile? p = .ok (some path))
      (htaken : d.HasVolume kerberosVolume) :
      Clash p host d mounted .kerberos (.volumeTaken kerberosVolume)
  | flinkConf (htaken : d.HasVolume flinkVolume) :
      Clash p host d mounted .flinkConf (.volumeTaken flinkVolume)
  | userLib (happlication : p.isApplication = .ok true) (hfree : ¬ mounted)
      (htaken : d.HasVolume userLibVolume) :
      Clash p host d mounted .userLib (.volumeTaken userLibVolume)

/-- A text file at this path is shipped to the pods. -/
inductive ShipsText (p : Parameters) (host : Host) : String → Prop
  | hadoop {dir name : String} (hnamed : namedHadoopMap? p = .ok none)
      (hdir : host.hadoopDir? = some dir) (hname : name ∈ hadoopFileNames) :
      ShipsText p host (Text.joinPath dir name)
  | logging {dir name : String} (hdir : host.loggingDir? = some dir)
      (hname : name ∈ loggingFileNames) : ShipsText p host (Text.joinPath dir name)
  | kerberos {path : String} (hpath : kerberosFile? p = .ok (some path)) : ShipsText p host path

/-- The causes of failures that are no configuration errors. -/
inductive ForeignCause (p : Parameters) (host : Host) (d : PodDraft) : Failure → Prop
  | null {field : String} (hnull : d.HasNull) : ForeignCause p host d (.absentObject field)
  | undecodable {path : String} {fault : Text.Utf8Error} (hpath : ShipsText p host path)
      (hfile : host.Undecodable path fault) : ForeignCause p host d (.undecodable fault)
  | nulInPath {path : String}
      (hpath : keytab? p = .ok (some path) ∨ kerberosFile? p = .ok (some path))
      (hnul : Host.HasNul path) : ForeignCause p host d .nulInPath
  | memory {size : String} {e : Failure} (hmemory : p.memory = .ok size)
      (hlarge : MemorySize.TooLarge size e) : ForeignCause p host d e
  | quotient {parallelism slots : Int} (hrole : p.role = .taskManager)
      (hparallelism : p.conf.get Options.defaultParallelism = .ok parallelism)
      (hslots : p.conf.get Options.taskSlots = .ok slots) (hpositive : 1 ≤ slots)
      (hlarge : Number.Binary64.overflowBound * slots ≤ parallelism) :
      ForeignCause p host d .quotientTooLarge

/-- A step fails for another reason than a volume. -/
def OtherReason (p : Parameters) (host : Host) (d : PodDraft) (e : Failure) : Prop :=
  e.IsRefusal ∨ ForeignCause p host d e

/-- What a step fails for at a pod. -/
inductive Fault (p : Parameters) (host : Host) (d : PodDraft) (step : Step) (e : Failure) : Prop
  | other (h : OtherReason p host d e)
  | clash {c : ConfigurationError} (he : e = .configuration c)
      (h : Clash p host d (d.MountsAt userLibDir) step c.fault)

variable {p : Parameters} {host : Host} {d : PodDraft} {step : Step} {α : Type} {x : Outcome α}

theorem other_of_refuses (h : Refuses x) : Fails (OtherReason p host d) x := h.mono fun _ => .inl

theorem fault_of_other (h : Fails (OtherReason p host d) x) : Fails (Fault p host d step) x :=
  h.mono fun _ => .other

theorem fault_of_refuses (h : Refuses x) : Fails (Fault p host d step) x :=
  fault_of_other (other_of_refuses h)

/-! ## Pods -/

/-- Going through a list fails only if there is a null in it. -/
theorem demandAll_fails {field : String} {items : List (Option α)}
    (hnull : none ∈ items → d.HasNull) :
    Fails (OtherReason p host d) (demandAll field items) := by
  intro e he
  obtain ⟨rfl, hnone⟩ := error_of_demandAll he
  exact .inr (.null (hnull hnone))

theorem mainEnv_fails {c : Container} {vars : List EnvVar}
    (hnull : none ∈ c.env.getD [] → d.HasNull) :
    Fails (OtherReason p host d) (c.addEnv vars) :=
  (demandAll_fails hnull).bind fun _ _ => fails_ok _

theorem addEnv_fails {d' : PodDraft} {vars : List EnvVar}
    (hnull : none ∈ d'.main.env.getD [] → d.HasNull) :
    Fails (OtherReason p host d) (d'.addEnv vars) :=
  (mainEnv_fails hnull).map

/-- The volume whose name is taken is one of those that are added. -/
theorem mem_of_firstTaken? {taken : List String} {volumes : List Volume} {v : Volume}
    (h : PodDraft.firstTaken? taken volumes = some v) : v ∈ volumes := by
  induction volumes generalizing taken with
  | nil => cases h
  | cons w volumes ih =>
    rw [PodDraft.firstTaken?] at h
    split at h
    · rw [Option.some.inj h]
      exact List.mem_cons_self
    · exact List.mem_cons_of_mem w (ih h)

/-- Volumes cannot be added if one of them is there, or if two have one name. -/
theorem addVolumes_fails {d' : PodDraft} {volumes : List Volume} {key clusterId : String}
    (hnull : none ∈ d'.spec.volumes.getD [] → d.HasNull)
    (hclash : ∀ v ∈ volumes, ¬ d'.Fresh volumes →
      Clash p host d (d.MountsAt userLibDir) step (.volumeTaken v.name)) :
    Fails (Fault p host d step) (d'.addVolumes volumes key clusterId) := by
  have hnames : Fails (OtherReason p host d) d'.volumeNames := Fails.map (demandAll_fails hnull)
  refine (fault_of_other hnames).bind fun names hnames => ?_
  split
  · rename_i v hv
    refine fails_error (.clash rfl (hclash v (mem_of_firstTaken? hv) fun hfresh => ?_))
    have hnone : PodDraft.firstTaken? names volumes = none :=
      PodDraft.firstTaken?_eq_none_iff.2 ⟨hfresh.nodup, fun w hw hmem =>
        hfresh.new w hw ((PodDraft.mem_volumeNames hnames w.name).1 hmem)⟩
    rw [hnone] at hv
    cases hv
  · exact fails_ok _

/-- A single volume cannot be added if it is there. -/
theorem addVolume_fails {d' : PodDraft} {v : Volume} {key clusterId : String}
    (hnull : none ∈ d'.spec.volumes.getD [] → d.HasNull)
    (hclash : d'.HasVolume v.name →
      Clash p host d (d.MountsAt userLibDir) step (.volumeTaken v.name)) :
    Fails (Fault p host d step) (d'.addVolumes [v] key clusterId) := by
  refine addVolumes_fails hnull fun w hw hstale => ?_
  obtain rfl := List.mem_singleton.1 hw
  refine hclash ?_
  by_contra hnew
  refine hstale ⟨List.nodup_singleton _, fun w hw => ?_⟩
  rwa [List.mem_singleton.1 hw]

/-! ## The initial step -/

theorem addPorts_fails {c : Container} {ports : Outcome (List ContainerPort)}
    (hnull : none ∈ c.ports.getD [] → d.HasNull) (hports : Refuses ports) :
    Fails (OtherReason p host d) (c.addPorts ports) :=
  (demandAll_fails hnull).bind fun _ _ => (other_of_refuses hports).bind fun _ _ => fails_ok _

theorem initialContainer_fails {ports : Outcome (List ContainerPort)} (hports : Refuses ports) :
    Fails (OtherReason p host d) (initialContainer p ports d.main) := by
  refine (other_of_refuses (p.conf.refuses_get _)).bind fun image _ => ?_
  refine (other_of_refuses (p.conf.refuses_get _)).bind fun policy _ => ?_
  refine (other_of_refuses (p.conf.refuses_get _)).bind fun cpu _ => ?_
  refine (other_of_refuses (p.conf.refuses_get _)).bind fun size hsize => ?_
  refine ((MemorySize.quantity_fails size).mono fun e =>
    .imp_right (.memory hsize)).bind fun quantity _ => ?_
  refine (addPorts_fails .ports hports).bind fun c hc => ?_
  obtain ⟨added, rfl⟩ := Container.eq_of_addPorts hc
  exact Fails.bind (mainEnv_fails fun hnone => .environment hnone) fun _ _ => fails_ok _

theorem decorateInitially_fails {ports : Outcome (List ContainerPort)} (hports : Refuses ports) :
    Fails (OtherReason p host d) (decorateInitially p ports d) := by
  refine (other_of_refuses p.refuses_labels).bind fun labels _ => ?_
  refine (other_of_refuses (p.conf.refuses_get _)).bind fun annotations _ => ?_
  refine (other_of_refuses (p.conf.refuses_get _)).bind fun account _ => ?_
  refine (other_of_refuses (p.conf.refuses_get _)).bind fun secrets _ => ?_
  refine (other_of_refuses (p.conf.refuses_get _)).bind fun nodes _ => ?_
  exact (initialContainer_fails hports).bind fun main _ => fails_ok _

theorem refuses_jobManagerPorts : Refuses (jobManagerPorts p) :=
  (p.conf.refuses_get _).bind fun _ _ => (p.conf.refuses_get _).bind fun _ _ =>
    (p.conf.refuses_get _).bind fun _ _ => fails_ok _

theorem refuses_taskManagerPorts (hrole : p.role = .taskManager) : Refuses (taskManagerPorts p) :=
  (p.refuses_only hrole (p.conf.refuses_get _)).bind fun _ _ => fails_ok _

/-! ## Secrets and commands -/

theorem addSecretVariables_fails : Fails (OtherReason p host d) (addSecretVariables p d) := by
  refine (other_of_refuses p.refuses_environmentSecrets).bind fun refs _ => ?_
  split
  · exact fails_ok d
  · exact addEnv_fails .environment

theorem secretVolumeName_injective : Function.Injective secretVolumeName :=
  fun _ _ h => (String.append_left_inj _).1 h

/-- Of distinct secrets, one whose volume is taken is reserved or among the names that were taken
before. -/
theorem mem_of_firstSecretTaken? {taken secrets : List String} {s : String}
    (hnodup : secrets.Nodup) (h : firstSecretTaken? taken secrets = some s) :
    s ∈ secrets ∧ (secretVolumeName s ∈ reservedVolumes ∨ secretVolumeName s ∈ taken) := by
  induction secrets generalizing taken with
  | nil => cases h
  | cons t secrets ih =>
    obtain ⟨hnew, hnodup⟩ := List.nodup_cons.1 hnodup
    rw [firstSecretTaken?] at h
    split at h
    · rename_i htaken
      obtain rfl := Option.some.inj h
      simp only [Bool.or_eq_true, List.contains_iff_mem] at htaken
      exact ⟨List.mem_cons_self, htaken⟩
    · obtain ⟨hs, htaken⟩ := ih hnodup h
      refine ⟨List.mem_cons_of_mem t hs, htaken.imp_right fun hmem => ?_⟩
      rcases List.mem_cons.1 hmem with hsame | hmem
      · rw [secretVolumeName_injective hsame] at hs
        exact absurd hs hnew
      · exact hmem

theorem mountSecrets_fails : Fails (Fault p host d .mountedSecrets) (mountSecrets p d) := by
  refine (fault_of_refuses (p.conf.refuses_get _)).bind fun secrets hsecrets => ?_
  have hnodup : (secrets.sorted.map Prod.fst).Nodup := secrets.nodup_keys_sorted
  dsimp only
  split
  · exact fails_ok d
  · have hnull : Fails (OtherReason p host d) d.volumeNames := Fails.map (demandAll_fails .volumes)
    refine (fault_of_other hnull).bind fun names hnames => ?_
    split
    · rename_i s hs
      obtain ⟨hmem, htaken⟩ := mem_of_firstSecretTaken? hnodup hs
      refine fails_error (.clash rfl (.secret hsecrets ?_ (htaken.imp_right ?_)))
      · exact secrets.keys_sorted_perm.mem_iff.1 hmem
      · exact (PodDraft.mem_volumeNames hnames _).1
    · rename_i hfree
      -- No secret is taken, so that nothing is in the way of adding the volumes.
      have hfresh : d.Fresh (secrets.sorted.map fun e => secretVolume e.1) := by
        refine ⟨?_, fun v hv hhas => ?_⟩
        · have hnames : (secrets.sorted.map fun e => secretVolume e.1).map (·.name) =
              (secrets.sorted.map Prod.fst).map secretVolumeName := by
            rw [List.map_map, List.map_map]
            rfl
          rw [hnames]
          exact hnodup.map secretVolumeName_injective
        · obtain ⟨e, he, rfl⟩ := List.mem_map.1 hv
          have hnew := (free_of_firstSecretTaken? hfree e.1 (List.mem_map_of_mem he)).2
          exact hnew ((PodDraft.mem_volumeNames hnames _).2 hhas)
      exact (addVolumes_fails .volumes fun _ _ hstale => absurd hfresh hstale).bind
        fun _ _ => fails_ok _

theorem refuses_applicationArgs (hrole : p.role = .jobManager) : Refuses (applicationArgs p) := by
  refine (p.refuses_only hrole (p.conf.refuses_find? _)).bind fun mainClass _ => ?_
  refine (p.refuses_only hrole (p.conf.refuses_find? _)).bind fun savepointPath _ => ?_
  have hprogram : Refuses p.programArgs := p.refuses_only hrole (p.conf.refuses_get _)
  cases savepointPath.filter (· ≠ "") with
  | none => exact (fails_ok []).bind fun _ _ => hprogram.bind fun _ _ => fails_ok _
  | some path =>
    refine (p.refuses_only hrole (p.conf.refuses_get _)).bind fun allow _ => ?_
    exact (fails_ok _).bind fun _ _ => hprogram.bind fun _ _ => fails_ok _

theorem refuses_startJobManager (hrole : p.role = .jobManager) : Refuses (startJobManager p d) := by
  refine (p.conf.refuses_get _).bind fun entry _ => ?_
  refine p.refuses_isApplication.bind fun application _ => ?_
  split
  · exact (refuses_applicationArgs hrole).bind fun _ _ => fails_ok _
  · exact fails_ok _

theorem refuses_startTaskManager : Refuses (startTaskManager p d) :=
  (p.conf.refuses_get _).bind fun _ _ => fails_ok _

/-! ## Files -/

theorem hadoopFiles_fails (hnamed : namedHadoopMap? p = .ok none) :
    Fails (OtherReason p host d) (hadoopFiles p host) := by
  unfold hadoopFiles
  split
  · rename_i dir hdir
    refine (host.readTexts_fails dir _ _ _).mono fun e => Or.imp_right ?_
    intro ⟨name, hname, fault, he, hfile⟩
    rw [he]
    exact .undecodable (.hadoop hnamed hdir hname) hfile
  · exact fails_ok _

theorem refuses_namedHadoopMap? : Refuses (namedHadoopMap? p) :=
  Fails.map (p.conf.refuses_find? Options.hadoopConfigMap)

theorem hadoopMap?_fails : Fails (OtherReason p host d) (hadoopMap? p host) := by
  refine (other_of_refuses refuses_namedHadoopMap?).bind fun name? hname => ?_
  split
  · exact fails_ok _
  · exact (hadoopFiles_fails hname).bind fun _ _ => fails_ok _

theorem refuses_keytab? : Refuses (keytab? p) :=
  (p.conf.refuses_find? _).bind fun _ _ => (p.conf.refuses_find? _).bind fun _ _ => fails_ok _

theorem refuses_kerberosFile? : Refuses (kerberosFile? p) :=
  Fails.map (p.conf.refuses_find? Options.kerberosConfigFile)

theorem refuses_podConfiguration : Refuses (podConfiguration p) := by
  refine p.refuses_highAvailability.bind fun available _ => ?_
  dsimp only
  split
  · refine (fails_ok _).bind fun _ _ => refuses_keytab?.bind fun path? _ => ?_
    cases path? <;> exact fails_ok _
  · have haddress : Refuses p.jobManagerAddress :=
      Fails.map (p.conf.refuses_get Options.namespaceName)
    refine haddress.bind fun _ _ => (fails_ok _).bind fun _ _ => ?_
    refine refuses_keytab?.bind fun path? _ => ?_
    cases path? <;> exact fails_ok _

theorem flinkFiles_fails : Fails (OtherReason p host d) (flinkFiles p host) := by
  have hconf : Fails (OtherReason p host d) (podConfiguration p) :=
    other_of_refuses refuses_podConfiguration
  unfold flinkFiles
  cases hdir : host.loggingDir? with
  | none => exact (fails_ok _).bind fun _ _ => hconf.bind fun _ _ => fails_ok _
  | some dir =>
    refine Fails.bind ?_ fun _ _ => hconf.bind fun _ _ => fails_ok _
    refine (host.readTexts_fails dir _ _ _).mono fun e => Or.imp_right ?_
    intro ⟨name, hname, fault, he, hfile⟩
    rw [he]
    exact .undecodable (.logging hdir hname) hfile

/-! ## Mounts -/

theorem mountHadoop_fails : Fails (Fault p host d .hadoop) (mountHadoop p host d) := by
  refine (fault_of_other hadoopMap?_fails).bind fun name? hname => ?_
  cases name? with
  | none => exact fails_ok d
  | some name =>
    refine (addVolume_fails .volumes (.hadoop hname)).bind fun d₁ hd₁ => ?_
    obtain ⟨-, rfl⟩ := PodDraft.eq_of_addVolumes hd₁
    exact fault_of_other (addEnv_fails fun hnone => .environment hnone)

theorem mountKeytab_fails : Fails (Fault p host d .kerberos) (mountKeytab p d) := by
  refine (fault_of_refuses refuses_keytab?).bind fun path? hpath => ?_
  cases path? with
  | none => exact fails_ok d
  | some path => exact (addVolume_fails .volumes (.keytab hpath)).bind fun _ _ => fails_ok _

theorem mountKerberosFile_fails {d' : PodDraft}
    (hnull : none ∈ d'.spec.volumes.getD [] → d.HasNull)
    (hvolume : d'.HasVolume kerberosVolume → d.HasVolume kerberosVolume) :
    Fails (Fault p host d .kerberos) (mountKerberosFile p d') := by
  refine (fault_of_refuses refuses_kerberosFile?).bind fun path? hpath => ?_
  cases path? with
  | none => exact fails_ok d'
  | some path =>
    refine Fails.bind ?_ fun _ _ => fails_ok _
    exact addVolume_fails hnull fun htaken => .kerberosFile hpath (hvolume htaken)

theorem mountKerberos_fails : Fails (Fault p host d .kerberos) (mountKerberos p d) := by
  refine mountKeytab_fails.bind fun d₁ hd₁ => ?_
  obtain ⟨-, rfl⟩ | ⟨path, -, -, rfl⟩ := eq_of_mountKeytab hd₁
  · exact mountKerberosFile_fails .volumes id
  · -- The keytab's volume has another name: what is taken was taken before it.
    refine mountKerberosFile_fails (fun hnone => .volumes ?_) fun htaken => ?_
    · simpa [PodDraft.extended] using hnone
    · rcases ((PodDraft.adds_extended d _ _).hasVolume_iff _).1 htaken with htaken | hkeytab
      · exact htaken
      · have hother : kerberosVolume ≠ keytabVolume := by decide
        exact absurd (List.mem_singleton.1 hkeytab) hother

theorem mountFlinkConf_fails : Fails (Fault p host d .flinkConf) (mountFlinkConf p host d) := by
  refine (fault_of_other flinkFiles_fails).bind fun files _ => ?_
  refine (addVolume_fails .volumes .flinkConf).bind fun d₁ _ => ?_
  exact (fault_of_refuses (p.conf.refuses_get _)).bind fun _ _ => fails_ok _

theorem mountUserLib_fails : Fails (Fault p host d .userLib) (mountUserLib p d) := by
  refine (fault_of_refuses p.refuses_isApplication).bind fun application happlication => ?_
  split
  · rename_i hon
    rw [hon] at happlication
    refine (fault_of_other (demandAll_fails .mounts)).bind fun mounts hmounts => ?_
    split
    · exact fails_ok d
    · rename_i hfree
      have hnone : ¬ d.MountsAt userLibDir := by
        intro ⟨m, hm, hpath⟩
        rw [demandAll_eq_ok_iff.1 hmounts] at hm
        obtain ⟨m', hm', heq⟩ := List.mem_map.1 hm
        obtain rfl := Option.some.inj heq
        exact hfree (List.any_eq_true.2 ⟨m', hm', by rw [hpath]; exact beq_self_eq_true _⟩)
      exact (addVolume_fails .volumes (.userLib happlication hnone)).bind fun _ _ => fails_ok _
  · exact fails_ok d

/-! ## Steps -/

/-- **Why a step of a role fails.** -/
theorem decorate_fails (hstep : step ∈ chain p.role) :
    Fails (Fault p host d step) (step.decorate p host d) := by
  cases step with
  | identity | internalService | externalService => exact fails_ok d
  | initialJobManager => exact fault_of_other (decorateInitially_fails refuses_jobManagerPorts)
  | initialTaskManager =>
    have hrole := taskManager_of_mem_chain hstep (by decide)
    exact fault_of_other (decorateInitially_fails (refuses_taskManagerPorts hrole))
  | environmentSecrets => exact fault_of_other addSecretVariables_fails
  | mountedSecrets => exact mountSecrets_fails
  | jobManagerCommand =>
    have hrole := jobManager_of_mem_chain hstep (by decide)
    exact fault_of_refuses (refuses_startJobManager hrole)
  | taskManagerCommand => exact fault_of_refuses refuses_startTaskManager
  | hadoop => exact mountHadoop_fails
  | kerberos => exact mountKerberos_fails
  | flinkConf => exact mountFlinkConf_fails
  | userLib => exact mountUserLib_fails

/-! ## Resources -/

theorem refuses_ownedMetadata (name : String) (annotations : Table String) :
    Refuses (ownedMetadata p name annotations) :=
  (p.conf.refuses_get _).bind fun _ _ => fails_ok _

theorem refuses_configMap (name : String) (data : Table String) :
    Refuses (configMap p name data) :=
  (refuses_ownedMetadata name _).bind fun _ _ => fails_ok _

theorem refuses_internalServices : Refuses (internalServices p) := by
  refine p.refuses_highAvailability.bind fun available _ => ?_
  split
  · exact fails_ok []
  · exact (refuses_ownedMetadata _ _).bind fun _ _ => (p.conf.refuses_get _).bind fun _ _ =>
      (p.conf.refuses_get _).bind fun _ _ => fails_ok _

theorem refuses_externalServices (hrole : p.role = .jobManager) : Refuses (externalServices p) := by
  refine (p.refuses_exposedType hrole).bind fun type _ => ?_
  refine (p.refuses_only hrole (p.conf.refuses_get _)).bind fun annotations _ => ?_
  refine (refuses_ownedMetadata _ _).bind fun metadata _ => ?_
  exact (p.conf.refuses_get _).bind fun _ _ => fails_ok _

theorem hadoopResources_fails : Fails (OtherReason p host d) (hadoopResources p host) := by
  refine (other_of_refuses refuses_namedHadoopMap?).bind fun name? hname => ?_
  split
  · exact fails_ok []
  · refine (hadoopFiles_fails hname).bind fun files _ => ?_
    split
    · exact fails_ok []
    · exact (other_of_refuses (refuses_configMap _ _)).bind fun _ _ => fails_ok _

theorem keytabResources_fails : Fails (OtherReason p host d) (keytabResources p host) := by
  refine (other_of_refuses refuses_keytab?).bind fun path? hpath => ?_
  cases path? with
  | none => exact fails_ok []
  | some path =>
    refine Fails.bind ((host.readBytes_fails fun _ => rfl).mono fun e => Or.imp_right ?_)
      fun bytes _ => (other_of_refuses (refuses_ownedMetadata _ _)).bind fun _ _ => fails_ok _
    intro ⟨he, hnul⟩
    rw [he]
    exact .nulInPath (.inl hpath) hnul

theorem kerberosFileResources_fails :
    Fails (OtherReason p host d) (kerberosFileResources p host) := by
  refine (other_of_refuses refuses_kerberosFile?).bind fun path? hpath => ?_
  cases path? with
  | none => exact fails_ok []
  | some path =>
    refine Fails.bind ((host.readText_fails path _ _).mono fun e => Or.imp_right ?_)
      fun text _ => (other_of_refuses (refuses_configMap _ _)).bind fun _ _ => fails_ok _
    intro hforeign
    obtain ⟨rfl, hnul⟩ | ⟨fault, rfl, hfile⟩ := hforeign
    · exact .nulInPath (.inr hpath) hnul
    · exact .undecodable (.kerberos hpath) hfile

/-- Listing the resources of a step never fails for a volume. -/
theorem resources_fails (hstep : step ∈ chain p.role) :
    Fails (OtherReason p host d) (step.resources p host) := by
  cases step with
  | internalService => exact other_of_refuses refuses_internalServices
  | externalService =>
    have hrole := jobManager_of_mem_chain hstep (by decide)
    exact other_of_refuses (refuses_externalServices hrole)
  | hadoop => exact hadoopResources_fails
  | kerberos =>
    exact keytabResources_fails.bind fun _ _ =>
      kerberosFileResources_fails.bind fun _ _ => fails_ok _
  | flinkConf =>
    exact flinkFiles_fails.bind fun _ _ =>
      (other_of_refuses (refuses_configMap _ _)).bind fun _ _ => fails_ok _
  | _ => exact fails_ok []

/-! ## Compositions -/

/-- A composition fails at one of its steps, at the pod that the steps before it compose. -/
theorem exists_failing_step {steps : List Step} {e : Failure}
    (h : compose p host steps d = .error e) :
    ∃ early step late middle rs, steps = early ++ step :: late ∧
      compose p host early d = .ok (middle, rs) ∧
      (step.decorate p host middle = .error e ∨ step.resources p host = .error e) := by
  induction steps generalizing d with
  | nil => cases h
  | cons step steps ih =>
    obtain happly | ⟨⟨next, first⟩, happly, h⟩ := bind_error h
    · obtain hdecorate | ⟨_, -, h⟩ := bind_error happly
      · exact ⟨[], step, steps, d, [], rfl, rfl, .inl hdecorate⟩
      · obtain hresources | ⟨_, -, h⟩ := bind_error h
        · exact ⟨[], step, steps, d, [], rfl, rfl, .inr hresources⟩
        · cases h
    · obtain hrest | ⟨_, -, h⟩ := bind_error h
      · obtain ⟨early, failing, late, middle, rs, rfl, hearly, hfails⟩ := ih hrest
        refine ⟨step :: early, failing, late, middle, first ++ rs, rfl, ?_, hfails⟩
        simp only [compose, happly, hearly, bind, Except.bind, pure, Except.pure]
      · cases h

end Step

end FlinkCluster
