import FlinkCluster.Proofs.Outcome
import FlinkCluster.Step

/-!
# What the steps do to a pod

Each step that succeeds leaves the pod as it is, or changes it in a way that is written here as an
equation, once for each step. What is known of the steps is derived from these equations.

* `Kubernetes.EnvVar.overlaid`, `PodDraft.extended`: variables on top of others, and a pod with more
  volumes and mounts.
* `PodDraft.Fresh`: volumes with names of their own that a pod does not have, which is what adding
  them asks for (`PodDraft.eq_of_addVolumes`).
* `Step.eq_of_decorateInitially`, `Step.eq_of_mountSecrets`, `Step.eq_of_mountHadoop` and so on: the
  pod after each of the steps.
-/

set_option autoImplicit false

namespace FlinkCluster

open Kubernetes

/-! ## Lists without nulls -/

namespace Kubernetes

variable {α : Type} {field : String} {items : List (Option α)}

theorem demandAll_eq_ok_iff {xs : List α} :
    demandAll field items = .ok xs ↔ items = xs.map some := by
  unfold demandAll
  induction items generalizing xs with
  | nil =>
    rw [List.mapM_nil]
    constructor
    · intro h
      rw [← Outcome.pure_ok h]
      rfl
    · intro h
      rw [List.map_eq_nil_iff.1 h.symm]
      rfl
  | cons item items ih =>
    rw [List.mapM_cons]
    constructor
    · intro h
      obtain ⟨x, hx, h⟩ := Outcome.bind_ok h
      obtain ⟨rest, hrest, h⟩ := Outcome.bind_ok h
      rw [← Outcome.pure_ok h, List.map_cons, ← ih.1 hrest]
      cases item with
      | none => cases hx
      | some y => rw [Except.ok.inj hx]
    · intro h
      cases xs with
      | nil => cases h
      | cons x xs =>
        obtain ⟨rfl, hrest⟩ := List.cons.inj h
        rw [ih.2 hrest]
        rfl

theorem error_of_demandAll {e : Failure} (h : demandAll field items = .error e) :
    e = .absentObject field ∧ none ∈ items := by
  unfold demandAll at h
  induction items with
  | nil => cases h
  | cons item items ih =>
    cases item with
    | none =>
      rw [← Except.error.inj h]
      exact ⟨rfl, List.mem_cons_self⟩
    | some x =>
      rw [List.mapM_cons] at h
      cases hrest : items.mapM (demand field) with
      | ok rest =>
        rw [hrest] at h
        cases h
      | error e' =>
        rw [hrest] at h
        obtain rfl := Except.error.inj h
        have hnull := ih hrest
        exact ⟨hnull.1, List.mem_cons_of_mem _ hnull.2⟩

/-! ## Containers -/

/-- Variables on top of others: those of the same names are replaced. -/
def EnvVar.overlaid (old vars : List EnvVar) : List EnvVar :=
  old.filter (fun e => !(vars.map (·.name)).contains e.name) ++ vars

namespace Container

variable {c c' : Container}

theorem eq_of_addEnv {vars : List EnvVar} (h : c.addEnv vars = .ok c') :
    ∃ old, c.env.getD [] = old.map some ∧
      c' = { c with env := some ((EnvVar.overlaid old vars).map some) } := by
  obtain ⟨old, hold, h⟩ := Outcome.bind_ok h
  exact ⟨old, demandAll_eq_ok_iff.1 hold, (Outcome.pure_ok h).symm⟩

theorem eq_of_addPorts {ports : Outcome (List ContainerPort)} (h : c.addPorts ports = .ok c') :
    ∃ added : List ContainerPort,
      c' = { c with ports := some (c.ports.getD [] ++ added.map some) } := by
  obtain ⟨known, -, h⟩ := Outcome.bind_ok h
  obtain ⟨given, -, h⟩ := Outcome.bind_ok h
  exact ⟨_, (Outcome.pure_ok h).symm⟩

end Container

end Kubernetes

/-! ## Pods -/

namespace PodDraft

variable {d d' : PodDraft}

/-- The pod has a volume of this name. -/
def HasVolume (d : PodDraft) (name : String) : Prop :=
  ∃ v, some v ∈ d.spec.volumes.getD [] ∧ v.name = name

/-- Something is mounted at this path in the main container. -/
def MountsAt (d : PodDraft) (path : String) : Prop :=
  ∃ m, some m ∈ d.main.volumeMounts.getD [] ∧ m.mountPath = path

/-- The volumes have names of their own, and the pod has none of these. -/
structure Fresh (d : PodDraft) (volumes : List Volume) : Prop where
  nodup : (volumes.map (·.name)).Nodup
  new : ∀ v ∈ volumes, ¬ d.HasVolume v.name

/-- The pod with more volumes, and more mounts of its main container. -/
def extended (d : PodDraft) (volumes : List Volume) (mounts : List VolumeMount) : PodDraft :=
  { d with
    spec := { d.spec with volumes := some (d.spec.volumes.getD [] ++ volumes.map some) }
    main := d.main.addMounts mounts }

/-- The pod whose main container has the variables `vars` on top of `old`. -/
def overlaid (d : PodDraft) (old vars : List EnvVar) : PodDraft :=
  { d with main := { d.main with env := some ((EnvVar.overlaid old vars).map some) } }

theorem extended_extended (d : PodDraft) (volumes volumes' : List Volume)
    (mounts mounts' : List VolumeMount) :
    (d.extended volumes mounts).extended volumes' mounts' =
      d.extended (volumes ++ volumes') (mounts ++ mounts') := by
  simp [extended, Container.addMounts]

theorem Fresh.not_hasVolume {v : Volume} (h : d.Fresh [v]) : ¬ d.HasVolume v.name :=
  h.new v List.mem_cons_self

theorem mem_volumeNames {names : List String} (h : d.volumeNames = .ok names) (name : String) :
    name ∈ names ↔ d.HasVolume name := by
  obtain ⟨volumes, hvolumes, rfl⟩ := Outcome.map_ok h
  have hall := demandAll_eq_ok_iff.1 hvolumes
  simp [HasVolume, hall]

/-- No volume's name is taken if all are distinct and none is given. -/
theorem firstTaken?_eq_none_iff {taken : List String} {volumes : List Volume} :
    firstTaken? taken volumes = none ↔
      (volumes.map (·.name)).Nodup ∧ ∀ v ∈ volumes, v.name ∉ taken := by
  induction volumes generalizing taken with
  | nil => simp [firstTaken?]
  | cons v volumes ih =>
    rw [firstTaken?]
    by_cases hv : v.name ∈ taken
    · simp [hv]
    · rw [if_neg (by simpa using hv), ih, List.map_cons, List.nodup_cons]
      simp only [List.mem_cons, not_or, List.mem_map, not_exists, not_and, forall_eq_or_imp]
      constructor
      · rintro ⟨hnodup, hnew⟩
        exact ⟨⟨fun w hw => (hnew w hw).1, hnodup⟩, hv, fun w hw => (hnew w hw).2⟩
      · rintro ⟨⟨hother, hnodup⟩, -, hnew⟩
        exact ⟨hnodup, fun w hw => ⟨hother w hw, hnew w hw⟩⟩

theorem eq_of_addVolumes {volumes : List Volume} {key clusterId : String}
    (h : d.addVolumes volumes key clusterId = .ok d') :
    d.Fresh volumes ∧ d' = { d with spec := { d.spec with
      volumes := some (d.spec.volumes.getD [] ++ volumes.map some) } } := by
  obtain ⟨names, hnames, h⟩ := Outcome.bind_ok h
  split at h
  · exact absurd h Outcome.misconfigured_ne_ok
  · rename_i hfree
    obtain ⟨hnodup, hnew⟩ := firstTaken?_eq_none_iff.1 hfree
    refine ⟨⟨hnodup, fun v hv hhas => ?_⟩, (Outcome.pure_ok h).symm⟩
    exact hnew v hv ((mem_volumeNames hnames v.name).2 hhas)

theorem eq_of_addEnv {vars : List EnvVar} (h : d.addEnv vars = .ok d') :
    ∃ old, d.main.env.getD [] = old.map some ∧ d' = d.overlaid old vars := by
  obtain ⟨main, hmain, rfl⟩ := Outcome.map_ok h
  obtain ⟨old, hold, rfl⟩ := Container.eq_of_addEnv hmain
  exact ⟨old, hold, rfl⟩

end PodDraft

/-! ## Steps -/

namespace Step

variable {p : Parameters} {host : Host} {d d' : PodDraft}

/-! ### The initial step -/

theorem eq_of_initialContainer {ports : Outcome (List ContainerPort)} {c c' : Container}
    (h : initialContainer p ports c = .ok c') :
    ∃ image policy quantities old, ∃ added : List ContainerPort,
      c.env.getD [] = old.map some ∧
      c' = { c with
        name := mainContainerName
        image := some image
        imagePullPolicy := some policy
        resources := some { requests := some quantities, limits := some quantities }
        ports := some (c.ports.getD [] ++ added.map some)
        env := some ((EnvVar.overlaid old (roleEnv p)).map some) } := by
  obtain ⟨image, -, h⟩ := Outcome.bind_ok h
  obtain ⟨policy, -, h⟩ := Outcome.bind_ok h
  obtain ⟨cpu, -, h⟩ := Outcome.bind_ok h
  obtain ⟨memory, -, h⟩ := Outcome.bind_ok h
  obtain ⟨quantity, -, h⟩ := Outcome.bind_ok h
  obtain ⟨c₁, hports, h⟩ := Outcome.bind_ok h
  obtain ⟨c₂, henv, h⟩ := Outcome.bind_ok h
  obtain ⟨added, rfl⟩ := Container.eq_of_addPorts hports
  obtain ⟨old, hold, rfl⟩ := Container.eq_of_addEnv henv
  exact ⟨image, policy, _, old, added, hold, (Outcome.pure_ok h).symm⟩

theorem eq_of_decorateInitially {ports : Outcome (List ContainerPort)}
    (h : decorateInitially p ports d = .ok d') :
    ∃ labels annotations account nodes main, ∃ secrets : List String,
      p.labels = .ok labels ∧ p.annotations = .ok annotations ∧ p.nodeSelector = .ok nodes ∧
      initialContainer p ports d.main = .ok main ∧
      d' = { d with
        metadata := { d.metadata with
          labels := some ((d.metadata.labels.getD .empty).union (ofTexts labels))
          annotations :=
            unlessEmpty ((d.metadata.annotations.getD .empty).union (ofTexts annotations)) }
        spec := { d.spec with
          serviceAccountName := some account
          imagePullSecrets :=
            if secrets.isEmpty then d.spec.imagePullSecrets
            else some (secrets.map fun s => some { name := some s })
          nodeSelector :=
            unlessEmpty ((d.spec.nodeSelector.getD .empty).union (ofTexts nodes)) }
        main } := by
  obtain ⟨labels, hlabels, h⟩ := Outcome.bind_ok h
  obtain ⟨annotations, hannotations, h⟩ := Outcome.bind_ok h
  obtain ⟨account, -, h⟩ := Outcome.bind_ok h
  obtain ⟨secrets, -, h⟩ := Outcome.bind_ok h
  obtain ⟨nodes, hnodes, h⟩ := Outcome.bind_ok h
  obtain ⟨main, hmain, h⟩ := Outcome.bind_ok h
  exact ⟨labels, annotations, account, nodes, main, secrets, hlabels, hannotations, hnodes, hmain,
    (Outcome.pure_ok h).symm⟩

/-! ### Secrets and commands -/

theorem eq_of_addSecretVariables (h : addSecretVariables p d = .ok d') :
    ∃ refs, p.environmentSecrets = .ok refs ∧
      ((refs = [] ∧ d' = d) ∨
        ∃ old, d.main.env.getD [] = old.map some ∧
          d' = d.overlaid old (refs.map secretVariable)) := by
  obtain ⟨refs, hrefs, h⟩ := Outcome.bind_ok h
  refine ⟨refs, hrefs, ?_⟩
  split at h
  · rename_i hnone
    exact .inl ⟨List.isEmpty_iff.1 hnone, (Outcome.pure_ok h).symm⟩
  · exact .inr (PodDraft.eq_of_addEnv h)

/-- Secrets are mounted if their volumes are neither reserved nor taken. -/
theorem free_of_firstSecretTaken? {taken secrets : List String}
    (h : firstSecretTaken? taken secrets = none) :
    ∀ s ∈ secrets, secretVolumeName s ∉ reservedVolumes ∧ secretVolumeName s ∉ taken := by
  induction secrets generalizing taken with
  | nil => simp
  | cons s secrets ih =>
    rw [firstSecretTaken?] at h
    split at h
    · cases h
    · rename_i hfree
      simp only [Bool.or_eq_true, List.contains_iff_mem, not_or] at hfree
      intro s' hs'
      rcases List.mem_cons.1 hs' with rfl | hs'
      · exact hfree
      · have hrest := ih h s' hs'
        exact ⟨hrest.1, fun hmem => hrest.2 (List.mem_cons_of_mem _ hmem)⟩

def secretMount (secret path : String) : VolumeMount :=
  { name := secretVolumeName secret, mountPath := path }

theorem eq_of_mountSecrets (h : mountSecrets p d = .ok d') :
    ∃ secrets, p.secrets = .ok secrets ∧
      ((secrets.sorted = [] ∧ d' = d) ∨
        (∃ names, d.volumeNames = .ok names ∧
          firstSecretTaken? names (secrets.sorted.map Prod.fst) = none) ∧
        d.Fresh (secrets.sorted.map fun e => secretVolume e.1) ∧
        d' = d.extended (secrets.sorted.map fun e => secretVolume e.1)
          (secrets.sorted.map fun e => secretMount e.1 e.2)) := by
  obtain ⟨secrets, hsecrets, h⟩ := Outcome.bind_ok h
  refine ⟨secrets, hsecrets, ?_⟩
  dsimp only at h
  split at h
  · rename_i hnone
    exact .inl ⟨List.isEmpty_iff.1 hnone, (Outcome.pure_ok h).symm⟩
  · obtain ⟨names, hnames, h⟩ := Outcome.bind_ok h
    split at h
    · exact absurd h Outcome.misconfigured_ne_ok
    · rename_i hfree
      obtain ⟨d₁, hvolumes, h⟩ := Outcome.bind_ok h
      obtain ⟨hfresh, rfl⟩ := PodDraft.eq_of_addVolumes hvolumes
      exact .inr ⟨⟨names, hnames, hfree⟩, hfresh, (Outcome.pure_ok h).symm⟩

/-- A job manager starts with its application, or waits for jobs. -/
theorem startJobManager_ok (h : startJobManager p d = .ok d') :
    ∃ entry, p.entryPath = .ok entry ∧
      ((p.isApplication = .ok true ∧ ∃ args, applicationArgs p = .ok args ∧
          d' = withCommand d entry ("standalone-job" :: args)) ∨
        (p.isApplication = .ok false ∧ d' = withCommand d entry ["jobmanager"])) := by
  obtain ⟨entry, hentry, h⟩ := Outcome.bind_ok h
  obtain ⟨application, happlication, h⟩ := Outcome.bind_ok h
  refine ⟨entry, hentry, ?_⟩
  cases application with
  | true =>
    obtain ⟨args, hargs, h⟩ := Outcome.bind_ok h
    exact .inl ⟨happlication, args, hargs, (Outcome.pure_ok h).symm⟩
  | false => exact .inr ⟨happlication, (Outcome.pure_ok h).symm⟩

theorem eq_of_startJobManager (h : startJobManager p d = .ok d') :
    ∃ entry args, d' = withCommand d entry args := by
  obtain ⟨entry, -, ⟨-, args, -, rfl⟩ | ⟨-, rfl⟩⟩ := startJobManager_ok h
  · exact ⟨entry, _, rfl⟩
  · exact ⟨entry, _, rfl⟩

theorem eq_of_startTaskManager (h : startTaskManager p d = .ok d') :
    ∃ entry args, d' = withCommand d entry args := by
  obtain ⟨entry, -, h⟩ := Outcome.bind_ok h
  exact ⟨entry, _, (Outcome.pure_ok h).symm⟩

/-! ### Mounts -/

/-- The volume of a Hadoop configuration. -/
def hadoopConfVolume (configMap : String) : Volume where
  name := hadoopVolume
  configMap := some { name := some configMap }

/-- The volume of a cluster's keytab. -/
def keytabSecretVolume (clusterId : String) : Volume where
  name := keytabVolume
  secret := some { secretName := some (Naming.keytabSecret clusterId) }

/-- The variable that names the directory of the Hadoop configuration in the pod. -/
def hadoopDirVariable : EnvVar where
  name := Host.hadoopVariable
  value := some hadoopDirInPod

theorem eq_of_mountHadoop (h : mountHadoop p host d = .ok d') :
    (hadoopMap? p host = .ok none ∧ d' = d) ∨
      ∃ name old, hadoopMap? p host = .ok (some name) ∧ d.Fresh [hadoopConfVolume name] ∧
        d.main.env.getD [] = old.map some ∧
        d' = (d.extended [hadoopConfVolume name]
          [{ name := hadoopVolume, mountPath := hadoopDirInPod }]).overlaid old
            [hadoopDirVariable] := by
  obtain ⟨name?, hname, h⟩ := Outcome.bind_ok h
  cases name? with
  | none => exact .inl ⟨hname, (Outcome.pure_ok h).symm⟩
  | some name =>
    obtain ⟨d₁, hvolumes, h⟩ := Outcome.bind_ok h
    obtain ⟨hfresh, rfl⟩ := PodDraft.eq_of_addVolumes hvolumes
    obtain ⟨old, hold, rfl⟩ := PodDraft.eq_of_addEnv h
    exact .inr ⟨name, old, hname, hfresh, hold, rfl⟩

theorem eq_of_mountKeytab (h : mountKeytab p d = .ok d') :
    (keytab? p = .ok none ∧ d' = d) ∨
      ∃ path, keytab? p = .ok (some path) ∧ d.Fresh [keytabSecretVolume p.clusterId] ∧
        d' = d.extended [keytabSecretVolume p.clusterId]
          [{ name := keytabVolume, mountPath := keytabDirInPod }] := by
  obtain ⟨path?, hpath, h⟩ := Outcome.bind_ok h
  cases path? with
  | none => exact .inl ⟨hpath, (Outcome.pure_ok h).symm⟩
  | some path =>
    obtain ⟨d₁, hvolumes, h⟩ := Outcome.bind_ok h
    obtain ⟨hfresh, rfl⟩ := PodDraft.eq_of_addVolumes hvolumes
    exact .inr ⟨path, hpath, hfresh, (Outcome.pure_ok h).symm⟩

theorem eq_of_mountKerberosFile (h : mountKerberosFile p d = .ok d') :
    (kerberosFile? p = .ok none ∧ d' = d) ∨
      ∃ path volume, kerberosFile? p = .ok (some path) ∧
        volume = configMapVolume kerberosVolume (Naming.kerberosConfigMap p.clusterId)
          [Text.baseName path] ∧
        d.Fresh [volume] ∧
        d' = d.extended [volume]
          [{ name := kerberosVolume, mountPath := kerberosFileInPod,
             subPath := some (Text.baseName path) }] := by
  obtain ⟨path?, hpath, h⟩ := Outcome.bind_ok h
  cases path? with
  | none => exact .inl ⟨hpath, (Outcome.pure_ok h).symm⟩
  | some path =>
    obtain ⟨d₁, hvolumes, h⟩ := Outcome.bind_ok h
    obtain ⟨hfresh, rfl⟩ := PodDraft.eq_of_addVolumes hvolumes
    exact .inr ⟨path, _, hpath, rfl, hfresh, (Outcome.pure_ok h).symm⟩

/-- The two Kerberos files extend the pod, if anything. -/
theorem extended_of_mountKerberos (h : mountKerberos p d = .ok d') :
    d' = d ∨ ∃ volumes mounts, d' = d.extended volumes mounts := by
  obtain ⟨d₁, hkeytab, hfile⟩ := Outcome.bind_ok h
  obtain ⟨-, rfl⟩ | ⟨_, -, -, rfl⟩ := eq_of_mountKeytab hkeytab
  · obtain ⟨-, rfl⟩ | ⟨_, _, -, -, -, rfl⟩ := eq_of_mountKerberosFile hfile
    · exact .inl rfl
    · exact .inr ⟨_, _, rfl⟩
  · obtain ⟨-, rfl⟩ | ⟨_, _, -, -, -, rfl⟩ := eq_of_mountKerberosFile hfile
    · exact .inr ⟨_, _, rfl⟩
    · exact .inr ⟨_, _, PodDraft.extended_extended ..⟩

theorem eq_of_mountFlinkConf (h : mountFlinkConf p host d = .ok d') :
    ∃ files dir volume, flinkFiles p host = .ok files ∧ p.flinkConfDir = .ok dir ∧
      volume = configMapVolume flinkVolume (Naming.flinkConfigMap p.clusterId)
        (files.sorted.map Prod.fst) ∧
      d.Fresh [volume] ∧
      d' = d.extended [volume] [{ name := flinkVolume, mountPath := dir }] := by
  obtain ⟨files, hfiles, h⟩ := Outcome.bind_ok h
  obtain ⟨d₁, hvolumes, h⟩ := Outcome.bind_ok h
  obtain ⟨hfresh, rfl⟩ := PodDraft.eq_of_addVolumes hvolumes
  obtain ⟨dir, hdir, h⟩ := Outcome.bind_ok h
  exact ⟨files, dir, _, hfiles, hdir, rfl, hfresh, (Outcome.pure_ok h).symm⟩

theorem eq_of_mountUserLib (h : mountUserLib p d = .ok d') :
    (p.isApplication = .ok false ∧ d' = d) ∨
      (p.isApplication = .ok true ∧ d.MountsAt userLibDir ∧ d' = d) ∨
      ∃ volume, p.isApplication = .ok true ∧ ¬ d.MountsAt userLibDir ∧
        volume = { name := userLibVolume, emptyDir := some {} } ∧ d.Fresh [volume] ∧
        d' = d.extended [volume] [{ name := userLibVolume, mountPath := userLibDir }] := by
  obtain ⟨application, happlication, h⟩ := Outcome.bind_ok h
  cases application with
  | false => exact .inl ⟨happlication, (Outcome.pure_ok h).symm⟩
  | true =>
    right
    obtain ⟨mounts, hmounts, h⟩ := Outcome.bind_ok h
    have hall := demandAll_eq_ok_iff.1 hmounts
    have hat : mounts.any (·.mountPath == userLibDir) = true ↔ d.MountsAt userLibDir := by
      simp [PodDraft.MountsAt, hall]
    split at h
    · rename_i hmounted
      exact .inl ⟨happlication, hat.1 hmounted, (Outcome.pure_ok h).symm⟩
    · rename_i hfree
      obtain ⟨d₁, hvolumes, h⟩ := Outcome.bind_ok h
      obtain ⟨hfresh, rfl⟩ := PodDraft.eq_of_addVolumes hvolumes
      exact .inr ⟨_, happlication, fun hmounted => hfree (hat.2 hmounted), rfl, hfresh,
        (Outcome.pure_ok h).symm⟩

end Step

end FlinkCluster
