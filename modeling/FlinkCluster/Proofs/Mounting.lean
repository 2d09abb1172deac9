import FlinkCluster.Proofs.SharedResources

/-!
# What is mounted into the pods

A step changes a pod's volumes and the mounts of its main container by adding to them
(`PodDraft.Adds`), and no two steps add volumes of one name (`Step.owner`). What the steps that
mount configurations add is the same for every pod.

* `Step.addsOwn_of_decorate`, `Step.addsOwn_of_compose`: what a step and a composition add.
* `Step.mountHadoop_ok`, `Step.mountKeytab_ok`, `Step.mountKerberosFile_ok`,
  `Step.mountFlinkConf_ok`: what exactly the mount steps add.
* `Step.mounts_of_compose`: what a step adds is still there at the end of the composition, and the
  volumes that it added have no further mounts but those of the template.
-/

set_option autoImplicit false

namespace FlinkCluster

open Kubernetes

/-! ## Additions -/

/-- The second pod is the first with more volumes, and more mounts of the main container. -/
structure PodDraft.Adds (d d' : PodDraft) (volumes : List Volume) (mounts : List VolumeMount) :
    Prop where
  volumes : d'.spec.volumes.getD [] = d.spec.volumes.getD [] ++ volumes.map some
  mounts : d'.main.volumeMounts.getD [] = d.main.volumeMounts.getD [] ++ mounts.map some

namespace PodDraft

variable {d d' d'' : PodDraft} {volumes volumes' : List Volume} {mounts mounts' : List VolumeMount}

theorem Adds.refl (d : PodDraft) : Adds d d [] [] := ⟨by simp, by simp⟩

theorem Adds.trans (h : Adds d d' volumes mounts) (h' : Adds d' d'' volumes' mounts') :
    Adds d d'' (volumes ++ volumes') (mounts ++ mounts') where
  volumes := by rw [h'.volumes, h.volumes, List.map_append, List.append_assoc]
  mounts := by rw [h'.mounts, h.mounts, List.map_append, List.append_assoc]

/-- What is added is determined by the two pods. -/
theorem Adds.unique (h : Adds d d' volumes mounts) (h' : Adds d d' volumes' mounts') :
    volumes' = volumes ∧ mounts' = mounts := by
  have hvolumes := List.append_cancel_left (h'.volumes.symm.trans h.volumes)
  have hmounts := List.append_cancel_left (h'.mounts.symm.trans h.mounts)
  exact ⟨List.map_injective_iff.2 (fun _ _ => Option.some.inj) hvolumes,
    List.map_injective_iff.2 (fun _ _ => Option.some.inj) hmounts⟩

theorem Adds.hasVolume_iff (h : Adds d d' volumes mounts) (name : String) :
    d'.HasVolume name ↔ d.HasVolume name ∨ name ∈ volumes.map (·.name) := by
  unfold HasVolume
  rw [h.volumes]
  simp only [List.mem_append, List.mem_map, Option.some.injEq, exists_eq_right, or_and_right,
    exists_or]

theorem Adds.mountsAt_iff (h : Adds d d' volumes mounts) (path : String) :
    d'.MountsAt path ↔ d.MountsAt path ∨ path ∈ mounts.map (·.mountPath) := by
  unfold MountsAt
  rw [h.mounts]
  simp only [List.mem_append, List.mem_map, Option.some.injEq, exists_eq_right, or_and_right,
    exists_or]

/-- Volumes that are new are new together with those that were added before. -/
theorem Fresh.append (h : d.Fresh volumes) (hadds : Adds d d' volumes mounts)
    (h' : d'.Fresh volumes') : d.Fresh (volumes ++ volumes') where
  nodup := by
    rw [List.map_append, List.nodup_append]
    refine ⟨h.nodup, h'.nodup, fun n hn m hm hnm => ?_⟩
    obtain ⟨v, hv, rfl⟩ := List.mem_map.1 hm
    exact h'.new v hv ((hadds.hasVolume_iff v.name).2 (.inr (hnm ▸ hn)))
  new v hv hhas := by
    rcases List.mem_append.1 hv with hv | hv
    · exact h.new v hv hhas
    · exact h'.new v hv ((hadds.hasVolume_iff v.name).2 (.inl hhas))

theorem adds_extended (d : PodDraft) (volumes : List Volume) (mounts : List VolumeMount) :
    Adds d (d.extended volumes mounts) volumes mounts := ⟨rfl, rfl⟩

theorem adds_overlaid (d : PodDraft) (old vars : List EnvVar) :
    Adds d (d.overlaid old vars) [] [] :=
  ⟨(List.append_nil _).symm, (List.append_nil _).symm⟩

end PodDraft

/-! ## Steps -/

namespace Step

open PodDraft (Adds)

variable {p : Parameters} {host : Host} {d d' : PodDraft}

/-- Whatever config map with the Hadoop configuration there is, it is mounted. -/
theorem mountHadoop_ok (h : mountHadoop p host d = .ok d') :
    (hadoopMap? p host = .ok none ∧ Adds d d' [] []) ∨
      ∃ name, hadoopMap? p host = .ok (some name) ∧
        Adds d d' [hadoopConfVolume name]
          [{ name := hadoopVolume, mountPath := hadoopDirInPod }] := by
  obtain ⟨hname, rfl⟩ | ⟨name, old, hname, -, -, rfl⟩ := eq_of_mountHadoop h
  · exact .inl ⟨hname, .refl d'⟩
  · exact .inr ⟨name, hname, (PodDraft.adds_extended d _ _).trans (PodDraft.adds_overlaid _ _ _)⟩

theorem mountKeytab_ok (h : mountKeytab p d = .ok d') :
    (keytab? p = .ok none ∧ Adds d d' [] []) ∨
      ∃ path, keytab? p = .ok (some path) ∧
        Adds d d' [keytabSecretVolume p.clusterId]
          [{ name := keytabVolume, mountPath := keytabDirInPod }] := by
  obtain ⟨hpath, rfl⟩ | ⟨path, hpath, -, rfl⟩ := eq_of_mountKeytab h
  · exact .inl ⟨hpath, .refl d'⟩
  · exact .inr ⟨path, hpath, PodDraft.adds_extended d _ _⟩

theorem mountKerberosFile_ok (h : mountKerberosFile p d = .ok d') :
    (kerberosFile? p = .ok none ∧ Adds d d' [] []) ∨
      ∃ path, kerberosFile? p = .ok (some path) ∧
        Adds d d' [configMapVolume kerberosVolume (Naming.kerberosConfigMap p.clusterId)
            [Text.baseName path]]
          [{ name := kerberosVolume, mountPath := kerberosFileInPod,
             subPath := some (Text.baseName path) }] := by
  obtain ⟨hpath, rfl⟩ | ⟨path, _, hpath, rfl, -, rfl⟩ := eq_of_mountKerberosFile h
  · exact .inl ⟨hpath, .refl d'⟩
  · exact .inr ⟨path, hpath, PodDraft.adds_extended d _ _⟩

theorem mountFlinkConf_ok (h : mountFlinkConf p host d = .ok d') :
    ∃ files dir, flinkFiles p host = .ok files ∧ p.flinkConfDir = .ok dir ∧
      Adds d d' [configMapVolume flinkVolume (Naming.flinkConfigMap p.clusterId)
          (files.sorted.map Prod.fst)]
        [{ name := flinkVolume, mountPath := dir }] := by
  obtain ⟨files, dir, _, hfiles, hdir, rfl, -, rfl⟩ := eq_of_mountFlinkConf h
  exact ⟨files, dir, hfiles, hdir, PodDraft.adds_extended d _ _⟩

theorem adds_of_decorateInitially {ports : Outcome (List ContainerPort)}
    (h : decorateInitially p ports d = .ok d') : Adds d d' [] [] := by
  obtain ⟨_, _, _, _, _, _, -, -, -, hmain, rfl⟩ := eq_of_decorateInitially h
  obtain ⟨_, _, _, _, _, -, rfl⟩ := eq_of_initialContainer hmain
  exact ⟨by simp, by simp⟩

theorem adds_withCommand (d : PodDraft) (entry : String) (args : List String) :
    Adds d (withCommand d entry args) [] [] := ⟨(List.append_nil _).symm, (List.append_nil _).symm⟩

theorem adds_of_addSecretVariables (h : addSecretVariables p d = .ok d') : Adds d d' [] [] := by
  obtain ⟨_, -, ⟨-, rfl⟩ | ⟨_, -, rfl⟩⟩ := eq_of_addSecretVariables h
  · exact .refl d'
  · exact PodDraft.adds_overlaid d _ _

/-! ## Owners of volumes -/

/-- The step that alone can add a volume of a name. -/
def owner (volume : String) : Step :=
  if volume = hadoopVolume then .hadoop
  else if volume = keytabVolume ∨ volume = kerberosVolume then .kerberos
  else if volume = flinkVolume then .flinkConf
  else if volume = userLibVolume then .userLib
  else .mountedSecrets

theorem owner_of_not_reserved {volume : String} (h : volume ∉ reservedVolumes) :
    owner volume = .mountedSecrets := by
  simp only [reservedVolumes, List.mem_cons, List.not_mem_nil, or_false, not_or] at h
  obtain ⟨hhadoop, hkeytab, hkerberos, hflink, huserLib⟩ := h
  simp [owner, hhadoop, hkeytab, hkerberos, hflink, huserLib]

/-- What steps add to a pod: volumes that they own and the pod has not, and mounts of these. -/
structure AddsOwn (steps : List Step) (d d' : PodDraft) (volumes : List Volume)
    (mounts : List VolumeMount) : Prop where
  adds : Adds d d' volumes mounts
  owned : ∀ v ∈ volumes, owner v.name ∈ steps
  fresh : d.Fresh volumes
  mounted : ∀ m ∈ mounts, m.name ∈ volumes.map (·.name)

variable {steps : List Step}

/-- Mounts have names of volumes that the steps own. -/
theorem AddsOwn.mounts {volumes : List Volume} {mounts : List VolumeMount}
    (h : AddsOwn steps d d' volumes mounts) : ∀ m ∈ mounts, owner m.name ∈ steps := by
  intro m hm
  obtain ⟨v, hv, hname⟩ := List.mem_map.1 (h.mounted m hm)
  exact hname ▸ h.owned v hv

theorem AddsOwn.nothing (h : Adds d d' [] []) : AddsOwn steps d d' [] [] :=
  ⟨h, by simp, ⟨by simp, by simp⟩, by simp⟩

theorem AddsOwn.one {v : Volume} {m : VolumeMount} (hfresh : d.Fresh [v])
    (hname : m.name = v.name) (h : Adds d d' [v] [m]) :
    AddsOwn [owner v.name] d d' [v] [m] :=
  ⟨h, by simp, hfresh, by simp [hname]⟩

theorem AddsOwn.trans {steps' : List Step} {d'' : PodDraft} {volumes volumes' : List Volume}
    {mounts mounts' : List VolumeMount} (h : AddsOwn steps d d' volumes mounts)
    (h' : AddsOwn steps' d' d'' volumes' mounts') :
    AddsOwn (steps ++ steps') d d'' (volumes ++ volumes') (mounts ++ mounts') where
  adds := h.adds.trans h'.adds
  owned v hv := by
    rw [List.mem_append] at hv ⊢
    exact hv.imp (h.owned v) (h'.owned v)
  fresh := h.fresh.append h.adds h'.fresh
  mounted m hm := by
    rw [List.map_append, List.mem_append]
    exact (List.mem_append.1 hm).imp (h.mounted m) (h'.mounted m)

theorem addsOwn_of_mountSecrets (h : mountSecrets p d = .ok d') :
    ∃ volumes mounts, AddsOwn [.mountedSecrets] d d' volumes mounts := by
  obtain ⟨secrets, -, ⟨-, rfl⟩ | ⟨⟨names, -, hfree⟩, hfresh, rfl⟩⟩ := eq_of_mountSecrets h
  · exact ⟨_, _, .nothing (.refl d')⟩
  · refine ⟨_, _, PodDraft.adds_extended d _ _, fun v hv => ?_, hfresh, fun m hm => ?_⟩
    · obtain ⟨e, he, rfl⟩ := List.mem_map.1 hv
      have hname := (free_of_firstSecretTaken? hfree e.1 (List.mem_map_of_mem he)).1
      exact List.mem_singleton.2 (owner_of_not_reserved hname)
    · obtain ⟨e, he, rfl⟩ := List.mem_map.1 hm
      rw [List.map_map]
      exact List.mem_map.2 ⟨e, he, rfl⟩

theorem addsOwn_of_mountKerberos (h : mountKerberos p d = .ok d') :
    ∃ volumes mounts, AddsOwn [.kerberos] d d' volumes mounts := by
  obtain ⟨d₁, hkeytab, h⟩ := Outcome.bind_ok h
  have hfirst : ∃ volumes mounts, AddsOwn [.kerberos] d d₁ volumes mounts := by
    obtain ⟨-, rfl⟩ | ⟨path, -, hfresh, rfl⟩ := eq_of_mountKeytab hkeytab
    · exact ⟨_, _, .nothing (.refl d₁)⟩
    · exact ⟨_, _, .one hfresh rfl (PodDraft.adds_extended d _ _)⟩
  have hsecond : ∃ volumes mounts, AddsOwn [.kerberos] d₁ d' volumes mounts := by
    obtain ⟨-, rfl⟩ | ⟨path, _, -, rfl, hfresh, rfl⟩ := eq_of_mountKerberosFile h
    · exact ⟨_, _, .nothing (.refl d')⟩
    · exact ⟨_, _, .one hfresh rfl (PodDraft.adds_extended d₁ _ _)⟩
  obtain ⟨volumes, mounts, hadds⟩ := hfirst
  obtain ⟨volumes', mounts', hadds'⟩ := hsecond
  refine ⟨_, _, { hadds.trans hadds' with owned := fun v hv => ?_ }⟩
  exact (List.mem_append.1 ((hadds.trans hadds').owned v hv)).elim id id

/-- A step adds volumes that it owns and mounts of them. -/
theorem addsOwn_of_decorate {step : Step} (h : step.decorate p host d = .ok d') :
    ∃ volumes mounts, AddsOwn [step] d d' volumes mounts := by
  cases step with
  | identity | internalService | externalService =>
    obtain rfl := Except.ok.inj h
    exact ⟨_, _, .nothing (.refl d)⟩
  | initialJobManager | initialTaskManager =>
    exact ⟨_, _, .nothing (adds_of_decorateInitially h)⟩
  | environmentSecrets => exact ⟨_, _, .nothing (adds_of_addSecretVariables h)⟩
  | mountedSecrets => exact addsOwn_of_mountSecrets h
  | jobManagerCommand =>
    obtain ⟨entry, args, rfl⟩ := eq_of_startJobManager h
    exact ⟨_, _, .nothing (adds_withCommand d entry args)⟩
  | taskManagerCommand =>
    obtain ⟨entry, args, rfl⟩ := eq_of_startTaskManager h
    exact ⟨_, _, .nothing (adds_withCommand d entry args)⟩
  | hadoop =>
    obtain ⟨-, rfl⟩ | ⟨name, _, -, hfresh, -, rfl⟩ := eq_of_mountHadoop h
    · exact ⟨_, _, .nothing (.refl d')⟩
    · have hadds := PodDraft.adds_extended d [hadoopConfVolume name]
        [{ name := hadoopVolume, mountPath := hadoopDirInPod }]
      exact ⟨_, _, .one hfresh rfl (hadds.trans (PodDraft.adds_overlaid _ _ _))⟩
  | kerberos => exact addsOwn_of_mountKerberos h
  | flinkConf =>
    obtain ⟨files, dir, _, -, -, rfl, hfresh, rfl⟩ := eq_of_mountFlinkConf h
    exact ⟨_, _, .one hfresh rfl (PodDraft.adds_extended d _ _)⟩
  | userLib =>
    obtain ⟨-, rfl⟩ | ⟨-, -, rfl⟩ | ⟨_, -, -, rfl, hfresh, rfl⟩ := eq_of_mountUserLib h
    · exact ⟨_, _, .nothing (.refl d')⟩
    · exact ⟨_, _, .nothing (.refl d')⟩
    · exact ⟨_, _, .one hfresh rfl (PodDraft.adds_extended d _ _)⟩

/-! ## Compositions -/

variable {early late : List Step} {last : PodDraft} {rs : List Resource}

/-- A composition adds volumes that its steps own and mounts of them. -/
theorem addsOwn_of_compose (h : compose p host steps d = .ok (last, rs)) :
    ∃ volumes mounts, AddsOwn steps d last volumes mounts := by
  induction steps generalizing d rs with
  | nil =>
    obtain ⟨rfl, -⟩ := Prod.mk.inj (Except.ok.inj h)
    exact ⟨[], [], .nothing (.refl d)⟩
  | cons step steps ih =>
    obtain ⟨next, part, others, hdecorate, -, hrest, -⟩ := compose_cons_ok h
    obtain ⟨volumes, mounts, hadds⟩ := addsOwn_of_decorate hdecorate
    obtain ⟨volumes', mounts', hadds'⟩ := ih hrest
    exact ⟨_, _, hadds.trans hadds'⟩

theorem compose_append_ok (h : compose p host (early ++ late) d = .ok (last, rs)) :
    ∃ middle first others, compose p host early d = .ok (middle, first) ∧
      compose p host late middle = .ok (last, others) ∧ rs = first ++ others := by
  induction early generalizing d rs with
  | nil => exact ⟨d, [], rs, rfl, h, rfl⟩
  | cons step early ih =>
    obtain ⟨next, part, others, hdecorate, hpart, hrest, rfl⟩ := compose_cons_ok h
    obtain ⟨middle, first, others, hfirst, hothers, rfl⟩ := ih hrest
    refine ⟨middle, part ++ first, others, ?_, hothers, (List.append_assoc ..).symm⟩
    simp only [compose, apply, hdecorate, hpart, hfirst, bind, Except.bind, pure, Except.pure]

/-- Composing the steps over a template, one of them adds these volumes and mounts to the pod. -/
def Mounts (p : Parameters) (host : Host) (steps : List Step) (template : PodDraft) (step : Step)
    (volumes : List Volume) (mounts : List VolumeMount) : Prop :=
  ∃ early late d d' rs, steps = early ++ step :: late ∧
    compose p host early template = .ok (d, rs) ∧ step.decorate p host d = .ok d' ∧
    Adds d d' volumes mounts

/-- **What a step mounts stays mounted.** It is still there at the end of the composition, and what
else is mounted there under the name of a volume that the step owns was mounted by the template. -/
theorem mounts_of_compose {step : Step} {template : PodDraft} (hnodup : steps.Nodup)
    (hstep : step ∈ steps) (h : compose p host steps template = .ok (last, rs)) :
    ∃ d d' volumes mounts, step.decorate p host d = .ok d' ∧ AddsOwn [step] d d' volumes mounts ∧
      Mounts p host steps template step volumes mounts ∧
      volumes.map some ⊆ last.spec.volumes.getD [] ∧
      mounts.map some ⊆ last.main.volumeMounts.getD [] ∧
      ∀ m, some m ∈ last.main.volumeMounts.getD [] → owner m.name = step →
        some m ∈ template.main.volumeMounts.getD [] ∨ m ∈ mounts := by
  obtain ⟨early, late, rfl⟩ := List.append_of_mem hstep
  obtain ⟨d, rs₁, _, hearly, hrest, -⟩ := compose_append_ok h
  obtain ⟨d', _, _, hdecorate, -, hlate, -⟩ := compose_cons_ok hrest
  obtain ⟨volumes₁, mounts₁, hadds₁⟩ := addsOwn_of_compose hearly
  obtain ⟨volumes, mounts, hadds⟩ := addsOwn_of_decorate hdecorate
  obtain ⟨volumes₂, mounts₂, hadds₂⟩ := addsOwn_of_compose hlate
  have hall := (hadds₁.adds.trans hadds.adds).trans hadds₂.adds
  refine ⟨d, d', volumes, mounts, hdecorate, hadds,
    ⟨early, late, d, d', rs₁, rfl, hearly, hdecorate, hadds.adds⟩, ?_, ?_, ?_⟩
  · intro v hv
    rw [hall.volumes, List.map_append, List.map_append]
    simp [hv]
  · intro m hm
    rw [hall.mounts, List.map_append, List.map_append]
    simp [hm]
  · intro m hm howner
    -- The steps before and after this one own other volumes.
    have hother := List.nodup_middle.1 hnodup
    rw [List.nodup_cons, List.mem_append, not_or] at hother
    obtain ⟨⟨hnotEarly, hnotLate⟩, -⟩ := hother
    rw [hall.mounts, List.mem_append] at hm
    refine hm.imp_right fun hm => ?_
    obtain ⟨m', hmem, hsame⟩ := List.mem_map.1 hm
    obtain rfl := Option.some.inj hsame
    rw [List.mem_append, List.mem_append] at hmem
    rcases hmem with (hm | hm) | hm
    · exact absurd (howner ▸ hadds₁.mounts _ hm) hnotEarly
    · exact hm
    · exact absurd (howner ▸ hadds₂.mounts _ hm) hnotLate

end Step

end FlinkCluster
