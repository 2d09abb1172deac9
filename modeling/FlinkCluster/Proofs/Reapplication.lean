import FlinkCluster.Proofs.Templates
import FlinkCluster.Proofs.VolumeConflicts

/-!
# Applying a step again

A step that is applied to the pod that it has made adds nothing a second time.

* `Table.union_again`, `Kubernetes.EnvVar.overlaid_again`, `Kubernetes.ContainerPort.joined_again`:
  entries, variables and ports that were set on top of others are there already.
* `PodDraft.Repeated`: the outcomes of making a change again. The pod is as it is if no volume had
  been added to it, and such a volume is in the way if one had.
* `Step.decorate_again`: every step but that of the libraries repeats so, and that one always keeps
  the pod (`Step.mountUserLib_again`), because something is mounted at their directory by then.
* `Step.apply_again`: the same of the pod and the resources of a step. So a composed pod cannot be
  composed once more (`Step.not_compose_again`).
-/

set_option autoImplicit false

namespace FlinkCluster

open Kubernetes

/-! ## Tables -/

namespace Table

variable {α : Type}

theorem setEntry_eq_self {κ : Type} [DecidableEq κ] {k : κ} {v : α} {es : List (κ × α)}
    (h : findEntry k es = some v) : setEntry k v es = es := by
  induction es with
  | nil => cases h
  | cons e es ih =>
    obtain ⟨j, w⟩ := e
    rw [findEntry] at h
    by_cases hk : j = k
    · rw [if_pos hk] at h
      rw [setEntry, if_pos hk, Option.some.inj h]
    · rw [if_neg hk] at h
      rw [setEntry, if_neg hk, ih h]

theorem set_eq_self {t : Table α} {k : String} {v : α} (h : t.get? k = some v) :
    t.set k v = t := by
  obtain ⟨es, hnodup⟩ := t
  simp only [set, setEntry_eq_self h]

/-- Setting entries that are there changes nothing, not even their order. -/
theorem union_eq_self {t u : Table α} (h : u.Within t) : t.union u = t := by
  have hfold (es : List (String × α)) (hes : ∀ e ∈ es, t.get? e.1 = some e.2) :
      es.foldl (fun t e => t.set e.1 e.2) t = t := by
    induction es with
    | nil => rfl
    | cons e es ih =>
      rw [List.foldl_cons, set_eq_self (hes e List.mem_cons_self)]
      exact ih fun e' he' => hes e' (List.mem_cons_of_mem e he')
  exact hfold u.entries h

theorem within_union (t u : Table α) : u.Within (t.union u) := by
  rw [within_iff]
  intro k v hk
  rw [get?_union, hk, Option.some_or]

theorem union_again (t u : Table α) : (t.union u).union u = t.union u :=
  union_eq_self (within_union t u)

end Table

/-! ## Containers -/

namespace Kubernetes

/-- The variables of an overlay replace themselves. -/
theorem EnvVar.overlaid_again (old vars : List EnvVar) :
    overlaid (overlaid old vars) vars = overlaid old vars := by
  have hnone : vars.filter (fun e => !(vars.map (·.name)).contains e.name) = [] := by
    rw [List.filter_eq_nil_iff]
    intro e he
    simp [List.mem_map_of_mem he]
  rw [overlaid, overlaid, List.filter_append, hnone, List.append_nil, List.filter_filter]
  simp only [Bool.and_self]

/-- Ports behind others: of the given ones those whose names are new. -/
def ContainerPort.joined (old given : List ContainerPort) : List ContainerPort :=
  old ++ given.filter fun q => !(old.map (·.name)).contains q.name

theorem ContainerPort.mem_names_joined {old given : List ContainerPort} {q : ContainerPort}
    (hq : q ∈ given) : q.name ∈ (joined old given).map (·.name) := by
  rw [joined, List.map_append, List.mem_append]
  by_cases hold : q.name ∈ old.map (·.name)
  · exact .inl hold
  · exact .inr (List.mem_map_of_mem (List.mem_filter.2 ⟨hq, by simpa using hold⟩))

/-- Ports that were given have names that are not new. -/
theorem ContainerPort.joined_again (old given : List ContainerPort) :
    joined (joined old given) given = joined old given := by
  rw [joined, List.filter_eq_nil_iff.2, List.append_nil]
  intro q hq
  simpa using mem_names_joined hq

namespace Container

variable {c c' made : Container}

theorem addEnv_eq {old vars : List EnvVar} (h : c.env.getD [] = old.map some) :
    c.addEnv vars = .ok { c with env := some ((EnvVar.overlaid old vars).map some) } := by
  rw [addEnv, demandAll_eq_ok_iff.2 h]
  rfl

theorem addPorts_eq {old given : List ContainerPort} (h : c.ports.getD [] = old.map some) :
    c.addPorts (.ok given) =
      .ok { c with ports := some ((ContainerPort.joined old given).map some) } := by
  rw [addPorts, demandAll_eq_ok_iff.2 h, h, ContainerPort.joined, List.map_append]
  rfl

/-- A container with the variables of one to which they were added stays as it is. -/
theorem addEnv_again {vars : List EnvVar} (h : c.addEnv vars = .ok c') (hmade : made.env = c'.env) :
    made.addEnv vars = .ok made := by
  obtain ⟨old, -, rfl⟩ := eq_of_addEnv h
  replace hmade : made.env = some ((EnvVar.overlaid old vars).map some) := hmade
  rw [addEnv_eq (by rw [hmade, Option.getD_some]), EnvVar.overlaid_again, ← hmade]

/-- A container with the ports of one to which they were added stays as it is. -/
theorem addPorts_again {ports : Outcome (List ContainerPort)} (h : c.addPorts ports = .ok c')
    (hmade : made.ports = c'.ports) : made.addPorts ports = .ok made := by
  obtain ⟨old, hold, hadd⟩ := Outcome.bind_ok h
  obtain ⟨given, rfl, -⟩ := Outcome.bind_ok hadd
  obtain rfl := Except.ok.inj ((addPorts_eq (demandAll_eq_ok_iff.1 hold)).symm.trans h)
  replace hmade : made.ports = some ((ContainerPort.joined old given).map some) := hmade
  rw [addPorts_eq (by rw [hmade, Option.getD_some]), ContainerPort.joined_again, ← hmade]

end Container

end Kubernetes

/-! ## Pods -/

/-- The configuration is refused because the pod has a volume of this name. -/
inductive Failure.VolumeTaken (name : String) : Failure → Prop
  | volume {key clusterId : Option String} :
      VolumeTaken name (.configuration ⟨.volumeTaken name, key, clusterId⟩)
  | secret {secret : String} {key clusterId : Option String} :
      VolumeTaken name (.configuration ⟨.secretVolumeTaken name secret, key, clusterId⟩)

namespace PodDraft

variable {d d' d₁ : PodDraft} {v : Volume} {volumes more : List Volume}
  {mounts : List VolumeMount} {names : List String} {key clusterId : String}

/-! ### Additions -/

theorem adds_of_addVolumes (h : d.addVolumes volumes key clusterId = .ok d') :
    d.Adds d' volumes [] := by
  obtain ⟨-, rfl⟩ := eq_of_addVolumes h
  exact ⟨rfl, (List.append_nil _).symm⟩

theorem adds_withMounts (d : PodDraft) (mounts : List VolumeMount) :
    d.Adds (d.withMain (·.addMounts mounts)) [] mounts := ⟨(List.append_nil _).symm, rfl⟩

/-- The names of the volumes of a pod with more of them. -/
theorem Adds.volumeNames_eq (h : d.Adds d' volumes mounts) (hnames : d.volumeNames = .ok names) :
    d'.volumeNames = .ok (names ++ volumes.map (·.name)) := by
  obtain ⟨old, hold, rfl⟩ := Outcome.map_ok hnames
  have hall : d'.spec.volumes.getD [] = (old ++ volumes).map some := by
    rw [h.volumes, demandAll_eq_ok_iff.1 hold, List.map_append]
  rw [volumeNames, demandAll_eq_ok_iff.2 hall, ← List.map_append]
  rfl

/-- Volumes cannot be added if the first of them is there already. -/
theorem addVolumes_of_taken (hnames : d.volumeNames = .ok names) (htaken : v.name ∈ names) :
    d.addVolumes (v :: volumes) key clusterId =
      misconfigured (.volumeTaken v.name) key clusterId := by
  have hfirst : firstTaken? names (v :: volumes) = some v := by
    rw [firstTaken?, if_pos (by simpa using htaken)]
  rw [addVolumes, hnames]
  simp only [bind, Except.bind, hfirst]

/-! ### Repetitions -/

/-- What becomes of the change that has made `d'` of `d` when it is made again, of `d'`: the pod is
kept if it has no more volumes than before, and the change is refused for one of them otherwise. -/
inductive Repeated (d d' : PodDraft) : Outcome PodDraft → Prop
  | kept (hvolumes : d'.spec.volumes = d.spec.volumes) : Repeated d d' (.ok d')
  | refused {e : Failure} {name : String} (htaken : e.VolumeTaken name)
      (hnew : ¬ d.HasVolume name) (hadded : d'.HasVolume name) : Repeated d d' (.error e)

theorem Repeated.of_ok {x : Outcome PodDraft} (h : x = .ok d')
    (hvolumes : d'.spec.volumes = d.spec.volumes) : Repeated d d' x :=
  h ▸ .kept hvolumes

theorem Repeated.of_error {x : Outcome PodDraft} {e : Failure} {name : String} (h : x = .error e)
    (htaken : e.VolumeTaken name) (hnew : ¬ d.HasVolume name) (hadded : d'.HasVolume name) :
    Repeated d d' x :=
  h ▸ .refused htaken hnew hadded

/-- A change that adds volumes is refused when it is made again, for the first of them. -/
theorem Repeated.of_addVolumes {f : PodDraft → Outcome PodDraft}
    (h : d.addVolumes (v :: volumes) key clusterId = .ok d₁) (hadds : d₁.Adds d' more mounts) :
    Repeated d d' (d'.addVolumes (v :: volumes) key clusterId >>= f) := by
  obtain ⟨names, hnames, -⟩ := Outcome.bind_ok h
  have hall := (adds_of_addVolumes h).trans hadds
  have hrefused : d'.addVolumes (v :: volumes) key clusterId =
      misconfigured (.volumeTaken v.name) key clusterId :=
    addVolumes_of_taken (hall.volumeNames_eq hnames) (by simp)
  refine .of_error (by rw [hrefused]; rfl) .volume ?_ ((hall.hasVolume_iff v.name).2 (by simp))
  exact (eq_of_addVolumes h).1.new v List.mem_cons_self

end PodDraft

/-! ## Steps -/

namespace Step

open PodDraft (Repeated adds_of_addVolumes adds_withMounts adds_overlaid)

variable {p : Parameters} {host : Host} {d d' last : PodDraft} {step : Step} {rs : List Resource}

/-! ### The initial step -/

theorem initialContainer_again {ports : Outcome (List ContainerPort)} {c c' : Container}
    (h : initialContainer p ports c = .ok c') : initialContainer p ports c' = .ok c' := by
  obtain ⟨image, himage, h⟩ := Outcome.bind_ok h
  obtain ⟨policy, hpolicy, h⟩ := Outcome.bind_ok h
  obtain ⟨cpu, hcpu, h⟩ := Outcome.bind_ok h
  obtain ⟨memory, hmemory, h⟩ := Outcome.bind_ok h
  obtain ⟨quantity, hquantity, h⟩ := Outcome.bind_ok h
  obtain ⟨c₁, hports, h⟩ := Outcome.bind_ok h
  obtain ⟨c₂, henv, h⟩ := Outcome.bind_ok h
  have hmade := Outcome.pure_ok h
  -- What is set after the ports and the variables concerns neither.
  have hsamePorts : c'.ports = c₁.ports := by
    obtain ⟨_, -, rfl⟩ := Container.eq_of_addEnv henv
    rw [← hmade]
  have hsameEnv : c'.env = c₂.env := by rw [← hmade]
  rw [initialContainer, himage, hpolicy, hcpu, hmemory]
  simp only [bind, Except.bind, hquantity, Container.addPorts_again hports hsamePorts,
    Container.addEnv_again henv hsameEnv]
  rw [← hmade]
  rfl

theorem decorateInitially_again {ports : Outcome (List ContainerPort)}
    (h : decorateInitially p ports d = .ok d') : Repeated d d' (decorateInitially p ports d') := by
  obtain ⟨labels, hlabels, h⟩ := Outcome.bind_ok h
  obtain ⟨annotations, hannotations, h⟩ := Outcome.bind_ok h
  obtain ⟨account, haccount, h⟩ := Outcome.bind_ok h
  obtain ⟨secrets, hsecrets, h⟩ := Outcome.bind_ok h
  obtain ⟨nodes, hnodes, h⟩ := Outcome.bind_ok h
  obtain ⟨main, hmain, h⟩ := Outcome.bind_ok h
  obtain rfl := Outcome.pure_ok h
  refine .of_ok ?_ rfl
  rw [decorateInitially, hlabels, hannotations, haccount, hsecrets, hnodes]
  simp only [bind, Except.bind, initialContainer_again hmain, getD_unlessEmpty, Option.getD_some,
    Table.union_again]
  -- Without pull secrets those of the pod stay, both times.
  cases secrets.isEmpty <;> rfl

/-! ### Secrets and commands -/

theorem addSecretVariables_again (h : addSecretVariables p d = .ok d') :
    Repeated d d' (addSecretVariables p d') := by
  obtain ⟨refs, hrefs, hadd⟩ := Outcome.bind_ok h
  cases hnone : refs.isEmpty with
  | true =>
    rw [hnone] at hadd
    obtain rfl := Outcome.pure_ok hadd
    exact .of_ok h rfl
  | false =>
    rw [hnone] at hadd
    obtain ⟨main, hmain, rfl⟩ := Outcome.map_ok hadd
    refine .of_ok ?_ rfl
    rw [addSecretVariables, hrefs]
    change (if refs.isEmpty then pure _ else PodDraft.addEnv _ _) = _
    rw [hnone, PodDraft.addEnv, Container.addEnv_again hmain rfl]
    rfl

theorem startJobManager_again (h : startJobManager p d = .ok d') :
    Repeated d d' (startJobManager p d') := by
  obtain ⟨entry, hentry, ⟨happlication, args, hargs, rfl⟩ | ⟨happlication, rfl⟩⟩ :=
    startJobManager_ok h
  · exact .of_ok (by rw [startJobManager, hentry, happlication, hargs]; rfl) rfl
  · exact .of_ok (by rw [startJobManager, hentry, happlication]; rfl) rfl

theorem startTaskManager_again (h : startTaskManager p d = .ok d') :
    Repeated d d' (startTaskManager p d') := by
  obtain ⟨entry, hentry, h⟩ := Outcome.bind_ok h
  obtain rfl := Outcome.pure_ok h
  exact .of_ok (by rw [startTaskManager, hentry]; rfl) rfl

/-- The first of secrets is in the way if its volume is there. -/
theorem firstSecretTaken?_of_mem {taken secrets : List String} {s : String}
    (h : secretVolumeName s ∈ taken) : firstSecretTaken? taken (s :: secrets) = some s := by
  rw [firstSecretTaken?, if_pos (by simp [h])]

/-- Secrets cannot be mounted if the volume of the first of them is there already. -/
theorem mountSecrets_of_taken {secrets : Table String} {e : String × String}
    {rest : List (String × String)} {names : List String} (hsecrets : p.secrets = .ok secrets)
    (hsorted : secrets.sorted = e :: rest) (hnames : d.volumeNames = .ok names)
    (htaken : secretVolumeName e.1 ∈ names) :
    mountSecrets p d =
      p.refuse (.secretVolumeTaken (secretVolumeName e.1) e.1) Options.secrets.key := by
  have hfirst : firstSecretTaken? names ((e :: rest).map Prod.fst) = some e.1 :=
    firstSecretTaken?_of_mem htaken
  rw [mountSecrets, hsecrets]
  simp only [bind, Except.bind, hsorted, hnames, hfirst]
  rfl

theorem mountSecrets_again (h : mountSecrets p d = .ok d') : Repeated d d' (mountSecrets p d') := by
  obtain ⟨secrets, hsecrets, hmount⟩ := Outcome.bind_ok h
  cases hsorted : secrets.sorted with
  | nil =>
    rw [hsorted] at hmount
    obtain rfl := Outcome.pure_ok hmount
    exact .of_ok h rfl
  | cons e rest =>
    rw [hsorted] at hmount
    obtain ⟨names, hnames, hmount⟩ := Outcome.bind_ok hmount
    split at hmount
    · exact absurd hmount Outcome.misconfigured_ne_ok
    obtain ⟨d₁, hvolumes, hmount⟩ := Outcome.bind_ok hmount
    obtain rfl := Outcome.pure_ok hmount
    have hadds := (adds_of_addVolumes hvolumes).trans
      (adds_withMounts d₁ ((e :: rest).map fun e => secretMount e.1 e.2))
    refine .of_error (mountSecrets_of_taken hsecrets hsorted (hadds.volumeNames_eq hnames) ?_)
      .secret ?_ ((hadds.hasVolume_iff _).2 (.inr List.mem_cons_self))
    · exact List.mem_append_right names List.mem_cons_self
    · exact (PodDraft.eq_of_addVolumes hvolumes).1.new _ List.mem_cons_self

/-! ### Mounts -/

theorem mountHadoop_again (h : mountHadoop p host d = .ok d') :
    Repeated d d' (mountHadoop p host d') := by
  obtain ⟨name?, hname, hmount⟩ := Outcome.bind_ok h
  cases name? with
  | none =>
    obtain rfl := Outcome.pure_ok hmount
    exact .of_ok h rfl
  | some name =>
    obtain ⟨d₁, hvolumes, hmount⟩ := Outcome.bind_ok hmount
    obtain ⟨old, -, rfl⟩ := PodDraft.eq_of_addEnv hmount
    rw [mountHadoop, hname]
    exact .of_addVolumes hvolumes ((adds_withMounts d₁ _).trans (adds_overlaid ..))

theorem mountKerberosFile_again (h : mountKerberosFile p d = .ok d') :
    Repeated d d' (mountKerberosFile p d') := by
  obtain ⟨path?, hpath, hmount⟩ := Outcome.bind_ok h
  cases path? with
  | none =>
    obtain rfl := Outcome.pure_ok hmount
    exact .of_ok h rfl
  | some path =>
    obtain ⟨d₁, hvolumes, hmount⟩ := Outcome.bind_ok hmount
    obtain rfl := Outcome.pure_ok hmount
    rw [mountKerberosFile, hpath]
    exact .of_addVolumes hvolumes (adds_withMounts d₁ _)

theorem exists_adds_of_mountKerberosFile (h : mountKerberosFile p d = .ok d') :
    ∃ volumes mounts, d.Adds d' volumes mounts := by
  obtain ⟨-, hadds⟩ | ⟨_, -, hadds⟩ := mountKerberosFile_ok h
  · exact ⟨_, _, hadds⟩
  · exact ⟨_, _, hadds⟩

/-- The keytab is mounted first: where there is none, the file alone is mounted again. -/
theorem mountKerberos_again (h : mountKerberos p d = .ok d') :
    Repeated d d' (mountKerberos p d') := by
  obtain ⟨d₁, hkeytab, hfile⟩ := Outcome.bind_ok h
  obtain ⟨path?, hpath, hmount⟩ := Outcome.bind_ok hkeytab
  cases path? with
  | none =>
    obtain rfl := Outcome.pure_ok hmount
    have hnothing : mountKeytab p d' = .ok d' := by
      rw [mountKeytab, hpath]
      rfl
    rw [mountKerberos, hnothing]
    exact mountKerberosFile_again hfile
  | some path =>
    obtain ⟨d₂, hvolumes, hmount⟩ := Outcome.bind_ok hmount
    obtain rfl := Outcome.pure_ok hmount
    -- Whatever the file adds, the keytab's volume is there already when it is added again.
    obtain ⟨volumes, mounts, hadds⟩ := exists_adds_of_mountKerberosFile hfile
    rw [mountKerberos, mountKeytab, hpath]
    change Repeated d d' ((PodDraft.addVolumes _ _ _ _ >>= _) >>= _)
    rw [bind_assoc]
    exact .of_addVolumes hvolumes ((adds_withMounts d₂ _).trans hadds)

theorem mountFlinkConf_again (h : mountFlinkConf p host d = .ok d') :
    Repeated d d' (mountFlinkConf p host d') := by
  obtain ⟨files, hfiles, hmount⟩ := Outcome.bind_ok h
  obtain ⟨d₁, hvolumes, hmount⟩ := Outcome.bind_ok hmount
  obtain ⟨dir, hdir, hmount⟩ := Outcome.bind_ok hmount
  obtain rfl := Outcome.pure_ok hmount
  rw [mountFlinkConf, hfiles]
  exact .of_addVolumes hvolumes (adds_withMounts d₁ _)

/-- An application with something at the directory of its libraries is left as it is. -/
theorem mountUserLib_of_mounted {mounts : List VolumeMount}
    (happlication : p.isApplication = .ok true)
    (hmounts : d.main.volumeMounts.getD [] = mounts.map some)
    (hmounted : mounts.any (·.mountPath == userLibDir) = true) : mountUserLib p d = .ok d := by
  rw [mountUserLib, happlication]
  simp only [bind, Except.bind, demandAll_eq_ok_iff.2 hmounts, hmounted]
  rfl

/-- The libraries have a mount at their directory after the first time, if not before. -/
theorem mountUserLib_again (h : mountUserLib p d = .ok d') : mountUserLib p d' = .ok d' := by
  obtain ⟨application, happlication, hmount⟩ := Outcome.bind_ok h
  cases application with
  | false =>
    obtain rfl := Outcome.pure_ok hmount
    exact h
  | true =>
    obtain ⟨mounts, hmounts, hmount⟩ := Outcome.bind_ok hmount
    split at hmount
    · obtain rfl := Outcome.pure_ok hmount
      exact h
    · obtain ⟨d₁, hvolumes, hmount⟩ := Outcome.bind_ok hmount
      obtain rfl := Outcome.pure_ok hmount
      have hadds := (adds_of_addVolumes hvolumes).trans
        (adds_withMounts d₁ [{ name := userLibVolume, mountPath := userLibDir }])
      have hall := hadds.mounts
      rw [demandAll_eq_ok_iff.1 hmounts, ← List.map_append] at hall
      exact mountUserLib_of_mounted happlication hall (by simp)

/-! ### All steps -/

/-- What a step has done to a pod leaves the pod alone when it is done again, or it is refused for
a volume that the step has added itself. -/
theorem decorate_again (hstep : step ≠ .userLib) (h : step.decorate p host d = .ok d') :
    Repeated d d' (step.decorate p host d') := by
  cases step with
  | identity | internalService | externalService =>
    obtain rfl := Except.ok.inj h
    exact .kept rfl
  | initialJobManager | initialTaskManager => exact decorateInitially_again h
  | environmentSecrets => exact addSecretVariables_again h
  | mountedSecrets => exact mountSecrets_again h
  | jobManagerCommand => exact startJobManager_again h
  | taskManagerCommand => exact startTaskManager_again h
  | hadoop => exact mountHadoop_again h
  | kerberos => exact mountKerberos_again h
  | flinkConf => exact mountFlinkConf_again h
  | userLib => exact absurd rfl hstep

/-- The resources of a step do not depend on the pod. -/
theorem apply_eq (hresources : step.resources p host = .ok rs) :
    step.apply p host d = (step.decorate p host d).map (·, rs) := by
  rw [apply, hresources]
  cases step.decorate p host d <;> rfl

/-- **No step decorates twice.** A step that is applied to the pod that it has made returns this pod
and its resources again, or it is refused for a conflict of volumes. It returns them exactly if it
had added no volume, or if it is the step of the libraries, which finds its mount; and the volume in
the way is one that the step had added itself. -/
theorem apply_again (h : step.apply p host d = .ok (d', rs)) :
    (step.apply p host d' = .ok (d', rs) ∧
        (step = .userLib ∨ d'.spec.volumes = d.spec.volumes)) ∨
      step ≠ .userLib ∧ ∃ e name, step.apply p host d' = .error e ∧ e.VolumeTaken name ∧
        ¬ d.HasVolume name ∧ d'.HasVolume name := by
  obtain ⟨made, hdecorate, h⟩ := Outcome.bind_ok h
  obtain ⟨built, hresources, h⟩ := Outcome.bind_ok h
  obtain ⟨rfl, rfl⟩ := Prod.mk.inj (Outcome.pure_ok h)
  rw [apply_eq hresources]
  by_cases hstep : step = .userLib
  · subst hstep
    have hagain : Step.userLib.decorate p host made = .ok made := mountUserLib_again hdecorate
    rw [hagain]
    exact .inl ⟨rfl, .inl rfl⟩
  · have hagain := decorate_again hstep hdecorate
    generalize step.decorate p host made = outcome at hagain ⊢
    cases hagain with
    | kept hvolumes => exact .inl ⟨rfl, .inr hvolumes⟩
    | refused htaken hnew hadded => exact .inr ⟨hstep, _, _, rfl, htaken, hnew, hadded⟩

/-- A pod with a port and variables of the names that the initial step gives. -/
def reusedTemplate : PodDraft where
  main := {
    name := "worker"
    ports := some [some { name := some restPortName, containerPort := .integer 80 }]
    env := some [some { name := podAddress.name, value := some "localhost" },
      some { name := "ZONE", value := some "a" }, some { name := "ZONE", value := some "b" }] }

/-- The initial step and that of the libraries keep what they have made. The configuration of the
cluster is in its own way. -/
theorem apply_again_application :
    (∃ d rs, initialJobManager.apply libraryParameters .bare reusedTemplate = .ok (d, rs) ∧
      initialJobManager.apply libraryParameters .bare d = .ok (d, rs)) ∧
    (∃ d rs, userLib.apply libraryParameters .bare reusedTemplate = .ok (d, rs) ∧
      d.HasVolume userLibVolume ∧ userLib.apply libraryParameters .bare d = .ok (d, rs)) ∧
    ∃ d rs, flinkConf.apply libraryParameters .bare reusedTemplate = .ok (d, rs) ∧
      ∃ e, flinkConf.apply libraryParameters .bare d = .error e ∧ e.VolumeTaken flinkVolume := by
  refine ⟨?initial, ?libraries, ?configuration⟩
  case initial =>
    obtain ⟨⟨d, rs⟩, h, hnames⟩ := Outcome.bind_ok
      (by decide +kernel : (initialJobManager.apply libraryParameters .bare reusedTemplate >>=
        fun made => made.1.volumeNames) = .ok [])
    obtain ⟨hagain, -⟩ | ⟨-, _, name, -, -, -, hadded⟩ := apply_again h
    · exact ⟨d, rs, h, hagain⟩
    · cases (PodDraft.mem_volumeNames hnames name).2 hadded
  case libraries =>
    obtain ⟨⟨d, rs⟩, h, hnames⟩ := Outcome.bind_ok
      (by decide +kernel : (userLib.apply libraryParameters .bare reusedTemplate >>=
        fun made => made.1.volumeNames) = .ok [userLibVolume])
    obtain ⟨hagain, -⟩ | ⟨hother, -⟩ := apply_again h
    · exact ⟨d, rs, h, (PodDraft.mem_volumeNames hnames _).1 List.mem_cons_self, hagain⟩
    · exact absurd rfl hother
  case configuration =>
    obtain ⟨⟨d, rs⟩, h, hnames⟩ := Outcome.bind_ok
      (by decide +kernel : (flinkConf.apply libraryParameters .bare reusedTemplate >>=
        fun made => made.1.volumeNames) = .ok [flinkVolume])
    obtain ⟨-, hlibraries | hsame⟩ | ⟨-, e, name, he, htaken, -, hadded⟩ := apply_again h
    · cases hlibraries
    · have hnone : d.volumeNames = .ok [] := by
        rw [PodDraft.volumeNames, hsame]
        rfl
      cases hnone.symm.trans hnames
    · obtain rfl := List.mem_singleton.1 ((PodDraft.mem_volumeNames hnames name).2 hadded)
      exact ⟨d, rs, h, e, he, htaken⟩

/-! ### Compositions -/

/-- **A composed pod cannot be composed again**, because it has the volume with the configuration of
its cluster. -/
theorem not_compose_again (h : compose p host (chain p.role) d = .ok (last, rs))
    (result : PodDraft × List Resource) : compose p host (chain p.role) last ≠ .ok result := by
  obtain ⟨d₁, d₂, volumes, mounts, hdecorate, hadds, -, hlast, -⟩ :=
    mounts_of_compose (nodup_chain p.role) (by cases p.role <;> decide : .flinkConf ∈ _) h
  obtain ⟨files, dir, -, -, hconf⟩ := mountFlinkConf_ok hdecorate
  obtain ⟨rfl, -⟩ := hconf.unique hadds.adds
  have hvolume : last.HasVolume flinkVolume := ⟨_, hlast List.mem_cons_self, rfl⟩
  intro hagain
  exact not_clash_of_compose hagain (.flinkConf hvolume)

end Step

end FlinkCluster
