import FlinkCluster.EffectiveConfiguration
import FlinkCluster.Parameters
import FlinkCluster.Proofs.Outcome

/-!
# Layers of an effective configuration

Which layer a key of an effective configuration gets its text from. The structured fields of a
deployment determine each key at most once (`nodup_keys_determined`), so that

* `text?_effective_of_mem`: a determined key holds the text of its entry;
* `text?_effective_of_not_mem`: any other key holds what the layers below have at it, apart from
  the main class of an application that names none.
-/

set_option autoImplicit false

namespace FlinkCluster

/-! ## Storing entries in order -/

namespace Configuration

variable {conf : Configuration} {key : String} {v : Value} {entries : Entries}

theorem setAll_cons (conf : Configuration) (e : String × Value) (entries : Entries) :
    conf.setAll (e :: entries) = (conf.set e.1 e.2).setAll entries := rfl

theorem text?_setAll_of_not_mem (h : key ∉ entries.map Prod.fst) :
    (conf.setAll entries).text? key = conf.text? key := by
  induction entries generalizing conf with
  | nil => rfl
  | cons e entries ih =>
    rw [List.map_cons, List.mem_cons, not_or] at h
    rw [setAll_cons, ih h.2, text?_set, if_neg h.1]

theorem text?_setAll_of_mem (hnodup : (entries.map Prod.fst).Nodup) (h : (key, v) ∈ entries) :
    (conf.setAll entries).text? key = some v.stored := by
  induction entries generalizing conf with
  | nil => cases h
  | cons e entries ih =>
    rw [List.map_cons, List.nodup_cons] at hnodup
    rw [setAll_cons]
    rcases List.mem_cons.1 h with rfl | h
    · rw [text?_setAll_of_not_mem hnodup.1, text?_set, if_pos rfl]
    · exact ih hnodup.2 h

/-- The value of a setting whose own key is set. -/
theorem find?_of_text {k : Kind} {s : Setting k} {raw : String}
    (h : conf.text? s.key = some raw) : conf.find? s = (k.read s.key raw).map some := by
  simp only [find?, List.findSome?_cons, h]

theorem find?_of_absent {k : Kind} {s : Setting k} (hfallback : s.fallback = [])
    (h : conf.text? s.key = none) : conf.find? s = .ok none := by
  simp only [find?, hfallback, List.findSome?_cons, h, List.findSome?_nil]

end Configuration

namespace DeploymentSpec

variable {ns id key : String} {base : Configuration} {spec : DeploymentSpec} {job : JobSpec}

/-! ## Determined keys -/

/-- The keys that the structured fields of the job can determine. -/
def jobKeys : List String :=
  [Options.clusterMode.key, Options.defaultParallelism.key, Options.pipelineJars.key,
    Options.mainClass.key, Options.programArgs.key, Options.savepointPath.key,
    Options.ignoreUnclaimedState.key]

/-- The keys that the structured fields of a deployment can determine. -/
def determinedKeys : List String :=
  [Options.clusterId.key, Options.namespaceName.key, Options.image.key,
    Options.imagePullPolicy.key, Options.serviceAccount.key, Options.jobManagerCpu.key,
    Options.jobManagerMemory.key, Options.jobManagerReplicas.key, Options.taskManagerCpu.key,
    Options.taskManagerMemory.key, Options.taskManagerReplicas.key] ++ jobKeys

theorem nodup_determinedKeys : determinedKeys.Nodup := by decide

theorem keys_entry?_sublist {k : Kind} (s : Setting k) (v : Option k.Carrier) :
    (List.map Prod.fst <| entry? s v).Sublist [s.key] := by
  cases v with
  | none => exact List.nil_sublist _
  | some a => exact List.Sublist.refl _

theorem mem_keys_entry?_iff {k : Kind} {s : Setting k} {v : Option k.Carrier} :
    key ∈ (List.map Prod.fst <| entry? s v) ↔ v.isSome ∧ key = s.key := by
  cases v <;> simp [entry, entry?]

theorem keys_jobEntries_sublist (spec : DeploymentSpec) :
    (spec.jobEntries.map Prod.fst).Sublist jobKeys := by
  unfold jobEntries
  split
  · exact List.Sublist.cons_cons _ (List.nil_sublist _)
  · rename_i job _
    simp only [List.map_append]
    exact (List.Sublist.refl [Options.clusterMode.key, Options.defaultParallelism.key])
      |>.append (keys_entry?_sublist Options.pipelineJars.toSetting
        ((nonEmpty job.jarUri).map ([·])))
      |>.append (keys_entry?_sublist Options.mainClass (nonEmpty job.entryClass))
      |>.append (List.Sublist.refl [Options.programArgs.key])
      |>.append (keys_entry?_sublist Options.savepointPath (nonEmpty job.initialSavepointPath))
      |>.append (keys_entry?_sublist Options.ignoreUnclaimedState.toSetting
        job.allowNonRestoredState)

theorem keys_determined_sublist (ns id : String) (spec : DeploymentSpec) :
    ((spec.determined ns id).map Prod.fst).Sublist determinedKeys := by
  simp only [determined, List.map_append]
  exact (List.Sublist.refl [Options.clusterId.key, Options.namespaceName.key])
    |>.append (keys_entry?_sublist Options.image.toSetting (nonEmpty spec.image))
    |>.append (keys_entry?_sublist Options.imagePullPolicy.toSetting
      (nonEmpty spec.imagePullPolicy))
    |>.append (keys_entry?_sublist Options.serviceAccount.toSetting
      (nonEmpty spec.serviceAccount))
    |>.append (keys_entry?_sublist Options.jobManagerCpu.toSetting spec.jobManager.resource.cpu)
    |>.append (keys_entry?_sublist Options.jobManagerMemory.toSetting
      (nonEmpty spec.jobManager.resource.memory))
    |>.append (List.Sublist.refl [Options.jobManagerReplicas.key])
    |>.append (keys_entry?_sublist Options.taskManagerCpu.toSetting
      spec.taskManager.resource.cpu)
    |>.append (keys_entry?_sublist Options.taskManagerMemory.toSetting
      (nonEmpty spec.taskManager.resource.memory))
    |>.append (keys_entry?_sublist Options.taskManagerReplicas spec.taskManager.replicas)
    |>.append (keys_jobEntries_sublist spec)

/-- No key is determined twice. -/
theorem nodup_keys_determined (ns id : String) (spec : DeploymentSpec) :
    ((spec.determined ns id).map Prod.fst).Nodup :=
  (keys_determined_sublist ns id spec).nodup nodup_determinedKeys

/-! ## The text at a key -/

theorem text?_effective_of_mem {v : Value} (h : (key, v) ∈ spec.determined ns id) :
    (spec.effective ns id base).text? key = some v.stored :=
  Configuration.text?_setAll_of_mem (nodup_keys_determined ns id spec) h

theorem text?_effective_of_not_mem (h : key ∉ (spec.determined ns id).map Prod.fst) :
    (spec.effective ns id base).text? key =
      if spec.lacksMainClass ∧ key = Options.mainClass.key then none
      else (base.setAll spec.ownEntries).text? key := by
  rw [effective, Configuration.text?_setAll_of_not_mem h]
  split <;> simp_all

theorem text?_clusterId : (spec.effective ns id base).text? Options.clusterId.key = some id :=
  text?_effective_of_mem (v := .text id) (by simp [determined, entry, Kind.toValue])

theorem text?_namespaceName :
    (spec.effective ns id base).text? Options.namespaceName.key = some ns :=
  text?_effective_of_mem (v := .text ns) (by simp [determined, entry, Kind.toValue])

/-- An entry of a job is determined. -/
theorem mem_determined_of_mem_jobEntries {e : String × Value} (h : e ∈ spec.jobEntries) :
    e ∈ spec.determined ns id :=
  List.mem_append_right _ h

theorem text?_clusterMode (hjob : spec.job = some job) :
    (spec.effective ns id base).text? Options.clusterMode.key =
      some (Choice.word ClusterMode.application) :=
  text?_effective_of_mem (v := .text (Choice.word ClusterMode.application))
    (mem_determined_of_mem_jobEntries (by simp [jobEntries, hjob, entry, Kind.toValue]))

theorem text?_defaultParallelism (hjob : spec.job = some job) :
    (spec.effective ns id base).text? Options.defaultParallelism.key =
      some (Number.integerText job.parallelism) :=
  text?_effective_of_mem (v := .integer job.parallelism)
    (mem_determined_of_mem_jobEntries (by simp [jobEntries, hjob, entry, Kind.toValue]))

theorem text?_programArgs (hjob : spec.job = some job) :
    (spec.effective ns id base).text? Options.programArgs.key =
      some (Value.ofTexts job.args).stored :=
  text?_effective_of_mem (v := .ofTexts job.args)
    (mem_determined_of_mem_jobEntries (by simp [jobEntries, hjob, entry, Kind.toValue]))

/-- The main class of an application is that of its job, also where the layers below have one. -/
theorem text?_mainClass (hjob : spec.job = some job) :
    (spec.effective ns id base).text? Options.mainClass.key = nonEmpty job.entryClass := by
  cases hclass : nonEmpty job.entryClass with
  | some c =>
    exact text?_effective_of_mem (v := .text c) (mem_determined_of_mem_jobEntries
      (by simp [jobEntries, hjob, entry, entry?, hclass, Kind.toValue]))
  | none =>
    have hlacks : spec.lacksMainClass = true := by simp [lacksMainClass, hjob, hclass]
    have hkeys : Options.mainClass.key ∉ (spec.determined ns id).map Prod.fst := by
      simp +decide [determined, jobEntries, hjob, hclass, mem_keys_entry?_iff, entry]
    rw [text?_effective_of_not_mem hkeys, if_pos ⟨hlacks, rfl⟩]

end DeploymentSpec

/-- The configuration that a deployment is deployed with, over a base. -/
def Deployment.configuration (d : Deployment) (base : Configuration) : Configuration :=
  d.spec.effective d.metadata.namespaceName d.metadata.name base

end FlinkCluster
