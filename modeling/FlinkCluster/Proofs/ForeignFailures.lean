import FlinkCluster.Proofs.EnvironmentNames
import FlinkCluster.Proofs.Templates
import FlinkCluster.Proofs.VolumeConflicts

/-!
# Failures of a build

Building the specification of a role succeeds, fails with a configuration error, or fails for one of
the causes that are listed in `Step.ForeignCause`.

* `Step.hasNull_of_compose`: steps bring no nulls into a pod, so that those that a step meets are
  the template's.
* `Specification.build_outcome`: the three outcomes of a build.
* `Specification.build_undecodable`: a file that is not UTF-8 is no configuration error.
-/

set_option autoImplicit false

namespace FlinkCluster

open Kubernetes Outcome

/-! ## Nulls -/

theorem Kubernetes.exists_map_some_or_none_mem {α : Type} (items : List (Option α)) :
    (∃ xs : List α, items = xs.map some) ∨ none ∈ items := by
  cases h : demandAll "" items with
  | ok xs => exact .inl ⟨xs, demandAll_eq_ok_iff.1 h⟩
  | error e => exact .inr (error_of_demandAll h).2

namespace Step

variable {p : Parameters} {host : Host} {d d' last template : PodDraft} {step : Step}
  {steps : List Step} {rs : List Resource} {e : Failure}

theorem null_environment_of_decorate (h : step.decorate p host d = .ok d')
    (hnull : none ∈ d'.main.env.getD []) : none ∈ d.main.env.getD [] := by
  rcases exists_map_some_or_none_mem (d.main.env.getD []) with ⟨old, hold⟩ | hnone
  · obtain ⟨vars, -, hnew⟩ := hasEnv_of_decorate h hold
    rw [hnew] at hnull
    simp at hnull
  · exact hnone

theorem null_ports_of_decorateInitially {ports : Outcome (List ContainerPort)}
    (h : decorateInitially p ports d = .ok d') (hnull : none ∈ d'.main.ports.getD []) :
    none ∈ d.main.ports.getD [] := by
  obtain ⟨_, _, _, _, _, _, -, -, -, hmain, rfl⟩ := eq_of_decorateInitially h
  obtain ⟨_, _, _, _, added, -, rfl⟩ := eq_of_initialContainer hmain
  simpa using hnull

theorem null_ports_of_decorate (h : step.decorate p host d = .ok d')
    (hnull : none ∈ d'.main.ports.getD []) : none ∈ d.main.ports.getD [] := by
  by_cases hstep : step ∈ initialSteps
  · obtain ⟨ports, h⟩ := exists_decorateInitially hstep h
    exact null_ports_of_decorateInitially h hnull
  · have hports : d'.main.ports = d.main.ports :=
      congrArg (·.main.ports) (settled_of_decorate hstep h)
    rwa [hports] at hnull

/-- A step brings no null into a pod. -/
theorem hasNull_of_decorate (h : step.decorate p host d = .ok d') (hnull : d'.HasNull) :
    d.HasNull := by
  obtain ⟨volumes, mounts, hadds⟩ := addsOwn_of_decorate h
  cases hnull with
  | containers hnone =>
    have hcontainers : d'.spec.containers = d.spec.containers :=
      congrArg (·.spec.containers) (untouched_of_decorate h)
    exact .containers (hcontainers ▸ hnone)
  | volumes hnone =>
    rw [hadds.adds.volumes] at hnone
    exact .volumes (by simpa using hnone)
  | mounts hnone =>
    rw [hadds.adds.mounts] at hnone
    exact .mounts (by simpa using hnone)
  | environment hnone => exact .environment (null_environment_of_decorate h hnone)
  | ports hnone => exact .ports (null_ports_of_decorate h hnone)

theorem hasNull_of_compose (h : compose p host steps d = .ok (last, rs)) (hnull : last.HasNull) :
    d.HasNull := by
  have hkeeps (step : Step) (_ : step ∈ steps) (d₁ d₂ : PodDraft)
      (hd : step.decorate p host d₁ = .ok d₂) (h₁ : d₁.HasNull → d.HasNull) (h₂ : d₂.HasNull) :
      d.HasNull := h₁ (hasNull_of_decorate hd h₂)
  exact compose_keeps (P := fun x => x.HasNull → d.HasNull) h hkeeps id hnull

/-- Of a pod, a foreign cause needs its nulls only. -/
theorem ForeignCause.of_hasNull (h : ForeignCause p host d e)
    (hnull : d.HasNull → template.HasNull) : ForeignCause p host template e := by
  cases h with
  | null h => exact .null (hnull h)
  | undecodable hpath hfile => exact .undecodable hpath hfile
  | nulInPath hpath hnul => exact .nulInPath hpath hnul
  | memory hmemory hlarge => exact .memory hmemory hlarge
  | quotient hrole hparallelism hslots hpositive hlarge =>
    exact .quotient hrole hparallelism hslots hpositive hlarge

/-- A composition fails with a configuration error or for a foreign cause. -/
theorem compose_fails :
    Fails (fun e => (∃ c, e = .configuration c) ∨ ForeignCause p host template e)
      (compose p host (chain p.role) template) := by
  intro e he
  obtain ⟨c, _, rfl, -⟩ | ⟨early, d, rs, hearly, ⟨c, rfl, -⟩ | hforeign⟩ := clash_of_compose he
  · exact .inl ⟨c, rfl⟩
  · exact .inl ⟨c, rfl⟩
  · exact .inr (hforeign.of_hasNull (hasNull_of_compose hearly))

end Step

/-! ## Specifications -/

namespace Specification

open Step (ForeignCause)

variable {host : Host} {template last : PodDraft} {p : Parameters}

/-- What a build fails with: a configuration error, or a failure with a foreign cause. -/
def Rejected (p : Parameters) (host : Host) (template : PodDraft) (e : Failure) : Prop :=
  (∃ c, e = .configuration c) ∨ ForeignCause p host template e

theorem rejected_of_refuses {α : Type} {x : Outcome α} (h : Refuses x) :
    Fails (Rejected p host template) x :=
  h.mono fun _ ⟨c, hc, _⟩ => .inl ⟨c, hc⟩

theorem refuses_ownerReferences (hrole : p.role = .jobManager) : Refuses (ownerReferences p) := by
  refine (p.refuses_only hrole (p.conf.refuses_get _)).bind fun refs _ => ?_
  refine Fails.bind (fails_forM fun ref _ => ?_) fun _ _ => fails_ok _
  dsimp only
  split
  · exact fails_ok _
  · exact refuses_misconfigured rfl

/-- An integer that a configuration holds has no more digits than are written. -/
theorem isWritable_of_get {conf : Configuration} {s : Preset .integer} {n : Int}
    (hdefault : Number.isWritable s.default = true) (h : conf.get s = .ok n) :
    Number.isWritable n = true := by
  obtain ⟨n?, hfound, rfl⟩ := map_ok h
  cases n? with
  | none => exact hdefault
  | some n =>
    obtain ⟨raw, hread⟩ : ∃ raw, Kind.integer.read s.key raw = .ok n := by
      unfold Configuration.find? at hfound
      split at hfound
      · obtain ⟨m, hm, hn⟩ := map_ok hfound
        exact ⟨_, hm.trans (congrArg Except.ok (Option.some.inj hn))⟩
      · cases hfound
    rw [Kind.read] at hread
    cases hinteger : Number.readInteger (Text.strip raw) with
    | error fault =>
      rw [hinteger] at hread
      exact absurd hread misconfigured_ne_ok
    | ok m =>
      rw [hinteger] at hread
      rw [← Except.ok.inj hread]
      exact Number.isWritable_of_readInteger hinteger

theorem isWritable_defaultParallelism :
    Number.isWritable Options.defaultParallelism.default = true :=
  Number.isWritable_iff.2 (by decide)

theorem isWritable_taskSlots : Number.isWritable Options.taskSlots.default = true :=
  Number.isWritable_iff.2 (by decide)

/-- Counting the task managers fails for the quotient of parallelism and slots. -/
theorem taskManagerReplicas_fails (hrole : p.role = .taskManager) :
    Fails (Rejected p host template) p.taskManagerReplicas := by
  refine (rejected_of_refuses (p.conf.refuses_find? _)).bind fun fixed _ => ?_
  split
  · exact fails_ok _
  · refine (rejected_of_refuses (p.conf.refuses_get _)).bind fun parallelism hparallelism => ?_
    refine (rejected_of_refuses (p.conf.refuses_get _)).bind fun slots hslots => ?_
    refine (taskManagerCount_fails
      (isWritable_of_get isWritable_defaultParallelism hparallelism)
      (isWritable_of_get isWritable_taskSlots hslots)).mono fun e he => ?_
    obtain ⟨c, hc, -⟩ | ⟨rfl, hpositive, hlarge⟩ := he
    · exact .inl ⟨c, hc⟩
    · exact .inr (.quotient hrole hparallelism hslots hpositive hlarge)

theorem replicas_fails : Fails (Rejected p host template) p.replicas := by
  cases hrole : p.role with
  | jobManager =>
    rw [Parameters.replicas, Parameters.select, hrole]
    exact rejected_of_refuses p.refuses_jobManagerReplicas
  | taskManager =>
    rw [Parameters.replicas, Parameters.select, hrole]
    exact taskManagerReplicas_fails hrole

/-- The stateful set of a composed pod fails for its replicas, or for a null among the template's
containers. -/
theorem createStatefulSet_fails {claims : List (Option VolumeClaim)} {name : String}
    {owners : List (Option OwnerReference)} (hnull : last.HasNull → template.HasNull) :
    Fails (Rejected p host template) (createStatefulSet last claims p name owners) := by
  have hpod : Fails (Rejected p host template) last.toPod := by
    refine Fails.bind (Fails.bind (fun e he => ?_) fun _ _ => fails_ok _) fun _ _ => fails_ok _
    obtain ⟨rfl, hnone⟩ := error_of_demandAll he
    exact .inr (.null (hnull (.containers hnone)))
  refine hpod.bind fun pod _ => replicas_fails.bind fun replicas _ => ?_
  refine (rejected_of_refuses (p.conf.refuses_get _)).bind fun ns _ => ?_
  refine (rejected_of_refuses p.refuses_labels).bind fun labels _ => ?_
  exact (rejected_of_refuses (p.conf.refuses_get _)).bind fun annotations _ => fails_ok _

theorem build_fails {claims : List (Option VolumeClaim)} :
    Fails (Rejected p host template) (build host template claims p) := by
  have hcompose : Fails (Rejected p host template)
      (Step.compose p host (Step.chain p.role) template) := Step.compose_fails
  unfold build
  split
  · rename_i hrole
    rw [hrole] at hcompose
    refine hcompose.bind fun result hresult => ?_
    refine (rejected_of_refuses (refuses_ownerReferences hrole)).bind fun owners _ => ?_
    exact (createStatefulSet_fails (Step.hasNull_of_compose hresult)).bind fun _ _ => fails_ok _
  · rename_i hrole
    rw [hrole] at hcompose
    refine hcompose.bind fun result hresult => ?_
    exact (createStatefulSet_fails (Step.hasNull_of_compose hresult)).bind fun _ _ => fails_ok _

/-- **What comes of a build.** For every configuration, host and template there is a specification,
a configuration error, or a failure with one of the foreign causes: a null in a list of the
template, a text file that is not UTF-8, a NUL in the path of a Kerberos file, or a memory size or
a parallelism beyond the numbers of double precision. -/
theorem build_outcome (host : Host) (template : PodDraft) (claims : List (Option VolumeClaim))
    (p : Parameters) :
    (∃ s, build host template claims p = .ok s) ∨
      (∃ c, build host template claims p = .error (.configuration c)) ∨
      ∃ e, build host template claims p = .error e ∧ ForeignCause p host template e := by
  cases h : build host template claims p with
  | ok s => exact .inl ⟨s, rfl⟩
  | error e =>
    obtain ⟨c, rfl⟩ | hforeign := build_fails e h
    · exact .inr (.inl ⟨c, rfl⟩)
    · exact .inr (.inr ⟨e, rfl, hforeign⟩)

/-- The parameters of a job manager with a Kerberos configuration. -/
def kerberosParameters : Parameters where
  role := .jobManager
  conf := ⟨.ofEntries
    [(Options.clusterId.key, "c1"), (Options.kerberosConfigFile.key, "krb5.conf")]⟩
  clusterId := "c1"

/-- A Kerberos configuration that is not UTF-8 is no configuration error. -/
theorem build_undecodable :
    Parameters.of .jobManager kerberosParameters.conf = .ok kerberosParameters ∧
      build (Host.bare.make "krb5.conf" (.file [0xFF])) {} [] kerberosParameters =
        .error (.undecodable ⟨0, [0xFF], .invalidStart⟩) := by
  constructor <;> decide +kernel

end Specification

end FlinkCluster
