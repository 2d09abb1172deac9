import FlinkCluster.Proofs.Composition
import FlinkCluster.Proofs.EffectiveLayers
import FlinkCluster.Proofs.Pieces

/-!
# The arguments of an application

How the arguments of a job get from the deployment into the main container of the job manager: they
are stored in the effective configuration as one text and read back from it when the pod is
composed. `Specification.jobManager_args` says which arguments the container has, and that the
program's own are among them unchanged exactly when each of them is a piece of the stored list.
-/

set_option autoImplicit false

namespace FlinkCluster

open Kubernetes

/-- The containers of the pods of a stateful set. -/
def Kubernetes.StatefulSet.containers (s : StatefulSet) : List (Option Container) :=
  ((s.spec.bind (·.template.spec)).map (·.containers)).getD []

/-! ## What the job manager reads -/

/-- The flags for the class of a job. -/
def JobSpec.classFlags (job : JobSpec) : List String :=
  match DeploymentSpec.nonEmpty job.entryClass with
  | some c => ["--job-classname", c]
  | none => []

/-- The flags for the savepoint that a configuration names. -/
def Configuration.savepointFlags (conf : Configuration) : Outcome (List String) := do
  match (← conf.find? Options.savepointPath).filter (· ≠ "") with
  | some path =>
    let allow ← conf.get Options.ignoreUnclaimedState
    return ["--fromSavepoint", path] ++ if allow then ["--allowNonRestoredState"] else []
  | none => return []

section Application

variable {ns id : String} {base : Configuration} {spec : DeploymentSpec} {job : JobSpec}
  {p : Parameters}

theorem isApplication_of_job (hjob : spec.job = some job)
    (hp : Parameters.of .jobManager (spec.effective ns id base) = .ok p) :
    p.isApplication = .ok true := by
  have hmode : p.conf.get Options.clusterMode = .ok (Choice.word ClusterMode.application) := by
    rw [(Parameters.of_ok hp).1, Configuration.get,
      Configuration.find?_of_text (DeploymentSpec.text?_clusterMode hjob)]
    rfl
  have hword : Choice.ofWord? (Text.upper (Choice.word ClusterMode.application)) =
      some ClusterMode.application := by decide +kernel
  simp only [Parameters.isApplication, Parameters.clusterMode, hmode, bind, Except.bind, hword]
  rfl

theorem mainClass_of_job (hjob : spec.job = some job)
    (hp : Parameters.of .jobManager (spec.effective ns id base) = .ok p) :
    p.mainClass = .ok (DeploymentSpec.nonEmpty job.entryClass) := by
  have htext : (spec.effective ns id base).text? Options.mainClass.key =
      DeploymentSpec.nonEmpty job.entryClass := DeploymentSpec.text?_mainClass hjob
  rw [(Parameters.of_ok hp).1, Parameters.mainClass, Parameters.only, if_pos rfl]
  cases hclass : DeploymentSpec.nonEmpty job.entryClass with
  | some c =>
    rw [hclass] at htext
    exact Configuration.find?_of_text htext
  | none =>
    rw [hclass] at htext
    exact Configuration.find?_of_absent rfl htext

/-- The arguments are read piece by piece. -/
theorem programArgs_of_job (hjob : spec.job = some job)
    (hp : Parameters.of .jobManager (spec.effective ns id base) = .ok p) :
    p.programArgs = .ok (job.args.flatMap (trimmedPieces itemSeparator)) := by
  rw [(Parameters.of_ok hp).1, Parameters.programArgs, Parameters.only, if_pos rfl,
    Configuration.get, Configuration.find?_of_text (DeploymentSpec.text?_programArgs hjob),
    stored_ofTexts, Kind.read, trimmedPieces_join]
  rfl

/-- The flags of the job, then its arguments piece by piece. -/
theorem applicationArgs_of_job (hjob : spec.job = some job)
    (hp : Parameters.of .jobManager (spec.effective ns id base) = .ok p) :
    Step.applicationArgs p = (spec.effective ns id base).savepointFlags.map fun saved =>
      job.classFlags ++ saved ++ job.args.flatMap (trimmedPieces itemSeparator) := by
  have hpath : p.savepointPath = (spec.effective ns id base).find? Options.savepointPath := by
    rw [(Parameters.of_ok hp).1, Parameters.savepointPath, Parameters.only, if_pos rfl]
  have hallow : p.allowsUnclaimedState =
      (spec.effective ns id base).get Options.ignoreUnclaimedState := by
    rw [(Parameters.of_ok hp).1, Parameters.allowsUnclaimedState, Parameters.only, if_pos rfl]
  have hclass : (DeploymentSpec.nonEmpty job.entryClass).filter (· ≠ "") =
      DeploymentSpec.nonEmpty job.entryClass := by
    simp only [DeploymentSpec.nonEmpty, Option.filter_filter, Bool.and_self]
  simp only [Step.applicationArgs, Configuration.savepointFlags, mainClass_of_job hjob hp, hpath,
    hallow, programArgs_of_job hjob hp, hclass, JobSpec.classFlags, bind, Except.bind]
  cases (spec.effective ns id base).find? Options.savepointPath with
  | error e => rfl
  | ok path? =>
    dsimp only
    cases Option.filter (fun path => decide (path ≠ "")) path? with
    | none => rfl
    | some path => cases (spec.effective ns id base).get Options.ignoreUnclaimedState <;> rfl

end Application

/-! ## The arguments of the main container -/

namespace Specification

variable {host : Host} {template : PodDraft} {claims : List (Option VolumeClaim)}
  {ns id : String} {base : Configuration} {spec : DeploymentSpec} {job : JobSpec}
  {p : Parameters} {s : Specification}

/-- The main container of the job manager of an application starts with the flags of its job and
then the pieces of the job's arguments, which are the arguments exactly if each is a piece. -/
theorem jobManager_args (hjob : spec.job = some job)
    (hp : Parameters.of .jobManager (spec.effective ns id base) = .ok p)
    (hs : jobManager host template claims p = .ok s) :
    ∃ (main : Container) (others : List Container) (saved : List String),
      s.statefulSet.containers = some main :: others.map some ∧
      main.name = mainContainerName ∧ (∀ c ∈ others, c.name ≠ mainContainerName) ∧
      (spec.effective ns id base).savepointFlags = .ok saved ∧
      main.args = some (("standalone-job" :: (job.classFlags ++ saved ++
        job.args.flatMap (trimmedPieces itemSeparator))).map some) ∧
      (main.args = some (("standalone-job" :: (job.classFlags ++ saved ++ job.args)).map some) ↔
        ∀ arg ∈ job.args, IsPiece itemSeparator arg) := by
  obtain ⟨draft, owners, hcompose, hset⟩ := jobManager_ok hs
  obtain ⟨hname, args, hargs, hmain⟩ :=
    Step.compose_jobManager_main (isApplication_of_job hjob hp) hcompose
  rw [applicationArgs_of_job hjob hp] at hargs
  obtain ⟨saved, hsaved, rfl⟩ := Outcome.map_ok hargs
  obtain ⟨cs, _, _, _, _, hcs, -, -, -, -, hs⟩ := createStatefulSet_ok hset
  obtain ⟨others, rfl, hothers⟩ := PodDraft.containers_ok hcs
  rw [hs]
  refine ⟨draft.main, others, saved, rfl, hname, hname ▸ hothers, hsaved, hmain, ?_⟩
  rw [hmain, ← flatMap_trimmedPieces_eq_self_iff]
  have hinj : Function.Injective (List.map (some : String → Option String)) :=
    List.map_injective_iff.2 fun _ _ => Option.some.inj
  rw [Option.some_inj, hinj.eq_iff, List.cons_inj_right, List.append_cancel_left_eq]

/-- The parameters of the job manager of an application with the given arguments. -/
def applicationWith (args : List String) : Parameters where
  role := .jobManager
  conf := DeploymentSpec.effective "apps" "demo" .empty { job := some { args } }
  clusterId := "demo"

theorem jobManager_args_plain :
    ∃ (s : Specification) (main : Container) (others : List Container) (saved : List String),
      jobManager .bare {} [] (applicationWith ["--input", "a file"]) = .ok s ∧
      s.statefulSet.containers = some main :: others.map some ∧
      main.args = some (("standalone-job" :: (saved ++ ["--input", "a file"])).map some) := by
  obtain ⟨s, hs⟩ : ∃ s, jobManager .bare {} [] (applicationWith ["--input", "a file"]) = .ok s :=
    Outcome.exists_of_isOk (by decide +kernel)
  have hof : Parameters.of .jobManager (DeploymentSpec.effective "apps" "demo" .empty
      { job := some { args := ["--input", "a file"] } }) =
      .ok (applicationWith ["--input", "a file"]) := by decide +kernel
  obtain ⟨main, others, saved, hcs, -, -, -, -, hargs⟩ := jobManager_args rfl hof hs
  exact ⟨s, main, others, saved, hs, hcs, hargs.2 (by decide +kernel)⟩

/-- A separator in an argument makes two of it, so that no flags are followed by the argument. -/
theorem jobManager_args_cut :
    ((jobManager .bare {} [] (applicationWith ["a;b"])).map fun s =>
        s.statefulSet.containers.map fun c : Option Container => c.bind (·.args)) =
      .ok [some (["standalone-job", "a", "b"].map some)] ∧
      ∀ flags, "standalone-job" :: (flags ++ ["a;b"]) ≠ ["standalone-job", "a", "b"] := by
  refine ⟨by decide +kernel, fun flags h => ?_⟩
  have hlast := congrArg List.getLast? h
  rw [← List.cons_append, List.getLast?_concat] at hlast
  exact absurd (Option.some.inj hlast) (by decide)

end Specification

end FlinkCluster
