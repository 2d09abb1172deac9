import FlinkCluster.Proofs.Labels
import FlinkCluster.Proofs.Outcome
import FlinkCluster.Proofs.Statuses
import Mathlib.Data.List.Induction
import Mathlib.Tactic.ByContra

/-!
# The error of a status

A status goes through calls that observe, deploy or delete its cluster, each in whatever state the
API then is in. `Service.history` keeps what the calls reported next to the status.

* `History.Explained`: the error is that of the last failure that was reported, unless the cluster
  has been deployed since; the state is that of an error as long as nothing was reported since.
* `Service.error_iff_of_history`: so the two go together unless a failure has gone stale: the job
  manager was observed without one, or the cluster deleted, and it was not deployed again.
* `Service.error_outlives_failure`: a job manager that is ready with the error of its past.
-/

set_option autoImplicit false

namespace FlinkCluster

/-! ## Calls -/

/-- A call that updates a status. -/
inductive StatusCall where
  | observe (metadata : DeploymentMetadata)
  | deploy (host : Host) (spec : DeploymentSpec) (conf : Configuration)
  | delete (looks : Nat) (metadata : DeploymentMetadata) (withMetadata : Bool)

/-- What a call reports. One that comes to no end, as when the API refuses a request, reports
nothing. -/
inductive Report where
  | nothing
  | observed (state : JobManagerState)
  | failure (f : DeploymentFailure)
  | deployed
  | deleted
  deriving DecidableEq

/-- The report of an observation. -/
def Report.ofVerdict : Except DeploymentFailure JobManagerState → Report
  | .ok state => .observed state
  | .error f => .failure f

/-- What is reported of an outcome. -/
def Report.of : Outcome Report → Report
  | .ok report => report
  | .error _ => .nothing

/-- The reports so far, and the status after them. -/
structure History where
  reports : List Report := []
  status : DeploymentStatus := {}
  deriving DecidableEq

namespace Service

variable {σ τ : Type} [Clock τ]

/-- What a call does in a session, and what it reports if it comes to an end. -/
def perform (service : Service σ τ) : StatusCall → Session σ τ Report
  | .observe metadata => do return .ofVerdict (← service.observe metadata)
  | .deploy host spec conf => do
    service.deploy host spec conf
    return .deployed
  | .delete looks metadata withMetadata => do
    service.delete looks metadata withMetadata
    return .deleted

/-- A history goes on with a call, which works on its status. -/
def extend (service : Service σ τ) (h : History) (c : StatusCall × σ) : History :=
  let (out, run) := (service.perform c.1).run.run { world := c.2, status := some h.status }
  ⟨h.reports ++ [.of out], run.status.getD h.status⟩

/-- The history of calls, from the default status on. Each has its own state of the API. -/
def history (service : Service σ τ) (calls : List (StatusCall × σ)) : History :=
  calls.foldl service.extend {}

end Service

/-! ## Effects of a call -/

/-- The status after a report. -/
def Report.noted (s : DeploymentStatus) : Report → DeploymentStatus
  | .nothing => s
  | .observed state => { s with jobManager := state }
  | .failure f => { s with jobManager := .error, error := some f.message }
  | .deployed => s.deployed
  | .deleted => s.deleted

theorem Observation.verdict_ne_error {s : Kubernetes.StatefulSet} {pods : List Kubernetes.Pod}
    {v : Except DeploymentFailure JobManagerState} (h : verdict s pods = .ok v) :
    v ≠ .ok .error := by
  obtain ⟨failure, -, h⟩ := Outcome.bind_ok h
  cases failure with
  | some f =>
    obtain rfl := Outcome.pure_ok h
    nofun
  | none =>
    obtain ⟨state, hstate, h⟩ := Outcome.bind_ok h
    obtain rfl := Outcome.pure_ok h
    obtain ⟨ready, -, hstate⟩ := Outcome.bind_ok hstate
    split at hstate
    · obtain rfl := Outcome.pure_ok hstate
      decide
    split at hstate <;>
    · obtain rfl := Outcome.pure_ok hstate
      decide

namespace Service

variable {σ τ : Type} {service : Service σ τ} {run : Run σ τ} {metadata : DeploymentMetadata}

theorem verdict_ne_error_of_observe {v : Except DeploymentFailure JobManagerState}
    (h : ((service.observe metadata).run.run run).1 = .ok v) : v ≠ .ok .error := by
  obtain ⟨answer, -, h⟩ := Session.exists_ok_of_bind_ok h
  obtain ⟨found, -, h⟩ := Session.exists_ok_of_bind_ok h
  cases found with
  | none =>
    obtain rfl : Except.ok .missing = v := Except.ok.inj h
    decide
  | some s =>
    obtain ⟨pods, -, h⟩ := Session.exists_ok_of_bind_ok h
    obtain ⟨verdict, hverdict, h⟩ := Session.exists_ok_of_bind_ok h
    obtain rfl : verdict = v := Except.ok.inj h
    exact Observation.verdict_ne_error hverdict

variable [Clock τ]

/-- A call leaves in the status what it reports. -/
theorem records_perform (service : Service σ τ) (c : StatusCall) :
    (service.perform c).Records fun out status => (Report.of out).noted status := by
  cases c with
  | observe metadata =>
    refine (service.records_observe metadata).map _ fun out => ?_
    rcases out with e | f | state <;> rfl
  | deploy host spec conf =>
    refine (service.records_deploy host spec conf).map _ fun out => ?_
    cases out <;> rfl
  | delete looks metadata withMetadata =>
    refine (service.records_delete looks metadata withMetadata).map _ fun out => ?_
    cases out <;> rfl

/-- An error is only reported as a failure. -/
theorem report_ne_error (service : Service σ τ) (c : StatusCall) (run : Run σ τ) :
    Report.of ((service.perform c).run.run run).1 ≠ .observed .error := by
  cases hout : ((service.perform c).run.run run).1 with
  | error e => nofun
  | ok report =>
    intro herror
    obtain rfl : report = .observed .error := herror
    cases c with
    | observe metadata =>
      obtain ⟨v, hv, hreport⟩ := Session.exists_ok_of_bind_ok hout
      have hofVerdict : Report.ofVerdict v = .observed .error := Except.ok.inj hreport
      cases v with
      | error f => cases hofVerdict
      | ok state =>
        exact verdict_ne_error_of_observe hv (congrArg Except.ok (Report.observed.inj hofVerdict))
    | deploy host spec conf =>
      obtain ⟨_, -, hreport⟩ := Session.exists_ok_of_bind_ok hout
      cases hreport
    | delete looks metadata withMetadata =>
      obtain ⟨_, -, hreport⟩ := Session.exists_ok_of_bind_ok hout
      cases hreport

end Service

/-! ## Failures among reports -/

/-- There is a last failure: it has a property, and so have the reports after it. -/
def FailsLast (P : DeploymentFailure → Prop) (Q : Report → Prop) (reports : List Report) : Prop :=
  ∃ before f after, reports = before ++ .failure f :: after ∧ P f ∧ ∀ r ∈ after, Q r

/-- After such a report the error is the same. -/
def Report.Keeps (r : Report) : Prop := r ≠ .deployed ∧ ∀ f, r ≠ .failure f

/-- A failure has gone stale: it was not reported again, the cluster was not deployed since, but
something else was reported. -/
def Stale (reports : List Report) : Prop :=
  ∃ before f after, reports = before ++ .failure f :: after ∧ (∀ r ∈ after, r.Keeps) ∧
    ∃ r ∈ after, r ≠ .nothing

section

variable {P : DeploymentFailure → Prop} {Q : Report → Prop} {reports : List Report} {r : Report}

theorem not_failsLast_nil : ¬ FailsLast P Q [] := by
  rintro ⟨before, f, after, h, -⟩
  cases before <;> cases h

theorem failsLast_append_singleton :
    FailsLast P Q (reports ++ [r]) ↔
      (∃ f, r = .failure f ∧ P f) ∨ (FailsLast P Q reports ∧ Q r) := by
  constructor
  · rintro ⟨before, f, after, h, hf, hafter⟩
    obtain rfl | ⟨after, last, rfl⟩ := after.eq_nil_or_concat
    · exact .inl ⟨f, (List.append_inj' h rfl).2 |> List.singleton_inj.1, hf⟩
    · rw [List.concat_eq_append] at hafter h
      rw [← List.cons_append, ← List.append_assoc] at h
      obtain ⟨rfl, hlast⟩ := List.append_inj' h rfl
      obtain rfl := List.singleton_inj.1 hlast
      refine .inr ⟨⟨before, f, after, rfl, hf, fun r hr => hafter r ?_⟩, hafter _ ?_⟩
      · exact List.mem_append_left _ hr
      · exact List.mem_append_right _ (List.mem_singleton_self _)
  · rintro (⟨f, rfl, hf⟩ | ⟨⟨before, f, after, rfl, hf, hafter⟩, hr⟩)
    · exact ⟨reports, f, [], rfl, hf, nofun⟩
    · refine ⟨before, f, after ++ [r], by rw [List.append_assoc, List.cons_append], hf, ?_⟩
      intro r' hr'
      obtain hr' | hr' := List.mem_append.1 hr'
      · exact hafter r' hr'
      · rwa [List.mem_singleton.1 hr']

theorem FailsLast.mono {P' : DeploymentFailure → Prop} {Q' : Report → Prop}
    (h : FailsLast P Q reports) (hP : ∀ f, P f → P' f) (hQ : ∀ r, Q r → Q' r) :
    FailsLast P' Q' reports := by
  obtain ⟨before, f, after, heq, hf, hafter⟩ := h
  exact ⟨before, f, after, heq, hP f hf, fun r hr => hQ r (hafter r hr)⟩

theorem keeps_nothing : Report.nothing.Keeps := ⟨nofun, nofun⟩

/-- The reports after the last failure are unique. -/
theorem after_unique {before before' after after' : List Report} {f f' : DeploymentFailure}
    (h : before ++ .failure f :: after = before' ++ .failure f' :: after')
    (hafter : ∀ r ∈ after, r.Keeps) (hafter' : ∀ r ∈ after', r.Keeps) : after = after' := by
  -- Were one of the two longer, the failure before the other would be among its reports.
  obtain ⟨middle, -, hmiddle⟩ | ⟨middle, -, hmiddle⟩ := List.append_eq_append_iff.1 h
  · cases middle with
    | nil => exact (List.cons.inj hmiddle).2
    | cons r middle =>
      have hmem : Report.failure f' ∈ after := by
        rw [(List.cons.inj hmiddle).2]
        exact List.mem_append_right _ List.mem_cons_self
      exact absurd rfl ((hafter _ hmem).2 f')
  · cases middle with
    | nil => exact (List.cons.inj hmiddle).2.symm
    | cons r middle =>
      have hmem : Report.failure f ∈ after' := by
        rw [(List.cons.inj hmiddle).2]
        exact List.mem_append_right _ List.mem_cons_self
      exact absurd rfl ((hafter' _ hmem).2 f)

theorem stale_iff :
    Stale reports ↔ FailsLast (fun _ => True) Report.Keeps reports ∧
      ¬ FailsLast (fun _ => True) (· = .nothing) reports := by
  constructor
  · rintro ⟨before, f, after, heq, hafter, r, hr, hne⟩
    refine ⟨⟨before, f, after, heq, trivial, hafter⟩, ?_⟩
    rintro ⟨before', f', after', heq', -, hafter'⟩
    have hkeeps : ∀ r ∈ after', r.Keeps := fun r hr => hafter' r hr ▸ keeps_nothing
    obtain rfl := after_unique (heq.symm.trans heq') hafter hkeeps
    exact hne (hafter' r hr)
  · rintro ⟨⟨before, f, after, heq, -, hafter⟩, hspoken⟩
    refine ⟨before, f, after, heq, hafter, ?_⟩
    by_contra hnone
    refine hspoken ⟨before, f, after, heq, trivial, fun r hr => ?_⟩
    by_contra hne
    exact hnone ⟨r, hr, hne⟩

end

/-! ## Histories -/

/-- The error and the state of a status, by the reports. -/
structure History.Explained (h : History) : Prop where
  error : ∀ text,
    h.status.error = some text ↔ FailsLast (·.message = text) Report.Keeps h.reports
  jobManager : h.status.jobManager = .error ↔ FailsLast (fun _ => True) (· = .nothing) h.reports

namespace Service

variable {σ τ : Type} [Clock τ]

/-- A history that goes on with a call stays explained. -/
theorem explained_extend (service : Service σ τ) {h : History} (hh : h.Explained)
    (c : StatusCall × σ) : (service.extend h c).Explained := by
  have hnoted := service.records_perform c.1 { world := c.2, status := some h.status }
  have hobserved := service.report_ne_error c.1 { world := c.2, status := some h.status }
  unfold extend
  generalize (service.perform c.1).run.run { world := c.2, status := some h.status } = result at *
  obtain ⟨out, run⟩ := result
  have hstatus : run.status = some ((Report.of out).noted h.status) := hnoted
  change (History.mk (h.reports ++ [.of out]) (run.status.getD h.status)).Explained
  rw [hstatus, Option.getD_some]
  generalize Report.of out = report at hobserved
  constructor
  · intro text
    rw [failsLast_append_singleton, ← hh.error text]
    cases report with
    | nothing => simp [Report.noted, Report.Keeps]
    | observed state => simp [Report.noted, Report.Keeps]
    | failure f => simp [Report.noted, Report.Keeps]
    | deployed => simp [Report.noted, Report.Keeps, DeploymentStatus.deployed]
    | deleted => simp [Report.noted, Report.Keeps, DeploymentStatus.deleted]
  · rw [failsLast_append_singleton, ← hh.jobManager]
    cases report with
    | nothing => simp [Report.noted]
    | observed state =>
      have hstate : state ≠ .error := fun herror => hobserved (congrArg _ herror)
      simp [Report.noted, hstate]
    | failure f => simp [Report.noted]
    | deployed => simp [Report.noted, DeploymentStatus.deployed]
    | deleted => simp [Report.noted, DeploymentStatus.deleted]

theorem explained_history (service : Service σ τ) (calls : List (StatusCall × σ)) :
    (service.history calls).Explained := by
  induction calls using List.reverseRecOn with
  | nil => exact ⟨fun _ => ⟨nofun, fun h => absurd h not_failsLast_nil⟩,
      ⟨nofun, fun h => absurd h not_failsLast_nil⟩⟩
  | append_singleton calls c ih =>
    rw [history, List.foldl_append]
    exact service.explained_extend ih c

/-- **When the error goes with the state.** For all calls, in any states of the API: with the state
of an error there is an error, an error is that of the last failure, and there is one exactly in the
state of an error unless a failure has gone stale. -/
theorem error_iff_of_history (service : Service σ τ) (calls : List (StatusCall × σ)) :
    let h := service.history calls
    (h.status.jobManager = .error → h.status.error.isSome) ∧
    (∀ text, h.status.error = some text ↔ FailsLast (·.message = text) Report.Keeps h.reports) ∧
    ((h.status.error.isSome ↔ h.status.jobManager = .error) ↔ ¬ Stale h.reports) := by
  intro h
  obtain ⟨herror, hjobManager⟩ := service.explained_history calls
  have hsome : h.status.error.isSome ↔ FailsLast (fun _ => True) Report.Keeps h.reports := by
    rw [Option.isSome_iff_exists]
    constructor
    · rintro ⟨text, htext⟩
      exact ((herror text).1 htext).mono (fun _ _ => trivial) fun _ => id
    · rintro ⟨before, f, after, heq, -, hafter⟩
      exact ⟨f.message, (herror _).2 ⟨before, f, after, heq, rfl, hafter⟩⟩
  have hforward : h.status.jobManager = .error → h.status.error.isSome := by
    rw [hsome, hjobManager]
    exact fun hlast => hlast.mono (fun _ => id) fun r hr => hr ▸ keeps_nothing
  refine ⟨hforward, herror, ?_⟩
  rw [stale_iff, ← hsome, ← hjobManager, not_and_not_right]
  exact ⟨fun hiff => hiff.1, fun himp => ⟨himp, hforward⟩⟩

end Service

/-! ## A failure that goes stale -/

/-- A cluster in memory with nothing but the stateful set of a job manager. -/
def Cluster.reporting (status : Kubernetes.StatefulSetStatus) : Cluster where
  objects := [(⟨.statefulSet, "default", some "demo"⟩, .statefulSet {
    spec := some { replicas := some (.integer 1), selector := {}, template := {} }
    status := some status })]

/-- The job manager cannot be created. -/
def Cluster.failing : Cluster := .reporting {
  conditions := some [some
    { type := "ReplicaFailure", status := "True", message := some "exceeded quota" }]
  replicas := .integer 0 }

/-- The job manager is ready. -/
def Cluster.recovered : Cluster :=
  .reporting { readyReplicas := some (.integer 1), replicas := .integer 1 }

theorem Naming.labelSelector_jobManager_demo :
    labelSelector (selectors "demo" .jobManager) =
      "app=demo,component=jobmanager,type=flink-standalone-kubernetes" := by
  rw [labelSelector, sorted_selectors]
  decide +kernel

/-- The job manager is ready, with the error from the time when it failed. -/
theorem Service.error_outlives_failure :
    ((Cluster.service ⟨.whole 0, .whole 1⟩).history
      [(.observe { name := "demo" }, .failing), (.observe { name := "demo" }, .recovered)]).status =
      { jobManager := .ready, error := some "exceeded quota" } := by
  simp only [history, List.foldl_cons, List.foldl_nil, extend, perform, observe]
  rw [Naming.labelSelector_jobManager_demo]
  decide +kernel

end FlinkCluster
