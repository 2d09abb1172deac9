import FlinkCluster.Lifecycle
import FlinkCluster.Proofs.Sessions

/-!
# What is left of a status

`Session.Records s change`: whatever the world, the events and the status before, the session `s`
changes the status as `change` says of its outcome. Deploying, deleting and observing a cluster write
the status when all else is done, so where one of them fails it is what it was before
(`Service.records_deploy`, `Service.records_delete`, `Service.records_observe`). Scaling one does not
touch it (`Service.keeps_scale`).
-/

set_option autoImplicit false

namespace FlinkCluster

variable {σ τ α β : Type}

namespace Session

/-- The outcome says how the status is changed. -/
def Records (s : Session σ τ α) (change : Outcome α → DeploymentStatus → DeploymentStatus) : Prop :=
  ∀ run, (s.run.run run).2.status = run.status.map (change (s.run.run run).1)

/-- The status is left alone. -/
def Keeps (s : Session σ τ α) : Prop := ∀ run, (s.run.run run).2.status = run.status

/-- A change that is made unless there is a failure. -/
def onSuccess (change : DeploymentStatus → DeploymentStatus) : Outcome α →
    DeploymentStatus → DeploymentStatus
  | .ok _ => change
  | .error _ => id

/-! ## Sessions -/

variable {server : Server σ τ} {s : Session σ τ α} {f : α → Session σ τ β}

theorem keeps_ofOutcome (x : Outcome α) : (ofOutcome x : Session σ τ α).Keeps := fun _ => rfl

theorem keeps_pure (a : α) : (pure a : Session σ τ α).Keeps := fun _ => rfl

theorem keeps_throw (e : Failure) : (throw e : Session σ τ α).Keeps := fun _ => rfl

theorem keeps_attempt (server : Server σ τ) (r : Request) : (attempt server r).Keeps := fun _ => rfl

theorem keeps_clock (server : Server σ τ) : (clock server).Keeps := fun _ => rfl

theorem keeps_pause (server : Server σ τ) (length : τ) : (pause server length).Keeps := by
  intro run
  change (pause server length run).2.status = _
  unfold pause
  split <;> rfl

/-- Nothing that is not given the status can change it. -/
theorem keeps_apart (s : Session σ τ α) : (apart s).Keeps := fun _ => rfl

/-- What follows a session that leaves the status alone changes it, if there is no failure before. -/
theorem Keeps.records_bind {change : Outcome β → DeploymentStatus → DeploymentStatus}
    (hs : s.Keeps) (hf : ∀ a, (f a).Records change) (hfailed : ∀ e, change (.error e) = id) :
    (s >>= f).Records change := by
  intro run
  rw [ExceptT.run_bind, StateT.run_bind]
  have hstatus := hs run
  generalize s.run.run run = result at hstatus ⊢
  obtain ⟨out, run'⟩ := result
  cases out with
  | error e =>
    change run'.status = run.status.map (change (.error e))
    rw [hfailed, Option.map_id_fun]
    exact hstatus
  | ok a =>
    have hrest := hf a run'
    rwa [hstatus] at hrest

theorem keeps_iff : s.Keeps ↔ s.Records fun _ => id := by
  simp only [Keeps, Records, Option.map_id_fun, id]

theorem Keeps.bind (hs : s.Keeps) (hf : ∀ a, (f a).Keeps) : (s >>= f).Keeps :=
  keeps_iff.2 (hs.records_bind (fun a => keeps_iff.1 (hf a)) fun _ => rfl)

theorem keeps_ask (server : Server σ τ) (r : Request) : (ask server r).Keeps :=
  (keeps_attempt server r).bind keeps_ofOutcome

theorem records_record (change : DeploymentStatus → DeploymentStatus) :
    (record change : Session σ τ Unit).Records (onSuccess change) := fun _ => rfl

/-- What is made of a result does not touch the status. -/
theorem Records.map {change : Outcome α → DeploymentStatus → DeploymentStatus}
    {change' : Outcome β → DeploymentStatus → DeploymentStatus} (h : s.Records change) (g : α → β)
    (hchange : ∀ out, change' (out.map g) = change out) :
    (s >>= fun a => pure (g a)).Records change' := by
  intro run
  rw [ExceptT.run_bind, StateT.run_bind]
  have hstatus := h run
  generalize s.run.run run = result at hstatus ⊢
  obtain ⟨out, run'⟩ := result
  rw [← hchange] at hstatus
  cases out <;> exact hstatus

/-- The status that a session leaves, by what it yields. -/
theorem Records.leaves {change : Outcome α → DeploymentStatus → DeploymentStatus}
    (h : s.Records change) {w w' : σ} {out : Outcome α} {trace : List (Event τ)}
    (hyields : s.Yields w out trace w') (status : Option DeploymentStatus) :
    s.Leaves w status (status.map (change out)) := by
  intro events
  obtain ⟨_, hrun⟩ := hyields events status
  rw [h, hrun]

end Session

/-! ## Operations -/

namespace Service

open Kubernetes Session

variable (service : Service σ τ)

theorem keeps_apply (ns name : String) (body : Resource) : (service.apply ns name body).Keeps := by
  refine Keeps.bind ((keeps_attempt _ _).bind fun answer => ?_) keeps_ofOutcome
  cases answer with
  | ok stored => exact keeps_pure _
  | error e =>
    dsimp only
    split
    · exact keeps_attempt _ _
    · exact keeps_pure _

theorem keeps_applyAll (ns : String) (rs : List Resource) : (service.applyAll ns rs).Keeps := by
  induction rs with
  | nil => exact keeps_pure ()
  | cons r rs ih =>
    exact (keeps_ofOutcome _).bind fun _ => (service.keeps_apply _ _ _).bind fun _ => ih

theorem keeps_write (plan : Plan) : (service.write plan).Keeps := by
  refine (service.keeps_apply _ _ _).bind fun _ => (keeps_ofOutcome _).bind fun _ => ?_
  refine (service.keeps_applyAll _ _).bind fun _ => (service.keeps_apply _ _ _).bind fun _ => ?_
  exact keeps_pure ()

/-- Deploying writes the status if it completes. -/
theorem records_deploy (host : Host) (spec : DeploymentSpec) (conf : Configuration) :
    (service.deploy host spec conf).Records (onSuccess (·.deployed)) :=
  (keeps_ofOutcome _).records_bind
    (fun plan => (service.keeps_write plan).records_bind (fun _ => records_record _) fun _ => rfl)
    fun _ => rfl

/-- Scaling does not touch the status. -/
theorem keeps_scale (metadata : DeploymentMetadata) (job : Option JobSpec) (conf : Configuration) :
    (service.scale metadata job conf).Keeps := by
  refine (keeps_ofOutcome _).bind fun reactive => ?_
  cases reactive with
  | false => exact keeps_pure _
  | true =>
    refine (keeps_attempt _ _).bind fun answer => (keeps_ofOutcome _).bind fun found => ?_
    cases found with
    | none => exact keeps_pure _
    | some s =>
      refine (keeps_ofOutcome _).bind fun wanted => ?_
      split
      · exact keeps_pure _
      · exact (keeps_ask _ _).bind fun _ => keeps_pure _

theorem keeps_deleteStatefulSet (metadata : DeploymentMetadata) (role : Role) :
    (service.deleteStatefulSet metadata role).Keeps :=
  (keeps_attempt _ _).bind fun _ => (keeps_ofOutcome _).bind fun _ => keeps_pure ()

variable [Clock τ]

theorem keeps_watch (ns selector : String) (deadline : τ) (looks : Nat) :
    (service.watch ns selector deadline looks).Keeps := by
  induction looks with
  | zero => exact keeps_throw _
  | succ looks ih =>
    refine (keeps_ask _ _).bind fun pods => ?_
    split
    · exact keeps_pure _
    · refine (keeps_clock _).bind fun time => ?_
      split
      · exact keeps_pure _
      · exact (keeps_pause _ _).bind fun _ => ih

theorem keeps_awaitShutdown (looks : Nat) (metadata : DeploymentMetadata) :
    (service.awaitShutdown looks metadata).Keeps :=
  (keeps_clock _).bind fun _ => (keeps_ofOutcome _).bind fun _ => service.keeps_watch _ _ _ _

/-- Deleting writes the status if it completes, whatever the store does. -/
theorem records_delete (looks : Nat) (metadata : DeploymentMetadata) (withMetadata : Bool) :
    (service.delete looks metadata withMetadata).Records (onSuccess (·.deleted)) := by
  refine (service.keeps_deleteStatefulSet _ _).records_bind (fun _ => ?_) fun _ => rfl
  refine (service.keeps_deleteStatefulSet _ _).records_bind (fun _ => ?_) fun _ => rfl
  cases withMetadata with
  | false => exact records_record _
  | true =>
    refine (service.keeps_awaitShutdown _ _).records_bind (fun _ => ?_) fun _ => rfl
    exact (keeps_apart _).records_bind (fun _ => records_record _) fun _ => rfl

omit [Clock τ]

/-- What an observation writes: its verdict, if it comes to one. -/
def noted : Outcome (Except DeploymentFailure JobManagerState) → DeploymentStatus → DeploymentStatus
  | .ok verdict => (·.observed verdict)
  | .error _ => id

theorem records_conclude (verdict : Except DeploymentFailure JobManagerState) :
    (conclude verdict : Session σ τ _).Records noted := fun _ => rfl

/-- Observing writes its verdict. -/
theorem records_observe (metadata : DeploymentMetadata) :
    (service.observe metadata).Records noted := by
  refine (keeps_attempt _ _).records_bind (fun answer => ?_) fun _ => rfl
  refine (keeps_ofOutcome _).records_bind (fun found => ?_) fun _ => rfl
  cases found with
  | none => exact records_conclude _
  | some s =>
    refine (keeps_ask _ _).records_bind (fun pods => ?_) fun _ => rfl
    exact (keeps_ofOutcome _).records_bind records_conclude fun _ => rfl

end Service

end FlinkCluster
