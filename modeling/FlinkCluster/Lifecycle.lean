import FlinkCluster.Api.Session
import FlinkCluster.Observation
import FlinkCluster.Plan

/-!
# The life of a cluster

Deploying, scaling, deleting and observing a cluster. Each operation reads live state and keeps
nothing between calls but the status of the deployment, which is written last.
-/

set_option autoImplicit false

namespace FlinkCluster

open Kubernetes

/-! ## Statuses -/

namespace DeploymentStatus

/-- The status of a cluster that was just written. -/
def deployed (s : DeploymentStatus) : DeploymentStatus :=
  { s with jobManager := .deploying, error := none }

/-- The status of a cluster that was observed. A failure is noted as the error; the error of an
earlier one stays. -/
def observed (verdict : Except DeploymentFailure JobManagerState) (s : DeploymentStatus) :
    DeploymentStatus :=
  match verdict with
  | .ok state => { s with jobManager := state }
  | .error f => { s with jobManager := .error, error := some f.message }

/-- Whether a job status is that of a job that came to its end. -/
def hasEnded (s : JobStatus) : Bool :=
  match s.state with
  | some word => (Choice.ofWord? word).any JobState.isTerminal
  | none => false

/-- The status of a deleted cluster. A job that has not come to its end counts as finished. -/
def deleted (s : DeploymentStatus) : DeploymentStatus :=
  { s with
    jobManager := .missing
    job := { s.job with
      state := if hasEnded s.job then s.job.state else some (Choice.word JobState.finished) } }

end DeploymentStatus

/-! ## High availability metadata -/

/-- Where the high availability metadata of clusters is kept. -/
structure AvailabilityStore (σ τ : Type) where
  delete : (namespaceName clusterId : String) → Session σ τ Unit

/-- The store that keeps the metadata in config maps with a cluster's labels. -/
def AvailabilityStore.configMaps {σ τ : Type} (server : Server σ τ) : AvailabilityStore σ τ where
  delete namespaceName clusterId := do
    let selector := Naming.labelSelector (Naming.highAvailabilityLabels clusterId)
    let answer ← Session.attempt server (.deleteConfigMaps namespaceName selector)
    let _ ← Session.ofOutcome (Api.ignoringMissing answer)

/-! ## The service -/

/-- How long a shutdown is waited for, and how long between two looks. -/
structure Patience (τ : Type) where
  timeout : τ
  interval : τ
  deriving DecidableEq, Repr

/-- The most looks that the wait takes when each pause is as long as it says. -/
def Patience.looks (p : Patience Rat) : Nat :=
  if 0 < p.interval then (p.timeout / p.interval).ceil.toNat + 1 else 1

/-- What managing clusters needs. -/
structure Service (σ τ : Type) where
  server : Server σ τ
  store : AvailabilityStore σ τ
  patience : Patience τ

namespace Service

variable {σ τ : Type}

/-! ## Deploying -/

/-- Creates an object or patches the one of its name. -/
def apply (service : Service σ τ) (namespaceName name : String) (body : Resource) :
    Session σ τ Resource := do
  let outcome ← Api.createOrPatch
    (Session.attempt service.server (.create namespaceName body))
    (Session.attempt service.server (.patch namespaceName name body))
  Session.ofOutcome outcome

/-- Applies resources in order. -/
def applyAll (service : Service σ τ) (namespaceName : String) : List Resource → Session σ τ Unit
  | [] => return ()
  | r :: rs => do
    let _ ← Session.ofOutcome (accompanyingOperations r.kind.model)
    let _ ← service.apply namespaceName r.name r
    service.applyAll namespaceName rs

/-- The uid of an object. -/
def uidOf (r : Resource) : Outcome String :=
  match r.metadata.uid with
  | some uid => .ok uid
  | none => .error (.missingField "uid")

/-- Writes a plan: the job manager, the resources that it owns, and the task managers. -/
def write (service : Service σ τ) (plan : Plan) : Session σ τ Unit := do
  let jobManager ← service.apply plan.namespaceName (Naming.jobManager plan.clusterId)
    (.statefulSet plan.jobManager.statefulSet)
  let uid ← Session.ofOutcome (uidOf jobManager)
  service.applyAll plan.namespaceName (plan.jobManager.resources.map (plan.owned uid))
  let _ ← service.apply plan.namespaceName (Naming.taskManager plan.clusterId)
    (.statefulSet plan.taskManager)

/-- Creates or updates a cluster. The plan is made before the first request. -/
def deploy (service : Service σ τ) (host : Host) (spec : DeploymentSpec) (conf : Configuration) :
    Session σ τ Unit := do
  let plan ← Session.ofOutcome (Plan.make host spec conf)
  service.write plan
  Session.record (·.deployed)

/-! ## Scaling -/

/-- Whether a configuration asks for the reactive scheduler, in any case. -/
def isReactive (conf : Configuration) : Outcome Bool :=
  (conf.find? Options.schedulerMode).map fun mode =>
    mode.any (fun s => Text.upper s == Choice.word SchedulerMode.reactive)

/-- The number of task managers that a job needs, or the configured parallelism without one. -/
def wantedTaskManagers (job : Option JobSpec) (conf : Configuration) : Outcome Int := do
  let parallelism ← match job with
    | some j => pure j.parallelism
    | none => conf.get Options.defaultParallelism
  let slots ← conf.get Options.taskSlots
  taskManagerCount parallelism slots

/-- Scales the task managers of a reactive cluster; whether they have the number that is wanted. -/
def scale (service : Service σ τ) (metadata : DeploymentMetadata) (job : Option JobSpec)
    (conf : Configuration) : Session σ τ Bool := do
  if ← Session.ofOutcome (isReactive conf) then
    let name := Naming.taskManager metadata.name
    let answer ← Session.attempt service.server (.readStatefulSet metadata.namespaceName name)
    match ← Session.ofOutcome (Api.absentAsNone answer) with
    | none => return false
    | some statefulSet =>
      let wanted ← Session.ofOutcome (wantedTaskManagers job conf)
      if statefulSet.spec.bind (·.replicas) = some (.integer wanted) then return true
      else
        Session.ask service.server (.scaleStatefulSet metadata.namespaceName name wanted)
        return true
  else return false

/-! ## Deleting -/

/-- Deletes the stateful set of a role, if there is one. -/
def deleteStatefulSet (service : Service σ τ) (metadata : DeploymentMetadata) (role : Role) :
    Session σ τ Unit := do
  let answer ← Session.attempt service.server (.deleteStatefulSet metadata.namespaceName
    (Naming.statefulSet metadata.name role) Request.foreground)
  let _ ← Session.ofOutcome (Api.ignoringMissing answer)

/-- Looks for pods until there are none or the deadline has passed; whether there are none. The
number of looks is limited. -/
def watch [Clock τ] (service : Service σ τ) (namespaceName selector : String) (deadline : τ) :
    Nat → Session σ τ Bool
  | 0 => throw .waitUnfinished
  | looks + 1 => do
    let pods ← Session.ask service.server (.listPods namespaceName selector)
    if pods.isEmpty then return true
    else if Clock.hasReached (← Session.clock service.server) deadline then return false
    else
      Session.pause service.server service.patience.interval
      service.watch namespaceName selector deadline looks

/-- Waits for the pods of a cluster to end. -/
def awaitShutdown [Clock τ] (service : Service σ τ) (looks : Nat) (metadata : DeploymentMetadata) :
    Session σ τ Bool := do
  let start ← Session.clock service.server
  let deadline ← Session.ofOutcome (Clock.after start service.patience.timeout)
  service.watch metadata.namespaceName
    (Naming.labelSelector (Naming.commonLabels metadata.name)) deadline looks

/-- Deletes both stateful sets of a cluster and, if asked to, the high availability metadata once
the pods have ended or the wait for them has. -/
def delete [Clock τ] (service : Service σ τ) (looks : Nat) (metadata : DeploymentMetadata)
    (withMetadata : Bool) : Session σ τ Unit := do
  service.deleteStatefulSet metadata .taskManager
  service.deleteStatefulSet metadata .jobManager
  if withMetadata then
    let _ ← service.awaitShutdown looks metadata
    Session.apart (service.store.delete metadata.namespaceName metadata.name)
  Session.record (·.deleted)

/-! ## Observing -/

/-- Ends an observation with a verdict, which the status has then. -/
def conclude (verdict : Except DeploymentFailure JobManagerState) :
    Session σ τ (Except DeploymentFailure JobManagerState) := do
  Session.record (·.observed verdict)
  return verdict

/-- Observes the job manager. Its pods are listed only if it has a stateful set. -/
def observe (service : Service σ τ) (metadata : DeploymentMetadata) :
    Session σ τ (Except DeploymentFailure JobManagerState) := do
  let answer ← Session.attempt service.server
    (.readStatefulSet metadata.namespaceName (Naming.jobManager metadata.name))
  match ← Session.ofOutcome (Api.absentAsNone answer) with
  | none => conclude (.ok .missing)
  | some statefulSet =>
    let selector := Naming.labelSelector (Naming.selectors metadata.name .jobManager)
    let pods ← Session.ask service.server (.listPods metadata.namespaceName selector)
    let verdict ← Session.ofOutcome (Observation.verdict statefulSet pods)
    conclude verdict

end Service

end FlinkCluster
