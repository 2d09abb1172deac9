import FlinkCluster.Deployment
import FlinkCluster.Kubernetes.Resource
import FlinkCluster.Value.Order

/-!
# Observing the job manager

Some failures do not heal without the user: a container that cannot get its image or crashes
again and again, and a stateful set whose condition says so. `failure?` finds the first of them, and
`readiness` is the state of a job manager without one. A null among the conditions or the containers
ends the search, unless a failure was found before it.
-/

set_option autoImplicit false

namespace FlinkCluster

open Kubernetes

namespace Observation

/-! ## Failures -/

/-- The reasons to wait from which a container does not recover. -/
def waitingFailures : List String :=
  ["CrashLoopBackOff", "ImagePullBackOff", "ErrImagePull", "CreateContainerConfigError",
    "InvalidImageName"]

/-- The types of conditions that are failures. -/
def failedTypes : List String := ["ReplicaFailure"]

/-- The reasons of conditions that are failures. -/
def failedReasons : List String := ["ProgressDeadlineExceeded"]

/-- The first failure of the items of a list, which are judged in order by `field` of each. -/
def firstFailure? {α : Type} (field : String) (judge : α → Option DeploymentFailure) :
    List (Option α) → Outcome (Option DeploymentFailure)
  | [] => .ok none
  | none :: _ => .error (.absentObject field)
  | some a :: r =>
    match judge a with
    | some f => .ok (some f)
    | none => firstFailure? field judge r

/-- The failure of a condition that holds. -/
def conditionFailure? (c : Condition) : Option DeploymentFailure :=
  if c.status = "True" && (failedTypes.contains c.type || c.reason.any failedReasons.contains) then
    some (.of c.message c.reason)
  else none

/-- The failure of a stateful set: that of its first condition with one. -/
def statefulSetFailure? (s : StatefulSet) : Outcome (Option DeploymentFailure) :=
  firstFailure? "status" conditionFailure? ((s.status.bind (·.conditions)).getD [])

/-- The failure of a container that waits. -/
def containerFailure? (c : ContainerStatus) : Option DeploymentFailure :=
  match c.state.bind (·.waiting) with
  | some w => if w.reason.any waitingFailures.contains then some (.of w.message w.reason) else none
  | none => none

/-- The statuses of a pod's containers, those that run first before the others. -/
def containerStatuses (p : Pod) : List (Option ContainerStatus) :=
  match p.status with
  | some s => s.initContainerStatuses.getD [] ++ s.containerStatuses.getD []
  | none => []

/-- The failure of a pod: that of its first container with one. -/
def podFailure? (p : Pod) : Outcome (Option DeploymentFailure) :=
  firstFailure? "state" containerFailure? (containerStatuses p)

/-- The failure of the first pod with one. -/
def firstPodFailure? : List Pod → Outcome (Option DeploymentFailure)
  | [] => .ok none
  | p :: r => do
    match ← podFailure? p with
    | some f => return some f
    | none => firstPodFailure? r

/-- The failure of a job manager: of its stateful set, else of the first pod with one. -/
def failure? (s : StatefulSet) (pods : List Pod) : Outcome (Option DeploymentFailure) := do
  match ← statefulSetFailure? s with
  | some f => return some f
  | none => firstPodFailure? pods

/-! ## Readiness -/

/-- Whether at least as many pods are ready as are wanted. None are ready where nothing says so, and
some have to be wanted. -/
def enoughReady (wanted ready : Option IntegerField) : Outcome Bool :=
  match wanted.map (·.toValue) with
  | none => .ok false
  | some w =>
    let r := (ready.map (·.toValue)).filter (·.isTruthy)
    if w.isTruthy then (r.getD (.integer 0)).atLeast w else .ok false

/-- The state of a job manager without failures: ready when as many pods are ready as are wanted,
deployed when there are pods. -/
def readiness (s : StatefulSet) (pods : List Pod) : Outcome JobManagerState := do
  if ← enoughReady (s.spec.bind (·.replicas)) (s.status.bind (·.readyReplicas)) then return .ready
  else if pods.isEmpty then return .deploying
  else return .deployedNotReady

/-- The verdict on a stateful set and the job manager's pods: their failure, or else the state. -/
def verdict (s : StatefulSet) (pods : List Pod) :
    Outcome (Except DeploymentFailure JobManagerState) := do
  match ← failure? s pods with
  | some f => return .error f
  | none => return .ok (← readiness s pods)

end Observation

end FlinkCluster
