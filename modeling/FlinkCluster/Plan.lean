import FlinkCluster.Deployment
import FlinkCluster.Manifest.Overlay
import FlinkCluster.Specification

/-!
# Plans

A `Plan` is everything that deploying a cluster writes, made before the first request: the two
stateful sets and the resources next to them. The pod template of a role is the deployment's common
template with the role's own template over it.
-/

set_option autoImplicit false

namespace FlinkCluster

open Kubernetes

/-- What deploying a cluster writes, and where. -/
structure Plan where
  namespaceName : String
  clusterId : String
  jobManager : Specification
  taskManager : StatefulSet
  deriving DecidableEq, Repr

namespace Plan

/-- The draft of a role's pod: the common template below the role's own one. -/
def template (common role : Option Entries) : Outcome PodDraft := do
  match ← Overlay.mergeNamed common role with
  | none => return {}
  | some manifest => PodDraft.ofPod (← Pod.codec.read (.map manifest))

/-- The plan of a deployment under its configuration. -/
def make (host : Host) (spec : DeploymentSpec) (conf : Configuration) : Outcome Plan := do
  let jobManager ← Parameters.of .jobManager conf
  let taskManager ← Parameters.of .taskManager conf
  let namespaceName ← jobManager.namespaceName
  let draft ← template spec.podTemplate spec.jobManager.podTemplate
  let job ← Specification.jobManager host draft [] jobManager
  let draft ← template spec.podTemplate spec.taskManager.podTemplate
  let task ← Specification.taskManager host draft [] taskManager
  return {
    namespaceName
    clusterId := jobManager.clusterId
    jobManager := job
    taskManager := task.statefulSet }

/-- The reference from an object to the job manager that owns it. -/
def ownerReference (plan : Plan) (uid : String) : OwnerReference where
  apiVersion := appsVersion
  kind := "StatefulSet"
  name := Naming.jobManager plan.clusterId
  uid
  blockOwnerDeletion := some true

/-- A resource whose only owner is the job manager. -/
def owned (plan : Plan) (uid : String) (r : Resource) : Resource :=
  r.withMetadata { r.metadata with ownerReferences := some [some (plan.ownerReference uid)] }

end Plan

end FlinkCluster
