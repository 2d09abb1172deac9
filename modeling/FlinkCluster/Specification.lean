import FlinkCluster.Kubernetes.Resource
import FlinkCluster.Step

/-!
# Specifications

What a role of a cluster consists of: its stateful set and, for the job manager, the resources
applied next to it. The task managers share those, so theirs are not kept.
-/

set_option autoImplicit false

namespace FlinkCluster

open Kubernetes

/-- The API version of stateful sets. -/
def appsVersion : String := "apps/v1"

/-- A stateful set and the resources applied next to it. -/
structure Specification where
  statefulSet : StatefulSet
  resources : List Resource
  deriving DecidableEq, Repr

namespace Specification

/-! ## Stateful sets -/

/-- The value, unless it is empty. -/
def unlessNil {α : Type} (xs : List α) : Option (List α) := if xs.isEmpty then none else some xs

/-- The stateful set of a composed pod. The selectors are always among the pod's labels, and volume
claims are left out if there are none. -/
def createStatefulSet (draft : PodDraft) (claims : List (Option VolumeClaim)) (p : Parameters)
    (name : String) (owners : List (Option OwnerReference)) : Outcome StatefulSet := do
  let pod ← draft.toPod
  let selectors := ofTexts p.selectors
  let podMeta := { draft.metadata with
    labels := some ((draft.metadata.labels.getD .empty).union selectors) }
  let replicas ← p.replicas
  let namespaceName ← p.namespaceName
  let labels ← p.labels
  let annotations ← p.annotations
  return {
    apiVersion := some appsVersion
    kind := some "StatefulSet"
    metadata := some {
      name := some name
      namespaceName := some namespaceName
      labels := some (ofTexts labels)
      annotations := Step.unlessEmpty (ofTexts annotations)
      ownerReferences := unlessNil owners }
    spec := some {
      serviceName := some (Naming.internalService p.clusterId)
      replicas := some replicas
      template := { metadata := some podMeta, spec := pod.spec }
      selector := { matchLabels := some selectors }
      volumeClaimTemplates := unlessNil claims } }

/-! ## Owners -/

/-- The keys that an owner reference needs. -/
def ownerKeys : List String := ["apiVersion", "kind", "name", "uid"]

/-- Whether the text at a key is the word for true. -/
def saysTrue (ref : Table String) (key : String) : Bool :=
  Text.lowerAscii ((ref.get? key).getD "false") == "true"

/-- The reference of a complete table. -/
def ownerReference (ref : Table String) : OwnerReference where
  apiVersion := (ref.get? "apiVersion").getD ""
  kind := (ref.get? "kind").getD ""
  name := (ref.get? "name").getD ""
  uid := (ref.get? "uid").getD ""
  controller := some (saysTrue ref "controller")
  blockOwnerDeletion := some (saysTrue ref "blockOwnerDeletion")

/-- The configured owners; each has all its keys, and none is empty. -/
def ownerReferences (p : Parameters) : Outcome (List OwnerReference) := do
  let refs ← p.ownerReferences
  refs.forM fun ref =>
    let missing := ownerKeys.filter (fun k => (ref.get? k).getD "" = "")
    if missing.isEmpty then pure ()
    else p.refuse (.incompleteOwnerReference ref missing) Options.jobManagerOwnerReference.key
  return refs.map ownerReference

/-! ## Roles -/

/-- The specification of the job manager. -/
def jobManager (host : Host) (template : PodDraft) (claims : List (Option VolumeClaim))
    (p : Parameters) : Outcome Specification := do
  let (draft, resources) ← Step.compose p host (Step.chain .jobManager) template
  let owners ← ownerReferences p
  let statefulSet ← createStatefulSet draft claims p (Naming.jobManager p.clusterId)
    (owners.map some)
  return { statefulSet, resources }

/-- The specification of the task managers. -/
def taskManager (host : Host) (template : PodDraft) (claims : List (Option VolumeClaim))
    (p : Parameters) : Outcome Specification := do
  let (draft, _) ← Step.compose p host (Step.chain .taskManager) template
  let statefulSet ← createStatefulSet draft claims p (Naming.taskManager p.clusterId) []
  return { statefulSet, resources := [] }

end Specification

end FlinkCluster
