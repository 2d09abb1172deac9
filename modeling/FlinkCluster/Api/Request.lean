import FlinkCluster.Kubernetes.Resource

/-!
# Requests to the Kubernetes API

The requests that managing a cluster makes, each with the type of its answer and the name of its
operation.
-/

set_option autoImplicit false

namespace FlinkCluster

open Kubernetes

/-- A request. Objects are written to the namespace given, which need not be the one in their
metadata. -/
inductive Request where
  | create (namespaceName : String) (body : Resource)
  | patch (namespaceName name : String) (body : Resource)
  | readStatefulSet (namespaceName name : String)
  | deleteStatefulSet (namespaceName name policy : String)
  | scaleStatefulSet (namespaceName name : String) (replicas : Int)
  | listPods (namespaceName selector : String)
  | deleteConfigMaps (namespaceName selector : String)
  deriving DecidableEq, Repr

namespace Request

/-- The answers to a request that does not fail. -/
abbrev Answer : Request → Type
  | .create .. => Resource
  | .patch .. => Resource
  | .readStatefulSet .. => StatefulSet
  | .deleteStatefulSet .. => Unit
  | .scaleStatefulSet .. => Unit
  | .listPods .. => List Pod
  | .deleteConfigMaps .. => Unit

/-- The name of an operation on objects of a kind. -/
def operationOn (verb : String) (kind : ObjectKind) : String := verb ++ "_namespaced_" ++ kind.word

/-- The name of a request's operation. -/
def operation : Request → String
  | .create _ body => operationOn "create" body.kind
  | .patch _ _ body => operationOn "patch" body.kind
  | .readStatefulSet .. => operationOn "read" .statefulSet
  | .deleteStatefulSet .. => operationOn "delete" .statefulSet
  | .scaleStatefulSet .. => operationOn "patch" .statefulSet ++ "_scale"
  | .listPods .. => operationOn "list" .pod
  | .deleteConfigMaps .. => operationOn "delete_collection" .configMap

/-- The namespace of a request. -/
def namespaceName : Request → String
  | .create ns _ | .patch ns _ _ | .readStatefulSet ns _ | .deleteStatefulSet ns _ _
  | .scaleStatefulSet ns _ _ | .listPods ns _ | .deleteConfigMaps ns _ => ns

/-- How the deletion of an object reaches those that it owns: they go first. -/
def foreground : String := "Foreground"

end Request

/-! ## Accompanying resources -/

/-- The kinds of objects that are applied next to a workload. -/
def accompanyingKinds : List ObjectKind := [.service, .configMap, .secret]

/-- The operations that create and patch accompanying resources of a model. -/
def accompanyingOperations (model : String) : Outcome (String × String) :=
  match accompanyingKinds.find? (fun k => k.model == model) with
  | some k => .ok (Request.operationOn "create" k, Request.operationOn "patch" k)
  | none => .error (.unsupportedResource model)

end FlinkCluster
