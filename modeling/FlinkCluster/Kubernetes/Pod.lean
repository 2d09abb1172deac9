import FlinkCluster.Kubernetes.Container
import FlinkCluster.Kubernetes.Volume

/-!
# Pods

Pods with their specification and their observed status.
-/

set_option autoImplicit false

namespace FlinkCluster.Kubernetes

/-! ## Specification -/

/-- A reference to an object of the same namespace. -/
structure LocalReference where
  name : Option String := none
  deriving DecidableEq, Repr

def LocalReference.codec : Codec LocalReference := Fields.codec <|
  LocalReference.mk <$> .optional "name" .text (·.name)

/-- A taint that a pod tolerates. -/
structure Toleration where
  effect : Option String := none
  key : Option String := none
  operator : Option String := none
  tolerationSeconds : Option IntegerField := none
  value : Option String := none
  deriving DecidableEq, Repr

def Toleration.codec : Codec Toleration := Fields.codec <|
  Toleration.mk <$> .optional "effect" .text (·.effect)
    <*> .optional "key" .text (·.key)
    <*> .optional "operator" .text (·.operator)
    <*> .optional "tolerationSeconds" .integer (·.tolerationSeconds)
    <*> .optional "value" .text (·.value)

/-- What a pod runs, and where. -/
structure PodSpec where
  containers : List (Option Container)
  hostNetwork : Option Bool := none
  imagePullSecrets : Option (List (Option LocalReference)) := none
  initContainers : Option (List (Option Container)) := none
  nodeSelector : Option TextMap := none
  restartPolicy : Option String := none
  serviceAccountName : Option String := none
  terminationGracePeriodSeconds : Option IntegerField := none
  tolerations : Option (List (Option Toleration)) := none
  volumes : Option (List (Option Volume)) := none
  others : Entries := []
  deriving DecidableEq, Repr

/-- The fields of pod specifications that nothing reads. -/
def PodSpec.otherNames : List String :=
  ["activeDeadlineSeconds", "affinity", "automountServiceAccountToken", "dnsConfig", "dnsPolicy",
    "enableServiceLinks", "ephemeralContainers", "hostAliases", "hostIPC", "hostPID", "hostUsers",
    "hostname", "hostnameOverride", "nodeName", "os", "overhead", "preemptionPolicy", "priority",
    "priorityClassName", "readinessGates", "resourceClaims", "resources", "runtimeClassName",
    "schedulerName", "schedulingGates", "schedulingGroup", "securityContext", "serviceAccount",
    "setHostnameAsFQDN", "shareProcessNamespace", "subdomain", "topologySpreadConstraints"]

def PodSpec.codec : Codec PodSpec := Fields.codec <|
  PodSpec.mk <$> .required "containers" "containers" (.listOf Container.codec) (·.containers)
    <*> .optional "hostNetwork" .flag (·.hostNetwork)
    <*> .optional "imagePullSecrets" (.listOf LocalReference.codec) (·.imagePullSecrets)
    <*> .optional "initContainers" (.listOf Container.codec) (·.initContainers)
    <*> .optional "nodeSelector" .textMap (·.nodeSelector)
    <*> .optional "restartPolicy" .text (·.restartPolicy)
    <*> .optional "serviceAccountName" .text (·.serviceAccountName)
    <*> .optional "terminationGracePeriodSeconds" .integer (·.terminationGracePeriodSeconds)
    <*> .optional "tolerations" (.listOf Toleration.codec) (·.tolerations)
    <*> .optional "volumes" (.listOf Volume.codec) (·.volumes)
    <*> .others otherNames (·.others)

/-! ## Status -/

/-- A container that runs. -/
structure RunningState where
  deriving DecidableEq, Repr

/-- The codec of running states, which have no fields of interest. -/
def RunningState.codec : Codec RunningState where
  read _ := .ok {}
  write _ := .map []

/-- A container that has ended. -/
structure TerminatedState where
  exitCode : IntegerField
  message : Option String := none
  reason : Option String := none
  deriving DecidableEq, Repr

def TerminatedState.codec : Codec TerminatedState := Fields.codec <|
  TerminatedState.mk <$> .required "exitCode" "exit_code" .integer (·.exitCode)
    <*> .optional "message" .text (·.message)
    <*> .optional "reason" .text (·.reason)

/-- A container that waits. -/
structure WaitingState where
  message : Option String := none
  reason : Option String := none
  deriving DecidableEq, Repr

def WaitingState.codec : Codec WaitingState := Fields.codec <|
  WaitingState.mk <$> .optional "message" .text (·.message)
    <*> .optional "reason" .text (·.reason)

/-- What a container does. -/
structure ContainerState where
  running : Option RunningState := none
  terminated : Option TerminatedState := none
  waiting : Option WaitingState := none
  deriving DecidableEq, Repr

def ContainerState.codec : Codec ContainerState := Fields.codec <|
  ContainerState.mk <$> .optional "running" RunningState.codec (·.running)
    <*> .optional "terminated" TerminatedState.codec (·.terminated)
    <*> .optional "waiting" WaitingState.codec (·.waiting)

/-- The observed status of a container. -/
structure ContainerStatus where
  image : String
  imageID : String
  name : String
  ready : Bool
  restartCount : IntegerField
  state : Option ContainerState := none
  deriving DecidableEq, Repr

def ContainerStatus.codec : Codec ContainerStatus := Fields.codec <|
  ContainerStatus.mk <$> .required "image" "image" .text (·.image)
    <*> .required "imageID" "image_id" .text (·.imageID)
    <*> .required "name" "name" .text (·.name)
    <*> .required "ready" "ready" .flag (·.ready)
    <*> .required "restartCount" "restart_count" .integer (·.restartCount)
    <*> .optional "state" ContainerState.codec (·.state)

/-- The observed status of a pod. -/
structure PodStatus where
  containerStatuses : Option (List (Option ContainerStatus)) := none
  initContainerStatuses : Option (List (Option ContainerStatus)) := none
  message : Option String := none
  phase : Option String := none
  reason : Option String := none
  deriving DecidableEq, Repr

def PodStatus.codec : Codec PodStatus := Fields.codec <|
  PodStatus.mk <$> .optional "containerStatuses" (.listOf ContainerStatus.codec)
      (·.containerStatuses)
    <*> .optional "initContainerStatuses" (.listOf ContainerStatus.codec)
      (·.initContainerStatuses)
    <*> .optional "message" .text (·.message)
    <*> .optional "phase" .text (·.phase)
    <*> .optional "reason" .text (·.reason)

/-! ## Pods -/

/-- A pod. -/
structure Pod where
  apiVersion : Option String := none
  kind : Option String := none
  metadata : Option ObjectMeta := none
  spec : Option PodSpec := none
  status : Option PodStatus := none
  deriving DecidableEq, Repr, Inhabited

def Pod.codec : Codec Pod := Fields.codec <|
  Pod.mk <$> .optional "apiVersion" .text (·.apiVersion)
    <*> .optional "kind" .text (·.kind)
    <*> .optional "metadata" ObjectMeta.codec (·.metadata)
    <*> .optional "spec" PodSpec.codec (·.spec)
    <*> .optional "status" PodStatus.codec (·.status)

end FlinkCluster.Kubernetes
