import FlinkCluster.Kubernetes.Pod

/-!
# Stateful sets

The workload that keeps a number of pods with stable names, and the volume claims of its pods.
-/

set_option autoImplicit false

namespace FlinkCluster.Kubernetes

/-! ## Volume claims -/

/-- What a volume claim asks for. -/
structure ClaimSpec where
  accessModes : Option (List (Option String)) := none
  resources : Option ResourceRequirements := none
  storageClassName : Option String := none
  volumeName : Option String := none
  deriving DecidableEq, Repr

def ClaimSpec.codec : Codec ClaimSpec := Fields.codec <|
  ClaimSpec.mk <$> .optional "accessModes" (.listOf .text) (·.accessModes)
    <*> .optional "resources" ResourceRequirements.claimCodec (·.resources)
    <*> .optional "storageClassName" .text (·.storageClassName)
    <*> .optional "volumeName" .text (·.volumeName)

/-- A claim to a persistent volume. -/
structure VolumeClaim where
  apiVersion : Option String := none
  kind : Option String := none
  metadata : Option ObjectMeta := none
  spec : Option ClaimSpec := none
  deriving DecidableEq, Repr

def VolumeClaim.codec : Codec VolumeClaim := Fields.codec <|
  VolumeClaim.mk <$> .optional "apiVersion" .text (·.apiVersion)
    <*> .optional "kind" .text (·.kind)
    <*> .optional "metadata" ObjectMeta.codec (·.metadata)
    <*> .optional "spec" ClaimSpec.codec (·.spec)

/-! ## Stateful sets -/

/-- The labels of the pods that belong to a workload. -/
structure LabelSelector where
  matchLabels : Option TextMap := none
  deriving DecidableEq, Repr

def LabelSelector.codec : Codec LabelSelector := Fields.codec <|
  LabelSelector.mk <$> .optional "matchLabels" .textMap (·.matchLabels)

/-- The pods of a workload. -/
structure PodTemplate where
  metadata : Option ObjectMeta := none
  spec : Option PodSpec := none
  deriving DecidableEq, Repr

def PodTemplate.codec : Codec PodTemplate := Fields.codec <|
  PodTemplate.mk <$> .optional "metadata" ObjectMeta.codec (·.metadata)
    <*> .optional "spec" PodSpec.codec (·.spec)

/-- What a stateful set keeps running. -/
structure StatefulSetSpec where
  replicas : Option IntegerField := none
  selector : LabelSelector
  serviceName : Option String := none
  template : PodTemplate
  volumeClaimTemplates : Option (List (Option VolumeClaim)) := none
  deriving DecidableEq, Repr

def StatefulSetSpec.codec : Codec StatefulSetSpec := Fields.codec <|
  StatefulSetSpec.mk <$> .optional "replicas" .integer (·.replicas)
    <*> .required "selector" "selector" LabelSelector.codec (·.selector)
    <*> .optional "serviceName" .text (·.serviceName)
    <*> .required "template" "template" PodTemplate.codec (·.template)
    <*> .optional "volumeClaimTemplates" (.listOf VolumeClaim.codec) (·.volumeClaimTemplates)

/-- A condition that holds of a stateful set or not. -/
structure Condition where
  message : Option String := none
  reason : Option String := none
  status : String
  type : String
  deriving DecidableEq, Repr

def Condition.codec : Codec Condition := Fields.codec <|
  Condition.mk <$> .optional "message" .text (·.message)
    <*> .optional "reason" .text (·.reason)
    <*> .required "status" "status" .text (·.status)
    <*> .required "type" "type" .text (·.type)

/-- The observed status of a stateful set. -/
structure StatefulSetStatus where
  conditions : Option (List (Option Condition)) := none
  currentReplicas : Option IntegerField := none
  readyReplicas : Option IntegerField := none
  replicas : IntegerField
  deriving DecidableEq, Repr

def StatefulSetStatus.codec : Codec StatefulSetStatus := Fields.codec <|
  StatefulSetStatus.mk <$> .optional "conditions" (.listOf Condition.codec) (·.conditions)
    <*> .optional "currentReplicas" .integer (·.currentReplicas)
    <*> .optional "readyReplicas" .integer (·.readyReplicas)
    <*> .required "replicas" "replicas" .integer (·.replicas)

/-- A stateful set. -/
structure StatefulSet where
  apiVersion : Option String := none
  kind : Option String := none
  metadata : Option ObjectMeta := none
  spec : Option StatefulSetSpec := none
  status : Option StatefulSetStatus := none
  deriving DecidableEq, Repr, Inhabited

def StatefulSet.codec : Codec StatefulSet := Fields.codec <|
  StatefulSet.mk <$> .optional "apiVersion" .text (·.apiVersion)
    <*> .optional "kind" .text (·.kind)
    <*> .optional "metadata" ObjectMeta.codec (·.metadata)
    <*> .optional "spec" StatefulSetSpec.codec (·.spec)
    <*> .optional "status" StatefulSetStatus.codec (·.status)

end FlinkCluster.Kubernetes
