import FlinkCluster.Kubernetes.Metadata

/-!
# Containers

Containers with their environment variables, ports, resources and mounts.
-/

set_option autoImplicit false

namespace FlinkCluster.Kubernetes

/-! ## Environment variables -/

/-- A field of the pod as a source. -/
structure FieldSelector where
  apiVersion : Option String := none
  fieldPath : String
  deriving DecidableEq, Repr

def FieldSelector.codec : Codec FieldSelector := Fields.codec <|
  FieldSelector.mk <$> .optional "apiVersion" .text (·.apiVersion)
    <*> .required "fieldPath" "field_path" .text (·.fieldPath)

/-- A key of a secret or of a config map as a source. -/
structure KeySelector where
  key : String
  name : Option String := none
  optional : Option Bool := none
  deriving DecidableEq, Repr

def KeySelector.codec : Codec KeySelector := Fields.codec <|
  KeySelector.mk <$> .required "key" "key" .text (·.key)
    <*> .optional "name" .text (·.name)
    <*> .optional "optional" .flag (·.optional)

/-- Where the value of a variable comes from. -/
structure EnvVarSource where
  configMapKeyRef : Option KeySelector := none
  fieldRef : Option FieldSelector := none
  secretKeyRef : Option KeySelector := none
  others : Entries := []
  deriving DecidableEq, Repr

def EnvVarSource.codec : Codec EnvVarSource := Fields.codec <|
  EnvVarSource.mk <$> .optional "configMapKeyRef" KeySelector.codec (·.configMapKeyRef)
    <*> .optional "fieldRef" FieldSelector.codec (·.fieldRef)
    <*> .optional "secretKeyRef" KeySelector.codec (·.secretKeyRef)
    <*> .others ["fileKeyRef", "resourceFieldRef"] (·.others)

/-- An environment variable. -/
structure EnvVar where
  name : String
  value : Option String := none
  valueFrom : Option EnvVarSource := none
  deriving DecidableEq, Repr

def EnvVar.codec : Codec EnvVar := Fields.codec <|
  EnvVar.mk <$> .required "name" "name" .text (·.name)
    <*> .optional "value" .text (·.value)
    <*> .optional "valueFrom" EnvVarSource.codec (·.valueFrom)

/-! ## Ports, resources and mounts -/

/-- A port of a container. -/
structure ContainerPort where
  containerPort : IntegerField
  hostIP : Option String := none
  hostPort : Option IntegerField := none
  name : Option String := none
  protocol : Option String := none
  deriving DecidableEq, Repr

def ContainerPort.codec : Codec ContainerPort := Fields.codec <|
  ContainerPort.mk <$> .required "containerPort" "container_port" .integer (·.containerPort)
    <*> .optional "hostIP" .text (·.hostIP)
    <*> .optional "hostPort" .integer (·.hostPort)
    <*> .optional "name" .text (·.name)
    <*> .optional "protocol" .text (·.protocol)

/-- Quantities that are asked for and not to be exceeded. -/
structure ResourceRequirements where
  limits : Option TextMap := none
  requests : Option TextMap := none
  others : Entries := []
  deriving DecidableEq, Repr

def ResourceRequirements.codecWith (otherNames : List String) : Codec ResourceRequirements :=
  Fields.codec <|
  ResourceRequirements.mk <$> .optional "limits" .textMap (·.limits)
    <*> .optional "requests" .textMap (·.requests)
    <*> .others otherNames (·.others)

def ResourceRequirements.codec : Codec ResourceRequirements := codecWith ["claims"]

/-- Volume claims make no further claims. -/
def ResourceRequirements.claimCodec : Codec ResourceRequirements := codecWith []

/-- Where a volume appears in a container. -/
structure VolumeMount where
  mountPath : String
  name : String
  readOnly : Option Bool := none
  subPath : Option String := none
  others : Entries := []
  deriving DecidableEq, Repr

def VolumeMount.codec : Codec VolumeMount := Fields.codec <|
  VolumeMount.mk <$> .required "mountPath" "mount_path" .text (·.mountPath)
    <*> .required "name" "name" .text (·.name)
    <*> .optional "readOnly" .flag (·.readOnly)
    <*> .optional "subPath" .text (·.subPath)
    <*> .others ["mountPropagation", "recursiveReadOnly", "subPathExpr"] (·.others)

/-! ## Containers -/

/-- A container. -/
structure Container where
  args : Option (List (Option String)) := none
  command : Option (List (Option String)) := none
  env : Option (List (Option EnvVar)) := none
  image : Option String := none
  imagePullPolicy : Option String := none
  name : String
  ports : Option (List (Option ContainerPort)) := none
  resources : Option ResourceRequirements := none
  volumeMounts : Option (List (Option VolumeMount)) := none
  workingDir : Option String := none
  others : Entries := []
  deriving DecidableEq, Repr

/-- The fields of containers that nothing reads. -/
def Container.otherNames : List String :=
  ["envFrom", "lifecycle", "livenessProbe", "readinessProbe", "resizePolicy", "restartPolicy",
    "restartPolicyRules", "securityContext", "startupProbe", "stdin", "stdinOnce",
    "terminationMessagePath", "terminationMessagePolicy", "tty", "volumeDevices"]

def Container.codec : Codec Container := Fields.codec <|
  Container.mk <$> .optional "args" (.listOf .text) (·.args)
    <*> .optional "command" (.listOf .text) (·.command)
    <*> .optional "env" (.listOf EnvVar.codec) (·.env)
    <*> .optional "image" .text (·.image)
    <*> .optional "imagePullPolicy" .text (·.imagePullPolicy)
    <*> .required "name" "name" .text (·.name)
    <*> .optional "ports" (.listOf ContainerPort.codec) (·.ports)
    <*> .optional "resources" ResourceRequirements.codec (·.resources)
    <*> .optional "volumeMounts" (.listOf VolumeMount.codec) (·.volumeMounts)
    <*> .optional "workingDir" .text (·.workingDir)
    <*> .others otherNames (·.others)

end FlinkCluster.Kubernetes
