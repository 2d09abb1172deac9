import FlinkCluster.Kubernetes.Metadata

/-!
# Volumes

The volumes of a pod and their sources.
-/

set_option autoImplicit false

namespace FlinkCluster.Kubernetes

/-- A key of a config map or secret and the path of its file. -/
structure KeyToPath where
  key : String
  mode : Option IntegerField := none
  path : String
  deriving DecidableEq, Repr

def KeyToPath.codec : Codec KeyToPath := Fields.codec <|
  KeyToPath.mk <$> .required "key" "key" .text (·.key)
    <*> .optional "mode" .integer (·.mode)
    <*> .required "path" "path" .text (·.path)

/-- A config map as a volume. -/
structure ConfigMapVolumeSource where
  defaultMode : Option IntegerField := none
  items : Option (List (Option KeyToPath)) := none
  name : Option String := none
  optional : Option Bool := none
  deriving DecidableEq, Repr

def ConfigMapVolumeSource.codec : Codec ConfigMapVolumeSource := Fields.codec <|
  ConfigMapVolumeSource.mk <$> .optional "defaultMode" .integer (·.defaultMode)
    <*> .optional "items" (.listOf KeyToPath.codec) (·.items)
    <*> .optional "name" .text (·.name)
    <*> .optional "optional" .flag (·.optional)

/-- An empty directory as a volume. -/
structure EmptyDirVolumeSource where
  medium : Option String := none
  sizeLimit : Option String := none
  deriving DecidableEq, Repr

def EmptyDirVolumeSource.codec : Codec EmptyDirVolumeSource := Fields.codec <|
  EmptyDirVolumeSource.mk <$> .optional "medium" .text (·.medium)
    <*> .optional "sizeLimit" .text (·.sizeLimit)

/-- A path of the node as a volume. -/
structure HostPathVolumeSource where
  path : String
  type : Option String := none
  deriving DecidableEq, Repr

def HostPathVolumeSource.codec : Codec HostPathVolumeSource := Fields.codec <|
  HostPathVolumeSource.mk <$> .required "path" "path" .text (·.path)
    <*> .optional "type" .text (·.type)

/-- A claimed volume. -/
structure ClaimVolumeSource where
  claimName : String
  readOnly : Option Bool := none
  deriving DecidableEq, Repr

def ClaimVolumeSource.codec : Codec ClaimVolumeSource := Fields.codec <|
  ClaimVolumeSource.mk <$> .required "claimName" "claim_name" .text (·.claimName)
    <*> .optional "readOnly" .flag (·.readOnly)

/-- A secret as a volume. -/
structure SecretVolumeSource where
  defaultMode : Option IntegerField := none
  items : Option (List (Option KeyToPath)) := none
  optional : Option Bool := none
  secretName : Option String := none
  deriving DecidableEq, Repr

def SecretVolumeSource.codec : Codec SecretVolumeSource := Fields.codec <|
  SecretVolumeSource.mk <$> .optional "defaultMode" .integer (·.defaultMode)
    <*> .optional "items" (.listOf KeyToPath.codec) (·.items)
    <*> .optional "optional" .flag (·.optional)
    <*> .optional "secretName" .text (·.secretName)

/-- A volume of a pod. -/
structure Volume where
  configMap : Option ConfigMapVolumeSource := none
  emptyDir : Option EmptyDirVolumeSource := none
  hostPath : Option HostPathVolumeSource := none
  name : String
  persistentVolumeClaim : Option ClaimVolumeSource := none
  secret : Option SecretVolumeSource := none
  others : Entries := []
  deriving DecidableEq, Repr

/-- The sources of volumes that nothing reads. -/
def Volume.otherNames : List String :=
  ["awsElasticBlockStore", "azureDisk", "azureFile", "cephfs", "cinder", "csi", "downwardAPI",
    "ephemeral", "fc", "flexVolume", "flocker", "gcePersistentDisk", "gitRepo", "glusterfs",
    "image", "iscsi", "nfs", "photonPersistentDisk", "portworxVolume", "projected", "quobyte",
    "rbd", "scaleIO", "storageos", "vsphereVolume"]

def Volume.codec : Codec Volume := Fields.codec <|
  Volume.mk <$> .optional "configMap" ConfigMapVolumeSource.codec (·.configMap)
    <*> .optional "emptyDir" EmptyDirVolumeSource.codec (·.emptyDir)
    <*> .optional "hostPath" HostPathVolumeSource.codec (·.hostPath)
    <*> .required "name" "name" .text (·.name)
    <*> .optional "persistentVolumeClaim" ClaimVolumeSource.codec (·.persistentVolumeClaim)
    <*> .optional "secret" SecretVolumeSource.codec (·.secret)
    <*> .others otherNames (·.others)

end FlinkCluster.Kubernetes
