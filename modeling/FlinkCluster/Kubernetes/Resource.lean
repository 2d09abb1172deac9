import FlinkCluster.Kubernetes.Workload

/-!
# Resources

Services, config maps and secrets, and `Resource`, an object of any kind that a cluster consists of.
-/

set_option autoImplicit false

namespace FlinkCluster.Kubernetes

/-! ## Services -/

/-- A port of a service. -/
structure ServicePort where
  name : Option String := none
  port : IntegerField
  protocol : Option String := none
  targetPort : Option Value := none
  deriving DecidableEq, Repr

def ServicePort.codec : Codec ServicePort := Fields.codec <|
  ServicePort.mk <$> .optional "name" .text (·.name)
    <*> .required "port" "port" .integer (·.port)
    <*> .optional "protocol" .text (·.protocol)
    <*> .optional "targetPort" .any (·.targetPort)

/-- What a service offers, and by which pods. -/
structure ServiceSpec where
  clusterIP : Option String := none
  ports : Option (List (Option ServicePort)) := none
  selector : Option TextMap := none
  type : Option String := none
  deriving DecidableEq, Repr

def ServiceSpec.codec : Codec ServiceSpec := Fields.codec <|
  ServiceSpec.mk <$> .optional "clusterIP" .text (·.clusterIP)
    <*> .optional "ports" (.listOf ServicePort.codec) (·.ports)
    <*> .optional "selector" .textMap (·.selector)
    <*> .optional "type" .text (·.type)

/-- A service. -/
structure Service where
  apiVersion : Option String := none
  kind : Option String := none
  metadata : Option ObjectMeta := none
  spec : Option ServiceSpec := none
  deriving DecidableEq, Repr

def Service.codec : Codec Service := Fields.codec <|
  Service.mk <$> .optional "apiVersion" .text (·.apiVersion)
    <*> .optional "kind" .text (·.kind)
    <*> .optional "metadata" ObjectMeta.codec (·.metadata)
    <*> .optional "spec" ServiceSpec.codec (·.spec)

/-! ## Config maps and secrets -/

/-- A config map. -/
structure ConfigMap where
  apiVersion : Option String := none
  data : Option TextMap := none
  kind : Option String := none
  metadata : Option ObjectMeta := none
  deriving DecidableEq, Repr

def ConfigMap.codec : Codec ConfigMap := Fields.codec <|
  ConfigMap.mk <$> .optional "apiVersion" .text (·.apiVersion)
    <*> .optional "data" .textMap (·.data)
    <*> .optional "kind" .text (·.kind)
    <*> .optional "metadata" ObjectMeta.codec (·.metadata)

/-- A secret; its data are in base 64. -/
structure Secret where
  apiVersion : Option String := none
  data : Option TextMap := none
  kind : Option String := none
  metadata : Option ObjectMeta := none
  type : Option String := none
  deriving DecidableEq, Repr

def Secret.codec : Codec Secret := Fields.codec <|
  Secret.mk <$> .optional "apiVersion" .text (·.apiVersion)
    <*> .optional "data" .textMap (·.data)
    <*> .optional "kind" .text (·.kind)
    <*> .optional "metadata" ObjectMeta.codec (·.metadata)
    <*> .optional "type" .text (·.type)

/-! ## Resources of any kind -/

/-- The kinds of objects that a cluster consists of. -/
inductive ObjectKind where
  | statefulSet
  | service
  | configMap
  | secret
  | pod
  deriving DecidableEq, Repr

/-- The word for a kind in the names of API operations. -/
def ObjectKind.word : ObjectKind → String
  | .statefulSet => "stateful_set"
  | .service => "service"
  | .configMap => "config_map"
  | .secret => "secret"
  | .pod => "pod"

/-- The model that describes objects of a kind. -/
def ObjectKind.model : ObjectKind → String
  | .statefulSet => "V1StatefulSet"
  | .service => "V1Service"
  | .configMap => "V1ConfigMap"
  | .secret => "V1Secret"
  | .pod => "V1Pod"

/-- An object of one of the kinds. -/
inductive Resource where
  | statefulSet (body : StatefulSet)
  | service (body : Service)
  | configMap (body : ConfigMap)
  | secret (body : Secret)
  | pod (body : Pod)
  deriving DecidableEq, Repr

namespace Resource

/-- The kind of an object. -/
def kind : Resource → ObjectKind
  | .statefulSet _ => .statefulSet
  | .service _ => .service
  | .configMap _ => .configMap
  | .secret _ => .secret
  | .pod _ => .pod

/-- The metadata of an object, if it has any. -/
def metadata? : Resource → Option ObjectMeta
  | .statefulSet b => b.metadata
  | .service b => b.metadata
  | .configMap b => b.metadata
  | .secret b => b.metadata
  | .pod b => b.metadata

/-- The metadata of an object, empty if it has none. -/
def metadata (r : Resource) : ObjectMeta := r.metadata?.getD {}

/-- The object with other metadata. -/
def withMetadata (m : ObjectMeta) : Resource → Resource
  | .statefulSet b => .statefulSet { b with metadata := some m }
  | .service b => .service { b with metadata := some m }
  | .configMap b => .configMap { b with metadata := some m }
  | .secret b => .secret { b with metadata := some m }
  | .pod b => .pod { b with metadata := some m }

/-- The name of an object. -/
def name (r : Resource) : String := r.metadata.name.getD ""

/-- The object as data. -/
def write : Resource → Value
  | .statefulSet b => StatefulSet.codec.write b
  | .service b => Service.codec.write b
  | .configMap b => ConfigMap.codec.write b
  | .secret b => Secret.codec.write b
  | .pod b => Pod.codec.write b

/-- Reads an object of a kind. -/
def read : ObjectKind → Value → Outcome Resource
  | .statefulSet, v => (StatefulSet.codec.read v).map .statefulSet
  | .service, v => (Service.codec.read v).map .service
  | .configMap, v => (ConfigMap.codec.read v).map .configMap
  | .secret, v => (Secret.codec.read v).map .secret
  | .pod, v => (Pod.codec.read v).map .pod

@[simp] theorem kind_withMetadata (m : ObjectMeta) (r : Resource) :
    (r.withMetadata m).kind = r.kind := by cases r <;> rfl

@[simp] theorem metadata_withMetadata (m : ObjectMeta) (r : Resource) :
    (r.withMetadata m).metadata = m := by cases r <;> rfl

end Resource

end FlinkCluster.Kubernetes
