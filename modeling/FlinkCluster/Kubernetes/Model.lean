import FlinkCluster.Kubernetes.Resource

/-!
# Models by name

The models of Kubernetes objects and their parts, by the names under which the API describes them.
`normalize?` brings a manifest into the normal form of a named model: typed fields in their order, and
nothing else.
-/

set_option autoImplicit false

namespace FlinkCluster.Kubernetes.Model

/-- The models with their normal forms. -/
def normalForms : List (String × (Value → Outcome Value)) :=
  [("V1ConfigMap", ConfigMap.codec.normalize),
    ("V1ConfigMapKeySelector", KeySelector.codec.normalize),
    ("V1ConfigMapVolumeSource", ConfigMapVolumeSource.codec.normalize),
    ("V1Container", Container.codec.normalize),
    ("V1ContainerPort", ContainerPort.codec.normalize),
    ("V1ContainerState", ContainerState.codec.normalize),
    ("V1ContainerStateRunning", RunningState.codec.normalize),
    ("V1ContainerStateTerminated", TerminatedState.codec.normalize),
    ("V1ContainerStateWaiting", WaitingState.codec.normalize),
    ("V1ContainerStatus", ContainerStatus.codec.normalize),
    ("V1EmptyDirVolumeSource", EmptyDirVolumeSource.codec.normalize),
    ("V1EnvVar", EnvVar.codec.normalize),
    ("V1EnvVarSource", EnvVarSource.codec.normalize),
    ("V1HostPathVolumeSource", HostPathVolumeSource.codec.normalize),
    ("V1KeyToPath", KeyToPath.codec.normalize),
    ("V1LabelSelector", LabelSelector.codec.normalize),
    ("V1LocalObjectReference", LocalReference.codec.normalize),
    ("V1ObjectFieldSelector", FieldSelector.codec.normalize),
    ("V1ObjectMeta", ObjectMeta.codec.normalize),
    ("V1OwnerReference", OwnerReference.codec.normalize),
    ("V1PersistentVolumeClaim", VolumeClaim.codec.normalize),
    ("V1PersistentVolumeClaimSpec", ClaimSpec.codec.normalize),
    ("V1PersistentVolumeClaimVolumeSource", ClaimVolumeSource.codec.normalize),
    ("V1Pod", Pod.codec.normalize),
    ("V1PodSpec", PodSpec.codec.normalize),
    ("V1PodStatus", PodStatus.codec.normalize),
    ("V1PodTemplateSpec", PodTemplate.codec.normalize),
    ("V1ResourceRequirements", ResourceRequirements.codec.normalize),
    ("V1Secret", Secret.codec.normalize),
    ("V1SecretKeySelector", KeySelector.codec.normalize),
    ("V1SecretVolumeSource", SecretVolumeSource.codec.normalize),
    ("V1Service", Service.codec.normalize),
    ("V1ServicePort", ServicePort.codec.normalize),
    ("V1ServiceSpec", ServiceSpec.codec.normalize),
    ("V1StatefulSet", StatefulSet.codec.normalize),
    ("V1StatefulSetCondition", Condition.codec.normalize),
    ("V1StatefulSetSpec", StatefulSetSpec.codec.normalize),
    ("V1StatefulSetStatus", StatefulSetStatus.codec.normalize),
    ("V1Toleration", Toleration.codec.normalize),
    ("V1Volume", Volume.codec.normalize),
    ("V1VolumeMount", VolumeMount.codec.normalize),
    ("V1VolumeResourceRequirements", ResourceRequirements.claimCodec.normalize)]

/-- The normal form of a manifest as a named model, if there is such a model; null stays null. -/
def normalize? (model : String) (manifest : Value) : Option (Outcome Value) :=
  (normalForms.lookup model).map fun normalize =>
    if manifest = .null then .ok .null else normalize manifest

end FlinkCluster.Kubernetes.Model
