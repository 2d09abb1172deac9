import FlinkCluster.Kubernetes.Resource
import FlinkCluster.Parameters
import FlinkCluster.PodDraft

/-!
# Volumes and resources of the steps

The names of the volumes that the mount steps add, which no secret may take, and the parts that the
steps share: metadata of accompanying resources, config maps and their volumes.
-/

set_option autoImplicit false

namespace FlinkCluster.Step

open Kubernetes

/-! ## Names -/

/-- The volume of the Hadoop configuration. -/
def hadoopVolume : String := "hadoop-config-volume"

/-- The volume of the Kerberos keytab. -/
def keytabVolume : String := "kerberos-keytab-volume"

/-- The volume of the Kerberos configuration. -/
def kerberosVolume : String := "kerberos-krb5conf-volume"

/-- The volume of the cluster's configuration. -/
def flinkVolume : String := "flink-config-volume"

/-- The volume of the user's libraries. -/
def userLibVolume : String := "user-lib-dir"

/-- The volume names that secrets may not take. -/
def reservedVolumes : List String :=
  [hadoopVolume, keytabVolume, kerberosVolume, flinkVolume, userLibVolume]

/-! ## Resources -/

/-- Metadata of a resource of the cluster; empty annotations are left out. -/
def ownedMetadata (p : Parameters) (name : String) (annotations : Table String := Table.empty) :
    Outcome ObjectMeta := do
  return {
    name := some name
    namespaceName := some (← p.namespaceName)
    labels := some (ofTexts p.commonLabels)
    annotations := if annotations.isEmpty then none else some (ofTexts annotations) }

/-- A config map of the cluster. -/
def configMap (p : Parameters) (name : String) (data : Table String) : Outcome Resource := do
  return .configMap {
    apiVersion := some "v1"
    kind := some "ConfigMap"
    metadata := some (← ownedMetadata p name)
    data := some (ofTexts data) }

/-- A volume with the given keys of a config map, each as the file of its name. -/
def configMapVolume (volume configMap : String) (keys : List String) : Volume where
  name := volume
  configMap := some {
    name := some configMap
    items :=
      if keys.isEmpty then none else some (keys.map fun k => some { key := k, path := k }) }

end FlinkCluster.Step
