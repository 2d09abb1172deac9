import FlinkCluster.Step.Volumes
import FlinkCluster.Text.Base64

/-!
# The mount steps

Configuration files in the main container. The Hadoop configuration is a config map that the user
names, or one made of the host's files. The Kerberos keytab is shipped in a secret and its
configuration in a config map. The cluster's own configuration is rendered into a config map
together with the host's logging files. Applications get a directory for the user's libraries.
-/

set_option autoImplicit false

namespace FlinkCluster.Step

open Kubernetes

/-! ## Hadoop -/

/-- The directory of the Hadoop configuration in the pod. -/
def hadoopDirInPod : String := "/opt/hadoop/conf"

/-- The files of the host's Hadoop configuration that are shipped. -/
def hadoopFileNames : List String := ["core-site.xml", "hdfs-site.xml"]

/-- The host's Hadoop files. -/
def hadoopFiles (p : Parameters) (host : Host) : Outcome (Table String) :=
  match host.hadoopDir? with
  | some dir => host.readTexts dir hadoopFileNames Host.hadoopVariable p.clusterId
  | none => .ok .empty

/-- The config map that the user names. -/
def namedHadoopMap? (p : Parameters) : Outcome (Option String) :=
  p.hadoopConfigMap.map (·.filter (· ≠ ""))

/-- The config map that is mounted, if any. -/
def hadoopMap? (p : Parameters) (host : Host) : Outcome (Option String) := do
  match ← namedHadoopMap? p with
  | some name => return some name
  | none =>
    let files ← hadoopFiles p host
    return if files.isEmpty then none else some (Naming.hadoopConfigMap p.clusterId)

/-- Mounts the Hadoop configuration. -/
def mountHadoop (p : Parameters) (host : Host) (draft : PodDraft) : Outcome PodDraft := do
  match ← hadoopMap? p host with
  | none => return draft
  | some name =>
    let volume : Volume := { name := hadoopVolume, configMap := some { name := some name } }
    let draft ← draft.addVolumes [volume] Options.hadoopConfigMap.key p.clusterId
    let draft := draft.withMain (·.addMounts
      [{ name := hadoopVolume, mountPath := hadoopDirInPod }])
    draft.addEnv [{ name := Host.hadoopVariable, value := some hadoopDirInPod }]

/-- The config map of the host's Hadoop files, unless the user names one. -/
def hadoopResources (p : Parameters) (host : Host) : Outcome (List Resource) := do
  match ← namedHadoopMap? p with
  | some _ => return []
  | none =>
    let files ← hadoopFiles p host
    if files.isEmpty then return []
    else return [← configMap p (Naming.hadoopConfigMap p.clusterId) files]

/-! ## Kerberos -/

/-- The directory of the keytab in the pod. -/
def keytabDirInPod : String := "/opt/kerberos/kerberos-keytab"

/-- The Kerberos configuration in the pod. -/
def kerberosFileInPod : String := "/etc/krb5.conf"

/-- The keytab file, if it is named together with a principal. -/
def keytab? (p : Parameters) : Outcome (Option String) := do
  let keytab := (← p.kerberosKeytab).filter (· ≠ "")
  let principal := (← p.kerberosPrincipal).filter (· ≠ "")
  return if principal.isSome then keytab else none

/-- The Kerberos configuration file. -/
def kerberosFile? (p : Parameters) : Outcome (Option String) :=
  p.kerberosConfigFile.map (·.filter (· ≠ ""))

/-- Mounts the keytab. -/
def mountKeytab (p : Parameters) (draft : PodDraft) : Outcome PodDraft := do
  match ← keytab? p with
  | none => return draft
  | some _ =>
    let volume : Volume :=
      { name := keytabVolume
        secret := some { secretName := some (Naming.keytabSecret p.clusterId) } }
    let draft ← draft.addVolumes [volume] Options.kerberosKeytab.key p.clusterId
    return draft.withMain (·.addMounts [{ name := keytabVolume, mountPath := keytabDirInPod }])

/-- Mounts the Kerberos configuration. -/
def mountKerberosFile (p : Parameters) (draft : PodDraft) : Outcome PodDraft := do
  match ← kerberosFile? p with
  | none => return draft
  | some path =>
    let name := Text.baseName path
    let volume := configMapVolume kerberosVolume (Naming.kerberosConfigMap p.clusterId) [name]
    let draft ← draft.addVolumes [volume] Options.kerberosConfigFile.key p.clusterId
    return draft.withMain (·.addMounts
      [{ name := kerberosVolume, mountPath := kerberosFileInPod, subPath := some name }])

/-- Mounts the keytab and the Kerberos configuration. -/
def mountKerberos (p : Parameters) (draft : PodDraft) : Outcome PodDraft := do
  mountKerberosFile p (← mountKeytab p draft)

/-- The secret with the keytab. -/
def keytabResources (p : Parameters) (host : Host) : Outcome (List Resource) := do
  match ← keytab? p with
  | none => return []
  | some path =>
    let bytes ← host.readBytes path (.unreadableKeytab path) Options.kerberosKeytab.key p.clusterId
    return [.secret {
      apiVersion := some "v1"
      kind := some "Secret"
      metadata := some (← ownedMetadata p (Naming.keytabSecret p.clusterId))
      data := some (ofTexts (.ofEntries [(Text.baseName path, Text.Base64.encode bytes)]))
      type := some "Opaque" }]

/-- The config map with the Kerberos configuration. -/
def kerberosFileResources (p : Parameters) (host : Host) : Outcome (List Resource) := do
  match ← kerberosFile? p with
  | none => return []
  | some path =>
    let text ← host.readText path Options.kerberosConfigFile.key p.clusterId
    return [← configMap p (Naming.kerberosConfigMap p.clusterId)
      (.ofEntries [(Text.baseName path, text)])]

/-- The secret and the config map for Kerberos. -/
def kerberosResources (p : Parameters) (host : Host) : Outcome (List Resource) := do
  let keytab ← keytabResources p host
  return keytab ++ (← kerberosFileResources p host)

/-! ## The cluster's configuration -/

/-- The file of the cluster's configuration. -/
def flinkFileName : String := "flink-conf.yaml"

/-- The host's logging files that are shipped. -/
def loggingFileNames : List String := ["log4j-console.properties", "logback-console.xml"]

/-- The configuration as the processes in the pods see it: without the directory in which it is
mounted, with the address of the job manager unless they find it through high availability, and
with the keytab's path in the pod. -/
def podConfiguration (p : Parameters) : Outcome Configuration := do
  let conf := p.conf.erase Options.flinkConfDir.key
  let conf ←
    if ← p.highAvailability then pure conf
    else do pure (conf.setText Options.jobManagerRpcAddress.key (← p.jobManagerAddress))
  match ← keytab? p with
  | some path =>
    return conf.setText Options.kerberosKeytab.key
      (keytabDirInPod ++ "/" ++ Text.baseName path)
  | none => return conf

/-- A configuration as text: a line `key: value` per entry, in the order of the keys. -/
def renderConfiguration (conf : Configuration) : String :=
  Text.join "" (conf.table.sorted.map fun (k, v) => k ++ ": " ++ v ++ "\n")

/-- The files of the cluster's config map. -/
def flinkFiles (p : Parameters) (host : Host) : Outcome (Table String) := do
  let logging ← match host.loggingDir? with
    | some dir => host.readTexts dir loggingFileNames Host.loggingVariable p.clusterId
    | none => pure .empty
  return logging.set flinkFileName (renderConfiguration (← podConfiguration p))

/-- Mounts the cluster's configuration. -/
def mountFlinkConf (p : Parameters) (host : Host) (draft : PodDraft) : Outcome PodDraft := do
  let keys := (← flinkFiles p host).sorted.map Prod.fst
  let volume := configMapVolume flinkVolume (Naming.flinkConfigMap p.clusterId) keys
  let draft ← draft.addVolumes [volume] Options.flinkConfDir.key p.clusterId
  let dir ← p.flinkConfDir
  return draft.withMain (·.addMounts [{ name := flinkVolume, mountPath := dir }])

/-- The config map with the cluster's configuration. -/
def flinkConfResources (p : Parameters) (host : Host) : Outcome (List Resource) := do
  return [← configMap p (Naming.flinkConfigMap p.clusterId) (← flinkFiles p host)]

/-! ## The user's libraries -/

/-- The directory of the user's libraries in the pod. -/
def userLibDir : String := "/opt/flink/usrlib"

/-- Gives applications an empty directory for libraries, unless something is mounted there. -/
def mountUserLib (p : Parameters) (draft : PodDraft) : Outcome PodDraft := do
  if ← p.isApplication then
    let mounts ← demandAll "mount_path" (draft.main.volumeMounts.getD [])
    if mounts.any (·.mountPath == userLibDir) then return draft
    else
      let volume : Volume := { name := userLibVolume, emptyDir := some {} }
      let draft ← draft.addVolumes [volume] Options.clusterMode.key p.clusterId
      return draft.withMain (·.addMounts [{ name := userLibVolume, mountPath := userLibDir }])
  else return draft

end FlinkCluster.Step
