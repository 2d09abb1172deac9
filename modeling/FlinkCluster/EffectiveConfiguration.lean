import FlinkCluster.Configuration
import FlinkCluster.Deployment
import FlinkCluster.Options

/-!
# Effective configurations

The configuration of a cluster has three layers: a base, the deployment's own entries on top of it,
and on top of both the settings that the structured fields of the deployment determine. A field
that is absent or an empty text determines nothing, except that an application without a main class
has none from below either. An integer of too many digits has no text, so that there is no
configuration with it.
-/

set_option autoImplicit false

namespace FlinkCluster.DeploymentSpec

/-! ## Settings that fields determine -/

/-- A setting with its value, as an entry. -/
def entry {k : Kind} (s : Setting k) (v : k.Carrier) : String × Value := (s.key, k.toValue v)

/-- The entry of a value that is given. -/
def entry? {k : Kind} (s : Setting k) (v : Option k.Carrier) : Entries :=
  v.toList.map (entry s)

/-- The text, unless it is absent or empty. -/
def nonEmpty (s : Option String) : Option String := s.filter (· ≠ "")

/-- The entries of the job, or those of a session without one. -/
def jobEntries (spec : DeploymentSpec) : Entries :=
  match spec.job with
  | none => [entry Options.clusterMode.toSetting (Choice.word ClusterMode.session)]
  | some job =>
    [entry Options.clusterMode.toSetting (Choice.word ClusterMode.application),
      entry Options.defaultParallelism.toSetting job.parallelism]
    ++ entry? Options.pipelineJars.toSetting ((nonEmpty job.jarUri).map ([·]))
    ++ entry? Options.mainClass (nonEmpty job.entryClass)
    ++ [entry Options.programArgs.toSetting job.args]
    ++ entry? Options.savepointPath (nonEmpty job.initialSavepointPath)
    ++ entry? Options.ignoreUnclaimedState.toSetting job.allowNonRestoredState

/-- The entries that the structured fields determine, in the order in which they are set. -/
def determined (namespaceName clusterId : String) (spec : DeploymentSpec) : Entries :=
  [entry Options.clusterId clusterId, entry Options.namespaceName.toSetting namespaceName]
  ++ entry? Options.image.toSetting (nonEmpty spec.image)
  ++ entry? Options.imagePullPolicy.toSetting (nonEmpty spec.imagePullPolicy)
  ++ entry? Options.serviceAccount.toSetting (nonEmpty spec.serviceAccount)
  ++ entry? Options.jobManagerCpu.toSetting spec.jobManager.resource.cpu
  ++ entry? Options.jobManagerMemory.toSetting (nonEmpty spec.jobManager.resource.memory)
  ++ [entry Options.jobManagerReplicas.toSetting spec.jobManager.replicas]
  ++ entry? Options.taskManagerCpu.toSetting spec.taskManager.resource.cpu
  ++ entry? Options.taskManagerMemory.toSetting (nonEmpty spec.taskManager.resource.memory)
  ++ entry? Options.taskManagerReplicas spec.taskManager.replicas
  ++ jobEntries spec

/-- Whether the deployment runs an application without naming its main class. -/
def lacksMainClass (spec : DeploymentSpec) : Bool :=
  spec.job.any (fun job => (nonEmpty job.entryClass).isNone)

/-! ## Layers -/

/-- The deployment's own entries. -/
def ownEntries (spec : DeploymentSpec) : Entries := (spec.flinkConfiguration.map .text).entries

/-- What the configuration of the cluster `clusterId` in a namespace holds. -/
def effective (namespaceName clusterId : String) (base : Configuration) (spec : DeploymentSpec) :
    Configuration :=
  let below := base.setAll spec.ownEntries
  let below := if spec.lacksMainClass then below.erase Options.mainClass.key else below
  below.setAll (spec.determined namespaceName clusterId)

/-- The configuration of the cluster `clusterId` in a namespace. There is none if a determined
integer cannot be written. -/
def configured (namespaceName clusterId : String) (base : Configuration) (spec : DeploymentSpec) :
    Outcome Configuration :=
  if (spec.determined namespaceName clusterId).all (·.2.isWritable) then
    .ok (spec.effective namespaceName clusterId base)
  else .error .unwritableInteger

end FlinkCluster.DeploymentSpec
