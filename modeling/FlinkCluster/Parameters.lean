import FlinkCluster.Choice
import FlinkCluster.Host
import FlinkCluster.MemorySize
import FlinkCluster.Naming
import FlinkCluster.Options

/-!
# Parameters of a role

`Parameters` reads a configuration for one role of a cluster: what differs between job manager and
task managers is decided here, and the steps that compose the pods ask for labels, resources or
replicas without knowing where they are written. A parameter that one role alone has is refused to
the other. Configurations without a cluster id have no parameters.
-/

set_option autoImplicit false

namespace FlinkCluster

/-- A number that has to be positive is refused. The message quotes it, so that with too many digits
for a text there is no message either. -/
def notPositive {α : Type} (fault : Int → ConfigurationFault) (n : Int) (key : String) :
    Outcome α :=
  if Number.isWritable n then misconfigured (fault n) key else .error .unwritableInteger

/-- The number of task managers that offer `parallelism` slots: the double precision quotient
rounded up. -/
def taskManagerCount (parallelism slots : Int) : Outcome Int :=
  if slots < 1 then notPositive .slotsNotPositive slots Options.taskSlots.key
  else if parallelism < 1 then
    notPositive .parallelismNotPositive parallelism Options.defaultParallelism.key
  else (MemorySize.ceilingQuotient parallelism.toNat slots.toNat).map Int.ofNat

/-- A configuration seen by one role. -/
structure Parameters where
  role : Role
  conf : Configuration
  clusterId : String
  deriving DecidableEq, Repr

namespace Parameters

/-- The parameters of a role, if the configuration names a cluster. -/
def of (role : Role) (conf : Configuration) : Outcome Parameters := do
  match ← conf.find? Options.clusterId with
  | some id =>
    if id = "" then misconfigured .clusterIdMissing Options.clusterId.key
    else return { role, conf, clusterId := id }
  | none => misconfigured .clusterIdMissing Options.clusterId.key

/-- The configuration is invalid in a way that concerns a key of this cluster. -/
def refuse {α : Type} (p : Parameters) (fault : ConfigurationFault) (key : String) : Outcome α :=
  misconfigured fault key p.clusterId

/-- A parameter of one role, which the other does not have; `name` names it when it is missed. -/
def only {α : Type} (p : Parameters) (role : Role) (name : String) (x : Outcome α) : Outcome α :=
  if p.role = role then x else .error (.foreignParameter p.role name)

/-- Of two things the one for the role. -/
def select {α : Type} (p : Parameters) (jobManager taskManager : α) : α :=
  match p.role with
  | .jobManager => jobManager
  | .taskManager => taskManager

/-! ## Both roles -/

/-- The namespace. -/
def namespaceName (p : Parameters) : Outcome String := p.conf.get Options.namespaceName

/-- The container image. -/
def image (p : Parameters) : Outcome String := p.conf.get Options.image

/-- When the image is pulled. -/
def imagePullPolicy (p : Parameters) : Outcome String := p.conf.get Options.imagePullPolicy

/-- The secrets with which the image is pulled. -/
def imagePullSecrets (p : Parameters) : Outcome (List String) :=
  p.conf.get Options.imagePullSecrets

/-- The secrets to mount, by name, with their paths. -/
def secrets (p : Parameters) : Outcome (Table String) := p.conf.get Options.secrets

/-- The keys that a secret reference needs, in the order in which missing ones are listed. -/
def secretReferenceKeys : List String := ["env", "key", "secret"]

/-- The environment variables out of secrets; each has all its keys. -/
def environmentSecrets (p : Parameters) : Outcome (List (Table String)) := do
  let refs ← p.conf.get Options.environmentSecrets
  refs.forM fun ref =>
    let missing := secretReferenceKeys.filter (fun k => !ref.contains k)
    if missing.isEmpty then pure ()
    else p.refuse (.incompleteSecretReference ref missing) Options.environmentSecrets.key
  return refs

/-- The directory of the configuration in the pod. -/
def flinkConfDir (p : Parameters) : Outcome String := p.conf.get Options.flinkConfDir

/-- The directory of the log files in the pod. -/
def flinkLogDir (p : Parameters) : Outcome (Option String) := p.conf.find? Options.flinkLogDir

/-- The config map with the Hadoop configuration. -/
def hadoopConfigMap (p : Parameters) : Outcome (Option String) :=
  p.conf.find? Options.hadoopConfigMap

/-- The Kerberos keytab file. -/
def kerberosKeytab (p : Parameters) : Outcome (Option String) :=
  p.conf.find? Options.kerberosKeytab

/-- The Kerberos principal. -/
def kerberosPrincipal (p : Parameters) : Outcome (Option String) :=
  p.conf.find? Options.kerberosPrincipal

/-- The Kerberos configuration file. -/
def kerberosConfigFile (p : Parameters) : Outcome (Option String) :=
  p.conf.find? Options.kerberosConfigFile

/-- The command that starts a process. -/
def entryPath (p : Parameters) : Outcome String := p.conf.get Options.entryPath

/-- Whether high availability is on: its kind, in capitals, is not `NONE`. -/
def highAvailability (p : Parameters) : Outcome Bool :=
  (p.conf.get Options.highAvailability).map (fun kind => Text.upper kind ≠ "NONE")

/-- The mode of the cluster, written in any case. -/
def clusterMode (p : Parameters) : Outcome ClusterMode := do
  let raw := Text.upper (← p.conf.get Options.clusterMode)
  match Choice.ofWord? raw with
  | some mode => return mode
  | none => p.refuse (.unknownClusterMode raw) Options.clusterMode.key

/-- Whether the cluster runs one application. -/
def isApplication (p : Parameters) : Outcome Bool := p.clusterMode.map (· = .application)

/-- The port on which the job manager is called. -/
def rpcPort (p : Parameters) : Outcome Int := p.conf.get Options.rpcPort

/-- The port of the blob server. -/
def blobServerPort (p : Parameters) : Outcome Int := p.conf.get Options.blobServerPort

/-- The port of the rest service. -/
def restPort (p : Parameters) : Outcome Int := p.conf.get Options.restPort

/-- The address at which task managers find the job manager. -/
def jobManagerAddress (p : Parameters) : Outcome String :=
  p.namespaceName.map (Naming.internalAddress p.clusterId)

/-- The labels of every resource of the cluster. -/
def commonLabels (p : Parameters) : Table String := Naming.commonLabels p.clusterId

/-- The labels that select the pods of the role. -/
def selectors (p : Parameters) : Table String := Naming.selectors p.clusterId p.role

/-- The labels of the role's workload and pods; the selectors win over the configured ones. -/
def labels (p : Parameters) : Outcome (Table String) :=
  (p.conf.get (p.select Options.jobManagerLabels Options.taskManagerLabels)).map
    (·.union p.selectors)

/-- The annotations of the role. -/
def annotations (p : Parameters) : Outcome (Table String) :=
  p.conf.get (p.select Options.jobManagerAnnotations Options.taskManagerAnnotations)

/-- The nodes for the role. -/
def nodeSelector (p : Parameters) : Outcome (Table String) :=
  p.conf.get (p.select Options.jobManagerNodeSelector Options.taskManagerNodeSelector)

/-- The service account of the role. -/
def serviceAccount (p : Parameters) : Outcome String :=
  p.conf.get (p.select Options.jobManagerServiceAccount Options.taskManagerServiceAccount)

/-- The configured environment variables of the role, in the order of their names. -/
def environments (p : Parameters) : Table String :=
  p.conf.under (p.select Options.jobManagerEnvironment Options.taskManagerEnvironment)

/-- The cores of a process. -/
def cpu (p : Parameters) : Outcome Number.Binary64 :=
  p.conf.get (p.select Options.jobManagerCpu Options.taskManagerCpu)

/-- The memory of a process. -/
def memory (p : Parameters) : Outcome String :=
  p.conf.get (p.select Options.jobManagerMemory Options.taskManagerMemory)

/-! ## Job manager -/

/-- The configured owners. -/
def ownerReferences (p : Parameters) : Outcome (List (Table String)) :=
  p.only .jobManager "owner_references" (p.conf.get Options.jobManagerOwnerReference)

/-- How the rest service is exposed. -/
def exposedType (p : Parameters) : Outcome ExposedType :=
  p.only .jobManager "rest_service_exposed_type" do
    let raw ← p.conf.get Options.restServiceExposedType
    match Choice.ofWord? raw with
    | some t => return t
    | none => p.refuse (.unknownExposedType raw) Options.restServiceExposedType.key

/-- The annotations of the rest service. -/
def restServiceAnnotations (p : Parameters) : Outcome (Table String) :=
  p.only .jobManager "rest_service_annotations" (p.conf.get Options.restServiceAnnotations)

/-- The main class of the application. -/
def mainClass (p : Parameters) : Outcome (Option String) :=
  p.only .jobManager "main_class" (p.conf.find? Options.mainClass)

/-- The arguments of the application. -/
def programArgs (p : Parameters) : Outcome (List String) :=
  p.only .jobManager "program_args" (p.conf.get Options.programArgs)

/-- The savepoint from which the application starts. -/
def savepointPath (p : Parameters) : Outcome (Option String) :=
  p.only .jobManager "savepoint_path" (p.conf.find? Options.savepointPath)

/-- Whether state that no operator claims is ignored. -/
def allowsUnclaimedState (p : Parameters) : Outcome Bool :=
  p.only .jobManager "allow_non_restored_state" (p.conf.get Options.ignoreUnclaimedState)

/-- The number of job managers; more than one needs high availability. -/
def jobManagerReplicas (p : Parameters) : Outcome Int := do
  let replicas ← p.conf.get Options.jobManagerReplicas
  if replicas < 1 then p.refuse .noJobManager Options.jobManagerReplicas.key
  else if replicas > 1 then
    if ← p.highAvailability then return replicas
    else p.refuse .highAvailabilityNeeded Options.jobManagerReplicas.key
  else return replicas

/-! ## Task managers -/

/-- The port on which a task manager is called. -/
def taskManagerRpcPort (p : Parameters) : Outcome Int :=
  p.only .taskManager "task_manager_rpc_port" (p.conf.get Options.taskManagerRpcPort)

/-- The number of task managers: the fixed one, or as many as the parallelism needs. -/
def taskManagerReplicas (p : Parameters) : Outcome Int := do
  match ← p.conf.find? Options.taskManagerReplicas with
  | some replicas => return replicas
  | none =>
    let parallelism ← p.conf.get Options.defaultParallelism
    let slots ← p.conf.get Options.taskSlots
    taskManagerCount parallelism slots

/-- The number of processes of the role. -/
def replicas (p : Parameters) : Outcome Int :=
  p.select p.jobManagerReplicas p.taskManagerReplicas

end Parameters

end FlinkCluster
