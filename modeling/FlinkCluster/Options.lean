import FlinkCluster.Configuration

/-!
# The settings of a cluster

The keys, kinds and defaults of the settings that composing and managing a cluster reads.
-/

set_option autoImplicit false

namespace FlinkCluster.Options

/-! ## Identity and image -/

/-- The id of the cluster. -/
def clusterId : Setting .text := { key := "kubernetes.cluster-id" }

/-- The namespace of the cluster. -/
def namespaceName : Preset .text := { key := "kubernetes.namespace", default := "default" }

/-- The container image. -/
def image : Preset .text := { key := "kubernetes.container.image", default := "flink:1.18" }

/-- When the image is pulled. -/
def imagePullPolicy : Preset .text :=
  { key := "kubernetes.container.image.pull-policy", default := "IfNotPresent" }

/-- The secrets with which the image is pulled. -/
def imagePullSecrets : Preset .list :=
  { key := "kubernetes.container.image.pull-secrets", default := [] }

/-! ## Service accounts -/

/-- The service account of both roles. -/
def serviceAccount : Preset .text :=
  { key := "kubernetes.service-account", default := "default" }

/-- The service account of the job manager. -/
def jobManagerServiceAccount : Preset .text :=
  { key := "kubernetes.jobmanager.service-account", fallback := ["kubernetes.service-account"],
    default := "default" }

/-- The service account of the task managers. -/
def taskManagerServiceAccount : Preset .text :=
  { key := "kubernetes.taskmanager.service-account", fallback := ["kubernetes.service-account"],
    default := "default" }

/-! ## Labels, annotations and placement -/

/-- Labels of the job manager. -/
def jobManagerLabels : Preset .map :=
  { key := "kubernetes.jobmanager.labels", default := .empty }

/-- Labels of the task managers. -/
def taskManagerLabels : Preset .map :=
  { key := "kubernetes.taskmanager.labels", default := .empty }

/-- Annotations of the job manager. -/
def jobManagerAnnotations : Preset .map :=
  { key := "kubernetes.jobmanager.annotations", default := .empty }

/-- Annotations of the task managers. -/
def taskManagerAnnotations : Preset .map :=
  { key := "kubernetes.taskmanager.annotations", default := .empty }

/-- The nodes for the job manager. -/
def jobManagerNodeSelector : Preset .map :=
  { key := "kubernetes.jobmanager.node-selector", default := .empty }

/-- The nodes for the task managers. -/
def taskManagerNodeSelector : Preset .map :=
  { key := "kubernetes.taskmanager.node-selector", default := .empty }

/-- The owners of the job manager. -/
def jobManagerOwnerReference : Preset .maps :=
  { key := "kubernetes.jobmanager.owner.reference", default := [] }

/-! ## Replicas and resources -/

/-- The number of job managers. -/
def jobManagerReplicas : Preset .integer :=
  { key := "kubernetes.jobmanager.replicas", default := 1 }

/-- A fixed number of task managers. -/
def taskManagerReplicas : Setting .integer := { key := "kubernetes.taskmanager.replicas" }

/-- The cores of a job manager. -/
def jobManagerCpu : Preset .number :=
  { key := "kubernetes.jobmanager.cpu", default := .one }

/-- The cores of a task manager. -/
def taskManagerCpu : Preset .number :=
  { key := "kubernetes.taskmanager.cpu", default := .one }

/-- The memory of a job manager. -/
def jobManagerMemory : Preset .text :=
  { key := "jobmanager.memory.process.size", default := "1600m" }

/-- The memory of a task manager. -/
def taskManagerMemory : Preset .text :=
  { key := "taskmanager.memory.process.size", default := "1728m" }

/-- The slots of a task manager. -/
def taskSlots : Preset .integer := { key := "taskmanager.numberOfTaskSlots", default := 1 }

/-- The parallelism of jobs that name none. -/
def defaultParallelism : Preset .integer := { key := "parallelism.default", default := 1 }

/-- The mode of the scheduler. -/
def schedulerMode : Setting .text := { key := "scheduler-mode" }

/-! ## Ports and services -/

/-- The port of the rest service. -/
def restPort : Preset .integer := { key := "rest.port", default := 8081 }

/-- The port on which the job manager is called. -/
def rpcPort : Preset .integer := { key := "jobmanager.rpc.port", default := 6123 }

/-- The port of the blob server. -/
def blobServerPort : Preset .integer := { key := "blob.server.port", default := 6124 }

/-- The port on which a task manager is called. -/
def taskManagerRpcPort : Preset .integer := { key := "taskmanager.rpc.port", default := 6122 }

/-- The address of the job manager. -/
def jobManagerRpcAddress : Setting .text := { key := "jobmanager.rpc.address" }

/-- How the rest service is exposed. -/
def restServiceExposedType : Preset .text :=
  { key := "kubernetes.rest-service.exposed.type", default := "ClusterIP" }

/-- Annotations of the rest service. -/
def restServiceAnnotations : Preset .map :=
  { key := "kubernetes.rest-service.annotations", default := .empty }

/-! ## Secrets and mounted configuration -/

/-- Secrets to mount, by name, with their paths. -/
def secrets : Preset .map := { key := "kubernetes.secrets", default := .empty }

/-- Environment variables out of secrets. -/
def environmentSecrets : Preset .maps :=
  { key := "kubernetes.env.secretKeyRef", default := [] }

/-- The config map with the Hadoop configuration. -/
def hadoopConfigMap : Setting .text := { key := "kubernetes.hadoop.conf.config-map.name" }

/-- The Kerberos keytab file. -/
def kerberosKeytab : Setting .text := { key := "security.kerberos.login.keytab" }

/-- The Kerberos principal. -/
def kerberosPrincipal : Setting .text := { key := "security.kerberos.login.principal" }

/-- The Kerberos configuration file. -/
def kerberosConfigFile : Setting .text := { key := "security.kerberos.krb5-conf.path" }

/-- The directory of the configuration in the pod. -/
def flinkConfDir : Preset .text :=
  { key := "kubernetes.flink.conf.dir", default := "/opt/flink/conf" }

/-- The directory of the log files in the pod. -/
def flinkLogDir : Setting .text := { key := "kubernetes.flink.log.dir" }

/-! ## Entry point, availability and application -/

/-- The command that starts a process. -/
def entryPath : Preset .text :=
  { key := "kubernetes.entry.path", default := "/docker-entrypoint.sh" }

/-- The kind of high availability. -/
def highAvailability : Preset .text := { key := "high-availability", default := "NONE" }

/-- Whether the cluster is a session or an application. -/
def clusterMode : Preset .text :=
  { key := "kubernetes.standalone.cluster-mode", default := "SESSION" }

/-- The main class of the application. -/
def mainClass : Setting .text := { key := "$internal.application.main" }

/-- The arguments of the application. -/
def programArgs : Preset .list :=
  { key := "$internal.application.program-args", default := [] }

/-- The jars of the application. -/
def pipelineJars : Preset .list := { key := "pipeline.jars", default := [] }

/-- The savepoint from which the application starts. -/
def savepointPath : Setting .text := { key := "execution.savepoint.path" }

/-- Whether state that no operator claims is ignored. -/
def ignoreUnclaimedState : Preset .flag :=
  { key := "execution.savepoint.ignore-unclaimed-state", default := false }

/-! ## Environment variables -/

/-- What the keys of the job manager's environment variables start with. -/
def jobManagerEnvironment : String := "containerized.master.env."

/-- What the keys of the task managers' environment variables start with. -/
def taskManagerEnvironment : String := "containerized.taskmanager.env."

end FlinkCluster.Options
