import FlinkCluster.Document.Scalar

/-!
# Deployments

A deployment declares a cluster: who it is, what it should run, and what is known of it. The rules
`X.rule` say how each part is written in a document.
-/

set_option autoImplicit false

namespace FlinkCluster

/-! ## Identity -/

/-- The identity of a deployment. Its name is the id of the cluster. -/
structure DeploymentMetadata where
  name : String
  namespaceName : String := "default"
  uid : Option String := none
  generation : Option Int := none
  labels : Table String := Table.empty
  annotations : Table String := Table.empty
  deriving DecidableEq, Repr

/-- The rule for metadata. -/
def DeploymentMetadata.rule : Rule DeploymentMetadata := Members.rule <|
  DeploymentMetadata.mk <$> .required (.plain "name") Document.nonEmptyText (·.name)
    <*> .withDefault (.plain "namespace") Document.nonEmptyText (·.namespaceName) "default"
    <*> .optional (.plain "uid") Document.text (·.uid)
    <*> .optional (.plain "generation") Document.integer (·.generation)
    <*> .withDefault (.plain "labels") Document.text.table (·.labels) .empty
    <*> .withDefault (.plain "annotations") Document.text.table (·.annotations) .empty

/-! ## Desired state -/

/-- Cores and memory of a process. -/
structure ProcessSize where
  cpu : Option Number.Binary64 := none
  memory : Option String := none
  deriving DecidableEq, Repr

/-- The rule for process sizes. -/
def ProcessSize.rule : Rule ProcessSize := Members.rule <|
  ProcessSize.mk <$> .optional (.plain "cpu") Document.positiveNumber (·.cpu)
    <*> .optional (.plain "memory") Document.text (·.memory)

/-- What is declared of the job manager. -/
structure JobManagerSpec where
  resource : ProcessSize := {}
  replicas : Int := 1
  podTemplate : Option Entries := none
  deriving DecidableEq, Repr

/-- The field with a pod template. -/
def podTemplateField : FieldName := ⟨"podTemplate", "pod_template"⟩

/-- The rule for job managers. -/
def JobManagerSpec.rule : Rule JobManagerSpec := Members.rule <|
  JobManagerSpec.mk <$> .withDefault (.plain "resource") ProcessSize.rule (·.resource) {}
    <*> .withDefault (.plain "replicas") Document.positiveInteger (·.replicas) 1
    <*> .optional podTemplateField .anyMap (·.podTemplate)

/-- What is declared of the task managers. Without a number of replicas, it follows from the
parallelism. -/
structure TaskManagerSpec where
  resource : ProcessSize := {}
  replicas : Option Int := none
  podTemplate : Option Entries := none
  deriving DecidableEq, Repr

/-- The rule for task managers. -/
def TaskManagerSpec.rule : Rule TaskManagerSpec := Members.rule <|
  TaskManagerSpec.mk <$> .withDefault (.plain "resource") ProcessSize.rule (·.resource) {}
    <*> .optional (.plain "replicas") Document.positiveInteger (·.replicas)
    <*> .optional podTemplateField .anyMap (·.podTemplate)

/-- The job of an application. -/
structure JobSpec where
  jarUri : Option String := none
  parallelism : Int := 1
  entryClass : Option String := none
  args : List String := []
  state : DesiredJobState := .running
  upgradeMode : UpgradeMode := .stateless
  allowNonRestoredState : Option Bool := none
  initialSavepointPath : Option String := none
  deriving DecidableEq, Repr

/-- The rule for jobs. -/
def JobSpec.rule : Rule JobSpec := Members.rule <|
  JobSpec.mk <$> .optional ⟨"jarURI", "jar_uri"⟩ Document.text (·.jarUri)
    <*> .withDefault (.plain "parallelism") Document.positiveInteger (·.parallelism) 1
    <*> .optional ⟨"entryClass", "entry_class"⟩ Document.text (·.entryClass)
    <*> .withDefault (.plain "args") Document.text.list (·.args) []
    <*> .withDefault (.plain "state") (Document.choice DesiredJobState) (·.state) .running
    <*> .withDefault ⟨"upgradeMode", "upgrade_mode"⟩ (Document.choice UpgradeMode) (·.upgradeMode)
      .stateless
    <*> .optional ⟨"allowNonRestoredState", "allow_non_restored_state"⟩ Document.flag
      (·.allowNonRestoredState)
    <*> .optional ⟨"initialSavepointPath", "initial_savepoint_path"⟩ Document.text
      (·.initialSavepointPath)

/-- What a cluster should be. -/
structure DeploymentSpec where
  image : Option String := none
  imagePullPolicy : Option String := none
  flinkVersion : Option String := none
  flinkConfiguration : Table String := Table.empty
  serviceAccount : Option String := none
  mode : LaunchMode := .standalone
  jobManager : JobManagerSpec := {}
  taskManager : TaskManagerSpec := {}
  job : Option JobSpec := none
  podTemplate : Option Entries := none
  deriving DecidableEq, Repr

/-- The rule for desired states. -/
def DeploymentSpec.rule : Rule DeploymentSpec := Members.rule <|
  DeploymentSpec.mk <$> .optional (.plain "image") Document.text (·.image)
    <*> .optional ⟨"imagePullPolicy", "image_pull_policy"⟩ Document.text (·.imagePullPolicy)
    <*> .optional ⟨"flinkVersion", "flink_version"⟩ Document.text (·.flinkVersion)
    <*> .withDefault ⟨"flinkConfiguration", "flink_configuration"⟩ Document.text.table
      (·.flinkConfiguration) .empty
    <*> .optional ⟨"serviceAccount", "service_account"⟩ Document.text (·.serviceAccount)
    <*> .withDefault (.plain "mode") (Document.choice LaunchMode) (·.mode) .standalone
    <*> .withDefault ⟨"jobManager", "job_manager"⟩ JobManagerSpec.rule (·.jobManager) {}
    <*> .withDefault ⟨"taskManager", "task_manager"⟩ TaskManagerSpec.rule (·.taskManager) {}
    <*> .optional (.plain "job") JobSpec.rule (·.job)
    <*> .optional podTemplateField .anyMap (·.podTemplate)

/-! ## Observed state -/

/-- What is known of the job. Its state may be any text. -/
structure JobStatus where
  state : Option String := none
  jobId : Option String := none
  jobName : Option String := none
  deriving DecidableEq, Repr

/-- The rule for job statuses. -/
def JobStatus.rule : Rule JobStatus := Members.rule <|
  JobStatus.mk <$> .optional (.plain "state") Document.text (·.state)
    <*> .optional ⟨"jobId", "job_id"⟩ Document.text (·.jobId)
    <*> .optional ⟨"jobName", "job_name"⟩ Document.text (·.jobName)

/-- What is known of a cluster. -/
structure DeploymentStatus where
  jobManager : JobManagerState := .missing
  job : JobStatus := {}
  error : Option String := none
  deriving DecidableEq, Repr

/-- The rule for statuses. -/
def DeploymentStatus.rule : Rule DeploymentStatus := Members.rule <|
  DeploymentStatus.mk <$>
    .withDefault ⟨"jobManagerDeploymentStatus", "job_manager_deployment_status"⟩
      (Document.choice JobManagerState) (·.jobManager) .missing
    <*> .withDefault ⟨"jobStatus", "job_status"⟩ JobStatus.rule (·.job) {}
    <*> .optional (.plain "error") Document.text (·.error)

/-! ## Deployments -/

/-- A declared cluster. -/
structure Deployment where
  metadata : DeploymentMetadata
  spec : DeploymentSpec := {}
  status : DeploymentStatus := {}
  deriving DecidableEq, Repr

/-- The rule for deployments. -/
def Deployment.rule : Rule Deployment := Members.rule <|
  Deployment.mk <$> .required (.plain "metadata") DeploymentMetadata.rule (·.metadata)
    <*> .withDefault (.plain "spec") DeploymentSpec.rule (·.spec) {}
    <*> .withDefault (.plain "status") DeploymentStatus.rule (·.status) {}

end FlinkCluster
