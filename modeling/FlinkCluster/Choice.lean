import FlinkCluster.Error

/-!
# Choices

The closed vocabularies of deployments: each is an inductive type with a word per member. A `Choice`
lists the members with their words and labels; `Choice.read` reads a datum as a member.
-/

set_option autoImplicit false

namespace FlinkCluster

/-- A closed vocabulary: its name, its members, and the word and the label of each. -/
class Choice (α : Type) where
  name : String
  all : List α
  word : α → String
  label : α → String

namespace Choice

variable {α : Type} [Choice α]

/-- The member with the given word. -/
def ofWord? (s : String) : Option α := (all : List α).find? (fun a => word a == s)

/-- The member that a datum names by its word. -/
def read (α : Type) [Choice α] : Value → Outcome α
  | .text s =>
    match ofWord? s with
    | some a => .ok a
    | none => .error (.unknownChoice (Text.quoted s) (name α))
  | v => .error (.unknownChoice v.literal (name α))

theorem word_of_ofWord? {s : String} {a : α} (h : ofWord? s = some a) : word a = s := by
  simpa using List.find?_some h

end Choice

/-- How the scheduler treats resources that come and go. -/
inductive SchedulerMode where
  | reactive
  deriving DecidableEq, Repr

instance : Choice SchedulerMode where
  name := "SchedulerExecutionMode"
  all := [.reactive]
  word _ := "REACTIVE"
  label _ := "REACTIVE"

/-- How the processes of a cluster are launched. -/
inductive LaunchMode where
  | native
  | standalone
  deriving DecidableEq, Repr

instance : Choice LaunchMode where
  name := "KubernetesDeploymentMode"
  all := [.native, .standalone]
  word
    | .native => "native"
    | .standalone => "standalone"
  label
    | .native => "NATIVE"
    | .standalone => "STANDALONE"

/-- Whether a cluster waits for jobs or runs one application. -/
inductive ClusterMode where
  | session
  | application
  deriving DecidableEq, Repr

instance : Choice ClusterMode where
  name := "StandaloneClusterMode"
  all := [.session, .application]
  word
    | .session => "SESSION"
    | .application => "APPLICATION"
  label
    | .session => "SESSION"
    | .application => "APPLICATION"

/-- How the rest service is exposed. -/
inductive ExposedType where
  | clusterIP
  | nodePort
  | loadBalancer
  | headless
  deriving DecidableEq, Repr

instance : Choice ExposedType where
  name := "ServiceExposedType"
  all := [.clusterIP, .nodePort, .loadBalancer, .headless]
  word
    | .clusterIP => "ClusterIP"
    | .nodePort => "NodePort"
    | .loadBalancer => "LoadBalancer"
    | .headless => "Headless_ClusterIP"
  label
    | .clusterIP => "CLUSTER_IP"
    | .nodePort => "NODE_PORT"
    | .loadBalancer => "LOAD_BALANCER"
    | .headless => "HEADLESS_CLUSTER_IP"

/-- What is known of the job manager's workload. -/
inductive JobManagerState where
  | ready
  | deployedNotReady
  | deploying
  | missing
  | error
  deriving DecidableEq, Repr

instance : Choice JobManagerState where
  name := "JobManagerDeploymentStatus"
  all := [.ready, .deployedNotReady, .deploying, .missing, .error]
  word
    | .ready => "READY"
    | .deployedNotReady => "DEPLOYED_NOT_READY"
    | .deploying => "DEPLOYING"
    | .missing => "MISSING"
    | .error => "ERROR"
  label
    | .ready => "READY"
    | .deployedNotReady => "DEPLOYED_NOT_READY"
    | .deploying => "DEPLOYING"
    | .missing => "MISSING"
    | .error => "ERROR"

/-- The states of a job. -/
inductive JobState where
  | created
  | running
  | failing
  | failed
  | cancelling
  | canceled
  | finished
  | restarting
  | suspended
  | reconciling
  deriving DecidableEq, Repr

namespace JobState

/-- The word of a job state. -/
def word : JobState → String
  | .created => "CREATED"
  | .running => "RUNNING"
  | .failing => "FAILING"
  | .failed => "FAILED"
  | .cancelling => "CANCELLING"
  | .canceled => "CANCELED"
  | .finished => "FINISHED"
  | .restarting => "RESTARTING"
  | .suspended => "SUSPENDED"
  | .reconciling => "RECONCILING"

/-- Whether a job in this state never runs again. -/
def isTerminal : JobState → Bool
  | .failed | .canceled | .finished => true
  | _ => false

end JobState

instance : Choice JobState where
  name := "JobState"
  all := [.created, .running, .failing, .failed, .cancelling, .canceled, .finished, .restarting,
    .suspended, .reconciling]
  word := JobState.word
  label := JobState.word

/-- What an upgrade keeps of a job. -/
inductive UpgradeMode where
  | stateless
  | savepoint
  | lastState
  deriving DecidableEq, Repr

instance : Choice UpgradeMode where
  name := "UpgradeMode"
  all := [.stateless, .savepoint, .lastState]
  word
    | .stateless => "stateless"
    | .savepoint => "savepoint"
    | .lastState => "last-state"
  label
    | .stateless => "STATELESS"
    | .savepoint => "SAVEPOINT"
    | .lastState => "LAST_STATE"

/-- The state in which a deployment wants its job. -/
inductive DesiredJobState where
  | running
  | suspended
  deriving DecidableEq, Repr

instance : Choice DesiredJobState where
  name := "JobDesiredState"
  all := [.running, .suspended]
  word
    | .running => "running"
    | .suspended => "suspended"
  label
    | .running => "RUNNING"
    | .suspended => "SUSPENDED"

end FlinkCluster
