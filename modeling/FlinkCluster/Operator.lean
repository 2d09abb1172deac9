import FlinkCluster.Configuration
import FlinkCluster.Options

/-!
# Settings of the operator

The operator itself is configured by environment variables, and a profile says which values hold
without them. `OperatorSettings.load` reads them, `OperatorSettings.base` is the configuration below
every deployment's own, and `credentials?` says with which credentials the operator reaches a
cluster.
-/

set_option autoImplicit false

namespace FlinkCluster

/-! ## Profiles -/

/-- For what the operator runs. -/
inductive Profile where
  | development
  | testing
  | production
  deriving DecidableEq, Repr

namespace Profile

/-- The profile of a name; unknown names mean development. -/
def named : String → Profile
  | "testing" => .testing
  | "production" => .production
  | _ => .development

/-- The variable that selects a profile. -/
def selector : String := "FLINK_OPERATOR_ENV"

/-- The profile of a given name, or the one that the environment selects. -/
def select (env : Table String) (name : Option String) : Profile :=
  named ((name.or (env.get? selector)).getD "development")

end Profile

/-! ## Settings -/

/-- The settings of the operator. -/
structure OperatorSettings where
  kubeconfigPath : String
  inCluster : Bool
  shutdownTimeout : Int
  shutdownInterval : Number.Binary64
  defaultImage : String
  defaultConfiguration : Configuration
  logLevel : String
  logFormat : String
  deriving DecidableEq, Repr

namespace OperatorSettings

/-- The value of a variable, or a default. -/
def variableOr (env : Table String) (name default : String) : String :=
  (env.get? name).getD default

/-- Whether a text is the word for true. -/
def isTrueWord (s : String) : Bool := Text.lowerAscii s == "true"

/-- The integer that a variable writes. -/
def readTimeout (s : String) : Outcome Int :=
  match Number.readInteger s with
  | .ok n => .ok n
  | .error fault => .error (.invalidInteger s fault)

/-- The number that a variable writes. -/
def readInterval (s : String) : Outcome Number.Binary64 :=
  match Number.readNumber s with
  | some x => .ok x
  | none => .error (.invalidNumber s)

/-- The image of clusters that name none. -/
def imageOf (env : Table String) : String := variableOr env "DEFAULT_FLINK_IMAGE" "flink:1.18"

/-- The configuration below every deployment's own, without the image. -/
def configurationOf (env : Table String) : Configuration where
  table := .ofEntries
    [(Options.taskSlots.key, variableOr env "DEFAULT_TASK_SLOTS" "2"),
      (Options.defaultParallelism.key, "1"), (Options.restPort.key, "8081"),
      (Options.rpcPort.key, "6123"), (Options.blobServerPort.key, "6124"),
      (Options.taskManagerRpcPort.key, "6122")]

/-- The configuration below every deployment's own. -/
def base (env : Table String) : Configuration :=
  (configurationOf env).setText Options.image.key (imageOf env)

/-- The settings of a profile. Numbers are read for every profile, also where they do not hold. -/
def load (env : Table String) (profile : Profile) : Outcome OperatorSettings := do
  let timeout ← readTimeout (variableOr env "CLUSTER_SHUTDOWN_TIMEOUT" "60")
  let interval ← readInterval (variableOr env "CLUSTER_SHUTDOWN_POLL_INTERVAL" "2")
  let testing := profile = .testing
  return {
    kubeconfigPath := if testing then "" else variableOr env "KUBECONFIG_PATH" ""
    inCluster := !testing &&
      isTrueWord (variableOr env "IN_CLUSTER" (if profile = .production then "True" else "False"))
    shutdownTimeout :=
      if testing then 0
      else if profile = .production && !env.contains "CLUSTER_SHUTDOWN_TIMEOUT" then 300
      else timeout
    shutdownInterval := if testing then .ofRatio false 0 1 else interval
    defaultImage := imageOf env
    defaultConfiguration := configurationOf env
    logLevel := variableOr env "LOG_LEVEL" (if profile = .development then "DEBUG" else "INFO")
    logFormat := variableOr env "LOG_FORMAT"
      "%(asctime)s - %(name)s - %(levelname)s - %(message)s" }

end OperatorSettings

/-! ## Logging -/

/-- What log messages are filtered by: a severity, or a text that the logging system takes for the
name of one. -/
inductive LogLevel where
  | severity (rank : Nat)
  | named (text : String)
  deriving DecidableEq, Repr

/-- The levels of log messages by their names. The name of the basic layout stands for that layout,
as the constants of the logging system do. -/
def logLevels : List (String × LogLevel) :=
  [("CRITICAL", .severity 50), ("FATAL", .severity 50), ("ERROR", .severity 40),
    ("WARNING", .severity 30), ("WARN", .severity 30), ("INFO", .severity 20),
    ("DEBUG", .severity 10), ("NOTSET", .severity 0),
    ("BASIC_FORMAT", .named "%(levelname)s:%(name)s:%(message)s")]

/-- The level of a name in any case; other names mean `INFO`. -/
def logLevelOf (name : String) : LogLevel :=
  (logLevels.lookup (Text.upper name)).getD (.severity 20)

/-! ## Credentials -/

/-- Where the operator finds the credentials for a cluster. -/
inductive Credentials where
  | inCluster
  | file (path : String)
  | defaultFile
  deriving DecidableEq, Repr

/-- The credentials that are loaded, unless both clients of the API are given. -/
def credentials? (inCluster : Bool) (kubeconfigPath : String) (givenApps givenCore : Bool) :
    Option Credentials :=
  if givenApps && givenCore then none
  else if inCluster then some .inCluster
  else if kubeconfigPath = "" then some .defaultFile
  else some (.file kubeconfigPath)

end FlinkCluster
