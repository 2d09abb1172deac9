import FlinkCluster.Table
import FlinkCluster.Text.Split

/-!
# Names and labels

The names of a cluster's resources and the labels by which they are found. Every name is a function
of the cluster id alone, so that look-ups by name are stable. `labelSelector` writes labels as the
equality selector that the API reads.
-/

set_option autoImplicit false

namespace FlinkCluster

/-- The two kinds of processes of a cluster. -/
inductive Role where
  | jobManager
  | taskManager
  deriving DecidableEq, Repr

namespace Naming

/-! ## Names -/

/-- The job manager's StatefulSet. -/
def jobManager (clusterId : String) : String := clusterId

/-- The task managers' StatefulSet. -/
def taskManager (clusterId : String) : String := clusterId ++ "-taskmanager"

/-- The StatefulSet of a role. -/
def statefulSet (clusterId : String) : Role → String
  | .jobManager => jobManager clusterId
  | .taskManager => taskManager clusterId

/-- The service at which task managers find the job manager. -/
def internalService (clusterId : String) : String := clusterId

/-- The internal service with its namespace. -/
def internalAddress (clusterId namespaceName : String) : String :=
  internalService clusterId ++ "." ++ namespaceName

/-- The service of the rest interface. -/
def externalService (clusterId : String) : String := clusterId ++ "-rest"

/-- The config map with the cluster's configuration. -/
def flinkConfigMap (clusterId : String) : String := "flink-config-" ++ clusterId

/-- The config map with the Hadoop configuration. -/
def hadoopConfigMap (clusterId : String) : String := "hadoop-config-" ++ clusterId

/-- The secret with the Kerberos keytab. -/
def keytabSecret (clusterId : String) : String := "kerberos-keytab-" ++ clusterId

/-- The config map with the Kerberos configuration. -/
def kerberosConfigMap (clusterId : String) : String := "kerberos-krb5conf-" ++ clusterId

/-! ## Labels -/

/-- The labels of every resource of a cluster. -/
def commonLabels (clusterId : String) : Table String :=
  .ofEntries [("type", "flink-standalone-kubernetes"), ("app", clusterId)]

/-- The component label of a role. -/
def component : Role → String
  | .jobManager => "jobmanager"
  | .taskManager => "taskmanager"

/-- The labels that select the pods of a role. -/
def selectors (clusterId : String) (role : Role) : Table String :=
  (commonLabels clusterId).set "component" (component role)

/-- The labels of the config maps that hold a cluster's high availability metadata. -/
def highAvailabilityLabels (clusterId : String) : Table String :=
  .ofEntries [("type", "flink-native-kubernetes"), ("app", clusterId),
    ("configmap-type", "high-availability")]

/-- The labels as a selector: terms `key=value` in the order of the keys, with commas. -/
def labelSelector (labels : Table String) : String :=
  Text.join "," (labels.sorted.map fun (k, v) => k ++ "=" ++ v)

/-- The labels that a selector asks for: the text before the first equals sign of each term, and
the text behind it. A selector with a term that has no such sign asks for nothing that can be read;
the fault is the index of the first such term. -/
def selectedLabels (selector : String) : Except Nat (Table String) :=
  let terms := Text.split ',' selector
  match terms.findIdx? fun term => (Text.cut? '=' term).isNone with
  | some index => .error index
  | none => .ok (.ofEntries (terms.filterMap (Text.cut? '=')))

end Naming

end FlinkCluster
