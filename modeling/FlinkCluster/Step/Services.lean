import FlinkCluster.Step.Initial

/-!
# The service steps

The services of the job manager. The internal one has no address of its own and gives the task
managers a stable name; with high availability they find the leader otherwise, and there is none.
The external one exposes the rest interface.
-/

set_option autoImplicit false

namespace FlinkCluster.Step

open Kubernetes

/-- The address of a service without one. -/
def headless : String := "None"

/-- A TCP port of a service, the same in the pods. -/
def servicePort (name : String) (port : Int) : ServicePort :=
  { name := some name, port, targetPort := some (.integer port), protocol := some "TCP" }

/-- A service of the cluster. -/
def service (m : ObjectMeta) (spec : ServiceSpec) : Resource :=
  .service {
    apiVersion := some "v1", kind := some "Service", metadata := some m, spec := some spec }

/-- The service at which task managers find the job manager. -/
def internalServices (p : Parameters) : Outcome (List Resource) := do
  if ← p.highAvailability then return []
  else
    let m ← ownedMetadata p (Naming.internalService p.clusterId)
    let rpc ← p.rpcPort
    let blob ← p.blobServerPort
    return [service m {
      clusterIP := some headless
      selector := some (ofTexts p.selectors)
      ports := some [some (servicePort rpcPortName rpc), some (servicePort blobPortName blob)] }]

/-- The type and the address of a rest service. -/
def exposure : ExposedType → String × Option String
  | .headless => (Choice.word ExposedType.clusterIP, some headless)
  | t => (Choice.word t, none)

/-- The service of the rest interface. -/
def externalServices (p : Parameters) : Outcome (List Resource) := do
  let (type, address) := exposure (← p.exposedType)
  let m ← ownedMetadata p (Naming.externalService p.clusterId) (← p.restServiceAnnotations)
  let rest ← p.restPort
  return [service m {
    type := some type
    clusterIP := address
    selector := some (ofTexts p.selectors)
    ports := some [some (servicePort restPortName rest)] }]

end FlinkCluster.Step
