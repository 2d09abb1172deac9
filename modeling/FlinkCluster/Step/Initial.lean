import FlinkCluster.Step.Volumes

/-!
# The initial step

The first step of each role: labels, annotations, service account and placement of the pod, and
image, resources, ports and environment of the main container.
-/

set_option autoImplicit false

namespace FlinkCluster.Step

open Kubernetes

/-! ## Ports -/

/-- The name of the rest port. -/
def restPortName : String := "rest"

/-- The name of the port on which the job manager is called. -/
def rpcPortName : String := "jobmanager-rpc"

/-- The name of the blob server's port. -/
def blobPortName : String := "blobserver"

/-- The name of the port on which a task manager is called. -/
def taskManagerPortName : String := "taskmanager-rpc"

/-- A TCP port of the main container. -/
def containerPort (name : String) (port : Int) : ContainerPort :=
  { name := some name, containerPort := port, protocol := some "TCP" }

/-- The ports of the job manager. -/
def jobManagerPorts (p : Parameters) : Outcome (List ContainerPort) := do
  let rest ← p.restPort
  let rpc ← p.rpcPort
  let blob ← p.blobServerPort
  return [containerPort restPortName rest, containerPort rpcPortName rpc,
    containerPort blobPortName blob]

/-- The ports of a task manager. -/
def taskManagerPorts (p : Parameters) : Outcome (List ContainerPort) := do
  return [containerPort taskManagerPortName (← p.taskManagerRpcPort)]

/-! ## The main container -/

/-- The variable with the address of the pod. -/
def podAddress : EnvVar where
  name := "_POD_IP_ADDRESS"
  valueFrom := some {
    fieldRef := some { apiVersion := some "v1", fieldPath := "status.podIP" } }

/-- The variables of the role: the configured ones by name, then the address of the pod. -/
def roleEnv (p : Parameters) : List EnvVar :=
  p.environments.sorted.map (fun (k, v) => { name := k, value := some v }) ++ [podAddress]

/-- Image, resources, ports and environment of the main container. -/
def initialContainer (p : Parameters) (ports : Outcome (List ContainerPort)) (c : Container) :
    Outcome Container := do
  let image ← p.image
  let policy ← p.imagePullPolicy
  let cpu ← p.cpu
  let memory ← MemorySize.quantity (← p.memory)
  let quantities : TextMap :=
    ofTexts (.ofEntries [("cpu", (Value.number cpu).plain), ("memory", memory)])
  let c ← c.addPorts ports
  let c ← c.addEnv (roleEnv p)
  return { c with
    name := mainContainerName
    image := some image
    imagePullPolicy := some policy
    resources := some { requests := some quantities, limits := some quantities } }

/-! ## The pod -/

/-- The map, unless it is empty. -/
def unlessEmpty (t : TextMap) : Option TextMap := if t.isEmpty then none else some t

/-- The initial decoration of a pod whose main container gets the given ports. -/
def decorateInitially (p : Parameters) (ports : Outcome (List ContainerPort)) (draft : PodDraft) :
    Outcome PodDraft := do
  let labels ← p.labels
  let annotations ← p.annotations
  let account ← p.serviceAccount
  let secrets ← p.imagePullSecrets
  let nodes ← p.nodeSelector
  let main ← initialContainer p ports draft.main
  return { draft with
    metadata := { draft.metadata with
      labels := some ((draft.metadata.labels.getD .empty).union (ofTexts labels))
      annotations :=
        unlessEmpty ((draft.metadata.annotations.getD .empty).union (ofTexts annotations)) }
    spec := { draft.spec with
      serviceAccountName := some account
      imagePullSecrets :=
        if secrets.isEmpty then draft.spec.imagePullSecrets
        else some (secrets.map fun s => some { name := some s })
      nodeSelector :=
        unlessEmpty ((draft.spec.nodeSelector.getD .empty).union (ofTexts nodes)) }
    main }

end FlinkCluster.Step
