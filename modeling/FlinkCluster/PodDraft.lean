import FlinkCluster.Error
import FlinkCluster.Kubernetes.Pod
import FlinkCluster.Value.Order

/-!
# Pod drafts

A `PodDraft` is a pod whose main container is held apart from the others, so that steps can change
it freely; `toPod` puts it back in front of them, and the result has exactly one container of its
name. `ofPod` splits a template: the first container with the main container's name is the main one.
Whatever goes by names fails on a list with a null in it.
-/

set_option autoImplicit false

namespace FlinkCluster

open Kubernetes

/-- The name of the main container. -/
def mainContainerName : String := "flink-main-container"

/-! ## Changes of a container -/

namespace Kubernetes.Container

/-- Adds variables; those of the same names are replaced. -/
def addEnv (c : Container) (vars : List EnvVar) : Outcome Container := do
  let names := vars.map (·.name)
  let kept := (← demandAll "name" (c.env.getD [])).filter (fun e => !names.contains e.name)
  return { c with env := some ((kept ++ vars).map some) }

/-- Adds mounts. -/
def addMounts (c : Container) (mounts : List VolumeMount) : Container :=
  { c with volumeMounts := some (c.volumeMounts.getD [] ++ mounts.map some) }

/-- Adds those ports whose names are new. -/
def addPorts (c : Container) (ports : Outcome (List ContainerPort)) : Outcome Container := do
  let names := (← demandAll "name" (c.ports.getD [])).map (·.name)
  let added := (← ports).filter (fun p => !names.contains p.name)
  return { c with ports := some (c.ports.getD [] ++ added.map some) }

end Kubernetes.Container

/-! ## Drafts -/

/-- A pod without its main container, and the main container. -/
structure PodDraft where
  apiVersion : Option String := none
  kind : Option String := none
  metadata : ObjectMeta := {}
  spec : PodSpec := { containers := [] }
  status : Option PodStatus := none
  main : Container := { name := mainContainerName }
  deriving DecidableEq, Repr, Inhabited

namespace PodDraft

/-! ## Splitting and joining -/

/-- The draft of a pod and a main container. What is absent is empty. -/
def ofParts (pod : Pod) (main : Option Container) : PodDraft where
  apiVersion := pod.apiVersion
  kind := pod.kind
  metadata := pod.metadata.getD {}
  spec := pod.spec.getD { containers := [] }
  status := pod.status
  main := main.getD { name := mainContainerName }

/-- The pod without its main container. -/
def rest (draft : PodDraft) : Pod where
  apiVersion := draft.apiVersion
  kind := draft.kind
  metadata := some draft.metadata
  spec := some draft.spec
  status := draft.status

/-- Whether a container has the main container's name. -/
def isMain (c : Container) : Bool := c.name == mainContainerName

/-- The draft of a template: its first container of the main name, and all its others. -/
def ofPod (pod : Pod) : Outcome PodDraft := do
  let spec := pod.spec.getD { containers := [] }
  let containers ← demandAll "name" spec.containers
  let others := (containers.eraseP isMain).map some
  return ofParts { pod with spec := some { spec with containers := others } }
    (containers.find? isMain)

/-- The draft of a template, or the empty one. -/
def ofTemplate : Option Pod → Outcome PodDraft
  | some pod => ofPod pod
  | none => .ok {}

/-- The containers of the pod: the main one, then those of other names. -/
def containers (draft : PodDraft) : Outcome (List Container) := do
  let others ← demandAll "name" draft.spec.containers
  return draft.main :: others.filter (fun c => c.name ≠ draft.main.name)

/-- The pod with its main container. -/
def toPod (draft : PodDraft) : Outcome Pod := do
  let containers ← draft.containers
  return { draft.rest with spec := some { draft.spec with containers := containers.map some } }

/-- A short description: the names of the main container and of the pod. -/
def summary (draft : PodDraft) : String :=
  let podName := match draft.metadata.name with
    | some n => Text.quoted n
    | none => Value.null.literal
  "FlinkPod(main_container=" ++ Text.quoted draft.main.name ++ ", pod=" ++ podName ++ ")"

/-- Whether two drafts stand for the same. The order of labels and other maps does not count. -/
def same (d e : PodDraft) : Bool :=
  decide (d = e) ||
    (Value.same (Pod.codec.write d.rest) (Pod.codec.write e.rest) &&
      Value.same (Container.codec.write d.main) (Container.codec.write e.main))

/-! ## Changes -/

/-- Changes the main container. -/
def withMain (draft : PodDraft) (f : Container → Container) : PodDraft :=
  { draft with main := f draft.main }

/-- Adds variables to the main container. -/
def addEnv (draft : PodDraft) (vars : List EnvVar) : Outcome PodDraft :=
  (draft.main.addEnv vars).map fun main => { draft with main }

/-- The names of the pod's volumes. -/
def volumeNames (draft : PodDraft) : Outcome (List String) :=
  (demandAll "name" (draft.spec.volumes.getD [])).map (·.map (·.name))

/-- The first volume whose name is taken by the given names or by a volume before it. -/
def firstTaken? : List String → List Volume → Option Volume
  | _, [] => none
  | taken, v :: r => if taken.contains v.name then some v else firstTaken? (v.name :: taken) r

/-- Adds volumes; their names must be new. A conflict concerns the given key and cluster. -/
def addVolumes (draft : PodDraft) (volumes : List Volume) (key clusterId : String) :
    Outcome PodDraft := do
  match firstTaken? (← draft.volumeNames) volumes with
  | some v => misconfigured (.volumeTaken v.name) key clusterId
  | none =>
    return { draft with
      spec := { draft.spec with
        volumes := some (draft.spec.volumes.getD [] ++ volumes.map some) } }

end PodDraft


/-! ## Laws -/

namespace PodDraft

theorem containers_countP_name {draft : PodDraft} {cs : List Container}
    (h : draft.containers = .ok cs) : cs.countP (fun c => c.name == draft.main.name) = 1 := by
  rw [containers] at h
  match demandAll "name" draft.spec.containers, h with
  | .ok others, h =>
    injection h with h
    have none_left : (others.filter (fun c => c.name ≠ draft.main.name)).countP
        (fun c => c.name == draft.main.name) = 0 := by
      rw [List.countP_eq_zero]
      intro c hc
      simpa using (List.mem_filter.1 hc).2
    rw [← h, List.countP_cons, none_left]
    simp

end PodDraft

end FlinkCluster
