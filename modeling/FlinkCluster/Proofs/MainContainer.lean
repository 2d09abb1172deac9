import FlinkCluster.Proofs.StepEffects

/-!
# The main container apart and back

A template is split into a draft, whose main container is held apart, and a draft is joined to a pod
again.

* `PodDraft.toPod_eq`: the pod of a draft has one container of the main container's name, whichever
  name that is.
* `PodDraft.normalize_eq`: a template that is split and joined has its first container of the main
  name in front, or a bare one, and keeps all containers of other names. Once more changes nothing
  (`PodDraft.normalize_again`).
* `PodDraft.toPod_ofPod`: a draft that is joined and split is the same, if its main container has the
  main name and no other has.
* `PodDraft.inverse_up_to_normal`: both directions.
-/

set_option autoImplicit false

namespace FlinkCluster

open Kubernetes

/-! ## Containers of pods -/

namespace Kubernetes

/-- A pod with metadata and a specification, whose containers are these. -/
structure Pod.Holds (pod : Pod) (cs : List Container) : Prop where
  metadata : ∃ metadata, pod.metadata = some metadata
  spec : ∃ spec, pod.spec = some spec ∧ spec.containers = cs.map some

/-- The pod with other containers. -/
def Pod.withContainers (pod : Pod) (cs : List Container) : Pod :=
  { pod with spec := pod.spec.map fun spec => { spec with containers := cs.map some } }

variable {pod : Pod} {cs ds : List Container}

theorem Pod.Holds.withContainers (h : pod.Holds cs) (ds : List Container) :
    (pod.withContainers ds).Holds ds := by
  obtain ⟨hmetadata, spec, hspec, -⟩ := h
  exact ⟨hmetadata, _, by rw [Pod.withContainers, hspec]; rfl, rfl⟩

theorem Pod.withContainers_again (pod : Pod) (cs ds : List Container) :
    (pod.withContainers cs).withContainers ds = pod.withContainers ds := by
  simp [Pod.withContainers, Function.comp_def]

theorem demandAll_map_some {α : Type} (field : String) (xs : List α) :
    demandAll field (xs.map some) = .ok xs := demandAll_eq_ok_iff.2 rfl

theorem demandAll_of_null {α : Type} {field : String} {items : List (Option α)}
    (h : none ∈ items) : demandAll field items = .error (.absentObject field) := by
  cases hdemand : demandAll field items with
  | error e => rw [(error_of_demandAll hdemand).1]
  | ok xs =>
    rw [demandAll_eq_ok_iff.1 hdemand] at h
    simp at h

end Kubernetes

namespace PodDraft

variable {pod : Pod} {draft : PodDraft} {cs : List Container}

/-! ## Joining -/

theorem containers_eq (h : draft.spec.containers = cs.map some) :
    draft.containers = .ok (draft.main :: cs.filter fun c => c.name ≠ draft.main.name) := by
  rw [containers, h, demandAll_map_some]
  rfl

/-- The pod of a draft. -/
theorem toPod_eq (h : draft.spec.containers = cs.map some) :
    draft.toPod = .ok (draft.rest.withContainers
      (draft.main :: cs.filter fun c => c.name ≠ draft.main.name)) := by
  rw [toPod, containers_eq h]
  rfl

theorem toPod_of_null (h : none ∈ draft.spec.containers) :
    draft.toPod = .error (.absentObject "name") := by
  rw [toPod, containers, demandAll_of_null h]
  rfl

/-! ## Splitting -/

/-- The first container of the main name, or a bare one. -/
def mainOf (cs : List Container) : Container :=
  (cs.find? isMain).getD { name := mainContainerName }

theorem mainOf_name (cs : List Container) : (mainOf cs).name = mainContainerName := by
  unfold mainOf
  cases hfind : cs.find? isMain with
  | none => rfl
  | some c => simpa [isMain] using List.find?_some hfind

theorem ofPod_eq {spec : PodSpec} (hspec : pod.spec = some spec)
    (h : spec.containers = cs.map some) :
    ofPod pod = .ok { ofParts (pod.withContainers (cs.eraseP isMain)) none with
      main := mainOf cs } := by
  rw [ofPod, hspec, Option.getD_some, h, demandAll_map_some]
  simp only [Pod.withContainers, hspec]
  rfl

theorem ofPod_of_null {spec : PodSpec} (hspec : pod.spec = some spec)
    (h : none ∈ spec.containers) : ofPod pod = .error (.absentObject "name") := by
  rw [ofPod, hspec, Option.getD_some, demandAll_of_null h]
  rfl

/-- Splitting takes no container of another name than the main one. -/
theorem filter_eraseP_isMain (cs : List Container) :
    (cs.eraseP isMain).filter (fun c => c.name ≠ mainContainerName) =
      cs.filter fun c => c.name ≠ mainContainerName := by
  induction cs with
  | nil => rfl
  | cons c cs ih =>
    by_cases hc : c.name = mainContainerName
    · simp [isMain, hc]
    · rw [List.eraseP_cons_of_neg (by simp [isMain, hc]), List.filter_cons, List.filter_cons, ih]

/-! ## Both -/

/-- A template that is split and joined again. -/
def normalize (pod : Pod) : Outcome Pod := ofPod pod >>= toPod

/-- The containers of such a template: its main one, and those of other names. -/
def normalContainers (cs : List Container) : List Container :=
  mainOf cs :: cs.filter fun c => c.name ≠ mainContainerName

theorem normalContainers_again (cs : List Container) :
    normalContainers (normalContainers cs) = normalContainers cs := by
  have hmain : mainOf (normalContainers cs) = mainOf cs := by
    rw [mainOf, normalContainers, List.find?_cons_of_pos (by simp [isMain, mainOf_name])]
    rfl
  rw [normalContainers, hmain]
  simp [normalContainers, mainOf_name]

theorem countP_normalContainers (cs : List Container) :
    (normalContainers cs).countP (fun c => c.name == mainContainerName) = 1 := by
  have hsole := containers_countP_name
    (@containers_eq { main := mainOf cs, spec := { containers := cs.map some } } cs rfl)
  simp only [mainOf_name] at hsole
  exact hsole

/-- **Splitting and joining a template** sorts its containers. -/
theorem normalize_eq (h : pod.Holds cs) :
    normalize pod = .ok (pod.withContainers (normalContainers cs)) := by
  obtain ⟨⟨metadata, hmetadata⟩, spec, hspec, hcontainers⟩ := h
  rw [normalize, ofPod_eq hspec hcontainers]
  change toPod _ = _
  have hothers : ({ ofParts (pod.withContainers (cs.eraseP isMain)) none with
      main := mainOf cs } : PodDraft).spec.containers = (cs.eraseP isMain).map some := by
    simp [ofParts, Pod.withContainers, hspec]
  rw [toPod_eq hothers]
  simp only [mainOf_name, filter_eraseP_isMain]
  simp [rest, ofParts, Pod.withContainers, hspec, hmetadata, normalContainers]

theorem normalize_again (h : pod.Holds cs) : (normalize pod >>= normalize) = normalize pod := by
  rw [normalize_eq h]
  change normalize _ = _
  rw [normalize_eq (h.withContainers _), Pod.withContainers_again, normalContainers_again]

/-- **Joining and splitting a draft** gives it back. -/
theorem toPod_ofPod (hmain : draft.main.name = mainContainerName)
    (h : draft.spec.containers = cs.map some) (hothers : ∀ c ∈ cs, c.name ≠ mainContainerName) :
    (draft.toPod >>= ofPod) = .ok draft := by
  have hkept : cs.filter (fun c => c.name ≠ draft.main.name) = cs :=
    List.filter_eq_self.2 fun c hc => by simpa [hmain] using hothers c hc
  have hfirst : isMain draft.main = true := by simp [isMain, hmain]
  rw [toPod_eq h, hkept]
  change ofPod _ = _
  rw [ofPod_eq rfl rfl, mainOf, List.eraseP_cons_of_pos hfirst, List.find?_cons_of_pos hfirst]
  simp [ofParts, Pod.withContainers, rest, ← h]

/-- **Splitting and joining are inverse up to the order of containers.** A template that is split and
joined has its first container of the main name in front, or a bare one, and behind it those of
other names; all else is as it was, and doing it again changes nothing. A draft that is joined and
split is the same, if only its main container has the main name. The pod of any draft has one
container of its main container's name. With a null among the containers both fail. -/
theorem inverse_up_to_normal :
    (∀ (pod : Pod) cs, pod.Holds cs →
      normalize pod = .ok (pod.withContainers (normalContainers cs)) ∧
      (normalContainers cs).countP (fun c => c.name == mainContainerName) = 1 ∧
      (normalize pod >>= normalize) = normalize pod) ∧
    (∀ (draft : PodDraft) (cs : List Container), draft.main.name = mainContainerName →
      draft.spec.containers = cs.map some → (∀ c ∈ cs, c.name ≠ mainContainerName) →
      (draft.toPod >>= ofPod) = .ok draft) ∧
    (∀ (draft : PodDraft) (cs : List Container), draft.spec.containers = cs.map some →
      ∃ ds, draft.toPod = .ok (draft.rest.withContainers ds) ∧ draft.containers = .ok ds ∧
        ds.countP (fun c => c.name == draft.main.name) = 1) ∧
    (∀ (pod : Pod) spec, pod.spec = some spec → none ∈ spec.containers →
      normalize pod = .error (.absentObject "name")) ∧
    ∀ draft : PodDraft, none ∈ draft.spec.containers →
      draft.toPod = .error (.absentObject "name") := by
  refine ⟨fun pod cs h => ⟨normalize_eq h, countP_normalContainers cs, normalize_again h⟩,
    fun draft cs => toPod_ofPod, fun draft cs h => ?_, fun pod spec hspec hnull => ?_,
    fun draft => toPod_of_null⟩
  · exact ⟨_, toPod_eq h, containers_eq h, containers_countP_name (containers_eq h)⟩
  · rw [normalize, ofPod_of_null hspec hnull]
    rfl

end PodDraft

/-! ## A template with two main containers -/

/-- A template with two containers of the main name behind another. -/
def Kubernetes.Pod.doubled : Pod where
  metadata := some {}
  spec := some { containers := [some { name := "sidecar" },
    some { name := mainContainerName, image := some "first" },
    some { name := mainContainerName, image := some "second" }] }

/-- The second of two main containers is lost, and a draft with a main container of another name
keeps a container of the main name. -/
theorem PodDraft.inverse_up_to_normal_doubled :
    normalize .doubled = .ok (Pod.doubled.withContainers
        [{ name := mainContainerName, image := some "first" }, { name := "sidecar" }]) ∧
      (({ spec := { containers := [some { name := "sidecar" }] } } : PodDraft).toPod >>= ofPod) =
        .ok { spec := { containers := [some { name := "sidecar" }] } } ∧
      ∃ ds, ({ main := { name := "other" }, spec := { containers := [
          some { name := "other" }, some { name := mainContainerName }] } } : PodDraft).containers =
          .ok ds ∧ ds.countP (fun c => c.name == "other") = 1 := by
  have hholds : Pod.doubled.Holds [{ name := "sidecar" },
      { name := mainContainerName, image := some "first" },
      { name := mainContainerName, image := some "second" }] := ⟨⟨_, rfl⟩, _, rfl, rfl⟩
  obtain ⟨hnormal, hinverse, hsole, -, -⟩ := inverse_up_to_normal
  obtain ⟨ds, -, hds, hcount⟩ := hsole
    { main := { name := "other" }, spec := { containers := [
      some { name := "other" }, some { name := mainContainerName }] } }
    [{ name := "other" }, { name := mainContainerName }] rfl
  exact ⟨(hnormal _ _ hholds).1, hinverse _ [{ name := "sidecar" }] rfl rfl (by decide),
    ds, hds, hcount⟩

end FlinkCluster
