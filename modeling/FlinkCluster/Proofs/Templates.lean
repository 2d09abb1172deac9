import FlinkCluster.Proofs.Mounting
import FlinkCluster.Proofs.Selection

/-!
# What a built pod keeps of its template

The steps of a role only add to a template, or set what is theirs to set.

* `PodDraft.untouched`: a pod without all that any step sets. No step changes it
  (`Step.untouched_of_decorate`), so no composition does (`Step.untouched_of_compose`).
* `PodDraft.settled`: a pod without what the steps after the initial one set, which keep it in the
  same way (`Step.settled_of_decorate`). Ports, labels, annotations and the selection of nodes are
  therefore those that the initial step leaves (`Step.compose_chain_ok`).
* `Specification.KeepsTemplate`, `Specification.template_survives`: what the pods of a built
  stateful set have of the template.
-/

set_option autoImplicit false

namespace FlinkCluster

open Kubernetes

/-! ## What steps leave alone -/

def Kubernetes.ObjectMeta.untouched (m : ObjectMeta) : ObjectMeta :=
  { m with labels := none, annotations := none }

/-- The specification without containers and volumes, and without what the initial step sets. -/
def Kubernetes.PodSpec.untouched (s : PodSpec) : PodSpec :=
  { s with
    containers := []
    volumes := none
    serviceAccountName := none
    imagePullSecrets := none
    nodeSelector := none }

/-- The container without what the steps set of the main container. -/
def Kubernetes.Container.untouched (c : Container) : Container :=
  { c with
    name := ""
    image := none
    imagePullPolicy := none
    resources := none
    ports := none
    env := none
    command := none
    args := none
    volumeMounts := none }

namespace PodDraft

/-- The pod without what the steps after the initial one set: its volumes, and the environment, the
process and the mounts of its main container. -/
def settled (d : PodDraft) : PodDraft :=
  { d with
    spec := { d.spec with volumes := none }
    main := { d.main with env := none, command := none, args := none, volumeMounts := none } }

/-- The pod without anything that a step sets. -/
def untouched (d : PodDraft) : PodDraft :=
  { d with
    metadata := d.metadata.untouched
    spec := { d.spec.untouched with containers := d.spec.containers }
    main := d.main.untouched }

theorem untouched_settled (d : PodDraft) : d.settled.untouched = d.untouched := rfl

theorem untouched_of_settled {d d' : PodDraft} (h : d'.settled = d.settled) :
    d'.untouched = d.untouched := by
  rw [← untouched_settled d', h, untouched_settled]

end PodDraft

namespace Step

variable {p : Parameters} {host : Host} {d d' last : PodDraft} {rs : List Resource}

def initialSteps : List Step := [.initialJobManager, .initialTaskManager]

theorem exists_decorateInitially {step : Step} (hstep : step ∈ initialSteps)
    (h : step.decorate p host d = .ok d') : ∃ ports, decorateInitially p ports d = .ok d' := by
  rcases List.mem_cons.1 hstep with rfl | hstep
  · exact ⟨_, h⟩
  · obtain rfl := List.mem_singleton.1 hstep
    exact ⟨_, h⟩

theorem untouched_of_decorateInitially {ports : Outcome (List ContainerPort)}
    (h : decorateInitially p ports d = .ok d') : d'.untouched = d.untouched := by
  obtain ⟨_, _, _, _, main, _, -, -, -, hmain, rfl⟩ := eq_of_decorateInitially h
  obtain ⟨_, _, _, _, _, -, rfl⟩ := eq_of_initialContainer hmain
  rfl

/-- Steps after the initial one change volumes, environment, process and mounts at most. -/
theorem settled_of_decorate {step : Step} (hstep : step ∉ initialSteps)
    (h : step.decorate p host d = .ok d') : d'.settled = d.settled := by
  cases step with
  | initialJobManager | initialTaskManager => simp [initialSteps] at hstep
  | identity | internalService | externalService => rw [← Except.ok.inj h]
  | environmentSecrets =>
    obtain ⟨_, -, ⟨-, rfl⟩ | ⟨_, -, rfl⟩⟩ := eq_of_addSecretVariables h <;> rfl
  | mountedSecrets =>
    obtain ⟨_, -, ⟨-, rfl⟩ | ⟨-, -, rfl⟩⟩ := eq_of_mountSecrets h <;> rfl
  | jobManagerCommand =>
    obtain ⟨_, _, rfl⟩ := eq_of_startJobManager h
    rfl
  | taskManagerCommand =>
    obtain ⟨_, _, rfl⟩ := eq_of_startTaskManager h
    rfl
  | hadoop =>
    obtain ⟨-, rfl⟩ | ⟨_, _, -, -, -, rfl⟩ := eq_of_mountHadoop h <;> rfl
  | kerberos =>
    obtain rfl | ⟨_, _, rfl⟩ := extended_of_mountKerberos h <;> rfl
  | flinkConf =>
    obtain ⟨_, _, _, -, -, -, -, rfl⟩ := eq_of_mountFlinkConf h
    rfl
  | userLib =>
    obtain ⟨-, rfl⟩ | ⟨-, -, rfl⟩ | ⟨_, -, -, -, -, rfl⟩ := eq_of_mountUserLib h <;> rfl

/-- **No step touches what is not its own.** -/
theorem untouched_of_decorate {step : Step} (h : step.decorate p host d = .ok d') :
    d'.untouched = d.untouched := by
  by_cases hstep : step ∈ initialSteps
  · obtain ⟨ports, h⟩ := exists_decorateInitially hstep h
    exact untouched_of_decorateInitially h
  · exact PodDraft.untouched_of_settled (settled_of_decorate hstep h)

/-! ## Compositions -/

theorem untouched_of_compose {steps : List Step} (h : compose p host steps d = .ok (last, rs)) :
    last.untouched = d.untouched := by
  have hkeeps (step : Step) (_ : step ∈ steps) (d₁ d₂ : PodDraft)
      (hd : step.decorate p host d₁ = .ok d₂) (h₁ : d₁.untouched = d.untouched) :
      d₂.untouched = d.untouched := by
    rw [untouched_of_decorate hd, h₁]
  exact compose_keeps (P := fun x => x.untouched = d.untouched) h hkeeps rfl

theorem settled_of_compose {steps : List Step} (hsteps : ∀ step ∈ steps, step ∉ initialSteps)
    (h : compose p host steps d = .ok (last, rs)) : last.settled = d.settled := by
  have hkeeps (step : Step) (hstep : step ∈ steps) (d₁ d₂ : PodDraft)
      (hd : step.decorate p host d₁ = .ok d₂) (h₁ : d₁.settled = d.settled) :
      d₂.settled = d.settled := by
    rw [settled_of_decorate (hsteps step hstep) hd, h₁]
  exact compose_keeps (P := fun x => x.settled = d.settled) h hkeeps rfl

/-- The steps of a role start with an initial one, and the others keep what it settles. -/
theorem compose_chain_ok {role : Role} (h : compose p host (chain role) d = .ok (last, rs)) :
    ∃ ports first, decorateInitially p ports d = .ok first ∧ last.settled = first.settled := by
  cases role with
  | jobManager =>
    obtain ⟨first, _, _, hfirst, -, hrest, -⟩ := compose_cons_ok h
    exact ⟨_, first, hfirst, settled_of_compose (by decide) hrest⟩
  | taskManager =>
    obtain ⟨first, _, _, hfirst, -, hrest, -⟩ := compose_cons_ok h
    exact ⟨_, first, hfirst, settled_of_compose (by decide) hrest⟩

/-- Leaving out an empty map loses nothing. -/
@[simp] theorem getD_unlessEmpty (t : TextMap) : (unlessEmpty t).getD .empty = t := by
  obtain ⟨entries, hnodup⟩ := t
  cases entries <;> rfl

end Step

/-! ## Stateful sets -/

namespace Specification

/-- A map has the entries of another below those of texts, which win. -/
def Below (texts : Table String) (old new : Option TextMap) : Prop :=
  ∀ key, (new.getD .empty).get? key =
    ((ofTexts texts).get? key).or ((old.getD .empty).get? key)

/-- What pods with this metadata, specification and main container have of their template. Whole
records are compared, with the fields that no step knows among theirs. -/
structure KeepsTemplate (p : Parameters) (template : PodDraft) (podMeta : ObjectMeta)
    (podSpec : PodSpec) (container : Container) : Prop where
  /-- Exactly one main container, and then the others of the template. -/
  containers : ∃ others : List Container, template.spec.containers = others.map some ∧
    podSpec.containers = (container :: others.filter (fun c => c.name ≠ mainContainerName)).map some
  name : container.name = mainContainerName
  metadata : podMeta.untouched = template.metadata.untouched
  spec : podSpec.untouched = template.spec.untouched
  main : container.untouched = template.main.untouched
  volumes : template.spec.volumes.getD [] <+: podSpec.volumes.getD []
  mounts : template.main.volumeMounts.getD [] <+: container.volumeMounts.getD []
  ports : template.main.ports.getD [] <+: container.ports.getD []
  labels : ∃ labels,
    p.conf.get (p.select Options.jobManagerLabels Options.taskManagerLabels) = .ok labels ∧
      Below (labels.union p.selectors) template.metadata.labels podMeta.labels
  annotations : ∃ annotations, p.annotations = .ok annotations ∧
    Below annotations template.metadata.annotations podMeta.annotations
  nodeSelector : ∃ nodes, p.nodeSelector = .ok nodes ∧
    Below nodes template.spec.nodeSelector podSpec.nodeSelector

variable {p : Parameters} {host : Host} {template last : PodDraft} {rs : List Resource}
  {claims : List (Option VolumeClaim)} {a : Specification}

/-- The main container is the only one of its name. -/
theorem KeepsTemplate.unique {podMeta : ObjectMeta} {podSpec : PodSpec} {main : Container}
    (h : KeepsTemplate p template podMeta podSpec main) :
    podSpec.containers.countP (fun c => c.map (·.name) = some mainContainerName) = 1 := by
  obtain ⟨others, -, hcontainers⟩ := h.containers
  have hothers : ∀ c ∈ (others.filter (fun c => c.name ≠ mainContainerName)).map some,
      ¬ decide (c.map (·.name) = some mainContainerName) = true := by
    intro c hc
    obtain ⟨o, ho, rfl⟩ := List.mem_map.1 hc
    simpa using (List.mem_filter.1 ho).2
  rw [hcontainers, List.map_cons, List.countP_cons_of_pos (by simp [h.name]),
    List.countP_eq_zero.2 hothers]

theorem below_union (texts : Table String) (old : Option TextMap) :
    Below texts old (some ((old.getD .empty).union (ofTexts texts))) :=
  fun _ => Table.get?_union ..

theorem Below.unlessEmpty {texts : Table String} {old : Option TextMap} {new : TextMap}
    (h : Below texts old (some new)) : Below texts old (Step.unlessEmpty new) :=
  fun key => (congrArg (Table.get? · key) (Step.getD_unlessEmpty new)).trans (h key)

theorem Below.again {texts again : Table String} {old : Option TextMap} {new : TextMap}
    (h : Below (texts.union again) old (some new)) :
    Below (texts.union again) old (some (new.union (ofTexts again))) := by
  intro key
  have hnew := h key
  simp only [ofTexts, Option.getD_some, Table.get?_union, Table.get?_map] at hnew ⊢
  rw [hnew]
  cases again.get? key <;> rfl

theorem labels_ok {labels : Table String} (h : p.labels = .ok labels) :
    ∃ own, p.conf.get (p.select Options.jobManagerLabels Options.taskManagerLabels) = .ok own ∧
      labels = own.union p.selectors := by
  obtain ⟨own, hown, rfl⟩ := Outcome.map_ok h
  exact ⟨own, hown, rfl⟩

/-- What the parts of a stateful set's pods have of the template of their composition. -/
theorem keepsTemplate_of_compose {cs : List Container}
    (h : Step.compose p host (Step.chain p.role) template = .ok (last, rs))
    (hcs : last.containers = .ok cs) :
    KeepsTemplate p template
      { last.metadata with
        labels := some ((last.metadata.labels.getD .empty).union (ofTexts p.selectors)) }
      { last.spec with containers := cs.map some } last.main := by
  have huntouched := Step.untouched_of_compose h
  obtain ⟨volumes, mounts, ⟨hadds, -, -, -⟩⟩ := Step.addsOwn_of_compose h
  obtain ⟨_, first, hfirst, hsettled⟩ := Step.compose_chain_ok h
  obtain ⟨labels, annotations, _, nodes, _, _, hlabels, hannotations, hnodes, hmain, rfl⟩ :=
    Step.eq_of_decorateInitially hfirst
  obtain ⟨_, _, _, _, added, -, rfl⟩ := Step.eq_of_initialContainer hmain
  obtain ⟨own, hown, rfl⟩ := labels_ok hlabels
  obtain ⟨others, hothers, hcs⟩ := Outcome.bind_ok hcs
  obtain rfl := Outcome.pure_ok hcs
  -- What the initial step settled is what the pod has in the end.
  have hname : last.main.name = mainContainerName := congrArg (·.main.name) hsettled
  have hports : last.main.ports = some (template.main.ports.getD [] ++ added.map some) :=
    congrArg (·.main.ports) hsettled
  have hpodLabels : last.metadata.labels =
      some ((template.metadata.labels.getD .empty).union (ofTexts (own.union p.selectors))) :=
    congrArg (·.metadata.labels) hsettled
  have hpodAnnotations : last.metadata.annotations = Step.unlessEmpty
      ((template.metadata.annotations.getD .empty).union (ofTexts annotations)) :=
    congrArg (·.metadata.annotations) hsettled
  have hpodNodes : last.spec.nodeSelector = Step.unlessEmpty
      ((template.spec.nodeSelector.getD .empty).union (ofTexts nodes)) :=
    congrArg (·.spec.nodeSelector) hsettled
  have hcontainers : last.spec.containers = template.spec.containers :=
    congrArg (·.spec.containers) huntouched
  refine {
    containers := ⟨others, ?_, by rw [hname]⟩
    name := hname
    metadata := congrArg (·.metadata) huntouched
    spec := congrArg (·.spec.untouched) huntouched
    main := congrArg (·.main) huntouched
    volumes := ⟨volumes.map some, hadds.volumes.symm⟩
    mounts := ⟨mounts.map some, hadds.mounts.symm⟩
    ports := ⟨added.map some, by rw [hports]; rfl⟩
    labels := ⟨own, hown, ?_⟩
    annotations := ⟨annotations, hannotations, ?_⟩
    nodeSelector := ⟨nodes, hnodes, ?_⟩ }
  · rw [← hcontainers, demandAll_eq_ok_iff.1 hothers]
  · rw [hpodLabels]
    exact (below_union _ _).again
  · rw [hpodAnnotations]
    exact (below_union _ _).unlessEmpty
  · rw [hpodNodes]
    exact (below_union _ _).unlessEmpty

/-- **Templates survive.** The pods of a built stateful set have exactly one main container, then
the template's containers of other names in their order. All that no step sets is as in the
template; its volumes, mounts and ports come first, and its labels, annotations and node selectors
hold wherever the role's own setting, or a selector, has nothing else. -/
theorem template_survives (h : build host template claims p = .ok a) :
    ∃ podMeta podSpec main, a.statefulSet.spec.map (·.template) =
        some { metadata := some podMeta, spec := some podSpec } ∧
      KeepsTemplate p template podMeta podSpec main ∧
      podSpec.containers.countP (fun c => c.map (·.name) = some mainContainerName) = 1 := by
  obtain ⟨last, rs, name, owners, hcompose, hset⟩ := exists_composed h
  obtain ⟨cs, _, _, _, _, hcs, -, -, -, -, hs⟩ := createStatefulSet_ok hset
  have hkeeps := keepsTemplate_of_compose hcompose hcs
  exact ⟨_, _, last.main, by rw [hs]; rfl, hkeeps, hkeeps.unique⟩

/-- A template whose main container has a name of its own, next to others of the main one's, and with
fields that no step knows. -/
def crowdedTemplate : PodDraft where
  metadata := {
    name := some "pod"
    labels := some (ofTexts (.ofEntries [("team", "data"), ("app", "mine")]))
    others := [("finalizers", .list [.text "drain"])] }
  spec := {
    containers := [some { name := mainContainerName }, some { name := "proxy" },
      some { name := mainContainerName }, some { name := "logger" }]
    hostNetwork := some true
    volumes := some [some { name := "scratch", others := [("nfs", .map [("path", .text "/n")])] }]
    others := [("priorityClassName", .text "high"), ("affinity", .map [])] }
  main := {
    name := "worker"
    workingDir := some "/work"
    volumeMounts := some [some { name := "scratch", mountPath := "/scratch" }]
    others := [("livenessProbe", .map [("periodSeconds", .integer 5)])] }

def applicationParameters (role : Role) : Parameters where
  role
  conf := ⟨.ofEntries [(Options.clusterId.key, "demo"), (Options.clusterMode.key, "application")]⟩
  clusterId := "demo"

theorem template_survives_crowded :
    ∃ a podMeta podSpec main,
      build .bare crowdedTemplate [] (applicationParameters .jobManager) = .ok a ∧
      a.statefulSet.spec.map (·.template) =
        some { metadata := some podMeta, spec := some podSpec } ∧
      podSpec.containers = [some main, some { name := "proxy" }, some { name := "logger" }] ∧
      main.name = mainContainerName ∧ main.workingDir = some "/work" ∧
      podMeta.others = [("finalizers", .list [.text "drain"])] ∧
      podSpec.others = [("priorityClassName", .text "high"), ("affinity", .map [])] ∧
      main.others = [("livenessProbe", .map [("periodSeconds", .integer 5)])] ∧
      some { name := "scratch", others := [("nfs", .map [("path", .text "/n")])] } ∈
        podSpec.volumes.getD [] := by
  obtain ⟨a, ha⟩ : ∃ a, build .bare crowdedTemplate [] (applicationParameters .jobManager) =
      .ok a := Outcome.exists_of_isOk (by decide +kernel)
  obtain ⟨podMeta, podSpec, main, htemplate, hkeeps, -⟩ := template_survives ha
  obtain ⟨others, hothers, hcontainers⟩ := hkeeps.containers
  have hcrowd : others = [{ name := mainContainerName }, { name := "proxy" },
      { name := mainContainerName }, { name := "logger" }] :=
    List.map_injective_iff.2 (fun _ _ => Option.some.inj) hothers.symm
  refine ⟨a, podMeta, podSpec, main, ha, htemplate, ?_, hkeeps.name, ?_, ?_, ?_, ?_, ?_⟩
  · rw [hcontainers, hcrowd]
    rfl
  · exact congrArg (·.workingDir) hkeeps.main
  · exact congrArg (·.others) hkeeps.metadata
  · exact congrArg (·.others) hkeeps.spec
  · exact congrArg (·.others) hkeeps.main
  · exact hkeeps.volumes.subset List.mem_cons_self

end Specification

end FlinkCluster
