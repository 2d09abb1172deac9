import FlinkCluster.Proofs.StepEffects
import FlinkCluster.Specification

/-!
# Composed pods

What composing the steps of a role does to the main container's process, and what the stateful set
of a composed pod is.

* `Step.compose_cons_ok`, `Step.compose_keeps`: a composition runs its steps one after the other.
* `Step.SameProcess`: two drafts whose main containers have one name and start one process. Every
  step after the command keeps both (`Step.sameProcess_of_decorate`).
* `Specification.createStatefulSet_ok`: all fields of a stateful set.
-/

set_option autoImplicit false

namespace FlinkCluster

open Kubernetes

/-! ## Parameters -/

namespace Parameters

theorem of_ok {role : Role} {conf : Configuration} {p : Parameters} (h : of role conf = .ok p) :
    p = { role, conf, clusterId := p.clusterId } ∧
      conf.find? Options.clusterId = .ok (some p.clusterId) ∧ p.clusterId ≠ "" := by
  obtain ⟨id?, hid, h⟩ := Outcome.bind_ok h
  cases id? with
  | none => exact absurd h Outcome.misconfigured_ne_ok
  | some id =>
    dsimp only at h
    split at h
    · exact absurd h Outcome.misconfigured_ne_ok
    · rename_i hne
      rw [← Outcome.pure_ok h]
      exact ⟨rfl, hid, hne⟩

end Parameters

/-! ## Runs of steps -/

namespace Step

variable {p : Parameters} {host : Host}

theorem compose_cons_ok {step : Step} {steps : List Step} {draft last : PodDraft}
    {rs : List Resource} (h : compose p host (step :: steps) draft = .ok (last, rs)) :
    ∃ next first others, step.decorate p host draft = .ok next ∧
      step.resources p host = .ok first ∧ compose p host steps next = .ok (last, others) ∧
      rs = first ++ others := by
  obtain ⟨⟨next, first⟩, happly, htail⟩ := Outcome.bind_ok h
  obtain ⟨⟨last', others⟩, hrest, hpair⟩ := Outcome.bind_ok htail
  obtain ⟨next', hdecorate, happly'⟩ := Outcome.bind_ok happly
  obtain ⟨first', hresources, hdone⟩ := Outcome.bind_ok happly'
  cases Outcome.pure_ok hdone
  cases Outcome.pure_ok hpair
  exact ⟨next, first, others, hdecorate, hresources, hrest, rfl⟩

/-- A property of drafts that every step keeps holds at the end of a composition. -/
theorem compose_keeps {P : PodDraft → Prop} {steps : List Step} {draft last : PodDraft}
    {rs : List Resource} (h : compose p host steps draft = .ok (last, rs))
    (hstep : ∀ step ∈ steps, ∀ d d', step.decorate p host d = .ok d' → P d → P d')
    (hP : P draft) : P last := by
  induction steps generalizing draft rs with
  | nil =>
    obtain ⟨rfl, -⟩ := Prod.mk.inj (Except.ok.inj h)
    exact hP
  | cons step steps ih =>
    obtain ⟨next, r₁, r₂, hdecorate, -, h, -⟩ := compose_cons_ok h
    exact ih h (fun s hs => hstep s (List.mem_cons_of_mem _ hs))
      (hstep step List.mem_cons_self _ _ hdecorate hP)

theorem nodup_chain (role : Role) : (chain role).Nodup := by
  cases role <;> decide

theorem jobManager_of_mem_chain {role : Role} {step : Step} (h : step ∈ chain role)
    (hstep : step ∉ chain .taskManager) : role = .jobManager := by
  cases role with
  | jobManager => rfl
  | taskManager => exact absurd h hstep

theorem taskManager_of_mem_chain {role : Role} {step : Step} (h : step ∈ chain role)
    (hstep : step ∉ chain .jobManager) : role = .taskManager := by
  cases role with
  | jobManager => exact absurd h hstep
  | taskManager => rfl

/-! ## The process of the main container -/

/-- The main containers have one name and start one process. -/
structure SameProcess (d d' : PodDraft) : Prop where
  name : d'.main.name = d.main.name
  command : d'.main.command = d.main.command
  args : d'.main.args = d.main.args

theorem SameProcess.refl (d : PodDraft) : SameProcess d d := ⟨rfl, rfl, rfl⟩

theorem SameProcess.trans {d d' d'' : PodDraft} (h : SameProcess d d') (h' : SameProcess d' d'') :
    SameProcess d d'' :=
  ⟨h'.name.trans h.name, h'.command.trans h.command, h'.args.trans h.args⟩

theorem sameProcess_of_mountHadoop {d d' : PodDraft} (h : mountHadoop p host d = .ok d') :
    SameProcess d d' := by
  obtain ⟨-, rfl⟩ | ⟨_, _, -, -, -, rfl⟩ := eq_of_mountHadoop h
  · exact .refl d'
  · exact ⟨rfl, rfl, rfl⟩

theorem sameProcess_of_mountKerberos {d d' : PodDraft} (h : mountKerberos p d = .ok d') :
    SameProcess d d' := by
  obtain rfl | ⟨_, _, rfl⟩ := extended_of_mountKerberos h
  · exact .refl d'
  · exact ⟨rfl, rfl, rfl⟩

theorem sameProcess_of_mountFlinkConf {d d' : PodDraft} (h : mountFlinkConf p host d = .ok d') :
    SameProcess d d' := by
  obtain ⟨_, _, _, -, -, -, -, rfl⟩ := eq_of_mountFlinkConf h
  exact ⟨rfl, rfl, rfl⟩

theorem sameProcess_of_mountUserLib {d d' : PodDraft} (h : mountUserLib p d = .ok d') :
    SameProcess d d' := by
  obtain ⟨-, rfl⟩ | ⟨-, -, rfl⟩ | ⟨_, -, -, -, -, rfl⟩ := eq_of_mountUserLib h
  · exact .refl d'
  · exact .refl d'
  · exact ⟨rfl, rfl, rfl⟩

theorem sameProcess_of_addSecretVariables {d d' : PodDraft}
    (h : addSecretVariables p d = .ok d') : SameProcess d d' := by
  obtain ⟨_, -, ⟨-, rfl⟩ | ⟨_, -, rfl⟩⟩ := eq_of_addSecretVariables h
  · exact .refl d'
  · exact ⟨rfl, rfl, rfl⟩

theorem sameProcess_of_mountSecrets {d d' : PodDraft} (h : mountSecrets p d = .ok d') :
    SameProcess d d' := by
  obtain ⟨_, -, ⟨-, rfl⟩ | ⟨-, -, rfl⟩⟩ := eq_of_mountSecrets h
  · exact .refl d'
  · exact ⟨rfl, rfl, rfl⟩

/-- The steps that follow the command of the job manager. -/
def afterCommand : List Step :=
  [.internalService, .externalService, .hadoop, .kerberos, .flinkConf, .userLib]

theorem sameProcess_of_decorate {step : Step} (hstep : step ∈ afterCommand) {d d' : PodDraft}
    (h : step.decorate p host d = .ok d') : SameProcess d d' := by
  cases step with
  | internalService => exact Except.ok.inj h ▸ .refl d
  | externalService => exact Except.ok.inj h ▸ .refl d
  | hadoop => exact sameProcess_of_mountHadoop h
  | kerberos => exact sameProcess_of_mountKerberos h
  | flinkConf => exact sameProcess_of_mountFlinkConf h
  | userLib => exact sameProcess_of_mountUserLib h
  | _ => simp [afterCommand] at hstep

theorem sameProcess_of_compose {draft last : PodDraft} {rs : List Resource}
    (h : compose p host afterCommand draft = .ok (last, rs)) : SameProcess draft last :=
  compose_keeps h (fun _ hs _ _ hd hP => hP.trans (sameProcess_of_decorate hs hd)) (.refl draft)

theorem decorateInitially_name {ports : Outcome (List ContainerPort)} {d d' : PodDraft}
    (h : decorateInitially p ports d = .ok d') : d'.main.name = mainContainerName := by
  obtain ⟨_, _, _, _, main, _, -, -, -, hmain, rfl⟩ := eq_of_decorateInitially h
  obtain ⟨_, _, _, _, _, -, rfl⟩ := eq_of_initialContainer hmain
  rfl

/-- The main container of a composed job manager of an application. -/
theorem compose_jobManager_main {draft last : PodDraft} {rs : List Resource}
    (happlication : p.isApplication = .ok true)
    (h : compose p host (chain .jobManager) draft = .ok (last, rs)) :
    last.main.name = mainContainerName ∧ ∃ args, applicationArgs p = .ok args ∧
      last.main.args = some (("standalone-job" :: args).map some) := by
  change compose p host (.initialJobManager :: .environmentSecrets :: .mountedSecrets ::
    .jobManagerCommand :: afterCommand) draft = .ok (last, rs) at h
  obtain ⟨d₁, _, _, hinitial, -, h₁, -⟩ := compose_cons_ok h
  obtain ⟨d₂, _, _, henv, -, h₂, -⟩ := compose_cons_ok h₁
  obtain ⟨d₃, _, _, hsecrets, -, h₃, -⟩ := compose_cons_ok h₂
  obtain ⟨d₄, _, _, hcommand, -, hlast, -⟩ := compose_cons_ok h₃
  have hsame := sameProcess_of_compose hlast
  have hname : d₃.main.name = mainContainerName :=
    (sameProcess_of_mountSecrets hsecrets).name.trans <|
      (sameProcess_of_addSecretVariables henv).name.trans (decorateInitially_name hinitial)
  obtain ⟨entry, -, ⟨-, args, hargs, rfl⟩ | ⟨hsession, -⟩⟩ := startJobManager_ok hcommand
  · exact ⟨hsame.name.trans hname, args, hargs, hsame.args⟩
  · rw [happlication] at hsession
    cases hsession

end Step

/-! ## Stateful sets -/

namespace PodDraft

theorem containers_ok {draft : PodDraft} {cs : List Container} (h : draft.containers = .ok cs) :
    ∃ others, cs = draft.main :: others ∧ ∀ c ∈ others, c.name ≠ draft.main.name := by
  obtain ⟨all, -, h⟩ := Outcome.bind_ok h
  exact ⟨_, (Outcome.pure_ok h).symm, fun c hc => by simpa using (List.mem_filter.1 hc).2⟩

end PodDraft

namespace Specification

/-- The parts of a stateful set. -/
theorem createStatefulSet_ok {draft : PodDraft} {claims : List (Option VolumeClaim)}
    {p : Parameters} {name : String} {owners : List (Option OwnerReference)} {s : StatefulSet}
    (h : createStatefulSet draft claims p name owners = .ok s) :
    ∃ cs replicas ns labels annotations,
      draft.containers = .ok cs ∧ p.replicas = .ok replicas ∧ p.namespaceName = .ok ns ∧
      p.labels = .ok labels ∧ p.annotations = .ok annotations ∧
      s = {
        apiVersion := some appsVersion
        kind := some "StatefulSet"
        metadata := some {
          name := some name
          namespaceName := some ns
          labels := some (ofTexts labels)
          annotations := Step.unlessEmpty (ofTexts annotations)
          ownerReferences := unlessNil owners }
        spec := some {
          serviceName := some (Naming.internalService p.clusterId)
          replicas := some (.integer replicas)
          template := {
            metadata := some { draft.metadata with
              labels := some
                ((draft.metadata.labels.getD .empty).union (ofTexts p.selectors)) }
            spec := some { draft.spec with containers := cs.map some } }
          selector := { matchLabels := some (ofTexts p.selectors) }
          volumeClaimTemplates := unlessNil claims } } := by
  obtain ⟨pod, hpod, h⟩ := Outcome.bind_ok h
  obtain ⟨replicas, hreplicas, h⟩ := Outcome.bind_ok h
  obtain ⟨ns, hns, h⟩ := Outcome.bind_ok h
  obtain ⟨labels, hlabels, h⟩ := Outcome.bind_ok h
  obtain ⟨annotations, hannotations, h⟩ := Outcome.bind_ok h
  obtain ⟨cs, hcs, hpod⟩ := Outcome.bind_ok hpod
  refine ⟨cs, replicas, ns, labels, annotations, hcs, hreplicas, hns, hlabels, hannotations, ?_⟩
  rw [← Outcome.pure_ok h, ← Outcome.pure_ok hpod]

/-! ## Specifications -/

variable {host : Host} {template : PodDraft} {claims : List (Option VolumeClaim)} {p : Parameters}
  {s : Specification}

/-- The parts of a job manager's specification. -/
theorem jobManager_ok (h : jobManager host template claims p = .ok s) :
    ∃ draft owners, Step.compose p host (Step.chain .jobManager) template =
        .ok (draft, s.resources) ∧
      createStatefulSet draft claims p (Naming.jobManager p.clusterId) owners =
        .ok s.statefulSet := by
  obtain ⟨⟨draft, resources⟩, hcompose, h⟩ := Outcome.bind_ok h
  obtain ⟨owners, -, h⟩ := Outcome.bind_ok h
  obtain ⟨statefulSet, hset, h⟩ := Outcome.bind_ok h
  rw [← Outcome.pure_ok h]
  exact ⟨draft, _, hcompose, hset⟩

/-- The parts of a task manager's specification. -/
theorem taskManager_ok (h : taskManager host template claims p = .ok s) :
    s.resources = [] ∧ ∃ draft,
      createStatefulSet draft claims p (Naming.taskManager p.clusterId) [] =
        .ok s.statefulSet := by
  obtain ⟨⟨draft, resources⟩, -, h⟩ := Outcome.bind_ok h
  obtain ⟨statefulSet, hset, h⟩ := Outcome.bind_ok h
  rw [← Outcome.pure_ok h]
  exact ⟨rfl, draft, hset⟩

end Specification

end FlinkCluster
