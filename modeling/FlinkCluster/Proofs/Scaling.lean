import FlinkCluster.Proofs.Convergence
import FlinkCluster.Proofs.IntegerText

/-!
# Scaling after deploying

Deploying writes a number of task managers, and scaling computes the number that is wanted. The
first is the fixed number if there is one and follows from parallelism and slots otherwise; the
second always follows from parallelism and slots.

* `wanted_of_no_fixed_count`: without a fixed number both are the same.
* `Service.scales_of_yields`: all that scaling can do, by the answers to its requests.
* `Service.scale_leaves_iff`: scaling leaves a stateful set alone exactly if it has the wanted
  number of replicas.
* `Service.scale_after_deploy`: scaling a deployed cluster leaves it alone exactly if a fixed number
  is the wanted one.
-/

set_option autoImplicit false

namespace FlinkCluster

open Kubernetes Cluster

variable {σ τ : Type} {view : σ → Place → Option Resource}

/-! ## Two computations of the count -/

/-- The number of task managers is the fixed one, or follows from parallelism and slots. -/
theorem Parameters.taskManagerReplicas_ok {role : Role} {conf : Configuration} {id : String}
    {n : Int} (h : taskManagerReplicas ⟨role, conf, id⟩ = .ok n) :
    conf.find? Options.taskManagerReplicas = .ok (some n) ∨
      conf.find? Options.taskManagerReplicas = .ok none ∧
        ∃ parallelism slots, conf.get Options.defaultParallelism = .ok parallelism ∧
          conf.get Options.taskSlots = .ok slots ∧ taskManagerCount parallelism slots = .ok n := by
  obtain ⟨fixed, hfixed, h⟩ := Outcome.bind_ok h
  cases fixed with
  | some replicas => exact .inl (Outcome.pure_ok h ▸ hfixed)
  | none =>
    obtain ⟨parallelism, hparallelism, h⟩ := Outcome.bind_ok h
    obtain ⟨slots, hslots, h⟩ := Outcome.bind_ok h
    exact .inr ⟨hfixed, parallelism, slots, hparallelism, hslots, h⟩

/-- The parallelism of a job is read back from the effective configuration as it was written. -/
theorem parallelism_of_job {ns id : String} {base : Configuration} {spec : DeploymentSpec}
    {job : JobSpec} (hjob : spec.job = some job) {parallelism : Int}
    (h : (spec.effective ns id base).get Options.defaultParallelism = .ok parallelism) :
    parallelism = job.parallelism := by
  rw [Configuration.get,
    Configuration.find?_of_text (DeploymentSpec.text?_defaultParallelism hjob)] at h
  obtain ⟨found, hfound, hdefault⟩ := Outcome.map_ok h
  obtain ⟨n, hn, rfl⟩ := Outcome.map_ok hfound
  rw [← hdefault, Option.getD_some]
  rw [Kind.read, Number.readInteger_integerText] at hn
  split at hn
  · exact absurd hn Outcome.misconfigured_ne_ok
  · exact (Except.ok.inj hn).symm

section Count

variable {ns id : String} {base : Configuration} {spec : DeploymentSpec}

/-- Without a fixed number the one that is written is the one that is wanted. -/
theorem wanted_of_no_fixed_count {parallelism slots n : Int}
    (hparallelism : (spec.effective ns id base).get Options.defaultParallelism = .ok parallelism)
    (hslots : (spec.effective ns id base).get Options.taskSlots = .ok slots)
    (hcount : taskManagerCount parallelism slots = .ok n) :
    Service.wantedTaskManagers spec.job (spec.effective ns id base) = .ok n := by
  unfold Service.wantedTaskManagers
  cases hjob : spec.job with
  | none => simp only [hparallelism, hslots, bind, Except.bind, hcount]
  | some job =>
    rw [parallelism_of_job hjob hparallelism] at hcount
    simp only [hslots, bind, Except.bind, pure, Except.pure, hcount]

/-- The number that is written is the wanted one exactly if any fixed number is. -/
theorem wanted_iff_of_taskManagerReplicas {role : Role} {n : Int}
    (h : Parameters.taskManagerReplicas ⟨role, spec.effective ns id base, id⟩ = .ok n) :
    Service.wantedTaskManagers spec.job (spec.effective ns id base) = .ok n ↔
      ∀ fixed, (spec.effective ns id base).find? Options.taskManagerReplicas = .ok (some fixed) →
        Service.wantedTaskManagers spec.job (spec.effective ns id base) = .ok fixed := by
  rcases Parameters.taskManagerReplicas_ok h with
    hfixed | ⟨hnone, _, _, hparallelism, hslots, hcount⟩
  · constructor
    · intro hwanted fixed hf
      obtain rfl := Option.some.inj (Except.ok.inj (hfixed.symm.trans hf))
      exact hwanted
    · intro hwanted
      exact hwanted n hfixed
  · constructor
    · intro _ fixed hf
      cases hnone.symm.trans hf
    · intro _
      exact wanted_of_no_fixed_count hparallelism hslots hcount

end Count

/-! ## What deploying writes -/

namespace Plan

variable {host : Host} {spec : DeploymentSpec} {conf : Configuration} {plan : Plan}

theorem taskManager_replicas (h : make host spec conf = .ok plan) :
    ∃ n, Parameters.taskManagerReplicas ⟨.taskManager, conf, plan.clusterId⟩ = .ok n ∧
      plan.taskManager.spec.bind (·.replicas) = some (.integer n) := by
  obtain ⟨_, q, _, _, task, -, hq, -, -, -, htask, hset⟩ := make_ok h
  obtain rfl := parameters_of_make h hq
  obtain ⟨-, _, hcreate⟩ := Specification.taskManager_ok htask
  obtain ⟨_, n, _, _, _, -, hreplicas, -, -, -, hstatefulSet⟩ :=
    Specification.createStatefulSet_ok hcreate
  refine ⟨n, hreplicas, ?_⟩
  rw [← hset, hstatefulSet]
  rfl

/-- The plan of an effective configuration is for the cluster and the namespace of that. -/
theorem identity_of_effective {ns id : String} {base : Configuration}
    (h : make host spec (spec.effective ns id base) = .ok plan) :
    plan.clusterId = id ∧ plan.namespaceName = ns := by
  have hid := find?_clusterId_of_make h
  rw [Configuration.find?_of_text DeploymentSpec.text?_clusterId] at hid
  obtain ⟨p, _, _, _, _, hp, -, hns, -⟩ := make_ok h
  obtain rfl := parameters_of_make h hp
  rw [Parameters.namespaceName] at hns
  dsimp only at hns
  rw [Configuration.get, Configuration.find?_of_text DeploymentSpec.text?_namespaceName] at hns
  exact ⟨(Option.some.inj (Except.ok.inj hid)).symm, (Except.ok.inj hns).symm⟩

end Plan

namespace Service

variable {service : Service σ τ} {host : Host} {d : Deployment} {base : Configuration}
  {w w' v : σ} {trace : List (Event τ)}

/-- A completed deployment leaves a stateful set with its number of task managers. -/
theorem deploy_stores_taskManagers (laws : ObjectStore service.server view)
    (h : (service.deploy host d.spec (d.configuration base)).Yields w (.ok ()) trace w') :
    ∃ (s : StatefulSet) (n : Int),
      view w' ⟨.statefulSet, d.metadata.namespaceName,
        some (Naming.taskManager d.metadata.name)⟩ = some (.statefulSet s) ∧
      s.spec.bind (·.replicas) = some (.integer n) ∧
      Parameters.taskManagerReplicas ⟨.taskManager, d.configuration base, d.metadata.name⟩ =
        .ok n := by
  obtain ⟨plan, uid, hplan, hstored⟩ := deploy_stored laws h
  obtain ⟨hid, hns⟩ := Plan.identity_of_effective hplan
  obtain ⟨n, hn, hreplicas⟩ := Plan.taskManager_replicas hplan
  obtain ⟨u, hview⟩ := hstored.taskManager
  have hidentity := (Plan.built_of_make hplan).taskManager
  rw [placeOf_of_identity? hidentity, Resource.name_of_identity? hidentity, hid, hns] at hview
  exact ⟨_, n, hview, hreplicas, hid ▸ hn⟩

end Service

/-! ## What scaling does -/

/-- The request for the stateful set of a cluster's task managers. -/
abbrev DeploymentMetadata.readTaskManagers (m : DeploymentMetadata) : Request :=
  .readStatefulSet m.namespaceName (m.name ++ "-taskmanager")

/-- The request for another number of task managers. -/
abbrev DeploymentMetadata.scaleTaskManagers (m : DeploymentMetadata) (n : Int) : Request :=
  .scaleStatefulSet m.namespaceName (m.name ++ "-taskmanager") n

namespace Service

variable {service : Service σ τ} {host : Host} {d : Deployment} {base : Configuration}
  {w w' v : σ} {trace : List (Event τ)} {metadata : DeploymentMetadata} {job : Option JobSpec}
  {conf : Configuration} {s : StatefulSet}

/-- A stateful set with the wanted number of replicas is left alone. -/
theorem scale_of_same (hreactive : isReactive conf = .ok true)
    (hread : service.server.respond metadata.readTaskManagers w = (.ok s, v)) {n : Int}
    (hwanted : wantedTaskManagers job conf = .ok n)
    (hsame : s.spec.bind (·.replicas) = some (.integer n)) :
    (service.scale metadata job conf).Yields w (.ok true)
      [.exchange metadata.readTaskManagers (.ok s)] v := by
  refine Session.Yields.of_ok hreactive ((Session.yields_attempt hread).bind
    (Session.Yields.of_ok rfl (Session.Yields.of_ok hwanted ?_)))
  rw [if_pos hsame]
  exact Session.yields_pure true v

/-- A stateful set with another number of replicas is given the wanted one. -/
theorem scale_of_other (hreactive : isReactive conf = .ok true)
    (hread : service.server.respond metadata.readTaskManagers w = (.ok s, v)) {n : Int}
    (hwanted : wantedTaskManagers job conf = .ok n)
    (hother : s.spec.bind (·.replicas) ≠ some (.integer n)) {answer : Outcome Unit}
    (hscale : service.server.respond (metadata.scaleTaskManagers n) v = (answer, w')) :
    (service.scale metadata job conf).Yields w (answer.map fun _ => true)
      [.exchange metadata.readTaskManagers (.ok s),
        .exchange (metadata.scaleTaskManagers n) answer] w' := by
  refine Session.Yields.of_ok hreactive ((Session.yields_attempt hread).bind
    (Session.Yields.of_ok rfl (Session.Yields.of_ok hwanted ?_)))
  rw [if_neg hother]
  have hask := Session.yields_ask hscale
  cases answer with
  | error e => exact hask.bind_error
  | ok _ => exact hask.bind (Session.yields_pure true w')

/-- Scaling fails with the computation of the wanted number. -/
theorem scale_of_unknown (hreactive : isReactive conf = .ok true)
    (hread : service.server.respond metadata.readTaskManagers w = (.ok s, v)) {e : Failure}
    (hwanted : wantedTaskManagers job conf = .error e) :
    (service.scale metadata job conf).Yields w (.error e)
      [.exchange metadata.readTaskManagers (.ok s)] v :=
  Session.Yields.of_ok hreactive ((Session.yields_attempt hread).bind
    (Session.Yields.of_ok rfl (Session.Yields.of_error hwanted)))

/-- Scaling a stateful set that is not there, or cannot be read, asks for nothing else. -/
theorem scale_of_refused (hreactive : isReactive conf = .ok true) {e : Failure}
    (hread : service.server.respond metadata.readTaskManagers w = (.error e, v)) :
    (service.scale metadata job conf).Yields w (if e.isMissing then .ok false else .error e)
      [.exchange metadata.readTaskManagers (.error e)] v :=
  Session.Yields.of_ok hreactive
    (Session.yields_read_refused hread (Session.yields_pure false v))

/-- The courses of scaling, by the configuration and the answers to its requests. -/
inductive Scales (server : Server σ τ) (metadata : DeploymentMetadata) (job : Option JobSpec)
    (conf : Configuration) (w : σ) : Outcome Bool → List (Event τ) → σ → Prop
  | idle {reactive : Outcome Bool} : isReactive conf = reactive → reactive ≠ .ok true →
    Scales server metadata job conf w reactive [] w
  | missing {e : Failure} {v : σ} : isReactive conf = .ok true →
    server.respond metadata.readTaskManagers w = (.error e, v) → e.isMissing = true →
    Scales server metadata job conf w (.ok false) [.exchange metadata.readTaskManagers (.error e)] v
  | refused {e : Failure} {v : σ} : isReactive conf = .ok true →
    server.respond metadata.readTaskManagers w = (.error e, v) → e.isMissing = false →
    Scales server metadata job conf w (.error e) [.exchange metadata.readTaskManagers (.error e)] v
  | unknown {s : StatefulSet} {e : Failure} {v : σ} : isReactive conf = .ok true →
    server.respond metadata.readTaskManagers w = (.ok s, v) →
    wantedTaskManagers job conf = .error e →
    Scales server metadata job conf w (.error e) [.exchange metadata.readTaskManagers (.ok s)] v
  | same {s : StatefulSet} {n : Int} {v : σ} : isReactive conf = .ok true →
    server.respond metadata.readTaskManagers w = (.ok s, v) →
    wantedTaskManagers job conf = .ok n → s.spec.bind (·.replicas) = some (.integer n) →
    Scales server metadata job conf w (.ok true) [.exchange metadata.readTaskManagers (.ok s)] v
  | scaled {s : StatefulSet} {n : Int} {v w' : σ} : isReactive conf = .ok true →
    server.respond metadata.readTaskManagers w = (.ok s, v) →
    wantedTaskManagers job conf = .ok n → s.spec.bind (·.replicas) ≠ some (.integer n) →
    server.respond (metadata.scaleTaskManagers n) v = (.ok (), w') →
    Scales server metadata job conf w (.ok true) [.exchange metadata.readTaskManagers (.ok s),
      .exchange (metadata.scaleTaskManagers n) (.ok ())] w'
  | unscaled {s : StatefulSet} {n : Int} {e : Failure} {v w' : σ} : isReactive conf = .ok true →
    server.respond metadata.readTaskManagers w = (.ok s, v) →
    wantedTaskManagers job conf = .ok n → s.spec.bind (·.replicas) ≠ some (.integer n) →
    server.respond (metadata.scaleTaskManagers n) v = (.error e, w') →
    Scales server metadata job conf w (.error e) [.exchange metadata.readTaskManagers (.ok s),
      .exchange (metadata.scaleTaskManagers n) (.error e)] w'

/-- Scaling takes one of the courses. -/
theorem exists_scales (service : Service σ τ) (metadata : DeploymentMetadata)
    (job : Option JobSpec) (conf : Configuration) (w : σ) :
    ∃ out trace w', (service.scale metadata job conf).Yields w out trace w' ∧
      Scales service.server metadata job conf w out trace w' := by
  rcases hreactive : isReactive conf with e | _ | _
  · exact ⟨_, _, w, .of_error hreactive, .idle hreactive nofun⟩
  · exact ⟨_, _, w, .of_ok hreactive (Session.yields_pure false w), .idle hreactive (by simp)⟩
  rcases hread : service.server.respond metadata.readTaskManagers w with ⟨e | s, v⟩
  · have hyields : (service.scale metadata job conf).Yields w _ _ v :=
      scale_of_refused hreactive hread
    cases hmissing : e.isMissing with
    | true =>
      rw [if_pos hmissing] at hyields
      exact ⟨_, _, v, hyields, .missing hreactive hread hmissing⟩
    | false =>
      rw [if_neg (by simp [hmissing])] at hyields
      exact ⟨_, _, v, hyields, .refused hreactive hread hmissing⟩
  cases hwanted : wantedTaskManagers job conf with
  | error e => exact ⟨_, _, v, scale_of_unknown hreactive hread hwanted,
      .unknown hreactive hread hwanted⟩
  | ok n =>
    by_cases hsame : s.spec.bind (·.replicas) = some (.integer n)
    · exact ⟨_, _, v, scale_of_same hreactive hread hwanted hsame,
        .same hreactive hread hwanted hsame⟩
    · rcases hscale : service.server.respond (metadata.scaleTaskManagers n) v with ⟨e | _, w'⟩
      · exact ⟨_, _, w', scale_of_other hreactive hread hwanted hsame hscale,
          .unscaled hreactive hread hwanted hsame hscale⟩
      · exact ⟨_, _, w', scale_of_other hreactive hread hwanted hsame hscale,
          .scaled hreactive hread hwanted hsame hscale⟩

/-- What scaling yields is one of the courses. -/
theorem scales_of_yields {out : Outcome Bool}
    (h : (service.scale metadata job conf).Yields w out trace w') :
    Scales service.server metadata job conf w out trace w' := by
  obtain ⟨_, _, _, hyields, hscales⟩ := service.exists_scales metadata job conf w
  obtain ⟨rfl, rfl, rfl⟩ := h.unique hyields
  exact hscales

/-- A stateful set is left alone exactly if it has the wanted number of replicas. -/
theorem scale_leaves_iff (hreactive : isReactive conf = .ok true)
    (hread : service.server.respond metadata.readTaskManagers w = (.ok s, v)) {n : Int}
    (hreplicas : s.spec.bind (·.replicas) = some (.integer n)) :
    (service.scale metadata job conf).Yields w (.ok true)
        [.exchange metadata.readTaskManagers (.ok s)] v ↔
      wantedTaskManagers job conf = .ok n := by
  constructor
  · intro h
    cases scales_of_yields h with
    | same _ _ hwanted hsame =>
      cases hreplicas.symm.trans hsame
      exact hwanted
  · intro hwanted
    exact scale_of_same hreactive hread hwanted hreplicas

/-! ## Scaling a deployed cluster -/

/-- **Scaling after deploying.** Scaling finds the wanted number of task managers, and asks for
nothing but their stateful set, exactly if that can be read and any fixed number of task managers
that is configured is the wanted one. -/
theorem scale_after_deploy (laws : ObjectStore service.server view)
    (hreactive : isReactive (d.configuration base) = .ok true)
    (hdone : (service.deploy host d.spec (d.configuration base)).Yields w (.ok ()) trace w') :
    ∃ answer v, service.server.respond d.metadata.readTaskManagers w' = (answer, v) ∧
      ((service.scale d.metadata d.spec.job (d.configuration base)).Yields w' (.ok true)
          [.exchange d.metadata.readTaskManagers answer] v ↔
        answer.isOk ∧ ∀ fixed,
          (d.configuration base).find? Options.taskManagerReplicas = .ok (some fixed) →
          wantedTaskManagers d.spec.job (d.configuration base) = .ok fixed) := by
  obtain ⟨s, n, hplace, hreplicas, hcount⟩ := deploy_stores_taskManagers laws hdone
  obtain ⟨answer, v, hread⟩ : ∃ answer v,
      service.server.respond d.metadata.readTaskManagers w' = (answer, v) := ⟨_, _, rfl⟩
  refine ⟨answer, v, hread, ?_⟩
  cases answer with
  | error e =>
    refine ⟨fun h => ?_, fun h => by cases h.1⟩
    obtain ⟨hout, -⟩ := h.unique (scale_of_refused hreactive hread)
    split at hout <;> cases hout
  | ok found =>
    -- What is read is what was deployed.
    have hfound : found = s := by
      have hlaw := laws.read d.metadata.namespaceName (d.metadata.name ++ "-taskmanager") w'
      rw [hread] at hlaw
      cases hlaw with
      | found hview _ => exact Resource.statefulSet.inj (Option.some.inj (hview.symm.trans hplace))
    subst hfound
    have hwanted := wanted_iff_of_taskManagerReplicas hcount
    unfold Deployment.configuration at *
    rw [scale_leaves_iff hreactive hread hreplicas, hwanted]
    exact ⟨fun h => ⟨rfl, h⟩, fun h => h.2⟩

end Service

/-- An application with parallelism four on a reactive cluster with two slots to a task manager,
with a fixed number of task managers or without one. -/
def Deployment.reactive (fixed : Option Int) : Deployment where
  metadata := { name := "demo" }
  spec := {
    flinkConfiguration :=
      .ofEntries [(Options.schedulerMode.key, "reactive"), (Options.taskSlots.key, "2")]
    taskManager := { replicas := fixed }
    job := some { parallelism := 4 } }

/-- The cluster in memory in which that application was deployed. -/
def Cluster.reactive (fixed : Option Int) : Cluster :=
  (Cluster.deployed {} (.reactive fixed)).2.world

/-- Scales that application. -/
def Cluster.scaled (c : Cluster) (fixed : Option Int) : Outcome Bool × Run Cluster Seconds :=
  let d := Deployment.reactive fixed
  ((Cluster.service ⟨.whole 0, .whole 1⟩).scale d.metadata d.spec.job
    (d.configuration .empty)).run.run { world := c, status := some d.status }

/-- The requests among events. -/
def requests {τ : Type} (events : List (Event τ)) : List Request :=
  events.filterMap fun
    | .exchange request _ => some request
    | _ => none

theorem Service.scale_after_deploy_reactive :
    ((Cluster.reactive none).scaled none).1 = .ok true ∧
      requests ((Cluster.reactive none).scaled none).2.events =
        [.readStatefulSet "default" "demo-taskmanager"] := by
  obtain ⟨hdone, hanswer⟩ : (Cluster.deployed {} (.reactive none)).1 = .ok () ∧
      (Cluster.respond (.readStatefulSet "default" "demo-taskmanager")
        (Cluster.reactive none)).1.isOk = true := by decide +kernel
  obtain ⟨_, hyields⟩ := deploy_yields_run (Cluster.service ⟨.whole 0, .whole 1⟩) .bare
    (Deployment.reactive none).spec ((Deployment.reactive none).configuration .empty) {}
    (some (Deployment.reactive none).status)
  change Session.Yields _ _ (Cluster.deployed {} (.reactive none)).1 _ _ at hyields
  rw [hdone] at hyields
  obtain ⟨answer, v, hread, hscale⟩ :=
    scale_after_deploy Cluster.objectStore (by decide +kernel) hyields
  have hfound : answer.isOk := (congrArg (fun reply => reply.1.isOk) hread).symm.trans hanswer
  obtain ⟨_, hscaled⟩ := hscale.2 ⟨hfound, fun fixed hfixed => by
    have hnone : ((Deployment.reactive none).configuration .empty).find?
        Options.taskManagerReplicas = .ok none := by decide +kernel
    cases hnone.symm.trans hfixed⟩ [] (some (Deployment.reactive none).status)
  change (Cluster.reactive none).scaled none = _ at hscaled
  rw [hscaled]
  exact ⟨rfl, rfl⟩

/-- With five task managers fixed, scaling sets aside what deploying wrote. -/
theorem Service.scale_after_deploy_fixed :
    (Cluster.deployed {} (.reactive (some 5))).1 = .ok () ∧
      requests ((Cluster.reactive (some 5)).scaled (some 5)).2.events =
        [.readStatefulSet "default" "demo-taskmanager",
          .scaleStatefulSet "default" "demo-taskmanager" 2] := by
  decide +kernel

end FlinkCluster
