import FlinkCluster.Proofs.Scaling

/-!
# Scaling, from any state

`ScalableStore server view due`: a call for which a refusal is due is refused without effect; any
other call reads or scales the stateful sets that `view` reads. The cluster in memory is such a
server (`Cluster.scalableStore`).

* `Service.course_of_scales`: the course that scaling takes depends on the configuration, the stateful
  set of the task managers and the refusals that are due.
* `Service.scale_rescales`: what is asked for, what comes of it, and what stays as it was.
-/

set_option autoImplicit false

namespace FlinkCluster

open Kubernetes Cluster

/-! ## Servers on which stateful sets are scaled -/

/-- The number of replicas that a stateful set asks for. -/
abbrev Kubernetes.StatefulSet.desired? (s : StatefulSet) : Option IntegerField :=
  s.spec.bind (·.replicas)

section Laws

variable {σ τ : Type}

/-- A server that reads stateful sets and scales them, unless a refusal is `due`. A stateful set
without a specification cannot be scaled. -/
structure ScalableStore (server : Server σ τ) (view : σ → Place → Option Resource)
    (due : σ → Request → Option ApiError) : Prop extends ReadableStore server view due where
  scaled : ∀ ns name n w s s', due w (.scaleStatefulSet ns name n) = none →
    statefulSetIn (view w) (.ofStatefulSet ns name) = some s → scaled? s n = some s' →
    ∃ w', server.respond (.scaleStatefulSet ns name n) w = (.ok (), w') ∧
      view w' = Function.update (view w) (.ofStatefulSet ns name) (some (.statefulSet s'))
  unscaled : ∀ ns name n w s, due w (.scaleStatefulSet ns name n) = none →
    statefulSetIn (view w) (.ofStatefulSet ns name) = some s → scaled? s n = none →
    ∃ e w', server.respond (.scaleStatefulSet ns name n) w = (.error e, w') ∧ view w' = view w

end Laws

namespace ScalableStore

variable {σ τ : Type} {server : Server σ τ} {view : σ → Place → Option Resource}
  {due : σ → Request → Option ApiError} {ns name : String} {n : Int} {w w' : σ} {s : StatefulSet}

/-- A stateful set that is scaled has the number of replicas after it, and nothing else changes. -/
theorem of_scale_ok (laws : ScalableStore server view due)
    (h : server.respond (.scaleStatefulSet ns name n) w = (.ok (), w'))
    (hset : statefulSetIn (view w) (.ofStatefulSet ns name) = some s) :
    ∃ s', scaled? s n = some s' ∧
      view w' = Function.update (view w) (.ofStatefulSet ns name) (some (.statefulSet s')) := by
  cases hdue : due w (.scaleStatefulSet ns name n) with
  | some e =>
    obtain ⟨_, hrefused, -⟩ := laws.refused _ w e hdue
    cases h.symm.trans hrefused
  | none =>
    cases hscaled : scaled? s n with
    | some s' =>
      obtain ⟨_, hdone, hview⟩ := laws.scaled ns name n w s s' hdue hset hscaled
      cases h.symm.trans hdone
      exact ⟨s', rfl, hview⟩
    | none =>
      obtain ⟨_, _, hfailed, -⟩ := laws.unscaled ns name n w s hdue hset hscaled
      cases h.symm.trans hfailed

/-- A stateful set that is not scaled stays as it is. The API has refused to scale it, or it has no
specification. -/
theorem of_scale_error (laws : ScalableStore server view due) {e : Failure}
    (h : server.respond (.scaleStatefulSet ns name n) w = (.error e, w'))
    (hset : statefulSetIn (view w) (.ofStatefulSet ns name) = some s) :
    view w' = view w ∧ (due w (.scaleStatefulSet ns name n) = none → s.spec = none) := by
  cases hdue : due w (.scaleStatefulSet ns name n) with
  | some refusal =>
    obtain ⟨_, hrefused, hview⟩ := laws.refused _ w refusal hdue
    cases h.symm.trans hrefused
    exact ⟨hview, nofun⟩
  | none =>
    cases hscaled : scaled? s n with
    | some s' =>
      obtain ⟨_, hdone, -⟩ := laws.scaled ns name n w s s' hdue hset hscaled
      cases h.symm.trans hdone
    | none =>
      obtain ⟨_, _, hfailed, hview⟩ := laws.unscaled ns name n w s hdue hset hscaled
      cases h.symm.trans hfailed
      exact ⟨hview, fun _ => Option.map_eq_none_iff.1 hscaled⟩

end ScalableStore

namespace Cluster

theorem scalableStore : ScalableStore server get? due where
  toReadableStore := readableStore
  scaled ns name n c s s' hdue hset hscaled := by
    refine ⟨c.set (.ofStatefulSet ns name) (.statefulSet s'), ?_, get?_set ..⟩
    change respond (.scaleStatefulSet ns name n) c = _
    rw [respond_of_not_due hdue]
    simp only [answer, statefulSet?_eq, hset, hscaled]
  unscaled ns name n c s hdue hset hscaled := by
    refine ⟨.absentObject "replicas", c, ?_, rfl⟩
    change respond (.scaleStatefulSet ns name n) c = _
    rw [respond_of_not_due hdue]
    simp only [answer, statefulSet?_eq, hset, hscaled]

/-- Scaling changes the number of replicas to the one given. -/
theorem desired?_of_scaled? {s s' : StatefulSet} {n : Int} (h : scaled? s n = some s') :
    s'.desired? = some (.integer n) := by
  obtain ⟨spec, -, rfl⟩ := Option.map_eq_some_iff.1 h
  rfl

/-- Scaling to the number of replicas that there are changes nothing. -/
theorem scaled?_of_same {s : StatefulSet} {n : Int} (h : s.desired? = some (.integer n)) :
    scaled? s n = some s := by
  obtain ⟨spec, hspec, hreplicas⟩ := Option.bind_eq_some_iff.1 h
  obtain ⟨_, _, _⟩ := s
  subst hspec
  rw [scaled?, Option.map_some, ← hreplicas]

end Cluster

theorem update_statefulSet_self {objects : Place → Option Resource} {p : Place} {s : StatefulSet}
    (h : statefulSetIn objects p = some s) :
    Function.update objects p (some (.statefulSet s)) = objects := by
  refine Function.update_eq_self_iff.2 ?_
  unfold statefulSetIn at h
  split at h
  · rename_i hplace
    rw [hplace, Option.some.inj h]
  · cases h

/-- The place of the stateful set of a cluster's task managers. -/
abbrev DeploymentMetadata.taskManagers (m : DeploymentMetadata) : Place :=
  .ofStatefulSet m.namespaceName (m.name ++ "-taskmanager")

/-! ## Reactive configurations -/

/-- The configuration has a scheduler mode, which in capitals is the reactive one. -/
def Configuration.Reactive (conf : Configuration) : Prop :=
  ∃ mode, conf.find? Options.schedulerMode = .ok (some mode) ∧ Text.upper mode = "REACTIVE"

namespace Service

/-! ## The number of task managers that is wanted -/

/-- What comes of counting the task managers that are wanted: the job's parallelism, or the configured
one without a job, is to be covered with the configured slots. -/
inductive Wanted (conf : Configuration) : Option JobSpec → Outcome Int → Prop
  | ofJob {j : JobSpec} {slots : Int} : conf.get Options.taskSlots = .ok slots →
    Wanted conf (some j) (taskManagerCount j.parallelism slots)
  | ofConfiguration {parallelism slots : Int} :
    conf.get Options.defaultParallelism = .ok parallelism →
    conf.get Options.taskSlots = .ok slots → Wanted conf none (taskManagerCount parallelism slots)
  | noParallelism {e : Failure} : conf.get Options.defaultParallelism = .error e →
    Wanted conf none (.error e)
  | noSlots {job : Option JobSpec} {e : Failure} :
    (job = none → ∃ parallelism, conf.get Options.defaultParallelism = .ok parallelism) →
    conf.get Options.taskSlots = .error e → Wanted conf job (.error e)

section

variable {job : Option JobSpec} {conf : Configuration}

theorem wanted_taskManagers (job : Option JobSpec) (conf : Configuration) :
    Wanted conf job (wantedTaskManagers job conf) := by
  unfold wantedTaskManagers
  cases hslots : conf.get Options.taskSlots with
  | error e =>
    cases job with
    | some j => exact .noSlots nofun hslots
    | none =>
      cases hparallelism : conf.get Options.defaultParallelism with
      | error e' => exact .noParallelism hparallelism
      | ok parallelism => exact .noSlots (fun _ => ⟨parallelism, hparallelism⟩) hslots
  | ok slots =>
    cases job with
    | some j => exact .ofJob hslots
    | none =>
      cases hparallelism : conf.get Options.defaultParallelism with
      | error e => exact .noParallelism hparallelism
      | ok parallelism => exact .ofConfiguration hparallelism hslots

theorem Wanted.unique {out out' : Outcome Int} (h : Wanted conf job out)
    (h' : Wanted conf job out') : out = out' := by
  cases h with
  | ofJob hslots =>
    cases h' with
    | ofJob hslots' => rw [Except.ok.inj (hslots.symm.trans hslots')]
    | noSlots _ hslots' => cases hslots.symm.trans hslots'
  | ofConfiguration hparallelism hslots =>
    cases h' with
    | ofConfiguration hparallelism' hslots' =>
      rw [Except.ok.inj (hparallelism.symm.trans hparallelism'),
        Except.ok.inj (hslots.symm.trans hslots')]
    | noParallelism hparallelism' => cases hparallelism.symm.trans hparallelism'
    | noSlots _ hslots' => cases hslots.symm.trans hslots'
  | noParallelism hparallelism =>
    cases h' with
    | ofConfiguration hparallelism' => cases hparallelism.symm.trans hparallelism'
    | noParallelism hparallelism' => rw [Except.error.inj (hparallelism.symm.trans hparallelism')]
    | noSlots hknown =>
      obtain ⟨_, hparallelism'⟩ := hknown rfl
      cases hparallelism.symm.trans hparallelism'
  | noSlots hknown hslots =>
    cases h' with
    | ofJob hslots' | ofConfiguration _ hslots' => cases hslots.symm.trans hslots'
    | noParallelism hparallelism' =>
      obtain ⟨_, hparallelism⟩ := hknown rfl
      cases hparallelism.symm.trans hparallelism'
    | noSlots _ hslots' => rw [Except.error.inj (hslots.symm.trans hslots')]

/-- The count that scaling uses is the wanted one. -/
theorem wanted_iff {out : Outcome Int} : Wanted conf job out ↔ wantedTaskManagers job conf = out :=
  ⟨(wanted_taskManagers job conf).unique, fun h => h ▸ wanted_taskManagers job conf⟩

end

/-! ## Whether there is anything to do -/

theorem isReactive_iff {conf : Configuration} : isReactive conf = .ok true ↔ conf.Reactive := by
  unfold isReactive Configuration.Reactive
  rcases conf.find? Options.schedulerMode with e | mode | mode
  · simp [Except.map]
  · simp [Except.map]
  · simp [Except.map, Choice.word]

theorem not_reactive_of_error {conf : Configuration} {e : Failure}
    (h : conf.find? Options.schedulerMode = .error e) : ¬conf.Reactive := by
  rintro ⟨mode, hmode, -⟩
  cases h.symm.trans hmode

/-! ## The courses of scaling -/

variable {σ τ : Type}

section Courses

variable (server : Server σ τ) (view : σ → Place → Option Resource)
  (due : σ → Request → Option ApiError) (metadata : DeploymentMetadata) (job : Option JobSpec)
  (conf : Configuration) (w : σ)

/-- The stateful set that is scaled, as it is in a state. -/
abbrev current? : Option StatefulSet := statefulSetIn (view w) metadata.taskManagers

/-- The courses that scaling takes from a state, each with its outcome, its events and the state it
leads to. -/
inductive Course : Outcome Bool → List (Event τ) → σ → Prop
  | unreadable {e : Failure} : conf.find? Options.schedulerMode = .error e →
    Course (.error e) [] w
  | idle {mode : Option String} : conf.find? Options.schedulerMode = .ok mode → ¬conf.Reactive →
    Course (.ok false) [] w
  | refused {e : ApiError} {w' : σ} : conf.Reactive →
    due w metadata.readTaskManagers = some e → view w' = view w →
    Course (if e.status = 404 then .ok false else .error (.api e))
      [.exchange metadata.readTaskManagers (.error (.api e))] w'
  | missing {e : Failure} {w' : σ} : conf.Reactive →
    due w metadata.readTaskManagers = none → current? view metadata w = none → e.isMissing →
    view w' = view w →
    Course (.ok false) [.exchange metadata.readTaskManagers (.error e)] w'
  | unknown {s : StatefulSet} {e : Failure} {w' : σ} : conf.Reactive →
    due w metadata.readTaskManagers = none → current? view metadata w = some s →
    Wanted conf job (.error e) → view w' = view w →
    Course (.error e) [.exchange metadata.readTaskManagers (.ok s)] w'
  | kept {s : StatefulSet} {n : Int} {w' : σ} : conf.Reactive →
    due w metadata.readTaskManagers = none → current? view metadata w = some s →
    Wanted conf job (.ok n) → s.desired? = some (.integer n) → view w' = view w →
    Course (.ok true) [.exchange metadata.readTaskManagers (.ok s)] w'
  | scaled {s s' : StatefulSet} {n : Int} {w' : σ} : conf.Reactive →
    due w metadata.readTaskManagers = none → current? view metadata w = some s →
    Wanted conf job (.ok n) → s.desired? ≠ some (.integer n) →
    scaled? s n = some s' →
    view w' = Function.update (view w) metadata.taskManagers (some (.statefulSet s')) →
    Course (.ok true) [.exchange metadata.readTaskManagers (.ok s),
      .exchange (metadata.scaleTaskManagers n) (.ok ())] w'
  | unscaled {s : StatefulSet} {n : Int} {e : Failure} {v w' : σ} : conf.Reactive →
    due w metadata.readTaskManagers = none → current? view metadata w = some s →
    Wanted conf job (.ok n) → s.desired? ≠ some (.integer n) →
    server.respond metadata.readTaskManagers w = (.ok s, v) →
    (due v (metadata.scaleTaskManagers n) = none → s.spec = none) → view w' = view w →
    Course (.error e) [.exchange metadata.readTaskManagers (.ok s),
      .exchange (metadata.scaleTaskManagers n) (.error e)] w'

end Courses

variable {service : Service σ τ} {server : Server σ τ} {view : σ → Place → Option Resource}
  {due : σ → Request → Option ApiError} {metadata : DeploymentMetadata} {job : Option JobSpec}
  {conf : Configuration} {w w' : σ} {out : Outcome Bool} {trace : List (Event τ)}

/-- Where scaling asks for nothing, the configuration cannot be read or is not reactive. -/
theorem course_of_idle {reactive : Outcome Bool} (hreactive : isReactive conf = reactive)
    (hne : reactive ≠ .ok true) : Course server view due metadata job conf w reactive [] w := by
  have hidle : ¬conf.Reactive := fun h => hne (hreactive.symm.trans (isReactive_iff.2 h))
  subst hreactive
  unfold isReactive at hne ⊢
  cases hmode : conf.find? Options.schedulerMode with
  | error e => exact .unreadable hmode
  | ok mode =>
    -- The configuration can be read, so what is known of the outcome is that it is not true.
    rw [hmode] at hne
    change Course _ _ _ _ _ _ _ (.ok _) _ _
    rw [Bool.eq_false_iff.2 fun htrue => hne (congrArg Except.ok htrue)]
    exact .idle hmode hidle

/-- Where the stateful set is not read, the API has refused to, or it is missing. -/
theorem course_of_unread (laws : ReadableStore server view due) (job : Option JobSpec)
    (hreactive : conf.Reactive) {e : Failure}
    (hread : server.respond metadata.readTaskManagers w = (.error e, w')) :
    Course server view due metadata job conf w (if e.isMissing then .ok false else .error e)
      [.exchange metadata.readTaskManagers (.error e)] w' := by
  obtain ⟨hview, ⟨refusal, hdue, rfl⟩ | ⟨hdue, hset, hmissing⟩⟩ := laws.of_read_error hread
  · simp only [Failure.isMissing, beq_iff_eq]
    exact .refused hreactive hdue hview
  · rw [if_pos hmissing]
    exact .missing hreactive hdue hset hmissing hview

/-- The courses of scaling on a server that reads and scales stateful sets. -/
theorem course_of_scales (laws : ScalableStore server view due)
    (h : Scales server metadata job conf w out trace w') :
    Course server view due metadata job conf w out trace w' := by
  cases h with
  | idle hreactive hne => exact course_of_idle hreactive hne
  | missing hreactive hread hmissing =>
    have hcourse := course_of_unread laws.toReadableStore job (isReactive_iff.1 hreactive) hread
    rwa [if_pos hmissing] at hcourse
  | refused hreactive hread hmissing =>
    have hcourse := course_of_unread laws.toReadableStore job (isReactive_iff.1 hreactive) hread
    rwa [if_neg (by simp [hmissing])] at hcourse
  | unknown hreactive hread hwanted =>
    obtain ⟨hdue, hset, hview⟩ := laws.of_read_ok hread
    exact .unknown (isReactive_iff.1 hreactive) hdue hset (wanted_iff.2 hwanted) hview
  | same hreactive hread hwanted hsame =>
    obtain ⟨hdue, hset, hview⟩ := laws.of_read_ok hread
    exact .kept (isReactive_iff.1 hreactive) hdue hset (wanted_iff.2 hwanted) hsame hview
  | scaled hreactive hread hwanted hother hscale =>
    obtain ⟨hdue, hset, hview⟩ := laws.of_read_ok hread
    obtain ⟨s', hscaled, hview'⟩ := laws.of_scale_ok hscale (hview ▸ hset)
    exact .scaled (isReactive_iff.1 hreactive) hdue hset (wanted_iff.2 hwanted) hother hscaled
      (hview ▸ hview')
  | unscaled hreactive hread hwanted hother hscale =>
    obtain ⟨hdue, hset, hview⟩ := laws.of_read_ok hread
    obtain ⟨hview', hspec⟩ := laws.of_scale_error hscale (hview ▸ hset)
    exact .unscaled (isReactive_iff.1 hreactive) hdue hset (wanted_iff.2 hwanted) hother hread hspec
      (hview'.trans hview)

/-! ## What the courses have in common -/

/-- Unless the configuration is reactive, nothing is asked for. -/
theorem Course.quiet (h : Course server view due metadata job conf w out trace w')
    (hidle : ¬conf.Reactive) : trace = [] := by
  cases h with
  | unreadable | idle => rfl
  | refused hreactive | missing hreactive | unknown hreactive | kept hreactive | scaled hreactive
  | unscaled hreactive => exact absurd hreactive hidle

/-- Scaling that does not succeed leaves the objects as they were. -/
theorem Course.unchanged (h : Course server view due metadata job conf w out trace w')
    (hout : out ≠ .ok true) : view w' = view w := by
  cases h with
  | unreadable | idle => rfl
  | refused _ _ hw' | missing _ _ _ _ hw' | unknown _ _ _ _ hw' | unscaled _ _ _ _ _ _ _ hw' =>
    exact hw'
  | kept | scaled => exact absurd rfl hout

/-- Scaling that succeeds leaves the stateful set with the wanted number of replicas and everything
else as it was. -/
theorem Course.done (h : Course server view due metadata job conf w (.ok true) trace w') :
    ∃ s s' n, conf.Reactive ∧ current? view metadata w = some s ∧
      Wanted conf job (.ok n) ∧ scaled? s n = some s' ∧
      view w' = Function.update (view w) metadata.taskManagers (some (.statefulSet s')) := by
  generalize hout : (.ok true : Outcome Bool) = out at h
  cases h with
  | unreadable | idle | missing | unknown | unscaled => cases hout
  | refused => split at hout <;> cases hout
  | kept hreactive _ hset hwanted hsame hw' =>
    exact ⟨_, _, _, hreactive, hset, hwanted, scaled?_of_same hsame,
      hw'.trans (update_statefulSet_self hset).symm⟩
  | scaled hreactive _ hset hwanted _ hscaled hw' =>
    exact ⟨_, _, _, hreactive, hset, hwanted, hscaled, hw'⟩

/-- A stateful set with the wanted number of replicas is read and not scaled. -/
theorem Course.only_reads (h : Course server view due metadata job conf w out trace w')
    (hreactive : conf.Reactive) {s : StatefulSet} (hset : current? view metadata w = some s)
    {n : Int} (hwanted : Wanted conf job (.ok n))
    (hsame : s.desired? = some (.integer n)) :
    requests trace = [metadata.readTaskManagers] := by
  cases h with
  | unreadable hmode => exact absurd hreactive (not_reactive_of_error hmode)
  | idle _ hidle => exact absurd hreactive hidle
  | refused | missing | unknown | kept => rfl
  | scaled _ _ hset' hwanted' hother | unscaled _ _ hset' hwanted' hother =>
    cases hset.symm.trans hset'
    obtain rfl := Except.ok.inj (hwanted.unique hwanted')
    exact absurd hsame hother

/-- What scaling comes to, from a state: its outcome, its events and the state it leads to. -/
structure Rescaled (service : Service σ τ) (view : σ → Place → Option Resource)
    (due : σ → Request → Option ApiError) (metadata : DeploymentMetadata) (job : Option JobSpec)
    (conf : Configuration) (w : σ) (out : Outcome Bool) (trace : List (Event τ)) (w' : σ) :
    Prop where
  yields : (service.scale metadata job conf).Yields w out trace w'
  course : Course service.server view due metadata job conf w out trace w'
  /-- Unless the configuration is reactive, nothing is asked for. -/
  quiet : ¬conf.Reactive → trace = []
  /-- After a success the stateful set has the wanted number of replicas, and no other object and
  nothing else of it is different. -/
  done : out = .ok true → ∃ s s' n, current? view metadata w = some s ∧
    Wanted conf job (.ok n) ∧ scaled? s n = some s' ∧
    s'.desired? = some (.integer n) ∧
    view w' = Function.update (view w) metadata.taskManagers (some (.statefulSet s'))
  /-- After a success, scaling again only reads, whatever comes of that. -/
  again : out = .ok true → ∀ v out₂ trace₂ v', view v = view w' →
    (service.scale metadata job conf).Yields v out₂ trace₂ v' →
    requests trace₂ = [metadata.readTaskManagers]
  /-- Without a success every object is as it was. -/
  unchanged : out ≠ .ok true → view w' = view w

/-- **Scaling.** In every state, and with any calls refused, scaling reads the task managers'
stateful set of a reactive cluster, asks for the wanted number of replicas where there is another
one, and changes that number only. -/
theorem scale_rescales (laws : ScalableStore service.server view due)
    (metadata : DeploymentMetadata) (job : Option JobSpec) (conf : Configuration) (w : σ) :
    ∃ out trace w', Rescaled service view due metadata job conf w out trace w' := by
  obtain ⟨out, trace, w', hyields, hscales⟩ := service.exists_scales metadata job conf w
  have hcourse := course_of_scales laws hscales
  refine ⟨out, trace, w', hyields, hcourse, hcourse.quiet, ?done, ?again, hcourse.unchanged⟩
  case done =>
    rintro rfl
    obtain ⟨s, s', n, -, hset, hwanted, hscaled, hw'⟩ := hcourse.done
    exact ⟨s, s', n, hset, hwanted, hscaled, desired?_of_scaled? hscaled, hw'⟩
  case again =>
    rintro rfl v out₂ trace₂ v' hv hagain
    obtain ⟨s, s', n, hreactive, -, hwanted, hscaled, hw'⟩ := hcourse.done
    have hset : current? view metadata v = some s' := by
      rw [current?, hv, hw', statefulSetIn, Function.update_self]
    have hcourse₂ := course_of_scales laws (scales_of_yields hagain)
    exact hcourse₂.only_reads hreactive hset hwanted (desired?_of_scaled? hscaled)

/-- Five task managers were deployed, two are wanted: nothing but their number is changed. -/
theorem scale_rescales_fixed :
    ((Cluster.reactive (some 5)).scaled (some 5)).1 = .ok true ∧
      ∃ s, s.desired? = some (.integer 2) ∧
        ((Cluster.reactive (some 5)).scaled (some 5)).2.world.get? =
          Function.update (Cluster.reactive (some 5)).get?
            (Deployment.reactive (some 5)).metadata.taskManagers (some (.statefulSet s)) := by
  have laws : ScalableStore (Cluster.service ⟨.whole 0, .whole 1⟩).server get? due :=
    Cluster.scalableStore
  obtain ⟨out, trace, c, h⟩ := scale_rescales laws (Deployment.reactive (some 5)).metadata
    (Deployment.reactive (some 5)).spec.job ((Deployment.reactive (some 5)).configuration .empty)
    (Cluster.reactive (some 5))
  obtain ⟨left, hrun⟩ : ∃ left, (Cluster.reactive (some 5)).scaled (some 5) =
      (out, ⟨c, [] ++ trace, left⟩) := h.yields [] _
  have hout : ((Cluster.reactive (some 5)).scaled (some 5)).1 = .ok true := by decide +kernel
  obtain ⟨-, s, n, -, hwanted, -, hdesired, hview⟩ := h.done (by rw [← hout, hrun])
  have htwo : wantedTaskManagers (Deployment.reactive (some 5)).spec.job
      ((Deployment.reactive (some 5)).configuration .empty) = .ok 2 := by decide +kernel
  obtain rfl := Except.ok.inj ((wanted_iff.1 hwanted).symm.trans htwo)
  refine ⟨hout, s, hdesired, ?_⟩
  rw [hrun]
  exact hview

end Service

end FlinkCluster
