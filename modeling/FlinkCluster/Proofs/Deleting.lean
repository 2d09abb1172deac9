import FlinkCluster.Cluster
import FlinkCluster.Proofs.Management
import FlinkCluster.Proofs.Shutdown
import FlinkCluster.Proofs.Statuses

/-!
# The course of a deletion

What deleting a cluster does in which order, on a server of which nothing is assumed.

* `Service.Tolerated`: one request to delete something, which may be missing.
* `Service.Deletion`: both stateful sets are deleted, that of the task managers first; then, if the
  high availability metadata goes too, the pods are awaited and the store is called.
* `DeploymentStatus.deletedFrom_deleted`: what the status of a deleted cluster says.
* `Service.delete_awaits_shutdown`: the store is called only once there are no pods or the deadline
  has come, and the wait for that ends.
-/

set_option autoImplicit false

namespace FlinkCluster

open Kubernetes Session

variable {σ τ : Type}

/-! ## Statuses -/

/-- The status of a cluster after its deletion. The state of its job is one at which jobs end: the
old one if that is such a state, or else that of a finished job. -/
structure DeploymentStatus.DeletedFrom (old new : DeploymentStatus) : Prop where
  missing : new.jobManager = .missing
  ended : ∃ state : JobState, state.isTerminal = true ∧ new.job.state = some (Choice.word state)
  kept : ∀ state : JobState, state.isTerminal = true →
    old.job.state = some (Choice.word state) → new.job.state = old.job.state
  finished : (∀ state : JobState, state.isTerminal = true →
    old.job.state ≠ some (Choice.word state)) → new.job.state = some (Choice.word JobState.finished)
  others : new = { old with
    jobManager := new.jobManager, job := { old.job with state := new.job.state } }

namespace DeploymentStatus

theorem ofWord?_word (state : JobState) :
    (Choice.ofWord? (Choice.word state) : Option JobState) = some state := by
  cases state <;> rfl

theorem hasEnded_iff {s : JobStatus} :
    hasEnded s = true ↔ ∃ state : JobState, state.isTerminal = true ∧
      s.state = some (Choice.word state) := by
  unfold hasEnded
  cases hstate : s.state with
  | none => simp
  | some word =>
    rw [Option.any_eq_true]
    constructor
    · rintro ⟨state, hword, hterminal⟩
      exact ⟨state, hterminal, congrArg some (Choice.word_of_ofWord? hword).symm⟩
    · rintro ⟨state, hterminal, heq⟩
      obtain rfl := Option.some.inj heq
      exact ⟨state, ofWord?_word state, hterminal⟩

theorem deletedFrom_deleted (s : DeploymentStatus) : DeletedFrom s s.deleted := by
  cases hended : hasEnded s.job with
  | true =>
    have hstate : s.deleted.job.state = s.job.state := by simp [deleted, hended]
    have hiff := hasEnded_iff.1 hended
    refine ⟨rfl, hstate ▸ hiff, fun _ _ _ => hstate, fun hnone => ?_, rfl⟩
    obtain ⟨state, hterminal, heq⟩ := hiff
    exact absurd heq (hnone state hterminal)
  | false =>
    have hstate : s.deleted.job.state = some (Choice.word JobState.finished) := by
      simp [deleted, hended]
    refine ⟨rfl, ⟨.finished, rfl, hstate⟩, fun state hterminal heq => ?_, fun _ => hstate, rfl⟩
    rw [hasEnded_iff.2 ⟨state, hterminal, heq⟩] at hended
    cases hended

/-- A deletion that is repeated says nothing new. -/
theorem deleted_deleted (s : DeploymentStatus) : s.deleted.deleted = s.deleted := by
  have hended : hasEnded s.deleted.job = true := hasEnded_iff.2 (deletedFrom_deleted s).ended
  rw [deleted, if_pos hended]
  rfl

end DeploymentStatus

/-- Whether a store ends in every world, and does nothing to the events before. -/
def AvailabilityStore.Answers (store : AvailabilityStore σ τ) : Prop :=
  ∀ ns id w, ∃ out trace w', (store.delete ns id).Yields w out trace w'

namespace Service

variable {server : Server σ τ} {metadata : DeploymentMetadata} {w w' : σ} {trace : List (Event τ)}

/-! ## Requests to delete -/

/-- A request to delete something is made: that is deleted, or missing already, or the request is
refused. -/
inductive Tolerated (server : Server σ τ) (r : Request) (w : σ) :
    Outcome Unit → List (Event τ) → σ → Prop
  | deleted {answer : r.Answer} {w' : σ} :
    server.respond r w = (.ok answer, w') →
    Tolerated server r w (.ok ()) [.exchange r (.ok answer)] w'
  | missing {e : ApiError} {w' : σ} :
    server.respond r w = (.error (.api e), w') → e.status = 404 →
    Tolerated server r w (.ok ()) [.exchange r (.error (.api e))] w'
  | refused {e : Failure} {w' : σ} :
    server.respond r w = (.error e, w') → (∀ reason, e ≠ .api ⟨404, reason⟩) →
    Tolerated server r w (.error e) [.exchange r (.error e)] w'

/-- Makes a request to delete something. -/
def tolerate (server : Server σ τ) (r : Request) : Session σ τ Unit := do
  let answer ← Session.attempt server r
  let _ ← Session.ofOutcome (Api.ignoringMissing answer)

theorem tolerate_yields (server : Server σ τ) (r : Request) (w : σ) :
    ∃ out trace w', Tolerated server r w out trace w' ∧
      (tolerate server r).Yields w out trace w' := by
  obtain ⟨answer, w', hrespond⟩ : ∃ answer w', server.respond r w = (answer, w') := ⟨_, _, rfl⟩
  have hattempt := yields_attempt hrespond
  cases answer with
  | ok answer =>
    exact ⟨_, _, _, .deleted hrespond, hattempt.bind (Yields.of_ok rfl (yields_pure () w'))⟩
  | error e =>
    cases hmissing : e.isMissing with
    | false =>
      refine ⟨_, _, _, .refused hrespond ?_, hattempt.bind (Yields.of_error ?_)⟩
      · rintro reason rfl
        cases hmissing
      · simp [Api.ignoringMissing, hmissing]
    | true =>
      have htolerated : Api.ignoringMissing (.error e : Outcome r.Answer) = .ok false := by
        simp [Api.ignoringMissing, hmissing]
      cases e with
      | api e =>
        exact ⟨_, _, _, .missing hrespond (by simpa [Failure.isMissing] using hmissing),
          hattempt.bind (Yields.of_ok htolerated (yields_pure () w'))⟩
      | _ => cases hmissing

/-- The store of config maps is asked by one request, for the metadata of the cluster. -/
theorem configMaps_yields (server : Server σ τ) (ns id : String) (w : σ) :
    ∃ out trace w', Tolerated server (.deleteConfigMaps ns
        (Naming.labelSelector (Naming.highAvailabilityLabels id))) w out trace w' ∧
      ((AvailabilityStore.configMaps server).delete ns id).Yields w out trace w' :=
  tolerate_yields server _ w

theorem tolerated_of_configMaps {ns id : String} {out : Outcome Unit}
    (h : ((AvailabilityStore.configMaps server).delete ns id).Yields w out trace w') :
    Tolerated server (.deleteConfigMaps ns
      (Naming.labelSelector (Naming.highAvailabilityLabels id))) w out trace w' := by
  obtain ⟨_, _, _, htolerated, hyields⟩ := configMaps_yields server ns id w
  obtain ⟨rfl, rfl, rfl⟩ := h.unique hyields
  exact htolerated

theorem answers_configMaps (server : Server σ τ) :
    (AvailabilityStore.configMaps server).Answers := by
  intro ns id w
  obtain ⟨out, trace, w', -, hyields⟩ := configMaps_yields server ns id w
  exact ⟨out, trace, w', hyields⟩

/-! ## Deletions -/

/-- The stateful sets of a cluster are deleted, that of the task managers first and what they own
before each; a refusal is the end. -/
inductive BothDeleted (server : Server σ τ) (metadata : DeploymentMetadata) (w : σ) :
    Outcome Unit → List (Event τ) → σ → Prop
  | refused {e : Failure} {trace : List (Event τ)} {w' : σ} :
    Tolerated server (.deleteStatefulSet metadata.namespaceName
      (Naming.taskManager metadata.name) "Foreground") w (.error e) trace w' →
    BothDeleted server metadata w (.error e) trace w'
  | andThen {out : Outcome Unit} {trace trace' : List (Event τ)} {v w' : σ} :
    Tolerated server (.deleteStatefulSet metadata.namespaceName
      (Naming.taskManager metadata.name) "Foreground") w (.ok ()) trace v →
    Tolerated server (.deleteStatefulSet metadata.namespaceName
      (Naming.jobManager metadata.name) "Foreground") v out trace' w' →
    BothDeleted server metadata w out (trace ++ trace') w'

/-- The course of a deletion. The first failure is its end; the store is called last, only if that
is asked for, and only after the wait for the pods has a result. -/
inductive Deletion [Clock τ] (service : Service σ τ) (looks : Nat) (metadata : DeploymentMetadata)
    (withMetadata : Bool) (w : σ) : Outcome Unit → List (Event τ) → σ → Prop
  | refused {e : Failure} {trace : List (Event τ)} {w' : σ} :
    BothDeleted service.server metadata w (.error e) trace w' →
    Deletion service looks metadata withMetadata w (.error e) trace w'
  | plain {trace : List (Event τ)} {w' : σ} : withMetadata = false →
    BothDeleted service.server metadata w (.ok ()) trace w' →
    Deletion service looks metadata withMetadata w (.ok ()) trace w'
  | unawaited {e : Failure} {trace wait : List (Event τ)} {v w' : σ} : withMetadata = true →
    BothDeleted service.server metadata w (.ok ()) trace v →
    (service.awaitShutdown looks metadata).Yields v (.error e) wait w' →
    Deletion service looks metadata withMetadata w (.error e) (trace ++ wait) w'
  | purged {ended : Bool} {out : Outcome Unit} {trace wait called : List (Event τ)} {v v' w' : σ} :
    withMetadata = true →
    BothDeleted service.server metadata w (.ok ()) trace v →
    (service.awaitShutdown looks metadata).Yields v (.ok ended) wait v' →
    (service.store.delete metadata.namespaceName metadata.name).Yields v' out called w' →
    Deletion service looks metadata withMetadata w out (trace ++ wait ++ called) w'

section

variable [Clock τ]

/-- The clock is read, and then the pods are looked for until the deadline, if there is one. -/
theorem awaitShutdown_yields (service : Service σ τ) (looks : Nat) (metadata : DeploymentMetadata)
    (w : σ) :
    ∃ start v, service.server.now w = (start, v) ∧
      ((∃ e, Clock.after start service.patience.timeout = .error e ∧
          (service.awaitShutdown looks metadata).Yields w (.error e) [.reading start] v) ∨
        ∃ deadline ended wait w', Clock.after start service.patience.timeout = .ok deadline ∧
          Watched service metadata.namespaceName
            (Naming.labelSelector (Naming.commonLabels metadata.name)) deadline looks v ended
            wait w' ∧
          (service.awaitShutdown looks metadata).Yields w ended (.reading start :: wait) w') := by
  obtain ⟨start, v, hnow⟩ : ∃ start v, service.server.now w = (start, v) := ⟨_, _, rfl⟩
  refine ⟨start, v, hnow, ?_⟩
  cases hdeadline : Clock.after start service.patience.timeout with
  | error e => exact .inl ⟨e, rfl, (yields_clock hnow).bind (Yields.of_error hdeadline)⟩
  | ok deadline =>
    obtain ⟨ended, wait, w', hwatched, hyields⟩ := service.watch_yields metadata.namespaceName
      (Naming.labelSelector (Naming.commonLabels metadata.name)) deadline looks v
    exact .inr ⟨deadline, ended, wait, w', rfl, hwatched,
      (yields_clock hnow).bind (Yields.of_ok hdeadline hyields)⟩

theorem awaitShutdown_yields_some (service : Service σ τ) (looks : Nat)
    (metadata : DeploymentMetadata) (w : σ) :
    ∃ ended wait w', (service.awaitShutdown looks metadata).Yields w ended wait w' := by
  obtain ⟨start, v, -, ⟨e, -, hyields⟩ | ⟨_, ended, wait, w', -, -, hyields⟩⟩ :=
    service.awaitShutdown_yields looks metadata w
  · exact ⟨_, _, v, hyields⟩
  · exact ⟨ended, _, w', hyields⟩

variable {service : Service σ τ} {looks : Nat} {withMetadata : Bool}

/-- **The course of a deletion.** It may fail anywhere. -/
theorem delete_yields (hstore : service.store.Answers) (looks : Nat)
    (metadata : DeploymentMetadata) (withMetadata : Bool) (w : σ) :
    ∃ out trace w', Deletion service looks metadata withMetadata w out trace w' ∧
      (service.delete looks metadata withMetadata).Yields w out trace w' := by
  obtain ⟨out, tasks, w₁, htolerated, htask⟩ := tolerate_yields service.server
    (.deleteStatefulSet metadata.namespaceName (Naming.taskManager metadata.name) "Foreground") w
  cases out with
  | error e => exact ⟨_, _, _, .refused (.refused htolerated), htask.bind_error⟩
  | ok _ =>
    obtain ⟨out, job, w₂, htolerated', hjob⟩ := tolerate_yields service.server
      (.deleteStatefulSet metadata.namespaceName (Naming.jobManager metadata.name) "Foreground") w₁
    have hboth := BothDeleted.andThen htolerated htolerated'
    cases out with
    | error e => exact ⟨_, _, _, .refused hboth, htask.bind hjob.bind_error⟩
    | ok _ =>
      cases withMetadata with
      | false =>
        refine ⟨_, _, _, .plain rfl hboth, htask.bind ?_⟩
        rw [← List.append_nil job]
        exact hjob.bind (yields_record _ w₂)
      | true =>
        obtain ⟨ended, wait, w₃, hwait⟩ := service.awaitShutdown_yields_some looks metadata w₂
        cases ended with
        | error e =>
          refine ⟨_, _, _, .unawaited rfl hboth hwait, ?_⟩
          rw [List.append_assoc]
          exact htask.bind (hjob.bind hwait.bind_error)
        | ok ended =>
          obtain ⟨out, called, w₄, hcalled⟩ := hstore metadata.namespaceName metadata.name w₃
          refine ⟨_, _, _, .purged rfl hboth hwait hcalled, ?_⟩
          simp only [List.append_assoc]
          refine htask.bind (hjob.bind (hwait.bind ?_))
          cases out with
          | error e => exact hcalled.apart.bind_error
          | ok _ =>
            rw [← List.append_nil called]
            exact hcalled.apart.bind (yields_record _ w₄)

theorem deletion_of_yields {metadata : DeploymentMetadata} {w w' : σ} {trace : List (Event τ)}
    {out : Outcome Unit} (hstore : service.store.Answers)
    (h : (service.delete looks metadata withMetadata).Yields w out trace w') :
    Deletion service looks metadata withMetadata w out trace w' := by
  obtain ⟨_, _, _, hdeletion, hyields⟩ := delete_yields hstore looks metadata withMetadata w
  obtain ⟨rfl, rfl, rfl⟩ := h.unique hyields
  exact hdeletion

/-- The status that a deletion leaves is that of a deleted cluster, if it completes. -/
theorem leaves_delete {metadata : DeploymentMetadata} {w w' : σ} {trace : List (Event τ)}
    {out : Outcome Unit}
    (h : (service.delete looks metadata withMetadata).Yields w out trace w')
    (status : Option DeploymentStatus) :
    (service.delete looks metadata withMetadata).Leaves w status
      (if out.isOk then status.map (·.deleted) else status) := by
  have hleaves := (service.records_delete looks metadata withMetadata).leaves h status
  cases out with
  | ok _ => exact hleaves
  | error e =>
    rw [onSuccess, Option.map_id_fun] at hleaves
    exact hleaves

end

/-! ## Exact clocks -/

/-- What a wait for pods comes to that began at a time and was followed for a number of looks, by
the events since then. -/
structure Awaited (service : Service σ Rat) (ns selector : String) (looks : Nat) (start : Rat)
    (ended : Outcome Bool) (wait : List (Event Rat)) : Prop where
  /-- The pods are listed. -/
  listed : 0 < looks → listings wait ≠ []
  /-- The wait succeeds exactly if its last listing is empty. -/
  succeeds_iff : ended = .ok true ↔ (listings wait).getLast? = some (.ok [])
  /-- It has a result only after an empty listing, or once the deadline has come after another. -/
  result : ∀ b, ended = .ok b → ∃ earlier,
    wait = earlier ++ [.exchange (.listPods ns selector) (.ok [])] ∨
    ∃ pods time, pods ≠ [] ∧ start + service.patience.timeout ≤ time ∧
      wait = earlier ++ [.exchange (.listPods ns selector) (.ok pods), .reading time]
  /-- There are no more looks than fit before the deadline, and one. -/
  bounded : 0 ≤ service.patience.timeout → 0 < service.patience.interval → Steady start wait →
    ((listings wait).length : Int) ≤
      (service.patience.timeout / service.patience.interval).ceil + 1
  /-- Followed for that many looks, the wait comes to its last one. -/
  ends : 0 ≤ service.patience.timeout → 0 < service.patience.interval → Steady start wait →
    (service.patience.timeout / service.patience.interval).ceil + 1 ≤ looks →
    ∃ rounds last v v', wait = rounds ++ last ∧
      LastLook service ns selector (start + service.patience.timeout) v ended last v'

theorem Watched.awaited {service : Service σ Rat} {ns selector : String} {looks : Nat}
    {start : Rat} {ended : Outcome Bool} {wait : List (Event Rat)} {v v' : σ}
    (h : Watched service ns selector (start + service.patience.timeout) looks v ended wait v') :
    Awaited service ns selector looks start ended wait := by
  have hlooks (htimeout : 0 ≤ service.patience.timeout)
      (hinterval : 0 < service.patience.interval) : (service.patience.looks : Int) =
        (service.patience.timeout / service.patience.interval).ceil + 1 := by
    have hceil : (0 : Int) ≤ (service.patience.timeout / service.patience.interval).ceil := by
      have hle : ((0 : Int) : Rat) ≤
          (service.patience.timeout / service.patience.interval).ceil :=
        le_trans (by rw [Int.cast_zero]; exact div_nonneg htimeout hinterval.le) Rat.le_ceil
      exact Int.cast_le.1 hle
    rw [Patience.looks, if_pos hinterval]
    omega
  refine ⟨h.listings_ne_nil, h.ok_true_iff, ?_, ?_, ?_⟩
  · rintro b rfl
    obtain ⟨earlier, hempty | ⟨pods, time, hfound, hreached, hlate⟩⟩ := h.ended_or_late
    · exact ⟨earlier, .inl hempty⟩
    · exact ⟨earlier, .inr ⟨pods, time, hfound, of_decide_eq_true hreached, hlate⟩⟩
  · intro htimeout hinterval hsteady
    have hle := h.length_listings_le_looks hsteady hinterval rfl
    have heq := hlooks htimeout hinterval
    omega
  · intro htimeout hinterval hsteady hmany
    have heq := hlooks htimeout hinterval
    obtain ⟨rounds, last, u, hwait, hlast⟩ :=
      h.exists_lastLook hsteady hinterval rfl (by omega)
    exact ⟨rounds, last, u, v', hwait, hlast⟩

/-- A wait begins with a look at the clock, and an exact clock has every deadline. -/
theorem exists_awaited {service : Service σ Rat} {looks : Nat} {metadata : DeploymentMetadata}
    {v v' : σ} {ended : Outcome Bool} {trace : List (Event Rat)}
    (h : (service.awaitShutdown looks metadata).Yields v ended trace v') :
    ∃ start wait, trace = .reading start :: wait ∧
      Awaited service metadata.namespaceName
        (Naming.labelSelector (Naming.commonLabels metadata.name)) looks start ended wait := by
  obtain ⟨start, u, -, ⟨e, he, -⟩ | ⟨deadline, ended', wait, v'', hdeadline, hwatched, hyields⟩⟩ :=
    service.awaitShutdown_yields looks metadata v
  · cases he
  · obtain rfl := Except.ok.inj hdeadline
    obtain ⟨rfl, rfl, -⟩ := h.unique hyields
    exact ⟨start, wait, rfl, hwatched.awaited⟩

/-- **High availability metadata outlives the pods or the deadline.** Unless a stateful set could
not be deleted, the pods are awaited, and the store is called only if that wait has a result: after
an empty listing, or after a listing and a look at the clock that was not before the deadline. -/
theorem delete_awaits_shutdown (service : Service σ Rat) (hstore : service.store.Answers)
    (looks : Nat) (metadata : DeploymentMetadata) (status : Option DeploymentStatus) (w : σ) :
    ∃ out trace w', (service.delete looks metadata true).Yields w out trace w' ∧
      (service.delete looks metadata true).Leaves w status
        (if out.isOk then status.map (·.deleted) else status) ∧
      ((∃ e, out = .error e ∧ BothDeleted service.server metadata w (.error e) trace w') ∨
        ∃ deletes start wait called ended v v',
          BothDeleted service.server metadata w (.ok ()) deletes v ∧
          (service.awaitShutdown looks metadata).Yields v ended (.reading start :: wait) v' ∧
          trace = deletes ++ .reading start :: wait ++ called ∧
          Awaited service metadata.namespaceName
            (Naming.labelSelector (Naming.commonLabels metadata.name)) looks start ended wait ∧
          ((∃ e, ended = .error e ∧ out = .error e ∧ called = [] ∧ w' = v') ∨
            ∃ b, ended = .ok b ∧
              (service.store.delete metadata.namespaceName metadata.name).Yields v' out called
                w')) := by
  obtain ⟨out, trace, w', hdeletion, hyields⟩ := delete_yields hstore looks metadata true w
  refine ⟨_, trace, w', hyields, leaves_delete hyields status, ?_⟩
  cases hdeletion with
  | refused hboth => exact .inl ⟨_, rfl, hboth⟩
  | plain hfalse _ => cases hfalse
  | @unawaited e deletes _ v _ _ hboth hended =>
    obtain ⟨start, wait, rfl, hawaited⟩ := exists_awaited hended
    exact .inr ⟨deletes, start, wait, [], _, v, _, hboth, hended, (List.append_nil _).symm,
      hawaited, .inl ⟨e, rfl, rfl, rfl, rfl⟩⟩
  | @purged b _ deletes _ called v v' _ _ hboth hended hcalled =>
    obtain ⟨start, wait, rfl, hawaited⟩ := exists_awaited hended
    exact .inr ⟨deletes, start, wait, called, _, v, v', hboth, hended, rfl, hawaited,
      .inr ⟨b, rfl, hcalled⟩⟩

end Service

/-! ## A pod that does not end -/

namespace Cluster

/-- The cluster in memory with an exact clock. -/
def exactServer : Server (Cluster × Rat) Rat where
  respond r w := ((respond r w.1).1, (respond r w.1).2, w.2)
  now w := (w.2, w)
  pause length w := .ok (w.1, w.2 + length)

/-- The service on that cluster. -/
def exactService (patience : Patience Rat) : Service (Cluster × Rat) Rat where
  server := exactServer
  store := .configMaps exactServer
  patience := patience

theorem timeOf_exactServer : TimeOf exactServer Prod.snd where
  respond _ _ := le_refl _
  now _ := ⟨le_refl _, le_refl _⟩
  pause length w w' h := by
    obtain rfl := Except.ok.inj h
    exact le_refl _

/-- The metadata of a pod of the deployment `demo`. -/
def lingeringPod : ObjectMeta where
  name := some "demo-0"
  labels := some (ofTexts (Naming.commonLabels "demo"))

/-- A cluster in memory whose only object is that pod. -/
def lingering : Cluster where
  objects := [(⟨.pod, "default", some "demo-0"⟩, .pod { metadata := some lingeringPod })]

/-- Deletes that deployment, with a timeout of five halves and pauses of one. -/
def deleteLingering : Session (Cluster × Rat) Rat Unit :=
  (exactService ⟨5 / 2, 1⟩).delete 4 { name := "demo" } true

/-- There are no stateful sets to delete. -/
theorem respond_lingering (ns name policy : String) (time : Rat) :
    exactServer.respond (.deleteStatefulSet ns name policy) (lingering, time) =
      (.error (.api notFound), (lingering, time)) := by
  have hnone : lingering.get? ⟨.statefulSet, ns, some name⟩ = none := by
    simp [get?, lingering, Table.findEntry]
  simp only [exactServer, respond, lingering, takeFault, answer] at hnone ⊢
  rw [hnone]

theorem not_bothDeleted_lingering {time : Rat} {e : Failure} {trace : List (Event Rat)}
    {w : Cluster × Rat} :
    ¬ Service.BothDeleted exactServer { name := "demo" } (lingering, time) (.error e) trace w := by
  have hrefused {r : Request} {trace : List (Event Rat)} {w : Cluster × Rat}
      (hr : exactServer.respond r (lingering, time) =
        (.error (.api notFound), (lingering, time))) :
      ¬ Service.Tolerated exactServer r (lingering, time) (.error e) trace w := by
    intro h
    cases h with
    | refused heq hne =>
      rw [hr] at heq
      obtain rfl := Except.error.inj (Prod.mk.inj heq).1
      exact hne _ rfl
  intro h
  cases h with
  | refused h => exact hrefused (respond_lingering ..) h
  | andThen h h' =>
    cases h with
    | deleted heq =>
      rw [respond_lingering] at heq
      cases (Prod.mk.inj heq).1
    | missing heq _ =>
      rw [respond_lingering] at heq
      obtain rfl := (Prod.mk.inj heq).2
      exact hrefused (respond_lingering ..) h'

end Cluster

/-- Deleting that deployment looks for the pod once or more, and four times at most. -/
theorem Service.delete_awaits_shutdown_lingering :
    (Cluster.exactService ⟨5 / 2, 1⟩).store.Answers ∧
      ∃ deletes start wait called out w',
        Cluster.deleteLingering.Yields (Cluster.lingering, 0) out
          (deletes ++ .reading start :: wait ++ called) w' ∧
        listings wait ≠ [] ∧ (listings wait).length ≤ 4 := by
  have hstore : (Cluster.exactService ⟨5 / 2, 1⟩).store.Answers := answers_configMaps _
  refine ⟨hstore, ?_⟩
  obtain ⟨out, trace, w', hyields, -, ⟨e, -, hrefused⟩ |
      ⟨deletes, start, wait, called, ended, v, v', -, hwait, rfl, hawaited, -⟩⟩ :=
    delete_awaits_shutdown (Cluster.exactService ⟨5 / 2, 1⟩) hstore 4 { name := "demo" } none
      (Cluster.lingering, 0)
  · exact absurd hrefused Cluster.not_bothDeleted_lingering
  · refine ⟨deletes, start, wait, called, out, w', hyields, hawaited.listed (by decide), ?_⟩
    have hmakes : Makes Cluster.exactServer (fun _ => True)
        ((Cluster.exactService ⟨5 / 2, 1⟩).awaitShutdown 4 { name := "demo" }) :=
      makes_awaitShutdown trivial 4
    have hsteady := (hmakes.path hwait).steady Cluster.timeOf_exactServer (le_refl _)
    have hle := hawaited.bounded (by decide +kernel) (by decide +kernel) hsteady.2
    have hfour : (5 / 2 / 1 : Rat).ceil + 1 = 4 := by decide +kernel
    change ((listings wait).length : Int) ≤ (5 / 2 / 1 : Rat).ceil + 1 at hle
    omega

end FlinkCluster
