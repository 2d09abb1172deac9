import FlinkCluster.Proofs.Deleting

/-!
# Refusals

A refusal of the API is the end of a session and its outcome, unless it says that there is nothing
to delete: `StopsAtRefusal`. Deleting a cluster is of this kind if its store is
(`Service.Deletion.stopsAtRefusal`).
-/

set_option autoImplicit false

namespace FlinkCluster

open Kubernetes Session

variable {σ τ α : Type}

/-- Whether a request is one to delete something. -/
def Request.isDeletion : Request → Bool
  | .deleteStatefulSet .. | .deleteConfigMaps .. => true
  | _ => false

/-- How a session takes refusals: that there is nothing to delete is none, and any other is its end
and its outcome. -/
def StopsAtRefusal (out : Outcome α) (trace : List (Event τ)) : Prop :=
  ∀ earlier r e later, trace = earlier ++ .exchange r (.error e) :: later →
    (r.isDeletion = true ∧ ∃ reason, e = .api ⟨404, reason⟩) ∨ (later = [] ∧ out = .error e)

/-- A store that takes refusals so. -/
def AvailabilityStore.StopsAtRefusal (store : AvailabilityStore σ τ) : Prop :=
  ∀ ns id w out trace w', (store.delete ns id).Yields w out trace w' →
    FlinkCluster.StopsAtRefusal out trace

namespace StopsAtRefusal

variable {out : Outcome α} {trace trace' : List (Event τ)}

theorem nil : StopsAtRefusal out ([] : List (Event τ)) := by
  intro earlier r e later h
  exact absurd h.symm (by simp)

theorem cons {event : Event τ} (hevent : ∀ r e, event ≠ .exchange r (.error e))
    (h : StopsAtRefusal out trace) : StopsAtRefusal out (event :: trace) := by
  intro earlier r e later heq
  cases earlier with
  | nil => exact absurd (List.cons.inj heq).1 (hevent r e)
  | cons first earlier => exact h earlier r e later (List.cons.inj heq).2

theorem append {β : Type} {a : β} (h : StopsAtRefusal (.ok a : Outcome β) trace)
    (h' : StopsAtRefusal out trace') : StopsAtRefusal out (trace ++ trace') := by
  intro earlier r e later heq
  rcases List.append_eq_append_iff.1 heq with ⟨between, -, htrace'⟩ | ⟨between, htrace, hlater⟩
  · exact h' between r e later htrace'
  · cases between with
    | nil => exact h' [] r e later hlater.symm
    | cons event between =>
      obtain ⟨rfl, -⟩ := List.cons.inj hlater
      exact .inl ((h earlier r e between htrace).resolve_right (by simp))

theorem of_error {β : Type} {e : Failure} (h : StopsAtRefusal (.error e : Outcome β) trace) :
    StopsAtRefusal (.error e : Outcome α) trace := by
  intro earlier r e' later heq
  refine (h earlier r e' later heq).imp_right fun ⟨hlater, hout⟩ => ⟨hlater, ?_⟩
  rw [Except.error.inj hout]

theorem refused {r : Request} {e : Failure} :
    StopsAtRefusal (.error e : Outcome α) ([.exchange r (.error e)] : List (Event τ)) := by
  intro earlier r' e' later heq
  cases earlier with
  | nil =>
    obtain ⟨hevent, rfl⟩ := List.cons.inj heq
    cases hevent
    exact .inr ⟨rfl, rfl⟩
  | cons event earlier => exact absurd (List.cons.inj heq).2.symm (by simp)

theorem missing {r : Request} {e : ApiError} (hr : r.isDeletion = true) (he : e.status = 404) :
    StopsAtRefusal out ([.exchange r (.error (.api e))] : List (Event τ)) := by
  intro earlier r' e' later heq
  cases earlier with
  | nil =>
    obtain ⟨hevent, rfl⟩ := List.cons.inj heq
    cases hevent
    obtain ⟨status, reason⟩ := e
    obtain rfl := he
    exact .inl ⟨hr, reason, rfl⟩
  | cons event earlier => exact absurd (List.cons.inj heq).2.symm (by simp)

end StopsAtRefusal

namespace Service

variable {server : Server σ τ} {r : Request} {metadata : DeploymentMetadata} {w w' : σ}
  {trace : List (Event τ)}

theorem Tolerated.stopsAtRefusal {out : Outcome Unit} (hr : r.isDeletion = true)
    (h : Tolerated server r w out trace w') : StopsAtRefusal out trace := by
  cases h with
  | deleted _ => exact .cons (by rintro r e ⟨⟩) .nil
  | missing _ he => exact .missing hr he
  | refused _ _ => exact .refused

theorem configMaps_stopsAtRefusal (server : Server σ τ) :
    (AvailabilityStore.configMaps server).StopsAtRefusal := by
  intro ns id w out trace w' hyields
  exact (tolerated_of_configMaps hyields).stopsAtRefusal rfl

theorem BothDeleted.stopsAtRefusal {out : Outcome Unit}
    (h : BothDeleted server metadata w out trace w') : StopsAtRefusal out trace := by
  cases h with
  | refused h => exact h.stopsAtRefusal rfl
  | andThen h h' => exact (h.stopsAtRefusal rfl).append (h'.stopsAtRefusal rfl)

variable [Clock τ] {service : Service σ τ} {ns selector : String} {deadline : τ} {n looks : Nat}

theorem Rounds.stopsAtRefusal (h : Rounds service ns selector deadline n w trace w')
    (out : Outcome α) : StopsAtRefusal out trace := by
  induction h with
  | none w => exact .nil
  | again _ _ _ _ _ _ ih =>
    exact .cons (by rintro r e ⟨⟩) (.cons (by rintro r e ⟨⟩) (.cons (by rintro r e ⟨⟩) ih))

theorem LastLook.stopsAtRefusal {out : Outcome Bool}
    (h : LastLook service ns selector deadline w out trace w') : StopsAtRefusal out trace := by
  cases h with
  | ended _ => exact .cons (by rintro r e ⟨⟩) .nil
  | late _ _ _ _ => exact .cons (by rintro r e ⟨⟩) (.cons (by rintro r e ⟨⟩) .nil)
  | refused _ => exact .refused
  | halted _ _ _ _ _ => exact .cons (by rintro r e ⟨⟩) (.cons (by rintro r e ⟨⟩) .nil)

theorem Watched.stopsAtRefusal {out : Outcome Bool}
    (h : Watched service ns selector deadline looks w out trace w') : StopsAtRefusal out trace := by
  cases h with
  | finished _ hrounds hlast =>
    exact (hrounds.stopsAtRefusal (.ok ())).append hlast.stopsAtRefusal
  | unfinished hrounds => exact hrounds.stopsAtRefusal _

theorem awaitShutdown_stopsAtRefusal {out : Outcome Bool}
    (h : (service.awaitShutdown looks metadata).Yields w out trace w') :
    StopsAtRefusal out trace := by
  obtain ⟨start, v, -, ⟨e, -, hyields⟩ | ⟨_, ended, wait, v', -, hwatched, hyields⟩⟩ :=
    service.awaitShutdown_yields looks metadata w
  · obtain ⟨rfl, rfl, -⟩ := h.unique hyields
    exact .cons (by rintro r e ⟨⟩) .nil
  · obtain ⟨rfl, rfl, -⟩ := h.unique hyields
    exact .cons (by rintro r e ⟨⟩) hwatched.stopsAtRefusal

theorem Deletion.stopsAtRefusal {withMetadata : Bool} {out : Outcome Unit}
    (hstore : service.store.StopsAtRefusal)
    (h : Deletion service looks metadata withMetadata w out trace w') :
    StopsAtRefusal out trace := by
  cases h with
  | refused hboth => exact hboth.stopsAtRefusal
  | plain _ hboth => exact hboth.stopsAtRefusal
  | unawaited _ hboth hwait =>
    exact hboth.stopsAtRefusal.append (awaitShutdown_stopsAtRefusal hwait).of_error
  | purged _ hboth hwait hcalled =>
    have hawaited := hboth.stopsAtRefusal.append (awaitShutdown_stopsAtRefusal hwait)
    exact hawaited.append (hstore _ _ _ _ _ _ hcalled)

end Service

end FlinkCluster
