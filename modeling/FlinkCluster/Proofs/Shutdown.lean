import FlinkCluster.Lifecycle
import FlinkCluster.Proofs.Paths
import Mathlib.Algebra.Order.Field.Basic
import Mathlib.Data.Rat.Floor
import Mathlib.Tactic.Linarith

/-!
# Waiting for pods to end

What happens while the end of a cluster's pods is awaited, whatever the server answers and however
its clock runs.

* `Service.Rounds`, `Service.LastLook`: the looks that find pods before the deadline, and the look
  with which the wait ends.
* `Service.watch_yields`: a wait is some rounds and a last look, unless it is not followed that far.
* `Service.Watched.ok_true_iff`, `Service.Watched.ended_or_late`: the wait succeeds exactly if the
  last listing is empty, and else gives up only at the deadline or after it.
* `Service.Watched.length_listings_le_looks`, `Service.Watched.exists_lastLook`: if no pause is
  shorter than it says, the number of looks is bounded by the timeout, and the wait ends.
-/

set_option autoImplicit false

namespace FlinkCluster

open Kubernetes Session

variable {σ τ : Type}

/-! ## Listings -/

/-- The answer of an event that lists pods. -/
def Event.listing? : Event τ → Option (Outcome (List Pod))
  | .exchange (.listPods ..) answer => some answer
  | _ => none

/-- The answers to the listings of pods among events. -/
def listings (trace : List (Event τ)) : List (Outcome (List Pod)) :=
  trace.filterMap Event.listing?

theorem listings_append (trace trace' : List (Event τ)) :
    listings (trace ++ trace') = listings trace ++ listings trace' :=
  List.filterMap_append

@[simp] theorem listings_reading (time : τ) (trace : List (Event τ)) :
    listings (.reading time :: trace) = listings trace := rfl

namespace Service

variable [Clock τ]

/-! ## Looks -/

/-- Looks that find pods before the deadline, each followed by a pause: their number, the world
before them, their events and the world after them. -/
inductive Rounds (service : Service σ τ) (ns selector : String) (deadline : τ) :
    Nat → σ → List (Event τ) → σ → Prop
  | none (w : σ) : Rounds service ns selector deadline 0 w [] w
  | again {n : Nat} {pods : List Pod} {time : τ} {w w₁ w₂ w₃ w' : σ} {trace : List (Event τ)} :
    service.server.respond (.listPods ns selector) w = (.ok pods, w₁) → pods ≠ [] →
    service.server.now w₁ = (time, w₂) → Clock.hasReached time deadline = false →
    service.server.pause service.patience.interval w₂ = .ok w₃ →
    Rounds service ns selector deadline n w₃ trace w' →
    Rounds service ns selector deadline (n + 1) w
      (.exchange (.listPods ns selector) (.ok pods) :: .reading time ::
        .pause service.patience.interval :: trace) w'

/-- The look with which a wait ends: it finds no pods, or the deadline has come, or there is no
further look because the listing was refused or time cannot pass. -/
inductive LastLook (service : Service σ τ) (ns selector : String) (deadline : τ) (w : σ) :
    Outcome Bool → List (Event τ) → σ → Prop
  | ended {w' : σ} :
    service.server.respond (.listPods ns selector) w = (.ok [], w') →
    LastLook service ns selector deadline w (.ok true)
      [.exchange (.listPods ns selector) (.ok [])] w'
  | late {pods : List Pod} {time : τ} {w₁ w' : σ} :
    service.server.respond (.listPods ns selector) w = (.ok pods, w₁) → pods ≠ [] →
    service.server.now w₁ = (time, w') → Clock.hasReached time deadline = true →
    LastLook service ns selector deadline w (.ok false)
      [.exchange (.listPods ns selector) (.ok pods), .reading time] w'
  | refused {e : Failure} {w' : σ} :
    service.server.respond (.listPods ns selector) w = (.error e, w') →
    LastLook service ns selector deadline w (.error e)
      [.exchange (.listPods ns selector) (.error e)] w'
  | halted {pods : List Pod} {time : τ} {e : Failure} {w₁ w' : σ} :
    service.server.respond (.listPods ns selector) w = (.ok pods, w₁) → pods ≠ [] →
    service.server.now w₁ = (time, w') → Clock.hasReached time deadline = false →
    service.server.pause service.patience.interval w' = .error e →
    LastLook service ns selector deadline w (.error e)
      [.exchange (.listPods ns selector) (.ok pods), .reading time] w'

/-- A wait, followed for a number of looks: some rounds and a last look, or as many rounds as it is
followed for. -/
inductive Watched (service : Service σ τ) (ns selector : String) (deadline : τ) (looks : Nat)
    (w : σ) : Outcome Bool → List (Event τ) → σ → Prop
  | finished {n : Nat} {rounds last : List (Event τ)} {out : Outcome Bool} {v w' : σ} :
    n < looks → Rounds service ns selector deadline n w rounds v →
    LastLook service ns selector deadline v out last w' →
    Watched service ns selector deadline looks w out (rounds ++ last) w'
  | unfinished {rounds : List (Event τ)} {w' : σ} :
    Rounds service ns selector deadline looks w rounds w' →
    Watched service ns selector deadline looks w (.error .waitUnfinished) rounds w'

variable {service : Service σ τ} {ns selector : String} {deadline : τ} {n looks : Nat} {w w' : σ}
  {out : Outcome Bool} {trace : List (Event τ)}

theorem watch_yields (service : Service σ τ) (ns selector : String) (deadline : τ) (looks : Nat)
    (w : σ) :
    ∃ out trace w', Watched service ns selector deadline looks w out trace w' ∧
      (service.watch ns selector deadline looks).Yields w out trace w' := by
  induction looks generalizing w with
  | zero => exact ⟨_, _, _, .unfinished (.none w), yields_ofOutcome (.error .waitUnfinished) w⟩
  | succ looks ih =>
    obtain ⟨answer, w₁, hlist⟩ : ∃ answer w₁,
        service.server.respond (.listPods ns selector) w = (answer, w₁) := ⟨_, _, rfl⟩
    have hask := yields_ask hlist
    cases answer with
    | error e =>
      exact ⟨_, _, _, .finished (Nat.succ_pos looks) (.none w) (.refused hlist), hask.bind_error⟩
    | ok pods =>
      cases pods with
      | nil =>
        exact ⟨_, _, _, .finished (Nat.succ_pos looks) (.none w) (.ended hlist),
          hask.bind (yields_pure true w₁)⟩
      | cons pod pods =>
        obtain ⟨time, w₂, hnow⟩ : ∃ time w₂, service.server.now w₁ = (time, w₂) := ⟨_, _, rfl⟩
        have hfound : pod :: pods ≠ [] := List.cons_ne_nil pod pods
        cases hreached : Clock.hasReached time deadline with
        | true =>
          refine ⟨_, _, _, .finished (Nat.succ_pos looks) (.none w)
            (.late hlist hfound hnow hreached), hask.bind ((yields_clock hnow).bind ?_)⟩
          rw [if_pos hreached]
          exact yields_pure false w₂
        | false =>
          have hgoes : ¬ Clock.hasReached time deadline = true := by simp [hreached]
          cases hpause : service.server.pause service.patience.interval w₂ with
          | error e =>
            refine ⟨_, _, _, .finished (Nat.succ_pos looks) (.none w)
              (.halted hlist hfound hnow hreached hpause), hask.bind ((yields_clock hnow).bind ?_)⟩
            rw [if_neg hgoes]
            exact (yields_pause_of_error hpause).bind_error
          | ok w₃ =>
            obtain ⟨out, trace, w', hwatched, hyields⟩ := ih w₃
            have hthis : (service.watch ns selector deadline (looks + 1)).Yields w out
                ([.exchange (.listPods ns selector) (.ok (pod :: pods))] ++ ([.reading time] ++
                  ([.pause service.patience.interval] ++ trace))) w' := by
              refine hask.bind ((yields_clock hnow).bind ?_)
              rw [if_neg hgoes]
              exact (yields_pause hpause).bind hyields
            cases hwatched with
            | finished hn hrounds hlast =>
              exact ⟨_, _, _, .finished (Nat.succ_lt_succ hn)
                (.again hlist hfound hnow hreached hpause hrounds) hlast, hthis⟩
            | unfinished hrounds =>
              exact ⟨_, _, _, .unfinished (.again hlist hfound hnow hreached hpause hrounds), hthis⟩

/-! ## What the listings say -/

/-- Each round lists pods once, and finds some. -/
theorem Rounds.listings_spec (h : Rounds service ns selector deadline n w trace w') :
    (listings trace).length = n ∧ ∀ answer ∈ listings trace, ∃ pods ≠ [], answer = .ok pods := by
  induction h with
  | none w => exact ⟨rfl, fun answer hanswer => absurd hanswer List.not_mem_nil⟩
  | @again n pods _ _ _ _ _ _ trace _ hfound _ _ _ _ ih =>
    refine ⟨congrArg (· + 1) ih.1, fun answer hanswer => ?_⟩
    rcases List.mem_cons.1 hanswer with rfl | hanswer
    · exact ⟨pods, hfound, rfl⟩
    · exact ih.2 answer hanswer

/-- The last look lists pods once; that listing is empty exactly if the wait succeeds. -/
theorem LastLook.listings_spec (h : LastLook service ns selector deadline w out trace w') :
    ∃ answer, listings trace = [answer] ∧ (out = .ok true ↔ answer = .ok []) := by
  cases h with
  | ended _ => exact ⟨.ok [], rfl, by simp⟩
  | late _ hfound _ _ => exact ⟨_, rfl, by simp [hfound]⟩
  | refused _ => exact ⟨_, rfl, by simp⟩
  | halted _ hfound _ _ _ => exact ⟨_, rfl, by simp [hfound]⟩

namespace Watched

/-- A wait that is followed at all lists the pods. -/
theorem listings_ne_nil (h : Watched service ns selector deadline looks w out trace w')
    (hlooks : 0 < looks) : listings trace ≠ [] := by
  cases h with
  | finished hn hrounds hlast =>
    obtain ⟨answer, hanswer, -⟩ := hlast.listings_spec
    simp [listings_append, hanswer]
  | unfinished hrounds => exact List.ne_nil_of_length_pos (hrounds.listings_spec.1 ▸ hlooks)

/-- **The wait succeeds exactly if its last listing is empty.** -/
theorem ok_true_iff (h : Watched service ns selector deadline looks w out trace w') :
    out = .ok true ↔ (listings trace).getLast? = some (.ok []) := by
  cases h with
  | finished hn hrounds hlast =>
    obtain ⟨answer, hanswer, hiff⟩ := hlast.listings_spec
    rw [hiff, listings_append, hanswer, List.getLast?_concat, Option.some_inj]
  | unfinished hrounds =>
    refine ⟨nofun, fun hlast => ?_⟩
    obtain ⟨pods, hfound, hpods⟩ := hrounds.listings_spec.2 _ (List.mem_of_getLast? hlast)
    exact absurd (Except.ok.inj hpods).symm hfound

/-- A wait that has a result ends with an empty listing, or with one that is not empty and after
which the deadline has come. -/
theorem ended_or_late {ended : Bool}
    (h : Watched service ns selector deadline looks w (.ok ended) trace w') :
    ∃ earlier, trace = earlier ++ [.exchange (.listPods ns selector) (.ok [])] ∨
      ∃ pods time, pods ≠ [] ∧ Clock.hasReached time deadline = true ∧
        trace = earlier ++ [.exchange (.listPods ns selector) (.ok pods), .reading time] := by
  generalize hout : Except.ok ended = out at h
  cases h with
  | @finished _ rounds _ _ _ _ _ _ hlast =>
    refine ⟨rounds, ?_⟩
    cases hlast with
    | ended _ => exact .inl rfl
    | late _ hfound _ hreached => exact .inr ⟨_, _, hfound, hreached, rfl⟩
    | refused _ => cases hout
    | halted _ _ _ _ _ => cases hout
  | unfinished _ => cases hout

end Watched

end Service

/-! ## Steady clocks -/

/-- Readings of a clock that has been at a time: none is earlier than the one before it and the
pauses since then. -/
def Steady : Rat → List (Event Rat) → Prop
  | _, [] => True
  | time, .exchange _ _ :: trace => Steady time trace
  | time, .reading now :: trace => time ≤ now ∧ Steady now trace
  | time, .pause length :: trace => Steady (time + length) trace

theorem Steady.of_append {time : Rat} {trace trace' : List (Event Rat)}
    (h : Steady time (trace ++ trace')) : Steady time trace := by
  induction trace generalizing time with
  | nil => trivial
  | cons event trace ih =>
    cases event with
    | exchange r answer => exact ih h
    | reading now => exact ⟨h.1, ih h.2⟩
    | pause length => exact ih h

/-- The time of a server's worlds: requests take none or some, the clock reads it, and a pause takes
as long as it says or longer. -/
structure TimeOf (server : Server σ Rat) (time : σ → Rat) : Prop where
  respond : ∀ r w, time w ≤ time (server.respond r w).2
  now : ∀ w, time w ≤ (server.now w).1 ∧ (server.now w).1 ≤ time (server.now w).2
  pause : ∀ length w w', server.pause length w = .ok w' → time w + length ≤ time w'

/-- What a server with such a time does is steady. -/
theorem Session.Path.steady {server : Server σ Rat} {time : σ → Rat} (htime : TimeOf server time)
    {P : Request → Prop} {w w' : σ} {trace : List (Event Rat)} (h : Path server P w trace w')
    {start : Rat} (hstart : start ≤ time w) : Steady start trace := by
  induction h generalizing start with
  | done w => trivial
  | @exchange r _ w _ _ _ _ hrespond _ ih =>
    have hle := htime.respond r w
    rw [hrespond] at hle
    exact ih (hstart.trans hle)
  | @reading _ w _ _ _ hnow _ ih =>
    obtain ⟨hle, hle'⟩ := htime.now w
    rw [hnow] at hle hle'
    exact ⟨hstart.trans hle, ih hle'⟩
  | @pause length w v _ _ hpause _ ih =>
    have hle := htime.pause length w v hpause
    exact ih (by linarith)

namespace Service

variable {service : Service σ Rat} {ns selector : String} {deadline start : Rat} {n looks : Nat}
  {w w' : σ} {out : Outcome Bool} {trace : List (Event Rat)}

/-- Before the last of some rounds, all pauses but one have passed, and the deadline has not. -/
theorem Rounds.lt_deadline (h : Rounds service ns selector deadline n w trace w')
    (hsteady : Steady start trace) {m : Nat} (hn : n = m + 1) :
    start + m * service.patience.interval < deadline := by
  induction h generalizing start m with
  | none w => cases hn
  | @again n _ time _ _ _ _ _ _ _ _ _ hreached _ _ ih =>
    obtain rfl := Nat.succ.inj hn
    obtain ⟨hle, hsteady⟩ := hsteady
    have hbefore : time < deadline := not_le.1 (of_decide_eq_false hreached)
    cases n with
    | zero => simpa using lt_of_le_of_lt hle hbefore
    | succ m =>
      have hrest := ih hsteady rfl
      push_cast
      linarith

/-- As many rounds as fit before a deadline at a distance. -/
theorem Rounds.le_ceil (h : Rounds service ns selector deadline n w trace w')
    (hsteady : Steady start trace) (hinterval : 0 < service.patience.interval)
    (hdeadline : deadline = start + service.patience.timeout) :
    n ≤ (service.patience.timeout / service.patience.interval).ceil.toNat := by
  cases n with
  | zero => exact Nat.zero_le _
  | succ m =>
    have hlt := h.lt_deadline hsteady rfl
    have hquotient : (m : Rat) < service.patience.timeout / service.patience.interval := by
      rw [lt_div_iff₀ hinterval]
      linarith
    have hceil : ((m : Int) : Rat) <
        ((service.patience.timeout / service.patience.interval).ceil : Rat) := by
      rw [Int.cast_natCast]
      exact lt_of_lt_of_le hquotient Rat.le_ceil
    have hint := Int.cast_lt.1 hceil
    omega

namespace Watched

/-- **The number of looks is bounded** by the timeout in intervals, rounded up, and one more. -/
theorem length_listings_le_looks
    (h : Watched service ns selector deadline looks w out trace w') (hsteady : Steady start trace)
    (hinterval : 0 < service.patience.interval)
    (hdeadline : deadline = start + service.patience.timeout) :
    (listings trace).length ≤ service.patience.looks := by
  rw [Patience.looks, if_pos hinterval]
  cases h with
  | finished _ hrounds hlast =>
    have hle := hrounds.le_ceil hsteady.of_append hinterval hdeadline
    obtain ⟨answer, hanswer, -⟩ := hlast.listings_spec
    rw [listings_append, hanswer, List.length_append, hrounds.listings_spec.1]
    exact Nat.succ_le_succ hle
  | unfinished hrounds =>
    have hle := hrounds.le_ceil hsteady hinterval hdeadline
    rw [hrounds.listings_spec.1]
    exact Nat.le_succ_of_le hle

/-- A wait that is followed for as many looks comes to its end. -/
theorem exists_lastLook (h : Watched service ns selector deadline looks w out trace w')
    (hsteady : Steady start trace) (hinterval : 0 < service.patience.interval)
    (hdeadline : deadline = start + service.patience.timeout)
    (hlooks : service.patience.looks ≤ looks) :
    ∃ rounds last v, trace = rounds ++ last ∧
      LastLook service ns selector deadline v out last w' := by
  cases h with
  | finished _ _ hlast => exact ⟨_, _, _, rfl, hlast⟩
  | unfinished hrounds =>
    have hle := hrounds.le_ceil hsteady hinterval hdeadline
    rw [Patience.looks, if_pos hinterval] at hlooks
    exact absurd (hlooks.trans hle) (Nat.not_succ_le_self _)

end Watched

end Service

end FlinkCluster
