import FlinkCluster.Api.Session

/-!
# What sessions yield

`Session.Yields s w out trace w'`: run in the world `w`, the session `s` has the outcome `out`, adds
the events `trace` to those before it, whatever these and the status are, and leaves the world `w'`.
There is one lemma for each way in which sessions are built, and what a session yields is unique
(`Yields.unique`). `Session.Leaves s w status status'`: run in the world `w`, it makes of the status
`status` the status `status'`.
-/

set_option autoImplicit false

namespace FlinkCluster.Session

variable {σ τ α β : Type}

/-- The outcome, the events and the world of a session that starts in a world. -/
def Yields (s : Session σ τ α) (w : σ) (out : Outcome α) (trace : List (Event τ)) (w' : σ) : Prop :=
  ∀ events status, ∃ status',
    s.run.run ⟨w, events, status⟩ = (out, ⟨w', events ++ trace, status'⟩)

/-- The status that a session leaves that starts in a world and with a status. -/
def Leaves (s : Session σ τ α) (w : σ) (status status' : Option DeploymentStatus) : Prop :=
  ∀ events, (s.run.run ⟨w, events, status⟩).2.status = status'

theorem Yields.unique {s : Session σ τ α} {w w₁ w₂ : σ} {out₁ out₂ : Outcome α}
    {trace₁ trace₂ : List (Event τ)} (h₁ : s.Yields w out₁ trace₁ w₁)
    (h₂ : s.Yields w out₂ trace₂ w₂) : out₁ = out₂ ∧ trace₁ = trace₂ ∧ w₁ = w₂ := by
  obtain ⟨status₁, h₁⟩ := h₁ [] none
  obtain ⟨status₂, h₂⟩ := h₂ [] none
  have h : (out₁, Run.mk w₁ trace₁ status₁) = (out₂, Run.mk w₂ trace₂ status₂) := h₁.symm.trans h₂
  obtain ⟨hout, hrun⟩ := Prod.mk.inj h
  obtain ⟨hworld, htrace, -⟩ := Run.mk.inj hrun
  exact ⟨hout, htrace, hworld⟩

theorem Leaves.unique {s : Session σ τ α} {w : σ}
    {status status₁ status₂ : Option DeploymentStatus} (h₁ : s.Leaves w status status₁)
    (h₂ : s.Leaves w status status₂) : status₁ = status₂ := (h₁ []).symm.trans (h₂ [])

/-- What a session yields is what a run of it gives. -/
theorem Yields.of_run {s : Session σ τ α} {w w' : σ} {out : Outcome α} {trace : List (Event τ)}
    {status : Option DeploymentStatus} (h : s.Yields w out trace w') :
    s.Yields w (s.run.run ⟨w, [], status⟩).1 trace (s.run.run ⟨w, [], status⟩).2.world := by
  obtain ⟨status', hrun⟩ := h [] status
  rw [hrun]
  exact h

/-! ## Parts of sessions -/

theorem yields_pure (a : α) (w : σ) : (pure a : Session σ τ α).Yields w (.ok a) [] w :=
  fun events status => ⟨status, by rw [List.append_nil]; rfl⟩

theorem yields_ofOutcome (x : Outcome α) (w : σ) :
    (ofOutcome x : Session σ τ α).Yields w x [] w :=
  fun events status => ⟨status, by rw [List.append_nil]; rfl⟩

theorem yields_record (change : DeploymentStatus → DeploymentStatus) (w : σ) :
    (record change : Session σ τ Unit).Yields w (.ok ()) [] w :=
  fun events status => ⟨status.map change, by rw [List.append_nil]; rfl⟩

theorem yields_attempt {server : Server σ τ} {r : Request} {w w' : σ} {answer : Outcome r.Answer}
    (h : server.respond r w = (answer, w')) :
    (attempt server r).Yields w (.ok answer) [.exchange r answer] w' := by
  intro events status
  refine ⟨status, ?_⟩
  change ((.ok (server.respond r w).1 : Outcome (Outcome r.Answer)),
    note (server.respond r w).2 (.exchange r (server.respond r w).1) ⟨w, events, status⟩) = _
  rw [h]
  rfl

variable {s : Session σ τ α} {f : α → Session σ τ β} {w w' w'' : σ} {trace trace' : List (Event τ)}

theorem Yields.apart {out : Outcome α} (h : s.Yields w out trace w') :
    (apart s).Yields w out trace w' := by
  intro events status
  obtain ⟨_, hrun⟩ := h events none
  have hrun' : s ⟨w, events, none⟩ = _ := hrun
  refine ⟨status, ?_⟩
  change Session.apart s ⟨w, events, status⟩ = _
  simp only [Session.apart, hrun']

theorem Yields.bind {a : α} {out : Outcome β} (hs : s.Yields w (.ok a) trace w')
    (hf : (f a).Yields w' out trace' w'') : (s >>= f).Yields w out (trace ++ trace') w'' := by
  intro events status
  obtain ⟨status', hrun⟩ := hs events status
  rw [ExceptT.run_bind, StateT.run_bind, hrun, ← List.append_assoc]
  exact hf (events ++ trace) status'

theorem Yields.bind_error {e : Failure} (hs : s.Yields w (.error e) trace w') :
    (s >>= f).Yields w (.error e) trace w' := by
  intro events status
  obtain ⟨status', hrun⟩ := hs events status
  rw [ExceptT.run_bind, StateT.run_bind, hrun]
  exact ⟨status', rfl⟩

/-- An outcome that is known does nothing before what follows it. -/
theorem Yields.of_ok {x : Outcome α} {a : α} {out : Outcome β} (hx : x = .ok a)
    (hf : (f a).Yields w out trace w') : (ofOutcome x >>= f).Yields w out trace w' := by
  subst hx
  exact (yields_ofOutcome _ w).bind hf

theorem Yields.of_error {x : Outcome α} {e : Failure} (hx : x = .error e) :
    (ofOutcome x >>= f).Yields w (.error e) [] w := by
  subst hx
  exact (yields_ofOutcome _ w).bind_error

theorem yields_ask {server : Server σ τ} {r : Request} {answer : Outcome r.Answer}
    (h : server.respond r w = (answer, w')) :
    (ask server r).Yields w answer [.exchange r answer] w' :=
  (yields_attempt h).bind (yields_ofOutcome answer w')

/-- Reading what is missing, or cannot be read, and going on without it. -/
theorem yields_read_refused {server : Server σ τ} {r : Request} {e : Failure}
    (hread : server.respond r w = (.error e, w')) {f : Option r.Answer → Session σ τ β} {b : β}
    (hnone : (f none).Yields w' (.ok b) [] w') :
    (attempt server r >>= fun answer => ofOutcome (Api.absentAsNone answer) >>= f).Yields w
      (if e.isMissing then .ok b else .error e) [.exchange r (.error e)] w' := by
  refine (yields_attempt hread).bind ?_
  cases hmissing : e.isMissing with
  | true =>
    have habsent : Api.absentAsNone (.error e : Outcome r.Answer) = .ok none := by
      simp [Api.absentAsNone, hmissing]
    exact Yields.of_ok habsent hnone
  | false => exact Yields.of_error (by simp [Api.absentAsNone, hmissing])

/-! ## Results -/

/-- A result of a sequence comes from a result of its first part. -/
theorem exists_ok_of_bind_ok {s : Session σ τ α} {f : α → Session σ τ β} {run : Run σ τ} {b : β}
    (h : ((s >>= f).run.run run).1 = .ok b) :
    ∃ a, (s.run.run run).1 = .ok a ∧ ((f a).run.run (s.run.run run).2).1 = .ok b := by
  rw [ExceptT.run_bind, StateT.run_bind] at h
  rcases hs : s.run.run run with ⟨out, run'⟩
  rw [hs] at h
  cases out with
  | error e => cases h
  | ok a => exact ⟨a, rfl, h⟩

end FlinkCluster.Session
