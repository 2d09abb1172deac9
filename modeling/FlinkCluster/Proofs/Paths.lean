import FlinkCluster.Proofs.Sessions

/-!
# The requests of sessions

A session of any server is a path of the server: each event leads from one world to the next.
`Session.Path` is such a path, all of whose requests meet a condition, and `Session.Makes` says that
a session yields a path of that kind from every world. There is one lemma for each way in which
sessions are built.
-/

set_option autoImplicit false

namespace FlinkCluster.Session

variable {σ τ α β : Type} {server : Server σ τ} {P : Request → Prop}

/-! ## Paths -/

/-- Events of a server one after the other, all of whose requests meet a condition. -/
inductive Path (server : Server σ τ) (P : Request → Prop) : σ → List (Event τ) → σ → Prop
  | done (w : σ) : Path server P w [] w
  | exchange {r : Request} {answer : Outcome r.Answer} {w w' w'' : σ} {trace : List (Event τ)} :
    P r → server.respond r w = (answer, w') → Path server P w' trace w'' →
    Path server P w (.exchange r answer :: trace) w''
  | reading {time : τ} {w w' w'' : σ} {trace : List (Event τ)} :
    server.now w = (time, w') → Path server P w' trace w'' →
    Path server P w (.reading time :: trace) w''
  | pause {length : τ} {w w' w'' : σ} {trace : List (Event τ)} :
    server.pause length w = .ok w' → Path server P w' trace w'' →
    Path server P w (.pause length :: trace) w''

namespace Path

variable {w w' w'' : σ} {trace trace' : List (Event τ)}

theorem append (h : Path server P w trace w') (h' : Path server P w' trace' w'') :
    Path server P w (trace ++ trace') w'' := by
  induction h with
  | done w => exact h'
  | exchange hP hrespond _ ih => exact .exchange hP hrespond (ih h')
  | reading hnow _ ih => exact .reading hnow (ih h')
  | pause hpause _ ih => exact .pause hpause (ih h')

theorem mono {Q : Request → Prop} (hPQ : ∀ r, P r → Q r) (h : Path server P w trace w') :
    Path server Q w trace w' := by
  induction h with
  | done w => exact .done w
  | exchange hP hrespond _ ih => exact .exchange (hPQ _ hP) hrespond ih
  | reading hnow _ ih => exact .reading hnow ih
  | pause hpause _ ih => exact .pause hpause ih

/-- A path passes through a world in which it makes each of its requests. -/
theorem at_exchange {r : Request} {answer : Outcome r.Answer}
    {before after : List (Event τ)} (h : Path server P w (before ++ .exchange r answer :: after) w') :
    P r ∧ ∃ v v', Path server P w before v ∧ server.respond r v = (answer, v') ∧
      Path server P v' after w' := by
  induction before generalizing w with
  | nil =>
    cases h with
    | exchange hP hrespond hafter => exact ⟨hP, w, _, .done w, hrespond, hafter⟩
  | cons event before ih =>
    cases h with
    | exchange hP hrespond h =>
      obtain ⟨hr, v, v', hbefore, hafter⟩ := ih h
      exact ⟨hr, v, v', .exchange hP hrespond hbefore, hafter⟩
    | reading hnow h =>
      obtain ⟨hr, v, v', hbefore, hafter⟩ := ih h
      exact ⟨hr, v, v', .reading hnow hbefore, hafter⟩
    | pause hpause h =>
      obtain ⟨hr, v, v', hbefore, hafter⟩ := ih h
      exact ⟨hr, v, v', .pause hpause hbefore, hafter⟩

theorem of_mem (h : Path server P w trace w') {r : Request} {answer : Outcome r.Answer}
    (hmem : .exchange r answer ∈ trace) : P r := by
  obtain ⟨before, after, rfl⟩ := List.append_of_mem hmem
  exact h.at_exchange.1

/-- What every event of a path keeps holds at its end. -/
theorem keeps {I : σ → Prop} (hrespond : ∀ r w, P r → I w → I (server.respond r w).2)
    (hnow : ∀ w, I w → I (server.now w).2)
    (hpause : ∀ length w w', server.pause length w = .ok w' → I w → I w')
    (h : Path server P w trace w') (hI : I w) : I w' := by
  induction h with
  | done w => exact hI
  | @exchange r _ w _ _ _ hP heq _ ih =>
    have hstep := hrespond r w hP hI
    rw [heq] at hstep
    exact ih hstep
  | @reading _ w _ _ _ heq _ ih =>
    have hstep := hnow w hI
    rw [heq] at hstep
    exact ih hstep
  | @pause length w v _ _ heq _ ih => exact ih (hpause length w v heq hI)

end Path

/-! ## Sessions -/

/-- From every world, the session yields a path whose requests meet a condition. -/
def Makes (server : Server σ τ) (P : Request → Prop) (s : Session σ τ α) : Prop :=
  ∀ w, ∃ out trace w', s.Yields w out trace w' ∧ Path server P w trace w'

theorem yields_clock {w w' : σ} {time : τ} (h : server.now w = (time, w')) :
    (clock server).Yields w (.ok time) [.reading time] w' := by
  intro events status
  refine ⟨status, ?_⟩
  change ((.ok (server.now w).1 : Outcome τ),
    note (server.now w).2 (.reading (server.now w).1) ⟨w, events, status⟩) = _
  rw [h]
  rfl

theorem yields_pause {w w' : σ} {length : τ} (h : server.pause length w = .ok w') :
    (pause server length).Yields w (.ok ()) [.pause length] w' := by
  intro events status
  refine ⟨status, ?_⟩
  change pause server length ⟨w, events, status⟩ = _
  simp only [pause, h]
  rfl

theorem yields_pause_of_error {w : σ} {length : τ} {e : Failure}
    (h : server.pause length w = .error e) :
    (pause server length).Yields w (.error e) [] w := by
  intro events status
  refine ⟨status, ?_⟩
  change pause server length ⟨w, events, status⟩ = _
  simp only [pause, h, List.append_nil]

theorem makes_ofOutcome (x : Outcome α) : Makes server P (ofOutcome x) :=
  fun w => ⟨x, [], w, yields_ofOutcome x w, .done w⟩

theorem makes_pure (a : α) : Makes server P (pure a) :=
  makes_ofOutcome (.ok a)

theorem makes_throw (e : Failure) : Makes server P (throw e : Session σ τ α) :=
  makes_ofOutcome (.error e)

theorem makes_record (change : DeploymentStatus → DeploymentStatus) :
    Makes server P (record change) :=
  fun w => ⟨_, [], w, yields_record change w, .done w⟩

theorem makes_attempt {r : Request} (h : P r) : Makes server P (attempt server r) :=
  fun _ => ⟨_, _, _, yields_attempt rfl, .exchange h rfl (.done _)⟩

theorem makes_ask {r : Request} (h : P r) : Makes server P (ask server r) :=
  fun _ => ⟨_, _, _, yields_ask rfl, .exchange h rfl (.done _)⟩

theorem makes_clock : Makes server P (clock server) :=
  fun _ => ⟨_, _, _, yields_clock rfl, .reading rfl (.done _)⟩

theorem makes_pause (length : τ) : Makes server P (pause server length) := by
  intro w
  cases hpause : server.pause length w with
  | ok w' => exact ⟨_, _, w', yields_pause hpause, .pause hpause (.done w')⟩
  | error e => exact ⟨_, _, w, yields_pause_of_error hpause, .done w⟩

variable {s : Session σ τ α} {f : α → Session σ τ β}

/-- What such a session yields is such a path. -/
theorem Makes.path {out : Outcome α} {w w' : σ} {trace : List (Event τ)}
    (h : Makes server P s) (hyields : s.Yields w out trace w') : Path server P w trace w' := by
  obtain ⟨_, _, _, hyields', hpath⟩ := h w
  obtain ⟨-, rfl, rfl⟩ := hyields.unique hyields'
  exact hpath

theorem Makes.mono {Q : Request → Prop} (h : Makes server P s) (hPQ : ∀ r, P r → Q r) :
    Makes server Q s := by
  intro w
  obtain ⟨out, trace, w', hyields, hpath⟩ := h w
  exact ⟨out, trace, w', hyields, hpath.mono hPQ⟩

theorem Makes.bind (hs : Makes server P s) (hf : ∀ a, Makes server P (f a)) :
    Makes server P (s >>= f) := by
  intro w
  obtain ⟨out, trace, w', hyields, hpath⟩ := hs w
  cases out with
  | error e => exact ⟨_, trace, w', hyields.bind_error, hpath⟩
  | ok a =>
    obtain ⟨out', trace', w'', hyields', hpath'⟩ := hf a w'
    exact ⟨out', trace ++ trace', w'', hyields.bind hyields', hpath.append hpath'⟩

theorem Makes.apart (h : Makes server P s) : Makes server P (apart s) := by
  intro w
  obtain ⟨out, trace, w', hyields, hpath⟩ := h w
  exact ⟨out, trace, w', hyields.apart, hpath⟩

/-- What follows a known outcome has to make such requests only if that is no failure. -/
theorem Makes.of_ok {x : Outcome α} (hf : ∀ a, x = .ok a → Makes server P (f a)) :
    Makes server P (ofOutcome x >>= f) := by
  intro w
  cases x with
  | error e => exact ⟨_, [], w, Yields.of_error rfl, .done w⟩
  | ok a =>
    obtain ⟨out, trace, w', hyields, hpath⟩ := hf a rfl w
    exact ⟨out, trace, w', Yields.of_ok rfl hyields, hpath⟩

end FlinkCluster.Session
