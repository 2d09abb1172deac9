import FlinkCluster.Api.Answer
import FlinkCluster.Api.Clock
import FlinkCluster.Api.Request
import FlinkCluster.Deployment

/-!
# Sessions

A `Server` is anything that answers requests and has a clock; its state is of any type, and so are
its times. Where it refuses a request, or cannot make sense of it, the answer is the failure. A
`Session` talks to a server, keeps the events in their order, and may fail at any point with the
events up to there. It has at hand the status of a deployment, if there is one, and what it has
written there stays when it fails.
-/

set_option autoImplicit false

namespace FlinkCluster

/-! ## Servers and sessions -/

/-- An API with a clock, as a machine over states. -/
structure Server (σ τ : Type) where
  respond : (r : Request) → σ → Outcome r.Answer × σ
  now : σ → τ × σ
  pause : τ → σ → Outcome σ

/-- What happens in a session. -/
inductive Event (τ : Type) where
  | exchange (request : Request) (answer : Outcome request.Answer)
  | reading (time : τ)
  | pause (length : τ)

/-- The state of the server, what has happened, and the status of the deployment. -/
structure Run (σ τ : Type) where
  world : σ
  events : List (Event τ) := []
  status : Option DeploymentStatus := none

/-- A computation that talks to a server. -/
abbrev Session (σ τ : Type) := ExceptT Failure (StateM (Run σ τ))

namespace Session

variable {σ τ α : Type}

/-- Adds an event to what has happened. -/
def note (world : σ) (e : Event τ) (run : Run σ τ) : Run σ τ :=
  { run with world, events := run.events ++ [e] }

/-- Makes a request; the failure of it is a result. -/
def attempt (server : Server σ τ) (r : Request) : Session σ τ (Outcome r.Answer) :=
  fun run =>
    let (answer, world) := server.respond r run.world
    (.ok answer, note world (.exchange r answer) run)

/-- Reads the clock. -/
def clock (server : Server σ τ) : Session σ τ τ :=
  fun run =>
    let (time, world) := server.now run.world
    (.ok time, note world (.reading time) run)

/-- Lets time pass. -/
def pause (server : Server σ τ) (length : τ) : Session σ τ Unit :=
  fun run =>
    match server.pause length run.world with
    | .ok world => (.ok (), note world (.pause length) run)
    | .error e => (.error e, run)

/-- A result that needs no server. -/
def ofOutcome (x : Outcome α) : Session σ τ α := fun run => (x, run)

/-- Changes the status, if there is one. -/
def record (change : DeploymentStatus → DeploymentStatus) : Session σ τ Unit :=
  fun run => (.ok (), { run with status := run.status.map change })

/-- A session that is not given the status. -/
def apart (s : Session σ τ α) : Session σ τ α :=
  fun run =>
    let (out, after) := s { run with status := none }
    (out, { after with status := run.status })

/-- Makes a request that has to succeed. -/
def ask (server : Server σ τ) (r : Request) : Session σ τ r.Answer := do
  ofOutcome (← attempt server r)

end Session

end FlinkCluster
