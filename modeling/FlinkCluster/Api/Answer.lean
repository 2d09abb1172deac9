import FlinkCluster.Error

/-!
# Answers of the Kubernetes API

Three refusals are no failures: an object that is read or deleted may be missing, and one that
is created may exist already, in which case it is patched.
-/

set_option autoImplicit false

namespace FlinkCluster

namespace Failure

/-- Whether the API refused a request because its object does not exist. -/
def isMissing : Failure → Bool
  | .api e => e.status == 404
  | _ => false

/-- Whether the API refused a request because its object exists already. -/
def isConflict : Failure → Bool
  | .api e => e.status == 409
  | _ => false

end Failure

namespace Api

variable {α : Type}

/-- The answer, or nothing for a missing object. -/
def absentAsNone : Outcome α → Outcome (Option α)
  | .ok a => .ok (some a)
  | .error e => if e.isMissing then .ok none else .error e

/-- Whether there was an object to delete. -/
def ignoringMissing : Outcome α → Outcome Bool
  | .ok _ => .ok true
  | .error e => if e.isMissing then .ok false else .error e

/-- Creates an object, or patches the one that exists already. -/
def createOrPatch {m : Type → Type} [Monad m] (create patch : m (Outcome α)) :
    m (Outcome α) := do
  match ← create with
  | .ok a => return .ok a
  | .error e => if e.isConflict then patch else return .error e

end Api

end FlinkCluster
