import FlinkCluster.Parameters
import FlinkCluster.PodDraft

/-!
# The command step

The command and the arguments with which the main container starts its process: a job manager for
sessions, a job manager with its application, or a task manager.
-/

set_option autoImplicit false

namespace FlinkCluster.Step

/-- The arguments of an application: its class, its savepoint, and those of the program. -/
def applicationArgs (p : Parameters) : Outcome (List String) := do
  let classArgs := match (← p.mainClass).filter (· ≠ "") with
    | some c => ["--job-classname", c]
    | none => []
  let savepointArgs ← match (← p.savepointPath).filter (· ≠ "") with
    | some path => do
      let allow ← p.allowsUnclaimedState
      pure (["--fromSavepoint", path] ++ if allow then ["--allowNonRestoredState"] else [])
    | none => pure []
  return classArgs ++ savepointArgs ++ (← p.programArgs)

/-- The draft with a command and arguments. -/
def withCommand (draft : PodDraft) (command : String) (args : List String) : PodDraft :=
  draft.withMain fun c =>
    { c with command := some [some command], args := some (args.map some) }

/-- Starts a job manager. -/
def startJobManager (p : Parameters) (draft : PodDraft) : Outcome PodDraft := do
  let entry ← p.entryPath
  if ← p.isApplication then
    return withCommand draft entry ("standalone-job" :: (← applicationArgs p))
  else return withCommand draft entry ["jobmanager"]

/-- Starts a task manager. -/
def startTaskManager (p : Parameters) (draft : PodDraft) : Outcome PodDraft := do
  return withCommand draft (← p.entryPath) ["taskmanager"]

end FlinkCluster.Step
