import FlinkCluster.Step.Volumes

/-!
# The secret steps

The user's secrets in the main container: single keys as environment variables, and whole secrets
as mounted volumes. The volume of a secret must not take the name of a volume of the pod or of
a later mount step.
-/

set_option autoImplicit false

namespace FlinkCluster.Step

open Kubernetes

/-! ## Environment variables -/

/-- The variable of a complete reference. -/
def secretVariable (ref : Table String) : EnvVar where
  name := (ref.get? "env").getD ""
  valueFrom := some {
    secretKeyRef := some { key := (ref.get? "key").getD "", name := ref.get? "secret" } }

/-- Adds the variables out of secrets. -/
def addSecretVariables (p : Parameters) (draft : PodDraft) : Outcome PodDraft := do
  let refs ← p.environmentSecrets
  if refs.isEmpty then return draft
  else draft.addEnv (refs.map secretVariable)

/-! ## Volumes -/

/-- The name of a secret's volume. -/
def secretVolumeName (secret : String) : String := secret ++ "-volume"

/-- The first secret whose volume name is reserved, taken by the given names, or taken by a secret
before it. -/
def firstSecretTaken? : List String → List String → Option String
  | _, [] => none
  | taken, s :: r =>
    if reservedVolumes.contains (secretVolumeName s) || taken.contains (secretVolumeName s) then
      some s
    else firstSecretTaken? (secretVolumeName s :: taken) r

/-- The volume of a secret. -/
def secretVolume (secret : String) : Volume where
  name := secretVolumeName secret
  secret := some { secretName := some secret }

/-- Mounts the secrets in the order of their names. -/
def mountSecrets (p : Parameters) (draft : PodDraft) : Outcome PodDraft := do
  let secrets := (← p.secrets).sorted
  if secrets.isEmpty then return draft
  else
    match firstSecretTaken? (← draft.volumeNames) (secrets.map Prod.fst) with
    | some s => p.refuse (.secretVolumeTaken (secretVolumeName s) s) Options.secrets.key
    | none =>
      let draft ← draft.addVolumes (secrets.map fun e => secretVolume e.1) Options.secrets.key
        p.clusterId
      return draft.withMain (·.addMounts
        (secrets.map fun e => { name := secretVolumeName e.1, mountPath := e.2 }))

end FlinkCluster.Step
