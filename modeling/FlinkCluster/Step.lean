import FlinkCluster.Step.Command
import FlinkCluster.Step.Mounts
import FlinkCluster.Step.Secrets
import FlinkCluster.Step.Services

/-!
# Steps

A step contributes one slice of a cluster: it decorates the pod of a role and lists resources that
are applied next to the workload. `Step.chain` is the fixed order of the steps of a role, and
`Step.compose` runs a list of steps over a pod.
-/

set_option autoImplicit false

namespace FlinkCluster

open Kubernetes

/-- The steps. `identity` contributes nothing. -/
inductive Step where
  | identity
  | initialJobManager
  | initialTaskManager
  | environmentSecrets
  | mountedSecrets
  | jobManagerCommand
  | taskManagerCommand
  | internalService
  | externalService
  | hadoop
  | kerberos
  | flinkConf
  | userLib
  deriving DecidableEq, Repr

namespace Step

/-- The pod after a step. -/
def decorate (p : Parameters) (host : Host) : Step → PodDraft → Outcome PodDraft
  | .identity, draft => .ok draft
  | .initialJobManager, draft => decorateInitially p (jobManagerPorts p) draft
  | .initialTaskManager, draft => decorateInitially p (taskManagerPorts p) draft
  | .environmentSecrets, draft => addSecretVariables p draft
  | .mountedSecrets, draft => mountSecrets p draft
  | .jobManagerCommand, draft => startJobManager p draft
  | .taskManagerCommand, draft => startTaskManager p draft
  | .internalService, draft => .ok draft
  | .externalService, draft => .ok draft
  | .hadoop, draft => mountHadoop p host draft
  | .kerberos, draft => mountKerberos p draft
  | .flinkConf, draft => mountFlinkConf p host draft
  | .userLib, draft => mountUserLib p draft

/-- The resources of a step. -/
def resources (p : Parameters) (host : Host) : Step → Outcome (List Resource)
  | .internalService => internalServices p
  | .externalService => externalServices p
  | .hadoop => hadoopResources p host
  | .kerberos => kerberosResources p host
  | .flinkConf => flinkConfResources p host
  | _ => .ok []

/-- The pod and the resources of a step. -/
def apply (p : Parameters) (host : Host) (step : Step) (draft : PodDraft) :
    Outcome (PodDraft × List Resource) := do
  let draft ← step.decorate p host draft
  return (draft, ← step.resources p host)

/-- Runs steps in order; the resources follow each other in the same order. -/
def compose (p : Parameters) (host : Host) :
    List Step → PodDraft → Outcome (PodDraft × List Resource)
  | [], draft => .ok (draft, [])
  | step :: r, draft => do
    let (draft, first) ← step.apply p host draft
    let (draft, others) ← compose p host r draft
    return (draft, first ++ others)

/-- The steps of a role. -/
def chain : Role → List Step
  | .jobManager =>
    [.initialJobManager, .environmentSecrets, .mountedSecrets, .jobManagerCommand,
      .internalService, .externalService, .hadoop, .kerberos, .flinkConf, .userLib]
  | .taskManager =>
    [.initialTaskManager, .environmentSecrets, .mountedSecrets, .taskManagerCommand, .hadoop,
      .kerberos, .flinkConf, .userLib]

@[simp] theorem compose_nil (p : Parameters) (host : Host) (draft : PodDraft) :
    compose p host [] draft = .ok (draft, []) := rfl

end Step

end FlinkCluster
