import FlinkCluster.Proofs.Agreement
import FlinkCluster.Proofs.ProgramArguments
import FlinkCluster.Proofs.Selection

/-!
# Names of environment variables

The environment of a built main container is that of the template with the variables of the steps
laid over it, one step after the other. Laying variables over others replaces those of their names
and keeps all of its own, also two of one name.

* `Step.envVars`, `Step.hasEnv_of_decorate`, `Step.hasEnv_of_compose`: the environment after a
  step and after a composition.
* `Kubernetes.EnvVar.nodup_overlaid`: names are distinct after an overlay if those that stay are,
  and those laid over them.
* `Specification.env_nodup_iff`: when exactly the variables of a built main container have distinct
  names. A configured variable with the name of the pod's address is there twice
  (`Specification.env_not_nodup_address`).
-/

set_option autoImplicit false

namespace FlinkCluster

open Kubernetes

/-! ## Configured variables -/

/-- A name is among those under a leading text if the key of both is set. -/
theorem Configuration.mem_keys_under_iff {conf : Configuration} {lead name : String} :
    name ∈ (conf.under lead).keys ↔ conf.text? (lead ++ name) ≠ none := by
  rw [under, Table.mem_keys_ofEntries, Option.ne_none_iff_exists']
  simp only [List.mem_map, List.mem_filterMap, Prod.exists, Option.map_eq_some_iff,
    Text.dropLeading?_eq_some_iff, Table.mem_sorted_iff]
  constructor
  · rintro ⟨_, v, ⟨_, _, hv, _, rfl, heq⟩, rfl⟩
    obtain ⟨rfl, rfl⟩ := Prod.mk.inj heq
    exact ⟨_, hv⟩
  · rintro ⟨v, hv⟩
    exact ⟨name, v, ⟨_, v, hv, name, rfl, rfl⟩, rfl⟩

/-- The key at which the role's variables would have one of the name of the pod's address. -/
def Parameters.addressKey (p : Parameters) : String :=
  p.select Options.jobManagerEnvironment Options.taskManagerEnvironment ++ Step.podAddress.name

/-! ## Overlays -/

namespace Kubernetes

/-- The names of the variables of a container; a null has none. -/
def Container.variableNames (c : Container) : List (Option String) :=
  (c.env.getD []).map (·.map (·.name))

namespace EnvVar

@[simp] theorem overlaid_nil (old : List EnvVar) : overlaid old [] = old := by
  simp [overlaid]

/-- Of the names that `keep` asks for, those of an overlay are distinct if the ones that it leaves
are distinct, and its own are. -/
theorem nodup_overlaid (keep : String → Bool) (old vars : List EnvVar) :
    (((overlaid old vars).map (·.name)).filter keep).Nodup ↔
      ((old.map (·.name)).filter
        (fun n => keep n && !(vars.map (·.name)).contains n)).Nodup ∧
        ((vars.map (·.name)).filter keep).Nodup := by
  have hnames : (overlaid old vars).map (·.name) =
      (old.map (·.name)).filter (fun n => !(vars.map (·.name)).contains n) ++
        vars.map (·.name) := by
    rw [overlaid, List.map_append, List.filter_map]
    rfl
  -- What is left of the old names is none of the new ones.
  have hapart : ∀ n ∈ (old.map (·.name)).filter
      (fun n => keep n && !(vars.map (·.name)).contains n),
      ∀ m ∈ (vars.map (·.name)).filter keep, n ≠ m := by
    intro n hn m hm hnm
    subst hnm
    simp only [List.mem_filter, Bool.and_eq_true, Bool.not_eq_true'] at hn hm
    rw [List.contains_iff_mem.2 hm.1] at hn
    exact absurd hn.2.2 (by simp)
  rw [hnames, List.filter_append, List.filter_filter, List.nodup_append]
  exact ⟨fun h => ⟨h.1, h.2.1⟩, fun h => ⟨h.1, h.2, hapart⟩⟩

end EnvVar

end Kubernetes

/-! ## The environment of a pod -/

/-- The variables of the main container, none of them null. -/
def PodDraft.HasEnv (d : PodDraft) (vars : List EnvVar) : Prop :=
  d.main.env.getD [] = vars.map some

namespace PodDraft

variable {d : PodDraft} {old vars : List EnvVar}

theorem HasEnv.unique (h : d.HasEnv old) (h' : d.HasEnv vars) : vars = old :=
  List.map_injective_iff.2 (fun _ _ => Option.some.inj) (h'.symm.trans h)

theorem HasEnv.variableNames (h : d.HasEnv vars) :
    d.main.variableNames = (vars.map (·.name)).map some := by
  rw [Container.variableNames, h, List.map_map, List.map_map]
  rfl

theorem HasEnv.nodup_iff (h : d.HasEnv vars) :
    d.main.variableNames.Nodup ↔ (vars.map (·.name)).Nodup := by
  rw [h.variableNames, List.nodup_map_iff fun _ _ => Option.some.inj]

theorem hasEnv_overlaid (d : PodDraft) (old vars : List EnvVar) :
    (d.overlaid old vars).HasEnv (EnvVar.overlaid old vars) := rfl

end PodDraft

/-! ## Steps -/

namespace Step

variable {p : Parameters} {host : Host} {d d' last : PodDraft} {rs : List Resource}
  {old : List EnvVar}

def hadoopVariables (configMap? : Option String) : List EnvVar :=
  if configMap?.isSome then [hadoopDirVariable] else []

/-- The variables that a step lays over those of the main container. -/
def envVars (p : Parameters) (host : Host) : Step → Outcome (List EnvVar)
  | .initialJobManager | .initialTaskManager => .ok (roleEnv p)
  | .environmentSecrets => p.environmentSecrets.map (·.map secretVariable)
  | .hadoop => (hadoopMap? p host).map hadoopVariables
  | _ => .ok []

theorem hasEnv_of_overlaid {old' vars : List EnvVar} (hold : d.main.env.getD [] = old'.map some)
    (henv : d.HasEnv old) : (d.overlaid old' vars).HasEnv (EnvVar.overlaid old vars) := by
  rw [henv.unique hold]
  exact PodDraft.hasEnv_overlaid d old vars

theorem hasEnv_of_decorateInitially {ports : Outcome (List ContainerPort)}
    (h : decorateInitially p ports d = .ok d') :
    ∃ old, d.HasEnv old ∧ d'.HasEnv (EnvVar.overlaid old (roleEnv p)) := by
  obtain ⟨_, _, _, _, main, _, -, -, -, hmain, rfl⟩ := eq_of_decorateInitially h
  obtain ⟨_, _, _, old, _, hold, rfl⟩ := eq_of_initialContainer hmain
  exact ⟨old, hold, rfl⟩

/-- A step lays its variables over those of the pod. -/
theorem hasEnv_of_decorate {step : Step} (h : step.decorate p host d = .ok d')
    (henv : d.HasEnv old) :
    ∃ vars, step.envVars p host = .ok vars ∧ d'.HasEnv (EnvVar.overlaid old vars) := by
  cases step with
  | initialJobManager | initialTaskManager =>
    obtain ⟨old', hold, hnew⟩ := hasEnv_of_decorateInitially h
    obtain rfl := henv.unique hold
    exact ⟨_, rfl, hnew⟩
  | environmentSecrets =>
    obtain ⟨refs, hrefs, hcases⟩ := eq_of_addSecretVariables h
    refine ⟨refs.map secretVariable, by rw [envVars, hrefs]; rfl, ?_⟩
    obtain ⟨rfl, rfl⟩ | ⟨old', hold, rfl⟩ := hcases
    · rw [List.map_nil, EnvVar.overlaid_nil]
      exact henv
    · exact hasEnv_of_overlaid hold henv
  | hadoop =>
    obtain ⟨hname, rfl⟩ | ⟨name, old', hname, -, hold, rfl⟩ := eq_of_mountHadoop h
    · refine ⟨[], by rw [envVars, hname]; rfl, ?_⟩
      rw [EnvVar.overlaid_nil]
      exact henv
    · refine ⟨[hadoopDirVariable], by rw [envVars, hname]; rfl, ?_⟩
      exact hasEnv_of_overlaid (d := d.extended _ _) hold henv
  | identity | internalService | externalService =>
    rw [← Except.ok.inj h]
    exact ⟨[], rfl, by rwa [EnvVar.overlaid_nil]⟩
  | mountedSecrets =>
    refine ⟨[], rfl, ?_⟩
    rw [EnvVar.overlaid_nil]
    obtain ⟨_, -, ⟨-, rfl⟩ | ⟨-, -, rfl⟩⟩ := eq_of_mountSecrets h <;> exact henv
  | jobManagerCommand =>
    obtain ⟨_, _, rfl⟩ := eq_of_startJobManager h
    exact ⟨[], rfl, by rwa [EnvVar.overlaid_nil]⟩
  | taskManagerCommand =>
    obtain ⟨_, _, rfl⟩ := eq_of_startTaskManager h
    exact ⟨[], rfl, by rwa [EnvVar.overlaid_nil]⟩
  | kerberos =>
    refine ⟨[], rfl, ?_⟩
    rw [EnvVar.overlaid_nil]
    obtain rfl | ⟨_, _, rfl⟩ := extended_of_mountKerberos h <;> exact henv
  | flinkConf =>
    obtain ⟨_, _, _, -, -, -, -, rfl⟩ := eq_of_mountFlinkConf h
    exact ⟨[], rfl, by rwa [EnvVar.overlaid_nil]⟩
  | userLib =>
    refine ⟨[], rfl, ?_⟩
    rw [EnvVar.overlaid_nil]
    obtain ⟨-, rfl⟩ | ⟨-, -, rfl⟩ | ⟨_, -, -, -, -, rfl⟩ := eq_of_mountUserLib h <;> exact henv

/-- A composition lays the variables of its steps over those of the pod, in the order of the
steps. -/
theorem hasEnv_of_compose {steps : List Step} (h : compose p host steps d = .ok (last, rs))
    (henv : d.HasEnv old) :
    ∃ layers, steps.mapM (envVars p host) = .ok layers ∧
      last.HasEnv (layers.foldl EnvVar.overlaid old) := by
  induction steps generalizing d rs old with
  | nil =>
    obtain ⟨rfl, -⟩ := Prod.mk.inj (Except.ok.inj h)
    exact ⟨[], rfl, henv⟩
  | cons step steps ih =>
    obtain ⟨next, _, _, hdecorate, -, hrest, -⟩ := compose_cons_ok h
    obtain ⟨vars, hvars, hnext⟩ := hasEnv_of_decorate hdecorate henv
    obtain ⟨layers, hlayers, hlast⟩ := ih hrest hnext
    refine ⟨vars :: layers, ?_, hlast⟩
    rw [List.mapM_cons, hvars, hlayers]
    rfl

theorem exists_hasEnv {role : Role} (h : compose p host (chain role) d = .ok (last, rs)) :
    ∃ old, d.HasEnv old := by
  cases role with
  | jobManager | taskManager =>
    obtain ⟨_, _, _, hinitial, -, -, -⟩ := compose_cons_ok h
    obtain ⟨old, hold, -⟩ := hasEnv_of_decorateInitially hinitial
    exact ⟨old, hold⟩

/-- The environment after the steps of a role: configured variables and the pod's address, then
the variables out of secrets, then that of Hadoop. -/
theorem hasEnv_of_chain {role : Role} (h : compose p host (chain role) d = .ok (last, rs))
    (henv : d.HasEnv old) :
    ∃ refs configMap?, p.environmentSecrets = .ok refs ∧ hadoopMap? p host = .ok configMap? ∧
      last.HasEnv (EnvVar.overlaid (EnvVar.overlaid (EnvVar.overlaid old (roleEnv p))
        (refs.map secretVariable)) (hadoopVariables configMap?)) := by
  obtain ⟨layers, hlayers, hlast⟩ := hasEnv_of_compose h henv
  -- Only the initial step, the secrets and Hadoop have variables to lay over others.
  cases hrefs : p.environmentSecrets with
  | error e =>
    cases role <;> simp [chain, envVars, hrefs, Except.map, bind, Except.bind] at hlayers
  | ok refs =>
    cases hmap : hadoopMap? p host with
    | error e =>
      cases role <;>
        simp [chain, envVars, hrefs, hmap, Except.map, bind, Except.bind] at hlayers
    | ok configMap? =>
      refine ⟨refs, configMap?, rfl, rfl, ?_⟩
      have hfold : layers.foldl EnvVar.overlaid old =
          EnvVar.overlaid (EnvVar.overlaid (EnvVar.overlaid old (roleEnv p))
            (refs.map secretVariable)) (hadoopVariables configMap?) := by
        cases role <;>
          simp [chain, envVars, hrefs, hmap, Except.map, bind, Except.bind, pure,
            Except.pure] at hlayers <;>
          simp [← hlayers]
      rwa [hfold] at hlast

theorem names_roleEnv (p : Parameters) : (roleEnv p).map (·.name) =
    p.environments.sorted.map Prod.fst ++ [podAddress.name] := by
  rw [roleEnv, List.map_append, List.map_map]
  rfl

/-- Of the role's variables, two have one name only if the pod's address is configured. -/
theorem nodup_names_roleEnv (p : Parameters) (keep : String → Bool) :
    (((roleEnv p).map (·.name)).filter keep).Nodup ↔
      (p.conf.text? p.addressKey ≠ none → keep podAddress.name = false) := by
  have hkeys : podAddress.name ∈ p.environments.sorted.map Prod.fst ↔
      p.conf.text? p.addressKey ≠ none :=
    p.environments.keys_sorted_perm.mem_iff.trans Configuration.mem_keys_under_iff
  have hnodup := p.environments.nodup_keys_sorted.filter keep
  rw [names_roleEnv, List.filter_append, List.nodup_append, ← hkeys]
  cases hkeep : keep podAddress.name with
  | false => simp [hnodup, hkeep]
  | true =>
    simp only [List.filter_singleton, hkeep, cond_true, hnodup, List.nodup_singleton, true_and,
      List.mem_singleton, forall_eq, List.mem_filter, Bool.true_eq_false, imp_false]
    exact ⟨fun h hmem => h _ ⟨hmem, hkeep⟩ rfl, fun h n hn hname => h (hname ▸ hn.1)⟩

def secretNames (refs : List (Table String)) : List String :=
  refs.map fun ref => (secretVariable ref).name

/-- A name is set by the step of Hadoop. -/
def SetByHadoop (configMap? : Option String) (name : String) : Prop :=
  configMap?.isSome ∧ name = Host.hadoopVariable

instance (configMap? : Option String) (name : String) :
    Decidable (SetByHadoop configMap? name) := inferInstanceAs (Decidable (_ ∧ _))

theorem mem_names_hadoopVariables {configMap? : Option String} {name : String} :
    name ∈ (hadoopVariables configMap?).map (·.name) ↔ SetByHadoop configMap? name := by
  cases configMap? <;> simp [hadoopVariables, SetByHadoop, hadoopDirVariable]

/-- Over distinct names, the steps of a role leave distinct names unless the pod's address is
configured and no secret replaces it, or two references to secrets set a name that Hadoop does
not. -/
theorem nodup_layers_iff {refs : List (Table String)} {configMap? : Option String}
    (hold : (old.map (·.name)).Nodup) :
    ((EnvVar.overlaid (EnvVar.overlaid (EnvVar.overlaid old (roleEnv p))
        (refs.map secretVariable)) (hadoopVariables configMap?)).map (·.name)).Nodup ↔
      (p.conf.text? p.addressKey ≠ none → podAddress.name ∈ secretNames refs) ∧
        ((secretNames refs).filter (fun n => ¬ SetByHadoop configMap? n)).Nodup := by
  have hsecrets : (refs.map secretVariable).map (·.name) = secretNames refs := List.map_map
  have haddress : ¬ SetByHadoop configMap? podAddress.name := fun h => absurd h.2 (by decide)
  have hhadoop : ((hadoopVariables configMap?).map (·.name)).Nodup := by
    cases configMap? <;> simp [hadoopVariables]
  have hset (name : String) : ((hadoopVariables configMap?).map (·.name)).contains name =
      decide (SetByHadoop configMap? name) := by
    rw [List.contains_eq_mem, decide_eq_decide, mem_names_hadoopVariables]
  -- Each layer has to be distinct in what the layers above it leave of its names.
  rw [← List.filter_true (List.map _ (EnvVar.overlaid _ (hadoopVariables configMap?))),
    EnvVar.nodup_overlaid, EnvVar.nodup_overlaid, EnvVar.nodup_overlaid, hsecrets,
    nodup_names_roleEnv]
  simp only [hold.filter, hhadoop.filter, hset, haddress, true_and, and_true, Bool.true_and,
    decide_false, Bool.not_false, Bool.not_eq_false', List.contains_iff_mem, decide_not]

end Step

/-! ## Stateful sets -/

namespace Specification

variable {host : Host} {template : PodDraft} {claims : List (Option VolumeClaim)} {p : Parameters}
  {a : Specification} {old : List EnvVar}

/-- The environment of a built main container: that of the template under the variables of the
steps. -/
theorem exists_env (h : build host template claims p = .ok a) (hold : template.HasEnv old) :
    ∃ main others refs configMap?, a.statefulSet.containers = some main :: others ∧
      p.environmentSecrets = .ok refs ∧ Step.hadoopMap? p host = .ok configMap? ∧
      main.env.getD [] = (EnvVar.overlaid (EnvVar.overlaid (EnvVar.overlaid old
        (Step.roleEnv p)) (refs.map Step.secretVariable))
          (Step.hadoopVariables configMap?)).map some := by
  obtain ⟨last, rs, name, owners, hcompose, hset⟩ := exists_composed h
  obtain ⟨cs, _, _, _, _, hcs, -, -, -, -, hs⟩ := createStatefulSet_ok hset
  obtain ⟨others, rfl, -⟩ := PodDraft.containers_ok hcs
  obtain ⟨refs, configMap?, hrefs, hmap, hlast⟩ := Step.hasEnv_of_chain hcompose hold
  exact ⟨last.main, others.map some, refs, configMap?, by rw [hs]; rfl, hrefs, hmap, hlast⟩

theorem exists_variableNames (h : build host template claims p = .ok a)
    (hold : template.HasEnv old) :
    ∃ main others refs configMap?, a.statefulSet.containers = some main :: others ∧
      p.environmentSecrets = .ok refs ∧ Step.hadoopMap? p host = .ok configMap? ∧
      main.variableNames = ((EnvVar.overlaid (EnvVar.overlaid (EnvVar.overlaid old
        (Step.roleEnv p)) (refs.map Step.secretVariable))
          (Step.hadoopVariables configMap?)).map (·.name)).map some := by
  obtain ⟨main, others, refs, configMap?, hcontainers, hrefs, hmap, henv⟩ := exists_env h hold
  refine ⟨main, others, refs, configMap?, hcontainers, hrefs, hmap, ?_⟩
  rw [Container.variableNames, henv, List.map_map, List.map_map]
  rfl

/-- A specification is only built of a template without nulls among its variables. -/
theorem exists_hasEnv (h : build host template claims p = .ok a) : ∃ old, template.HasEnv old := by
  obtain ⟨_, _, _, _, hcompose, -⟩ := exists_composed h
  exact Step.exists_hasEnv hcompose

/-- **When environment variables have distinct names.** Over a template whose variables have, the
built main container has them if the pod's address is not among the role's configured variables, or
is replaced by a secret, and if no two references to secrets set one name, but for the one that the
Hadoop configuration replaces. -/
theorem env_nodup_iff (hnames : template.main.variableNames.Nodup)
    (h : build host template claims p = .ok a) :
    ∃ main others refs configMap?, a.statefulSet.containers = some main :: others ∧
      p.environmentSecrets = .ok refs ∧ Step.hadoopMap? p host = .ok configMap? ∧
      (main.variableNames.Nodup ↔
        (p.conf.text? p.addressKey ≠ none → Step.podAddress.name ∈ Step.secretNames refs) ∧
        ((Step.secretNames refs).filter (fun n => ¬ Step.SetByHadoop configMap? n)).Nodup) := by
  obtain ⟨old, hold⟩ := exists_hasEnv h
  obtain ⟨main, others, refs, configMap?, hcontainers, hrefs, hmap, hmain⟩ :=
    exists_variableNames h hold
  refine ⟨main, others, refs, configMap?, hcontainers, hrefs, hmap, ?_⟩
  rw [hmain, List.nodup_map_iff fun _ _ => Option.some.inj]
  exact Step.nodup_layers_iff (hold.nodup_iff.1 hnames)

/-- A template whose main container has variables, one of which the role replaces. -/
def variedTemplate : PodDraft where
  main := {
    name := "main"
    env := some [some { name := "LEVEL", value := some "info" },
      some { name := "ZONE", value := some "a" }] }

def variedParameters : Parameters where
  role := .taskManager
  conf := ⟨.ofEntries
    [(Options.clusterId.key, "demo"), (Options.taskManagerEnvironment ++ "LEVEL", "debug"),
      (Options.jobManagerEnvironment ++ "_POD_IP_ADDRESS", "x")]⟩
  clusterId := "demo"

theorem env_nodup_iff_varied :
    variedTemplate.main.variableNames.Nodup ∧
      ∃ a main others, build .bare variedTemplate [] variedParameters = .ok a ∧
        a.statefulSet.containers = some main :: others ∧ main.variableNames.Nodup := by
  obtain ⟨a, ha⟩ : ∃ a, build .bare variedTemplate [] variedParameters = .ok a :=
    Outcome.exists_of_isOk (by decide +kernel)
  have hnames : variedTemplate.main.variableNames.Nodup := by decide
  obtain ⟨main, others, refs, configMap?, hcontainers, hrefs, -, hiff⟩ :=
    env_nodup_iff hnames ha
  have hnone : variedParameters.environmentSecrets = .ok [] := by decide +kernel
  obtain rfl := Except.ok.inj (hnone.symm.trans hrefs)
  refine ⟨hnames, a, main, others, ha, hcontainers, hiff.2 ⟨fun haddress => ?_, List.nodup_nil⟩⟩
  exact absurd (by decide +kernel) haddress

/-- The parameters of a job manager whose configured variables include the pod's address. -/
def addressedParameters : Parameters where
  role := .jobManager
  conf := ⟨.ofEntries
    [(Options.clusterId.key, "c1"), (Options.jobManagerEnvironment ++ "_POD_IP_ADDRESS", "x")]⟩
  clusterId := "c1"

/-- The pod's address is set next to a configured variable of its name. -/
theorem env_not_nodup_address :
    ∃ a main others, Parameters.of .jobManager addressedParameters.conf =
        .ok addressedParameters ∧
      (PodDraft.main {}).variableNames.Nodup ∧ build .bare {} [] addressedParameters = .ok a ∧
      a.statefulSet.containers = some main :: others ∧ ¬ main.variableNames.Nodup := by
  obtain ⟨a, ha⟩ : ∃ a, build .bare {} [] addressedParameters = .ok a :=
    Outcome.exists_of_isOk (by decide +kernel)
  have hempty : PodDraft.HasEnv {} [] := rfl
  obtain ⟨main, others, refs, configMap?, hcontainers, hrefs, -, hmain⟩ :=
    exists_variableNames ha hempty
  have hnone : addressedParameters.environmentSecrets = .ok [] := by decide +kernel
  obtain rfl := Except.ok.inj (hnone.symm.trans hrefs)
  refine ⟨a, main, others, by decide +kernel, List.nodup_nil, ha, hcontainers, ?_⟩
  have hold : (([] : List EnvVar).map (·.name)).Nodup := List.nodup_nil
  rw [hmain, List.nodup_map_iff fun _ _ => Option.some.inj, Step.nodup_layers_iff hold]
  intro hnodup
  exact absurd (hnodup.1 (by decide +kernel)) List.not_mem_nil

end Specification

end FlinkCluster
