import FlinkCluster.Proofs.BuiltResources

/-!
# Resources that both roles need

The pods of both roles mount the Hadoop and Kerberos configurations and that of the cluster, and the
steps that mount them list the resources for it, whichever role they decorate.

* `Step.exists_part`, `Step.filter_resources`: the resources of a composition, step by step, and
  those of its mount steps alone.
* `Step.resources_mountStep`: what a mount step lists does not depend on the role.
* `Step.taskManager_resources`: a task manager's resources are the job manager's without services.
-/

set_option autoImplicit false

namespace FlinkCluster

open Kubernetes

namespace Step

variable {p q : Parameters} {host : Host} {step : Step} {steps : List Step}
  {draft last : PodDraft} {rs : List Resource}

/-! ## The parts of a composition -/

/-- The steps whose resources the pods of both roles mount. -/
def mountSteps : List Step := [.hadoop, .kerberos, .flinkConf]

/-- The resources of every step of a composition are among those of the composition. -/
theorem exists_part (h : compose p host steps draft = .ok (last, rs)) (hstep : step ∈ steps) :
    ∃ part, step.resources p host = .ok part ∧ part ⊆ rs := by
  induction steps generalizing draft rs with
  | nil => cases hstep
  | cons first steps ih =>
    obtain ⟨next, part, others, -, hpart, hrest, rfl⟩ := compose_cons_ok h
    rcases List.mem_cons.1 hstep with rfl | hstep
    · exact ⟨part, hpart, List.subset_append_left part others⟩
    · obtain ⟨part', hpart', hsub⟩ := ih hrest hstep
      exact ⟨part', hpart', fun r hr => List.mem_append_right part (hsub hr)⟩

/-- Every resource of a composition comes from one of its steps. -/
theorem exists_step (h : compose p host steps draft = .ok (last, rs)) {r : Resource}
    (hr : r ∈ rs) : ∃ step ∈ steps, ∃ part, step.resources p host = .ok part ∧ r ∈ part := by
  induction steps generalizing draft rs with
  | nil =>
    obtain ⟨-, rfl⟩ := Prod.mk.inj (Except.ok.inj h)
    cases hr
  | cons first steps ih =>
    obtain ⟨next, part, others, -, hpart, hrest, rfl⟩ := compose_cons_ok h
    rcases List.mem_append.1 hr with hr | hr
    · exact ⟨first, List.mem_cons_self, part, hpart, hr⟩
    · obtain ⟨step, hstep, hfound⟩ := ih hrest hr
      exact ⟨step, List.mem_cons_of_mem first hstep, hfound⟩

/-! ## Services -/

/-- The mount steps list no service, and the others list nothing else. -/
theorem kind_eq_service_iff (h : step.resources p host = .ok rs) {r : Resource} (hr : r ∈ rs) :
    r.kind = .service ↔ step ∉ mountSteps := by
  have hidentity := (identities_resources h).mem (List.mem_map_of_mem hr)
  obtain ⟨⟨kind, name⟩, hmem, heq⟩ := List.mem_map.1 hidentity
  obtain ⟨hkind, -, -⟩ := Resource.identity?_eq_some.1 heq.symm
  rw [hkind]
  cases step with
  | kerberos =>
    rcases List.mem_cons.1 hmem with heq | hmem
    · simp [mountSteps, (Prod.mk.inj heq).1]
    · simp [mountSteps, (Prod.mk.inj (List.mem_singleton.1 hmem)).1]
  | internalService | externalService | hadoop | flinkConf =>
    simp [mountSteps, (Prod.mk.inj (List.mem_singleton.1 hmem)).1]
  | _ => cases hmem

/-- Without its services, a composition lists what its mount steps list. -/
theorem filter_resources (h : compose p host steps draft = .ok (last, rs)) :
    ∃ parts : List (List Resource),
      (steps.filter (· ∈ mountSteps)).map (resources p host) = parts.map .ok ∧
      rs.filter (fun r => r.kind ≠ .service) = parts.flatten := by
  induction steps generalizing draft rs with
  | nil =>
    obtain ⟨-, rfl⟩ := Prod.mk.inj (Except.ok.inj h)
    exact ⟨[], rfl, rfl⟩
  | cons first steps ih =>
    obtain ⟨next, part, others, -, hpart, hrest, rfl⟩ := compose_cons_ok h
    obtain ⟨parts, hparts, hothers⟩ := ih hrest
    rw [List.filter_append, hothers]
    by_cases hfirst : first ∈ mountSteps
    · have hall : part.filter (fun r => r.kind ≠ .service) = part :=
        List.filter_eq_self.2 fun r hr => by simp [kind_eq_service_iff hpart hr, hfirst]
      refine ⟨part :: parts, ?_, by rw [hall, List.flatten_cons]⟩
      rw [List.filter_cons_of_pos (by simpa using hfirst), List.map_cons, List.map_cons, hparts,
        hpart]
    · have hnone : part.filter (fun r => r.kind ≠ .service) = [] :=
        List.filter_eq_nil_iff.2 fun r hr => by simp [kind_eq_service_iff hpart hr, hfirst]
      refine ⟨parts, ?_, by rw [hnone, List.nil_append]⟩
      rw [List.filter_cons_of_neg (by simpa using hfirst), hparts]

/-! ## Two roles -/

/-- What a mount step lists does not depend on the role that it decorates. -/
theorem resources_mountStep (hstep : step ∈ mountSteps) (hconf : p.conf = q.conf)
    (hid : p.clusterId = q.clusterId) : step.resources p host = step.resources q host := by
  obtain ⟨role, conf, id⟩ := p
  obtain ⟨role', conf', id'⟩ := q
  obtain rfl : conf = conf' := hconf
  obtain rfl : id = id' := hid
  cases step with
  | hadoop | kerberos | flinkConf => rfl
  | _ => simp [mountSteps] at hstep

/-- Both roles mount by the same steps. -/
theorem filter_chain (role : Role) : (chain role).filter (· ∈ mountSteps) = mountSteps := by
  cases role <;> rfl

/-- The steps of a task manager list no service. -/
theorem kind_ne_service (h : compose p host (chain .taskManager) draft = .ok (last, rs))
    {r : Resource} (hr : r ∈ rs) : r.kind ≠ .service := by
  obtain ⟨step, hstep, part, hpart, hr⟩ := exists_step h hr
  intro hservice
  have hother := (kind_eq_service_iff hpart hr).1 hservice
  -- The other steps of a task manager list nothing at all.
  have hnothing : step.resources p host = .ok [] := by
    revert hother
    revert hstep
    cases step <;> simp [chain, mountSteps, resources]
  rw [hnothing] at hpart
  obtain rfl := Except.ok.inj hpart
  cases hr

/-- **What both roles need is listed alike.** Where the pods of both roles can be composed from one
configuration, on one host and from any two templates, the task manager's resources are the job
manager's without the services, in the same order. -/
theorem taskManager_resources {conf : Configuration} {draft' last' : PodDraft}
    {rs' : List Resource} (hp : Parameters.of .jobManager conf = .ok p)
    (hq : Parameters.of .taskManager conf = .ok q)
    (h : compose p host (chain .jobManager) draft = .ok (last, rs))
    (h' : compose q host (chain .taskManager) draft' = .ok (last', rs')) :
    rs' = rs.filter (fun r => r.kind ≠ .service) := by
  obtain ⟨hp, hid, -⟩ := Parameters.of_ok hp
  obtain ⟨hq, hid', -⟩ := Parameters.of_ok hq
  have hsame : p.clusterId = q.clusterId :=
    Option.some.inj (Except.ok.inj (hid.symm.trans hid'))
  obtain ⟨parts, hparts, hrs⟩ := filter_resources h
  obtain ⟨parts', hparts', hrs'⟩ := filter_resources h'
  rw [filter_chain] at hparts hparts'
  -- The parts are equal, because the same steps made them.
  have hparts_eq : parts.map (Except.ok : _ → Outcome (List Resource)) = parts'.map .ok := by
    rw [← hparts, ← hparts']
    exact List.map_congr_left fun step hstep =>
      resources_mountStep hstep (by rw [hp, hq]) hsame
  have hinj : Function.Injective (Except.ok : List Resource → Outcome (List Resource)) :=
    fun _ _ => Except.ok.inj
  obtain rfl := List.map_injective_iff.2 hinj hparts_eq
  have hall : rs'.filter (fun r => r.kind ≠ .service) = rs' :=
    List.filter_eq_self.2 fun r hr => by simpa using kind_ne_service h' hr
  rw [← hall, hrs', hrs]

end Step

/-! ## A cluster with files to mount -/

/-- A host with a logging file, a keytab and a Kerberos configuration. -/
def Host.furnished : Host :=
  let files := ["logback-console.xml", "flink.keytab", "krb5.conf"]
  let host := files.foldl (fun host file => host.make ("etc/" ++ file) (.file [104, 105])) Host.bare
  { host with environment := .ofEntries [(Host.loggingVariable, "etc/")] }

/-- The configuration of a cluster that uses Kerberos. -/
def Configuration.kerberized : Configuration where
  table := .ofEntries
    [(Options.clusterId.key, "demo"), (Options.kerberosKeytab.key, "etc/flink.keytab"),
      (Options.kerberosPrincipal.key, "flink"), (Options.kerberosConfigFile.key, "etc/krb5.conf")]

namespace Step

/-- The names of the resources that the steps of a role list for that cluster. -/
def kerberizedNames (role : Role) : Outcome (List String) :=
  (compose ⟨role, .kerberized, "demo"⟩ .furnished (chain role) {}).map fun composed =>
    composed.2.map (·.name)

theorem taskManager_resources_kerberized :
    ∃ last last' rs rs',
      compose ⟨.jobManager, .kerberized, "demo"⟩ .furnished (chain .jobManager) {} =
        .ok (last, rs) ∧
      compose ⟨.taskManager, .kerberized, "demo"⟩ .furnished (chain .taskManager) {} =
        .ok (last', rs') ∧
      rs.map (·.name) = ["demo", "demo-rest", "kerberos-keytab-demo", "kerberos-krb5conf-demo",
        "flink-config-demo"] ∧
      rs' = rs.filter (fun r => r.kind ≠ .service) := by
  have hnames : kerberizedNames .jobManager = .ok ["demo", "demo-rest", "kerberos-keytab-demo",
      "kerberos-krb5conf-demo", "flink-config-demo"] := by decide +kernel
  have hnames' : (kerberizedNames .taskManager).isOk := by decide +kernel
  obtain ⟨⟨last, rs⟩, h, hrs⟩ := Outcome.map_ok hnames
  obtain ⟨names, hnames'⟩ := Outcome.exists_of_isOk hnames'
  obtain ⟨⟨last', rs'⟩, h', -⟩ := Outcome.map_ok hnames'
  have hp : Parameters.of .jobManager .kerberized = .ok ⟨.jobManager, .kerberized, "demo"⟩ := by
    decide +kernel
  have hq : Parameters.of .taskManager .kerberized = .ok ⟨.taskManager, .kerberized, "demo"⟩ := by
    decide +kernel
  exact ⟨last, last', rs, rs', h, h', hrs, taskManager_resources hp hq h h'⟩

end Step

end FlinkCluster
