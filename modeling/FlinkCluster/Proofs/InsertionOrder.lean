import FlinkCluster.Plan
import FlinkCluster.Proofs.EffectiveLayers
import FlinkCluster.Proofs.TwoRuns

/-!
# The order of entries does not matter

Configurations that hold the same entries in any order have the same specifications and plans, or
are refused in the same way: everything that composing a role reads goes by keys, or in the order of
the keys (`Step.SameButConfiguration.eq`, `Plan.make_congr`). The effective configuration of a
deployment holds the same entries whatever the order of those below it
(`DeploymentSpec.text?_effective_congr`), so that its plan does not depend on any order
(`Specification.insertion_order`).
-/

set_option autoImplicit false

namespace FlinkCluster

open Kubernetes Outcome

variable {conf conf' : Configuration} {host : Host}

/-! ## Specifications -/

namespace Step

theorem Rendered.eq (h : ∀ key, conf.text? key = conf'.text? key) {text text' : String}
    (htexts : Rendered conf conf' text text') : text = text' := by
  obtain ⟨c, c', rfl, rfl, hc⟩ := htexts
  exact Configuration.renderConfiguration_congr fun key => hc key (h key)

theorem SameButConfiguration.eq {id : String} {texts : String → String → Prop} {r r' : Resource}
    (h : SameButConfiguration id texts r r')
    (htexts : ∀ text text', texts text text' → text = text') : r = r' := by
  cases h with
  | same r => rfl
  | flinkConf _ files h => rw [htexts _ _ h]

end Step

namespace Parameters

/-- To every role, configurations with the same view are the same. -/
theorem agrees_of_text? {p : Parameters} (h : ∀ key, conf.text? key = p.conf.text? key) :
    p.Agrees conf where
  texts key _ := h key
  environment := Configuration.under_congr fun key _ => h key

end Parameters

namespace Specification

variable {template : PodDraft} {claims : List (Option VolumeClaim)} {p : Parameters}

theorem jobManager_reading_eq (h : ∀ key, conf.text? key = p.conf.text? key)
    (hrole : p.role = .jobManager) :
    jobManager host template claims (p.reading conf) = jobManager host template claims p := by
  refine Alike.eq ((jobManager_reading (Parameters.agrees_of_text? h) hrole).mono ?_)
  rintro ⟨statefulSet, resources⟩ ⟨_, resources'⟩ ⟨rfl, hresources⟩
  have hsame : List.Forall₂ Eq resources resources' :=
    hresources.imp fun r r' hr => hr.eq fun _ _ => Step.Rendered.eq h
  rw [List.forall₂_eq_eq_eq] at hsame
  rw [hsame]

end Specification

/-- Parameters do not depend on the order of entries. -/
theorem Parameters.of_alike_of_text? {role : Role} (h : ∀ key, conf.text? key = conf'.text? key) :
    Alike (fun p p' => p = p'.reading conf ∧ p'.role = role ∧ p'.conf = conf' ∧
        conf.find? Options.clusterId = .ok (some p'.clusterId))
      (Parameters.of role conf) (Parameters.of role conf') :=
  of_alike (Configuration.find?_congr fun key _ => h key)

/-! ## Plans -/

/-- Configurations with the same view have the same plan. -/
theorem Plan.make_congr (h : ∀ key, conf.text? key = conf'.text? key) (spec : DeploymentSpec) :
    make host spec conf = make host spec conf' := by
  unfold make
  refine (Parameters.of_alike_of_text? h).bind_eq ?_
  rintro _ p ⟨rfl, hrole, rfl, -⟩
  refine (Parameters.of_alike_of_text? h).bind_eq ?_
  rintro _ q ⟨rfl, hrole', hconf, -⟩
  have hp := Parameters.agrees_of_text? h
  have hq : q.Agrees conf := Parameters.agrees_of_text? (hconf ▸ h)
  simp only [hp.namespaceName, Specification.jobManager_reading_eq h hrole,
    Specification.taskManager_reading hq hrole', Parameters.clusterId_reading]

/-! ## Effective configurations -/

namespace Configuration

theorem text?_setAll_congr {entries entries' : Entries} (h : entries.Perm entries')
    (hnodup : (entries.map Prod.fst).Nodup) (hconf : ∀ key, conf.text? key = conf'.text? key)
    (key : String) : (conf.setAll entries).text? key = (conf'.setAll entries').text? key := by
  by_cases hkey : key ∈ entries.map Prod.fst
  · obtain ⟨⟨_, v⟩, hv, rfl⟩ := List.mem_map.1 hkey
    rw [text?_setAll_of_mem hnodup hv,
      text?_setAll_of_mem ((h.map Prod.fst).nodup_iff.1 hnodup) (h.mem_iff.1 hv)]
  · have hkey' : key ∉ entries'.map Prod.fst := fun hmem => hkey ((h.map Prod.fst).mem_iff.2 hmem)
    rw [text?_setAll_of_not_mem hkey, text?_setAll_of_not_mem hkey', hconf]

end Configuration

namespace DeploymentSpec

variable {base base' : Configuration} {spec : DeploymentSpec} {own : Table String}

theorem text?_effective_congr (hbase : base.table.entries.Perm base'.table.entries)
    (hown : spec.flinkConfiguration.entries.Perm own.entries) (ns id key : String) :
    (spec.effective ns id base).text? key =
      ({ spec with flinkConfiguration := own }.effective ns id base').text? key := by
  have hentries : spec.ownEntries.Perm
      (ownEntries { spec with flinkConfiguration := own }) :=
    hown.map fun e : String × String => (e.1, Value.text e.2)
  have hnodup : (spec.ownEntries.map Prod.fst).Nodup :=
    (spec.flinkConfiguration.map Value.text).nodup
  have hbelow := Configuration.text?_setAll_congr hentries hnodup (Table.perm_iff.1 hbase)
  -- The determined entries and the main class do not come from the deployment's own entries.
  refine Configuration.text?_setAll_congr (.refl _) (nodup_keys_determined ns id spec)
    (fun key => ?_) key
  change (if spec.lacksMainClass then _ else _ : Configuration).text? key =
    (if spec.lacksMainClass then _ else _ : Configuration).text? key
  split
  · rw [Configuration.text?_erase, Configuration.text?_erase, hbelow]
  · exact hbelow key

end DeploymentSpec

/-! ## Orders of entries -/

/-- **The order of entries does not matter.** Configurations that hold the same entries in any order
have the same specifications, or are refused in the same way. A base and entries of a deployment in
any order make up configurations with the same entries, and the same plan. -/
theorem Specification.insertion_order (host : Host) :
    (∀ (template : PodDraft) (claims : List (Option VolumeClaim)) (conf conf' : Configuration),
      conf.table.entries.Perm conf'.table.entries →
      (Parameters.of .jobManager conf >>= jobManager host template claims) =
          (Parameters.of .jobManager conf' >>= jobManager host template claims) ∧
        (Parameters.of .taskManager conf >>= taskManager host template claims) =
          (Parameters.of .taskManager conf' >>= taskManager host template claims)) ∧
    ∀ (base base' : Configuration) (spec : DeploymentSpec) (own : Table String) (ns id : String),
      base.table.entries.Perm base'.table.entries →
      spec.flinkConfiguration.entries.Perm own.entries →
      (spec.effective ns id base).table.entries.Perm
          ({ spec with flinkConfiguration := own }.effective ns id base').table.entries ∧
        Plan.make host spec (spec.effective ns id base) =
          Plan.make host { spec with flinkConfiguration := own }
            ({ spec with flinkConfiguration := own }.effective ns id base') := by
  refine ⟨fun template claims conf conf' hperm => ?_,
    fun base base' spec own ns id hbase hown => ?_⟩
  · have h := Table.perm_iff.1 hperm
    constructor
    · refine (Parameters.of_alike_of_text? h).bind_eq ?_
      rintro _ p ⟨rfl, hrole, rfl, -⟩
      exact jobManager_reading_eq h hrole
    · refine (Parameters.of_alike_of_text? h).bind_eq ?_
      rintro _ p ⟨rfl, hrole, rfl, -⟩
      exact taskManager_reading (Parameters.agrees_of_text? h) hrole
  · have h := DeploymentSpec.text?_effective_congr hbase hown ns id
    exact ⟨Table.perm_iff.2 h, Plan.make_congr h spec⟩

/-! ## Two orders -/

namespace Configuration

/-- Settings of a session cluster. -/
def forwards : Configuration where
  table := .ofEntries [("kubernetes.cluster-id", "demo"), ("containerized.master.env.A", "1"),
    ("containerized.master.env.B", "2"), ("rest.port", "8082")]

/-- The same settings in another order. -/
def backwards : Configuration where
  table := .ofEntries [("rest.port", "8082"), ("containerized.master.env.B", "2"),
    ("containerized.master.env.A", "1"), ("kubernetes.cluster-id", "demo")]

end Configuration

/-- Both orders make the same job manager, and the same plan where they are a deployment's own. -/
theorem Specification.insertion_order_backwards :
    Configuration.forwards.table.entries.Perm Configuration.backwards.table.entries ∧
      (∃ s, (Parameters.of .jobManager .forwards >>= jobManager .bare {} []) = .ok s ∧
        (Parameters.of .jobManager .backwards >>= jobManager .bare {} []) = .ok s) ∧
      ∃ plan, Plan.make .bare { flinkConfiguration := Configuration.forwards.table }
          (DeploymentSpec.effective "default" "demo" .empty
            { flinkConfiguration := Configuration.forwards.table }) = .ok plan ∧
        Plan.make .bare { flinkConfiguration := Configuration.backwards.table }
          (DeploymentSpec.effective "default" "demo" .empty
            { flinkConfiguration := Configuration.backwards.table }) = .ok plan := by
  have hperm : Configuration.forwards.table.entries.Perm Configuration.backwards.table.entries := by
    decide +kernel
  obtain ⟨hspecifications, hplans⟩ := insertion_order .bare
  refine ⟨hperm, ?_, ?_⟩
  · obtain ⟨s, hs⟩ : ∃ s, (Parameters.of .jobManager .forwards >>= jobManager .bare {} []) =
      .ok s := Outcome.exists_of_isOk (by decide +kernel)
    exact ⟨s, hs, (hspecifications {} [] _ _ hperm).1 ▸ hs⟩
  · obtain ⟨plan, hplan⟩ : ∃ plan, Plan.make .bare
        { flinkConfiguration := Configuration.forwards.table }
        (DeploymentSpec.effective "default" "demo" .empty
          { flinkConfiguration := Configuration.forwards.table }) = .ok plan :=
      Outcome.exists_of_isOk (by decide +kernel)
    have hsame := (hplans .empty .empty { flinkConfiguration := Configuration.forwards.table }
      Configuration.backwards.table "default" "demo" (.refl _) hperm).2
    exact ⟨plan, hplan, hsame ▸ hplan⟩

end FlinkCluster
