import FlinkCluster.Proofs.Scaling
import FlinkCluster.Proofs.SmallQuotients

/-!
# Numbers of replicas

Which numbers of replicas are written, by a specification or by scaling.

* `Parameters.jobManagerReplicas_ok`: there is at least one job manager, and more only with high
  availability.
* `Service.wanted_of_mem_requests`: scaling writes no number but the wanted one.
* `Service.replicas_positive`: when exactly the numbers are positive. A fixed number of task
  managers is written as it is configured, and a computed one is zero where the quotient of
  parallelism and slots vanishes (`Service.replicas_zero`).
-/

set_option autoImplicit false

namespace FlinkCluster

open Kubernetes Number.Binary64

variable {σ τ : Type}

/-! ## Specifications -/

theorem Parameters.jobManagerReplicas_ok {p : Parameters} {n : Int}
    (h : p.jobManagerReplicas = .ok n) : 1 ≤ n ∧ (1 < n → p.highAvailability = .ok true) := by
  obtain ⟨(replicas : Int), -, h⟩ := Outcome.bind_ok h
  by_cases hnone : replicas < 1
  · rw [if_pos hnone] at h
    exact absurd h Outcome.misconfigured_ne_ok
  rw [if_neg hnone] at h
  by_cases hmany : replicas > 1
  · rw [if_pos hmany] at h
    obtain ⟨available, havailable, h⟩ := Outcome.bind_ok h
    cases available with
    | false => exact absurd h Outcome.misconfigured_ne_ok
    | true =>
      obtain rfl := Outcome.pure_ok h
      exact ⟨by omega, fun _ => havailable⟩
  · rw [if_neg hmany] at h
    obtain rfl := Outcome.pure_ok h
    exact ⟨by omega, fun hlt => absurd hlt hmany⟩

/-- A stateful set has the number of replicas of the role. -/
theorem Specification.replicas_of_createStatefulSet {draft : PodDraft}
    {claims : List (Option VolumeClaim)} {p : Parameters} {name : String}
    {owners : List (Option OwnerReference)} {s : StatefulSet}
    (h : createStatefulSet draft claims p name owners = .ok s) :
    ∃ n : Int, p.replicas = .ok n ∧ s.spec.bind (·.replicas) = some (.integer n) := by
  obtain ⟨_, n, _, _, _, -, hn, -, -, -, rfl⟩ := createStatefulSet_ok h
  exact ⟨n, hn, rfl⟩

/-- There is a task manager: a fixed number of them is positive, and without one the quotient of
parallelism and slots does not vanish. -/
structure Configuration.SuppliesTaskManagers (conf : Configuration) : Prop where
  fixed : ∀ n, conf.find? Options.taskManagerReplicas = .ok (some n) → 1 ≤ n
  computed : conf.find? Options.taskManagerReplicas = .ok none → ∀ parallelism slots,
    conf.get Options.defaultParallelism = .ok parallelism → conf.get Options.taskSlots = .ok slots →
    slots < parallelism * underflowBound

theorem Parameters.taskManagerReplicas_positive_iff {role : Role} {conf : Configuration}
    {id : String} {n : Int} (h : taskManagerReplicas ⟨role, conf, id⟩ = .ok n) :
    1 ≤ n ↔ conf.SuppliesTaskManagers := by
  rcases taskManagerReplicas_ok h with
    hfixed | ⟨hnone, parallelism, slots, hparallelism, hslots, hcount⟩
  · constructor
    · intro hn
      refine ⟨fun m hm => ?_, fun hnone _ _ _ _ => ?_⟩
      · obtain rfl := Option.some.inj (Except.ok.inj (hfixed.symm.trans hm))
        exact hn
      · cases hfixed.symm.trans hnone
    · exact fun hsupplies => hsupplies.fixed n hfixed
  · obtain ⟨hnatural, hzero⟩ := taskManagerCount_ok hcount
    constructor
    · intro hn
      refine ⟨fun m hm => ?_, fun _ p s hp hs => ?_⟩
      · cases hnone.symm.trans hm
      obtain rfl := Except.ok.inj (hparallelism.symm.trans hp)
      obtain rfl := Except.ok.inj (hslots.symm.trans hs)
      exact not_le.1 (mt hzero.2 (by omega))
    · intro hsupplies
      have hlt := hsupplies.computed hnone parallelism slots hparallelism hslots
      have hne := mt hzero.1 (not_le.2 hlt)
      omega

namespace Service

variable {service : Service σ τ} {metadata : DeploymentMetadata} {job : Option JobSpec}
  {conf : Configuration} {w w' : σ} {out : Outcome Bool} {trace : List (Event τ)}

/-! ## Scaling -/

/-- The parallelism that scaling goes by: that of the job, or the configured one without a job. -/
def wantedParallelism (job : Option JobSpec) (conf : Configuration) : Outcome Int :=
  match job with
  | some j => .ok j.parallelism
  | none => conf.get Options.defaultParallelism

theorem wantedTaskManagers_ok {n : Int} (h : wantedTaskManagers job conf = .ok n) :
    ∃ parallelism slots, wantedParallelism job conf = .ok parallelism ∧
      conf.get Options.taskSlots = .ok slots ∧ taskManagerCount parallelism slots = .ok n := by
  cases job with
  | none =>
    obtain ⟨parallelism, hparallelism, h⟩ := Outcome.bind_ok h
    obtain ⟨slots, hslots, h⟩ := Outcome.bind_ok h
    exact ⟨parallelism, slots, hparallelism, hslots, h⟩
  | some j =>
    obtain ⟨parallelism, hparallelism, h⟩ := Outcome.bind_ok h
    obtain ⟨slots, hslots, h⟩ := Outcome.bind_ok h
    exact ⟨parallelism, slots, hparallelism, hslots, h⟩

/-- Scaling writes no number but the wanted one. -/
theorem wanted_of_mem_requests (h : (service.scale metadata job conf).Yields w out trace w')
    {ns name : String} {n : Int} (hn : Request.scaleStatefulSet ns name n ∈ requests trace) :
    wantedTaskManagers job conf = .ok n := by
  cases scales_of_yields h with
  | idle | missing | refused | unknown | same => simp [requests] at hn
  | scaled _ _ hwanted | unscaled _ _ hwanted =>
    simp [requests] at hn
    rw [hn.2.2]
    exact hwanted

/-- **When numbers of replicas are positive.** That of a job manager always is, and one above one
needs high availability. That of the task managers is positive exactly if they are supplied, and
scaling writes a positive one exactly if the quotient of the wanted parallelism and the slots does
not vanish. -/
theorem replicas_positive (service : Service σ τ) (conf : Configuration) :
    (∀ host template claims p s, Parameters.of .jobManager conf = .ok p →
      Specification.jobManager host template claims p = .ok s →
      ∃ n : Int, s.statefulSet.spec.bind (·.replicas) = some (.integer n) ∧
        1 ≤ n ∧ (1 < n → p.highAvailability = .ok true)) ∧
    (∀ host template claims p s, Parameters.of .taskManager conf = .ok p →
      Specification.taskManager host template claims p = .ok s →
      ∃ n : Int, s.statefulSet.spec.bind (·.replicas) = some (.integer n) ∧
        (1 ≤ n ↔ conf.SuppliesTaskManagers)) ∧
    ∀ metadata job w out trace w', (service.scale metadata job conf).Yields w out trace w' →
      ∀ ns name n, Request.scaleStatefulSet ns name n ∈ requests trace →
        ∃ parallelism slots, wantedParallelism job conf = .ok parallelism ∧
          conf.get Options.taskSlots = .ok slots ∧
          (1 ≤ n ↔ slots < parallelism * underflowBound) := by
  refine ⟨?_, ?_, ?_⟩
  · intro host template claims p s hp hs
    obtain ⟨_, _, -, hset⟩ := Specification.jobManager_ok hs
    obtain ⟨n, hn, hreplicas⟩ := Specification.replicas_of_createStatefulSet hset
    rw [(Parameters.of_ok hp).1] at hn ⊢
    exact ⟨n, hreplicas, Parameters.jobManagerReplicas_ok hn⟩
  · intro host template claims p s hp hs
    obtain ⟨-, _, hset⟩ := Specification.taskManager_ok hs
    obtain ⟨n, hn, hreplicas⟩ := Specification.replicas_of_createStatefulSet hset
    rw [(Parameters.of_ok hp).1] at hn
    exact ⟨n, hreplicas, Parameters.taskManagerReplicas_positive_iff hn⟩
  · intro metadata job w out trace w' h ns name n hn
    obtain ⟨parallelism, slots, hparallelism, hslots, hcount⟩ :=
      wantedTaskManagers_ok (wanted_of_mem_requests h hn)
    obtain ⟨hnatural, hzero⟩ := taskManagerCount_ok hcount
    refine ⟨parallelism, slots, hparallelism, hslots, ?_⟩
    rw [← not_le, ← hzero]
    omega

end Service

/-- A cluster for which a number of task managers is configured. -/
def Configuration.staffed (count : String) : Configuration :=
  ⟨.ofEntries [(Options.clusterId.key, "demo"), (Options.taskManagerReplicas.key, count)]⟩

def Parameters.staffed (count : String) : Parameters := ⟨.taskManager, .staffed count, "demo"⟩

theorem Service.replicas_positive_staffed :
    ∃ s, Parameters.of .taskManager (.staffed "3") = .ok (.staffed "3") ∧
      Specification.taskManager .bare {} [] (.staffed "3") = .ok s ∧
      ∃ n : Int, s.statefulSet.spec.bind (·.replicas) = some (.integer n) ∧ 1 ≤ n := by
  obtain ⟨s, hs⟩ : ∃ s, Specification.taskManager .bare {} [] (.staffed "3") = .ok s :=
    Outcome.exists_of_isOk (by decide +kernel)
  have hp : Parameters.of .taskManager (.staffed "3") = .ok (.staffed "3") := by decide +kernel
  have hthree : (Configuration.staffed "3").find? Options.taskManagerReplicas = .ok (some 3) := by
    decide +kernel
  obtain ⟨n, hn, hiff⟩ := (replicas_positive (Cluster.service ⟨.whole 0, .whole 1⟩)
    (.staffed "3")).2.1 .bare {} [] (.staffed "3") s hp hs
  refine ⟨s, hp, hs, n, hn, hiff.2 ⟨fun m hm => ?_, fun hnone => ?_⟩⟩
  · obtain rfl := Option.some.inj (Except.ok.inj (hthree.symm.trans hm))
    decide
  · cases hthree.symm.trans hnone

/-- A fixed number of task managers can be zero, and so can a computed one. -/
theorem Service.replicas_zero :
    (∃ s, Parameters.of .taskManager (.staffed "0") = .ok (.staffed "0") ∧
      Specification.taskManager .bare {} [] (.staffed "0") = .ok s ∧
      s.statefulSet.spec.bind (·.replicas) = some (.integer 0)) ∧
    taskManagerCount 1 ((2 ^ 1075 : Nat) : Int) = .ok 0 := by
  refine ⟨?_, by decide +kernel⟩
  obtain ⟨s, hs⟩ : ∃ s, Specification.taskManager .bare {} [] (.staffed "0") = .ok s :=
    Outcome.exists_of_isOk (by decide +kernel)
  obtain ⟨-, _, hset⟩ := Specification.taskManager_ok hs
  obtain ⟨n, hn, hreplicas⟩ := Specification.replicas_of_createStatefulSet hset
  have hzero : (Parameters.staffed "0").replicas = .ok 0 := by decide +kernel
  obtain rfl := Except.ok.inj (hzero.symm.trans hn)
  exact ⟨s, by decide +kernel, hs, hreplicas⟩

end FlinkCluster
