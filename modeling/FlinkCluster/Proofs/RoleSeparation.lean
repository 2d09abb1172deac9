import FlinkCluster.Proofs.TwoRuns

/-!
# The roles do not interfere

Settings whose keys start in certain ways are for one role alone (`Role.owns`). What composing a
role reads is never for the other role alone (`Role.owns_eq_false_of_mem_reads`), so that a change
for one role leaves the pods of the other as they are (`Specification.roles_separate`).
-/

set_option autoImplicit false

namespace FlinkCluster

/-! ## Settings for one role -/

namespace Role

/-- The other role. -/
def other : Role → Role
  | .jobManager => .taskManager
  | .taskManager => .jobManager

/-- What the keys of the settings for one role alone start with. -/
def leads : Role → List String
  | .jobManager =>
    ["kubernetes.jobmanager.", "jobmanager.", "containerized.master.env.",
      "kubernetes.rest-service.", "$internal.application.", "execution.savepoint."]
  | .taskManager =>
    ["kubernetes.taskmanager.", "containerized.taskmanager.env.", "taskmanager."]

/-- The keys of the settings for one role alone that start otherwise. -/
def strayKeys : Role → List String
  | .jobManager => []
  | .taskManager => ["parallelism.default"]

/-- Whether a key is that of a setting for one role alone. -/
def owns (role : Role) (key : String) : Bool :=
  role.leads.any (fun lead => lead.toList.isPrefixOf key.toList) || role.strayKeys.contains key

/-- Whether no key that a role owns starts with a text. -/
def isApartFrom (role : Role) (lead : String) : Bool :=
  role.leads.all (fun l =>
    !l.toList.isPrefixOf lead.toList && !lead.toList.isPrefixOf l.toList) &&
  role.strayKeys.all (fun k => !lead.toList.isPrefixOf k.toList)

theorem owns_eq_false_of_isApartFrom {role : Role} {lead key : String}
    (h : role.isApartFrom lead = true) (hkey : (Text.dropLeading? lead key).isSome = true) :
    role.owns key = false := by
  have hlead : lead.toList <+: key.toList := by
    obtain ⟨rest, hrest⟩ := Option.isSome_iff_exists.1 hkey
    rw [Text.dropLeading?_eq_some_iff.1 hrest, String.toList_append]
    exact List.prefix_append _ _
  simp only [isApartFrom, Bool.and_eq_true, List.all_eq_true, Bool.not_eq_true',
    Bool.eq_false_iff, ne_eq, List.isPrefixOf_iff_prefix] at h
  obtain ⟨hleads, hkeys⟩ := h
  rw [owns, Bool.or_eq_false_iff, List.any_eq_false]
  refine ⟨fun l hl hprefix => ?_, ?_⟩
  · rcases List.prefix_or_prefix_of_prefix (List.isPrefixOf_iff_prefix.1 hprefix) hlead with h | h
    · exact (hleads l hl).1 h
    · exact (hleads l hl).2 h
  · rw [Bool.eq_false_iff, Ne, List.contains_iff_mem]
    exact fun hmem => hkeys key hmem hlead

/-- **What composing a role reads is not for the other role alone.** -/
theorem owns_eq_false_of_mem_reads {role : Role} {key : String} (h : key ∈ role.reads) :
    role.other.owns key = false := by
  have hreads : role.reads.all (fun key => !role.other.owns key) = true := by
    cases role <;> decide +kernel
  simpa using List.all_eq_true.1 hreads key h

theorem isApartFrom_environment (role : Role) : role.other.isApartFrom role.environment = true := by
  cases role <;> decide +kernel

end Role

/-- Two configurations that hold the same texts but for settings for one role alone. -/
def Configuration.DifferFor (role : Role) (conf conf' : Configuration) : Prop :=
  ∀ key, role.owns key = false → conf.text? key = conf'.text? key

/-! ## Parameters -/

namespace Parameters

open Outcome

variable {conf conf' : Configuration} {role : Role}

/-- A change for one role is none to the other. -/
theorem agrees_of_differFor {p : Parameters} (h : conf.DifferFor p.role.other p.conf) :
    p.Agrees conf where
  texts key hkey := h key (Role.owns_eq_false_of_mem_reads hkey)
  environment := Configuration.under_congr fun key hkey =>
    h key (Role.owns_eq_false_of_isApartFrom p.role.isApartFrom_environment hkey)

theorem of_alike_of_differFor (h : conf.DifferFor role.other conf') :
    Alike (fun p p' => p = p'.reading conf ∧ p'.Agrees conf ∧ p'.role = role ∧ p'.conf = conf' ∧
        conf.find? Options.clusterId = .ok (some p'.clusterId))
      (Parameters.of role conf) (Parameters.of role conf') := by
  have hid : conf.find? Options.clusterId = conf'.find? Options.clusterId := by
    refine Configuration.find?_congr fun key hkey => h key ?_
    rw [List.mem_singleton.1 hkey]
    exact Role.owns_eq_false_of_mem_reads
      (List.mem_append_left _ (by simp [Role.sharedKeys]))
  refine (of_alike hid).mono ?_
  rintro p p' ⟨rfl, rfl, rfl, hname⟩
  exact ⟨rfl, agrees_of_differFor h, rfl, rfl, hname⟩

end Parameters

/-! ## Specifications -/

namespace Specification

open Kubernetes Outcome Step

/-- **A change for one role leaves the other as it is.** A change for the task managers leaves the
job manager's stateful set and all its resources as they are, but for the text of the cluster's
configuration, and a change for the job manager leaves the task managers' stateful set as it is; or
both configurations are refused in the same way. -/
theorem roles_separate (host : Host) (template : PodDraft) (claims : List (Option VolumeClaim))
    (conf conf' : Configuration) :
    (conf.DifferFor .taskManager conf' →
      Alike (fun s s' => ∃ id, conf.find? Options.clusterId = .ok (some id) ∧
          SameButConfiguration id (Rendered conf conf') s s')
        (Parameters.of .jobManager conf >>= jobManager host template claims)
        (Parameters.of .jobManager conf' >>= jobManager host template claims)) ∧
    (conf.DifferFor .jobManager conf' →
      (Parameters.of .taskManager conf >>= taskManager host template claims) =
        (Parameters.of .taskManager conf' >>= taskManager host template claims)) := by
  refine ⟨fun (h : conf.DifferFor (Role.other .jobManager) conf') => ?_,
    fun (h : conf.DifferFor (Role.other .taskManager) conf') => ?_⟩
  · refine (Parameters.of_alike_of_differFor h).bind ?_
    rintro _ p ⟨rfl, hagrees, hrole, rfl, hid⟩
    exact (jobManager_reading hagrees hrole).mono fun s s' hs => ⟨p.clusterId, hid, hs⟩
  · refine (Parameters.of_alike_of_differFor h).bind_eq ?_
    rintro _ p ⟨rfl, hagrees, hrole, rfl, -⟩
    exact taskManager_reading hagrees hrole

end Specification

/-! ## A change for each role -/

namespace Configuration

theorem differFor_setText {role : Role} (conf : Configuration) {key : String}
    (hkey : role.owns key = true) (text : String) :
    conf.DifferFor role (conf.setText key text) := by
  intro j hj
  rw [text?_setText, if_neg]
  rintro rfl
  rw [hkey] at hj
  cases hj

/-- The configuration of an application with two task managers. -/
def scaledOut : Configuration where
  table := .ofEntries [("kubernetes.cluster-id", "demo"), ("parallelism.default", "4"),
    ("taskmanager.numberOfTaskSlots", "2"), ("jobmanager.memory.process.size", "2g")]

end Configuration

/-- More parallelism leaves the job manager as it is, and more memory for the job manager leaves the
task managers as they are. -/
theorem Specification.roles_separate_scaledOut :
    (∃ s s', (Parameters.of .jobManager .scaledOut >>= jobManager .bare {} []) = .ok s ∧
      (Parameters.of .jobManager (Configuration.scaledOut.setText "parallelism.default" "8") >>=
        jobManager .bare {} []) = .ok s' ∧
      s.statefulSet = s'.statefulSet ∧ s.resources.length = s'.resources.length) ∧
    ∃ s, (Parameters.of .taskManager .scaledOut >>= taskManager .bare {} []) = .ok s ∧
      (Parameters.of .taskManager
        (Configuration.scaledOut.setText "jobmanager.memory.process.size" "4g") >>=
          taskManager .bare {} []) = .ok s := by
  constructor
  · have halike := (roles_separate .bare {} [] .scaledOut
      (Configuration.scaledOut.setText "parallelism.default" "8")).1
      (Configuration.differFor_setText _ (by decide +kernel) _)
    obtain ⟨s, hs⟩ : ∃ s, (Parameters.of .jobManager .scaledOut >>= jobManager .bare {} []) =
      .ok s := Outcome.exists_of_isOk (by decide +kernel)
    obtain ⟨s', hs'⟩ : ∃ s', (Parameters.of .jobManager
        (Configuration.scaledOut.setText "parallelism.default" "8") >>= jobManager .bare {} []) =
      .ok s' := Outcome.exists_of_isOk (by decide +kernel)
    rw [hs, hs'] at halike
    cases halike with
    | ok h =>
      obtain ⟨_, -, hsame⟩ := h
      exact ⟨s, s', hs, hs', hsame.statefulSet, hsame.resources.length_eq⟩
  · obtain ⟨s, hs⟩ : ∃ s, (Parameters.of .taskManager .scaledOut >>= taskManager .bare {} []) =
      .ok s := Outcome.exists_of_isOk (by decide +kernel)
    have hsame := (roles_separate .bare {} [] .scaledOut
      (Configuration.scaledOut.setText "jobmanager.memory.process.size" "4g")).2
      (Configuration.differFor_setText _ (by decide +kernel) _)
    exact ⟨s, hs, hsame ▸ hs⟩

end FlinkCluster
