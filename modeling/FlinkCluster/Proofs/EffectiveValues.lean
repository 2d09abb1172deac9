import FlinkCluster.Operator
import FlinkCluster.Proofs.EffectiveLayers
import FlinkCluster.Proofs.IntegerText
import FlinkCluster.Proofs.Labels
import FlinkCluster.Proofs.Pieces
import Mathlib.Algebra.Ring.Int.Defs

/-!
# What an effective configuration holds

`DeploymentSpec.Determines` lists which keys the structured fields of a deployment determine, and
the text at each. `DeploymentSpec.effective_layers` says what is at every key: the determined text;
else nothing where the main class is withheld; else the deployment's own entry; else that of the
base. Texts, flags and integers that are determined are read back as they are. There is such a
configuration unless an integer has more digits than a text may have.
-/

set_option autoImplicit false

namespace FlinkCluster

/-! ## Reading -/

/-- A setting is found with a value, and so is every preset that it is of. -/
def Configuration.Reads {k : Kind} (conf : Configuration) (s : Setting k) (v : k.Carrier) : Prop :=
  conf.find? s = .ok (some v) ∧ ∀ default, conf.get ⟨s, default⟩ = .ok v

theorem Configuration.reads_iff {k : Kind} {conf : Configuration} {s : Setting k} {v : k.Carrier}
    {text : String} (h : conf.text? s.key = some text) :
    conf.Reads s v ↔ k.read s.key text = .ok v := by
  have hfind : conf.find? s = .ok (some v) ↔ k.read s.key text = .ok v := by
    rw [find?_of_text h]
    cases k.read s.key text <;> simp [Except.map]
  refine ⟨fun hreads => hfind.1 hreads.1, fun hread => ⟨hfind.2 hread, fun default => ?_⟩⟩
  rw [get, hfind.2 hread]
  rfl

theorem Kind.read_integerText {key : String} {n : Int} :
    Kind.integer.read key (Number.integerText n) = .ok n ↔
      (Nat.toDigits 10 n.natAbs).length ≤ Number.maxDigits := by
  rw [Kind.read, Number.readInteger_integerText]
  split
  · rename_i hlong
    exact ⟨fun h => absurd h Outcome.misconfigured_ne_ok, fun hshort => absurd hshort (by omega)⟩
  · rename_i hshort
    exact ⟨fun _ => by omega, fun _ => rfl⟩

theorem Kind.read_flag (key : String) (b : Bool) :
    Kind.flag.read key (Value.flag b).stored = .ok b := by
  have hflag : readFlag? (Value.flag b).stored = some b := by
    cases b <;> decide +kernel
  rw [Kind.read, hflag]
  rfl

/-! ## Determined values -/

namespace DeploymentSpec

/-- The values that the structured fields determine, by their keys. -/
inductive Determines (ns id : String) (spec : DeploymentSpec) : String → Value → Prop where
  | clusterId : Determines ns id spec Options.clusterId.key (.text id)
  | namespaceName : Determines ns id spec Options.namespaceName.key (.text ns)
  | image {s : String} : spec.image = some s → s ≠ "" →
      Determines ns id spec Options.image.key (.text s)
  | imagePullPolicy {s : String} : spec.imagePullPolicy = some s → s ≠ "" →
      Determines ns id spec Options.imagePullPolicy.key (.text s)
  | serviceAccount {s : String} : spec.serviceAccount = some s → s ≠ "" →
      Determines ns id spec Options.serviceAccount.key (.text s)
  | jobManagerCpu {x : Number.Binary64} : spec.jobManager.resource.cpu = some x →
      Determines ns id spec Options.jobManagerCpu.key (.number x)
  | jobManagerMemory {s : String} : spec.jobManager.resource.memory = some s → s ≠ "" →
      Determines ns id spec Options.jobManagerMemory.key (.text s)
  | jobManagerReplicas :
      Determines ns id spec Options.jobManagerReplicas.key (.integer spec.jobManager.replicas)
  | taskManagerCpu {x : Number.Binary64} : spec.taskManager.resource.cpu = some x →
      Determines ns id spec Options.taskManagerCpu.key (.number x)
  | taskManagerMemory {s : String} : spec.taskManager.resource.memory = some s → s ≠ "" →
      Determines ns id spec Options.taskManagerMemory.key (.text s)
  | taskManagerReplicas {n : Int} : spec.taskManager.replicas = some n →
      Determines ns id spec Options.taskManagerReplicas.key (.integer n)
  | session : spec.job = none → Determines ns id spec Options.clusterMode.key (.text "SESSION")
  | application {job : JobSpec} : spec.job = some job →
      Determines ns id spec Options.clusterMode.key (.text "APPLICATION")
  | parallelism {job : JobSpec} : spec.job = some job →
      Determines ns id spec Options.defaultParallelism.key (.integer job.parallelism)
  | jar {job : JobSpec} {s : String} : spec.job = some job → job.jarUri = some s → s ≠ "" →
      Determines ns id spec Options.pipelineJars.key (.ofTexts [s])
  | mainClass {job : JobSpec} {s : String} : spec.job = some job → job.entryClass = some s →
      s ≠ "" → Determines ns id spec Options.mainClass.key (.text s)
  | args {job : JobSpec} : spec.job = some job →
      Determines ns id spec Options.programArgs.key (.ofTexts job.args)
  | savepoint {job : JobSpec} {s : String} : spec.job = some job →
      job.initialSavepointPath = some s → s ≠ "" →
      Determines ns id spec Options.savepointPath.key (.text s)
  | unclaimedState {job : JobSpec} {b : Bool} : spec.job = some job →
      job.allowNonRestoredState = some b →
      Determines ns id spec Options.ignoreUnclaimedState.key (.flag b)

/-- The deployment runs an application whose job has no main class. -/
def WithholdsMainClass (spec : DeploymentSpec) : Prop :=
  ∃ job, spec.job = some job ∧ (job.entryClass = none ∨ job.entryClass = some "")

variable {ns id key : String} {v : Value} {base : Configuration} {spec : DeploymentSpec}

theorem nonEmpty_eq_some_iff {x : Option String} {s : String} :
    nonEmpty x = some s ↔ x = some s ∧ s ≠ "" := by
  rw [nonEmpty, Option.filter_eq_some_iff]
  simp

theorem nonEmpty_eq_none_iff {x : Option String} :
    nonEmpty x = none ↔ x = none ∨ x = some "" := by
  cases x <;> simp [nonEmpty, Option.filter]

theorem mem_entry?_iff {k : Kind} {s : Setting k} {x : Option k.Carrier} :
    (key, v) ∈ entry? s x ↔ ∃ a, x = some a ∧ key = s.key ∧ v = k.toValue a := by
  cases x <;> simp [entry, entry?]

theorem determines_of_mem_jobEntries (h : (key, v) ∈ spec.jobEntries) :
    Determines ns id spec key v := by
  unfold jobEntries at h
  split at h
  · rename_i hjob
    obtain ⟨rfl, rfl⟩ := Prod.mk.inj (List.mem_singleton.1 h)
    exact .session hjob
  · rename_i job hjob
    simp only [List.append_assoc, List.mem_append, List.mem_cons, List.not_mem_nil, or_false,
      entry, Prod.mk.injEq, mem_entry?_iff, nonEmpty_eq_some_iff, Option.map_eq_some_iff,
      or_assoc] at h
    obtain ⟨rfl, rfl⟩ | ⟨rfl, rfl⟩ | ⟨_, ⟨s, ⟨hs, hne⟩, rfl⟩, rfl, rfl⟩ |
      ⟨s, ⟨hs, hne⟩, rfl, rfl⟩ | ⟨rfl, rfl⟩ | ⟨s, ⟨hs, hne⟩, rfl, rfl⟩ | ⟨b, hb, rfl, rfl⟩ := h
    · exact .application hjob
    · exact .parallelism hjob
    · exact .jar hjob hs hne
    · exact .mainClass hjob hs hne
    · exact .args hjob
    · exact .savepoint hjob hs hne
    · exact .unclaimedState hjob hb

theorem determines_of_mem (h : (key, v) ∈ spec.determined ns id) :
    Determines ns id spec key v := by
  simp only [determined, List.append_assoc, List.mem_append, List.mem_cons, List.not_mem_nil,
    or_false, entry, Prod.mk.injEq, mem_entry?_iff, nonEmpty_eq_some_iff, or_assoc] at h
  obtain ⟨rfl, rfl⟩ | ⟨rfl, rfl⟩ | ⟨s, ⟨hs, hne⟩, rfl, rfl⟩ | ⟨s, ⟨hs, hne⟩, rfl, rfl⟩ |
    ⟨s, ⟨hs, hne⟩, rfl, rfl⟩ | ⟨x, hx, rfl, rfl⟩ | ⟨s, ⟨hs, hne⟩, rfl, rfl⟩ | ⟨rfl, rfl⟩ |
    ⟨x, hx, rfl, rfl⟩ | ⟨s, ⟨hs, hne⟩, rfl, rfl⟩ | ⟨n, hn, rfl, rfl⟩ | hjob := h
  · exact .clusterId
  · exact .namespaceName
  · exact .image hs hne
  · exact .imagePullPolicy hs hne
  · exact .serviceAccount hs hne
  · exact .jobManagerCpu hx
  · exact .jobManagerMemory hs hne
  · exact .jobManagerReplicas
  · exact .taskManagerCpu hx
  · exact .taskManagerMemory hs hne
  · exact .taskManagerReplicas hn
  · exact determines_of_mem_jobEntries hjob

theorem mem_of_determines (h : Determines ns id spec key v) :
    (key, v) ∈ spec.determined ns id := by
  cases h <;>
    simp [determined, jobEntries, entry, mem_entry?_iff, nonEmpty_eq_some_iff, Kind.toValue,
      Choice.word, *]

/-! ## Layers -/

theorem withholdsMainClass_iff : spec.WithholdsMainClass ↔ spec.lacksMainClass = true := by
  unfold WithholdsMainClass lacksMainClass
  cases spec.job with
  | none => simp
  | some job => simp [nonEmpty_eq_none_iff]

/-- Above the base are the deployment's own entries. -/
theorem text?_setAll_ownEntries :
    (base.setAll spec.ownEntries).text? key =
      (spec.flinkConfiguration.get? key).or (base.text? key) := by
  have hmem {v : Value} : (key, v) ∈ spec.ownEntries ↔
      (spec.flinkConfiguration.get? key).map Value.text = some v := by
    rw [ownEntries, Table.mem_entries_iff, Table.get?_map]
  cases hown : spec.flinkConfiguration.get? key with
  | some text =>
    have hnodup : (spec.ownEntries.map Prod.fst).Nodup :=
      (spec.flinkConfiguration.map Value.text).nodup
    exact Configuration.text?_setAll_of_mem hnodup (hmem.2 (congrArg (Option.map Value.text) hown))
  | none =>
    refine Configuration.text?_setAll_of_not_mem fun hkey => ?_
    obtain ⟨⟨_, v⟩, hv, rfl⟩ := List.mem_map.1 hkey
    have hsome := hmem.1 hv
    rw [hown] at hsome
    cases hsome

/-- The text below a deployment: that of the given base, or of the operator's configuration with its
image. -/
def baseText (env : Table String) (given : Option Configuration) (key : String) : Option String :=
  match given with
  | some conf => conf.text? key
  | none =>
    if key = Options.image.key then some (OperatorSettings.imageOf env)
    else (OperatorSettings.configurationOf env).text? key

theorem text?_base (env : Table String) (given : Option Configuration) (key : String) :
    (given.getD (OperatorSettings.base env)).text? key = baseText env given key := by
  cases given with
  | some conf => rfl
  | none => exact Configuration.text?_setText ..

/-! ## Integers that can be written -/

/-- No determined integer has more digits than a text may have. -/
def HasWritableIntegers (ns id : String) (spec : DeploymentSpec) : Prop :=
  ∀ key n, Determines ns id spec key (.integer n) →
    (Nat.toDigits 10 n.natAbs).length ≤ Number.maxDigits

theorem isWritable_ofTexts (texts : List String) : (Value.ofTexts texts).isWritable = true := by
  rw [Value.ofTexts, Value.isWritable]
  induction texts with
  | nil => rw [List.map_nil, Value.areWritable]
  | cons t texts ih => rw [List.map_cons, Value.areWritable, ih]; rfl

/-- A determined value can be written unless it is an integer of too many digits. -/
theorem Determines.isWritable (h : Determines ns id spec key v)
    (hintegers : HasWritableIntegers ns id spec) : v.isWritable = true := by
  cases v with
  | integer n =>
    rw [Value.isWritable]
    exact Number.isWritable_iff.2 (hintegers key n h)
  | null | flag b | number x | text s => rfl
  | list items =>
    cases h with
    | jar => exact isWritable_ofTexts _
    | args => exact isWritable_ofTexts _
  | map entries => cases h

theorem all_isWritable_iff :
    (spec.determined ns id).all (·.2.isWritable) = true ↔ HasWritableIntegers ns id spec := by
  rw [List.all_eq_true]
  constructor
  · intro hall key n hn
    have hwritable := hall _ (mem_of_determines hn)
    rw [Value.isWritable] at hwritable
    exact Number.isWritable_iff.1 hwritable
  · rintro hintegers ⟨key, v⟩ hv
    exact (determines_of_mem hv).isWritable hintegers

/-! ## What is at every key -/

/-- The determined texts, flags and integers are read back from a configuration. -/
structure ReadsBack (ns id : String) (spec : DeploymentSpec) (conf : Configuration) : Prop where
  text : ∀ (s : Setting .text) t, Determines ns id spec s.key (.text t) → conf.Reads s t
  flag : ∀ (s : Setting .flag) b, Determines ns id spec s.key (.flag b) → conf.Reads s b
  integer : ∀ (s : Setting .integer) n, Determines ns id spec s.key (.integer n) → conf.Reads s n

/-- A configuration has what a deployment determines, over its own entries, over the base. -/
structure Layered (env : Table String) (given : Option Configuration) (ns id : String)
    (spec : DeploymentSpec) (conf : Configuration) : Prop where
  determined : ∀ key v, Determines ns id spec key v → conf.text? key = some v.stored
  withheld : spec.WithholdsMainClass → conf.text? Options.mainClass.key = none
  below : ∀ key, (∀ v, ¬ Determines ns id spec key v) →
    ¬ (spec.WithholdsMainClass ∧ key = Options.mainClass.key) →
    conf.text? key = (spec.flinkConfiguration.get? key).or (baseText env given key)
  readsBack : ReadsBack ns id spec conf

theorem layered_effective (env : Table String) (given : Option Configuration)
    (hintegers : HasWritableIntegers ns id spec) :
    Layered env given ns id spec
      (spec.effective ns id (given.getD (OperatorSettings.base env))) := by
  have htext {key : String} {v : Value} (h : Determines ns id spec key v) :
      (spec.effective ns id (given.getD (OperatorSettings.base env))).text? key = some v.stored :=
    text?_effective_of_mem (mem_of_determines h)
  have hkeys {key : String} (h : ∀ v, ¬ Determines ns id spec key v) :
      key ∉ (spec.determined ns id).map Prod.fst := by
    intro hkey
    obtain ⟨⟨_, v⟩, hv, rfl⟩ := List.mem_map.1 hkey
    exact h v (determines_of_mem hv)
  refine ⟨fun key v => htext, fun hwithheld => ?_, fun key hnone hkept => ?_,
    fun s t h => ?_, fun s b h => ?_, fun s n h => ?_⟩
  · obtain ⟨job, hjob, hclass⟩ := hwithheld
    exact (text?_mainClass hjob).trans (nonEmpty_eq_none_iff.2 hclass)
  · rw [text?_effective_of_not_mem (hkeys hnone), if_neg, text?_setAll_ownEntries, text?_base]
    rwa [← withholdsMainClass_iff]
  · exact (Configuration.reads_iff (htext h)).2 rfl
  · exact (Configuration.reads_iff (htext h)).2 (Kind.read_flag s.key b)
  · exact (Configuration.reads_iff (htext h)).2 (Kind.read_integerText.2 (hintegers s.key n h))

/-- **What is at every key.** Over the base that is given, or that of the operator: what the fields
determine; else nothing if it is the main class and withheld; else the deployment's own entry; else
that of the base. What is determined is read back. An integer of more than 4300 digits cannot be
written, and there is no configuration then. -/
theorem effective_layers (env : Table String) (given : Option Configuration) (ns id : String)
    (spec : DeploymentSpec) :
    (HasWritableIntegers ns id spec →
      ∃ conf, spec.configured ns id (given.getD (OperatorSettings.base env)) = .ok conf ∧
        Layered env given ns id spec conf) ∧
    (¬ HasWritableIntegers ns id spec →
      spec.configured ns id (given.getD (OperatorSettings.base env)) =
        .error .unwritableInteger) :=
  ⟨fun hintegers => ⟨_, if_pos (all_isWritable_iff.2 hintegers), layered_effective env given hintegers⟩,
    fun hintegers => if_neg (mt all_isWritable_iff.1 hintegers)⟩

/-- The document of a session with a number of job managers. -/
def replicated (n : Int) : Value := .map [("jobManager", .map [("replicas", .integer n)])]

theorem check_replicated {n : Int} (h : 1 ≤ n) :
    DeploymentSpec.rule.check (replicated n) = .valid { jobManager := { replicas := n } } := by
  have hpositive : Document.positiveInteger.check (.integer n) = .valid n :=
    if_pos (decide_eq_true h)
  have hmanager : JobManagerSpec.rule.check (.map [("replicas", .integer n)]) =
      .valid { replicas := n } := by
    change JobManagerSpec.mk <$> Checked.valid {} <*>
      (Document.positiveInteger.check (.integer n)).inside "replicas" <*> Checked.valid none = _
    rw [hpositive]
    rfl
  change DeploymentSpec.mk <$> Checked.valid none <*> Checked.valid none <*> Checked.valid none <*>
    Checked.valid .empty <*> Checked.valid none <*> Checked.valid .standalone <*>
    (JobManagerSpec.rule.check (.map [("replicas", .integer n)])).inside "jobManager" <*>
    Checked.valid {} <*> Checked.valid none <*> Checked.valid none = _
  rw [hmanager]
  rfl

/-- A valid document with a number of job managers that has 4301 digits has no configuration. -/
theorem effective_layers_unwritable :
    DeploymentSpec.rule.check (replicated (10 ^ 4300)) =
      .valid { jobManager := { replicas := 10 ^ 4300 } } ∧
    ¬ ∃ conf, configured "default" "demo" .empty { jobManager := { replicas := 10 ^ 4300 } } =
      .ok conf := by
  have hpos : (0 : Int) < 10 ^ 4300 := Int.pow_pos (by decide)
  have hdigits : ¬ (Nat.toDigits 10 (10 ^ 4300 : Int).natAbs).length ≤ Number.maxDigits := by
    have hten : (10 : Int).natAbs = 10 := rfl
    rw [Int.natAbs_pow, hten, Nat.length_toDigits_le_iff (by decide) (by decide),
      Number.maxDigits]
    exact Nat.lt_irrefl _
  generalize (10 : Int) ^ 4300 = n at hpos hdigits ⊢
  refine ⟨check_replicated hpos, ?_⟩
  rintro ⟨conf, hconf⟩
  have hintegers : ¬ HasWritableIntegers "default" "demo" { jobManager := { replicas := n } } :=
    fun h => hdigits (h _ n .jobManagerReplicas)
  have hnone : configured "default" "demo" .empty { jobManager := { replicas := n } } =
      .error .unwritableInteger := if_neg (mt all_isWritable_iff.1 hintegers)
  cases hconf.symm.trans hnone

end DeploymentSpec

end FlinkCluster
