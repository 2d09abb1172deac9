import FlinkCluster.Proofs.EffectiveValues

/-!
# Fields that a document leaves out

A deployment can choose some options in two ways: by a field of its own, or by an entry of its
`flinkConfiguration`. `OptionField` lists these fields. Which of them determine their option depends
on the record that was read, where a field that is left out looks like one that holds its default.

* `Rule.Without` says what records hold whose documents leave a field out. It passes from the rule
  of a record to that of the record around it (`Rule.Without.withDefault`,
  `Rule.Without.optional`).
* `OptionField.value?_of_omits`: fields without a default determine nothing then. Two have one, the
  number of job managers and the parallelism of a job, and determine it.
* `OptionField.own_entry_iff`: so an entry of the deployment's own stands, unless it is for one of
  these two.
-/

set_option autoImplicit false

namespace FlinkCluster

variable {α β ρ : Type}

/-! ## Valid checks -/

namespace Checked

variable {a : α} {b : β} {x : Checked α}

theorem map_valid {f : α → β} (h : f <$> x = .valid b) : ∃ a, x = .valid a ∧ f a = b := by
  cases x with
  | valid a => exact ⟨a, rfl, valid.inj h⟩
  | faulty errors => cases h

theorem seq_valid {f : Checked (α → β)} (h : f <*> x = .valid b) :
    ∃ g a, f = .valid g ∧ x = .valid a ∧ g a = b := by
  cases f with
  | valid g =>
    cases x with
    | valid a => exact ⟨g, a, rfl, rfl, valid.inj h⟩
    | faulty errors => cases h
  | faulty errors => cases x <;> cases h

theorem inside_valid {place : String} (h : x.inside place = .valid a) : x = .valid a := by
  cases x with
  | valid b => exact h
  | faulty errors => cases h

/-- Where every check gives back what it was made from, the list is the one given back. -/
theorem all_map_valid {f : β → Checked α} {g : α → β} {items : List β} {values : List α}
    (hf : ∀ b a, f b = .valid a → b = g a) (h : all (items.map f) = .valid values) :
    items = values.map g := by
  induction items generalizing values with
  | nil => rw [← valid.inj h, List.map_nil]
  | cons b items ih =>
    obtain ⟨_, rest, hb, hrest, rfl⟩ := seq_valid h
    obtain ⟨a, ha, rfl⟩ := map_valid hb
    rw [List.map_cons, ← hf b a ha, ← ih hrest]

end Checked

theorem Members.rule_valid {m : Members α α} {v : Value} {a : α} (h : m.rule.check v = .valid a) :
    ∃ entries, v = .map entries ∧ m.check entries = .valid a := by
  cases v with
  | map entries => exact ⟨entries, rfl, h⟩
  | _ => cases h

/-! ## Fields of documents -/

namespace Value

/-- The datum at a field of a field, and so on. -/
def field? : List FieldName → Value → Option Value
  | [], v => some v
  | n :: path, .map entries => (n.given? entries).bind fun given => field? path given.2
  | _ :: _, _ => none

/-- A document leaves a field out: it is absent or null, or stands in one that is. -/
def Omits (path : List FieldName) (v : Value) : Prop :=
  v.field? path = none ∨ v.field? path = some .null

instance (path : List FieldName) (v : Value) : Decidable (v.Omits path) :=
  inferInstanceAs (Decidable (_ ∨ _))

variable {path : List FieldName} {n : FieldName} {entries : Entries}

theorem field?_single : (map entries).field? [n] = (n.given? entries).map Prod.snd := by
  rw [field?, Option.map_eq_bind]
  rfl

theorem omits_nil_iff {v : Value} : v.Omits [] ↔ v = .null := by
  simp [Omits, field?]

theorem Omits.of_given {name : String} {v : Value} (h : (Value.map entries).Omits (n :: path))
    (hgiven : n.given? entries = some (name, v)) : v.Omits path := by
  rwa [Omits, field?, hgiven, Option.bind_some] at h

end Value

/-- Records have a property if their documents leave a field out. -/
def Rule.Without (r : Rule α) (path : List FieldName) (P : α → Prop) : Prop :=
  ∀ v a, r.check v = .valid a → v.Omits path → P a

namespace Members

theorem field_valid {n : FieldName} {r : Rule α} {entries : Entries} {get : ρ → α}
    {absent : Checked α} {a : α} (h : (field n r get absent).check entries = .valid a) :
    (∃ name v, n.given? entries = some (name, v) ∧ r.check v = .valid a) ∨
      (n.given? entries = none ∧ absent = .valid a) := by
  unfold field at h
  dsimp only at h
  split at h
  · rename_i name v hgiven
    exact .inl ⟨name, v, hgiven, Checked.inside_valid h⟩
  · rename_i hnone
    exact .inr ⟨hnone, Checked.inside_valid h⟩

end Members

namespace Rule.Without

variable {n : FieldName} {r : Rule α} {entries : Entries} {path : List FieldName} {P : α → Prop}

/-- No document of a rule that refuses null is null. -/
theorem null (h : ∀ a, r.check .null ≠ .valid a) : r.Without [] P := by
  intro v a hvalid homits
  rw [Value.omits_nil_iff.1 homits] at hvalid
  exact absurd hvalid (h a)

/-- A property passes to a field with a default that has it. -/
theorem withDefault {get : ρ → α} {default a : α} (hr : r.Without path P) (hdefault : P default)
    (h : (Members.withDefault n r get default).check entries = .valid a)
    (homits : (Value.map entries).Omits (n :: path)) : P a := by
  obtain ⟨name, v, hgiven, hv⟩ | ⟨-, habsent⟩ := Members.field_valid h
  · exact hr v a hv (homits.of_given hgiven)
  · exact Checked.valid.inj habsent ▸ hdefault

/-- A property passes to what an optional field holds, if it holds something. -/
theorem optional {get : ρ → Option α} {x : Option α} (hr : r.Without path P)
    (h : (Members.optional n r get).check entries = .valid x)
    (homits : (Value.map entries).Omits (n :: path)) : ∀ a, x = some a → P a := by
  rintro a rfl
  obtain ⟨name, v, hgiven, hv⟩ | ⟨-, habsent⟩ := Members.field_valid h
  · have hcheck : r.check v = .valid a := by
      cases v with
      | null => cases Checked.valid.inj hv
      | _ =>
        obtain ⟨b, hb, hsome⟩ := Checked.map_valid hv
        rw [hb, Option.some.inj hsome]
    exact hr v a hcheck (homits.of_given hgiven)
  · cases Checked.valid.inj habsent

end Rule.Without

/-- An optional field holds nothing exactly if it is left out. -/
theorem Members.optional_eq_none_iff {n : FieldName} {r : Rule α} {entries : Entries}
    {get : ρ → Option α} {x : Option α}
    (h : (Members.optional n r get).check entries = .valid x) :
    x = none ↔ (Value.map entries).Omits [n] := by
  rw [Value.Omits, Value.field?_single]
  obtain ⟨name, v, hgiven, hv⟩ | ⟨hnone, habsent⟩ := Members.field_valid h
  · rw [hgiven]
    cases v with
    | null => exact ⟨fun _ => .inr rfl, fun _ => (Checked.valid.inj hv).symm⟩
    | _ =>
      obtain ⟨a, -, rfl⟩ := Checked.map_valid hv
      simp
  · rw [hnone]
    exact ⟨fun _ => .inl rfl, fun _ => (Checked.valid.inj habsent).symm⟩

/-! ## Records -/

theorem ProcessSize.check_valid {v : Value} {size : ProcessSize}
    (h : ProcessSize.rule.check v = .valid size) : ∃ entries, v = .map entries ∧
      (Members.optional (.plain "cpu") Document.positiveNumber ProcessSize.cpu).check entries =
        .valid size.cpu ∧
      (Members.optional (.plain "memory") Document.text ProcessSize.memory).check entries =
        .valid size.memory := by
  obtain ⟨entries, rfl, h0⟩ := Members.rule_valid h
  obtain ⟨_, memory, h1, hmemory, rfl⟩ := Checked.seq_valid h0
  obtain ⟨cpu, hcpu, rfl⟩ := Checked.map_valid h1
  exact ⟨entries, rfl, hcpu, hmemory⟩

theorem JobManagerSpec.check_valid {v : Value} {spec : JobManagerSpec}
    (h : JobManagerSpec.rule.check v = .valid spec) : ∃ entries, v = .map entries ∧
      (Members.withDefault (.plain "resource") ProcessSize.rule JobManagerSpec.resource {}).check
        entries = .valid spec.resource ∧
      (Members.withDefault (.plain "replicas") Document.positiveInteger JobManagerSpec.replicas
        1).check entries = .valid spec.replicas := by
  obtain ⟨entries, rfl, h0⟩ := Members.rule_valid h
  obtain ⟨_, template, h1, -, rfl⟩ := Checked.seq_valid h0
  obtain ⟨_, replicas, h2, hreplicas, rfl⟩ := Checked.seq_valid h1
  obtain ⟨resource, hresource, rfl⟩ := Checked.map_valid h2
  exact ⟨entries, rfl, hresource, hreplicas⟩

theorem TaskManagerSpec.check_valid {v : Value} {spec : TaskManagerSpec}
    (h : TaskManagerSpec.rule.check v = .valid spec) : ∃ entries, v = .map entries ∧
      (Members.withDefault (.plain "resource") ProcessSize.rule TaskManagerSpec.resource {}).check
        entries = .valid spec.resource ∧
      (Members.optional (.plain "replicas") Document.positiveInteger TaskManagerSpec.replicas).check
        entries = .valid spec.replicas := by
  obtain ⟨entries, rfl, h0⟩ := Members.rule_valid h
  obtain ⟨_, template, h1, -, rfl⟩ := Checked.seq_valid h0
  obtain ⟨_, replicas, h2, hreplicas, rfl⟩ := Checked.seq_valid h1
  obtain ⟨resource, hresource, rfl⟩ := Checked.map_valid h2
  exact ⟨entries, rfl, hresource, hreplicas⟩

/-- The fields of jobs by which options can be chosen. -/
theorem JobSpec.check_valid {v : Value} {job : JobSpec} (h : JobSpec.rule.check v = .valid job) :
    ∃ entries, v = .map entries ∧
      (Members.withDefault (.plain "parallelism") Document.positiveInteger JobSpec.parallelism
        1).check entries = .valid job.parallelism ∧
      (Members.optional ⟨"allowNonRestoredState", "allow_non_restored_state"⟩ Document.flag
        JobSpec.allowNonRestoredState).check entries = .valid job.allowNonRestoredState ∧
      (Members.optional ⟨"initialSavepointPath", "initial_savepoint_path"⟩ Document.text
        JobSpec.initialSavepointPath).check entries = .valid job.initialSavepointPath := by
  obtain ⟨entries, rfl, h0⟩ := Members.rule_valid h
  obtain ⟨_, savepoint, h1, hsavepoint, rfl⟩ := Checked.seq_valid h0
  obtain ⟨_, allowed, h2, hallowed, rfl⟩ := Checked.seq_valid h1
  obtain ⟨_, mode, h3, -, rfl⟩ := Checked.seq_valid h2
  obtain ⟨_, state, h4, -, rfl⟩ := Checked.seq_valid h3
  obtain ⟨_, args, h5, -, rfl⟩ := Checked.seq_valid h4
  obtain ⟨_, entryClass, h6, -, rfl⟩ := Checked.seq_valid h5
  obtain ⟨_, parallelism, h7, hparallelism, rfl⟩ := Checked.seq_valid h6
  obtain ⟨jar, -, rfl⟩ := Checked.map_valid h7
  exact ⟨entries, rfl, hparallelism, hallowed, hsavepoint⟩

/-- How the fields of a deployment that choose options are read. -/
structure DeploymentSpec.Fields (entries : Entries) (spec : DeploymentSpec) : Prop where
  image : (Members.optional (.plain "image") Document.text DeploymentSpec.image).check entries =
    .valid spec.image
  imagePullPolicy : (Members.optional ⟨"imagePullPolicy", "image_pull_policy"⟩ Document.text
    DeploymentSpec.imagePullPolicy).check entries = .valid spec.imagePullPolicy
  flinkConfiguration : (Members.withDefault ⟨"flinkConfiguration", "flink_configuration"⟩
    Document.text.table DeploymentSpec.flinkConfiguration .empty).check entries =
      .valid spec.flinkConfiguration
  serviceAccount : (Members.optional ⟨"serviceAccount", "service_account"⟩ Document.text
    DeploymentSpec.serviceAccount).check entries = .valid spec.serviceAccount
  jobManager : (Members.withDefault ⟨"jobManager", "job_manager"⟩ JobManagerSpec.rule
    DeploymentSpec.jobManager {}).check entries = .valid spec.jobManager
  taskManager : (Members.withDefault ⟨"taskManager", "task_manager"⟩ TaskManagerSpec.rule
    DeploymentSpec.taskManager {}).check entries = .valid spec.taskManager
  job : (Members.optional (.plain "job") JobSpec.rule DeploymentSpec.job).check entries =
    .valid spec.job

theorem DeploymentSpec.check_valid {v : Value} {spec : DeploymentSpec}
    (h : DeploymentSpec.rule.check v = .valid spec) :
    ∃ entries, v = .map entries ∧ Fields entries spec := by
  obtain ⟨entries, rfl, h0⟩ := Members.rule_valid h
  obtain ⟨_, template, h1, -, rfl⟩ := Checked.seq_valid h0
  obtain ⟨_, job, h2, hjob, rfl⟩ := Checked.seq_valid h1
  obtain ⟨_, taskManager, h3, htaskManager, rfl⟩ := Checked.seq_valid h2
  obtain ⟨_, jobManager, h4, hjobManager, rfl⟩ := Checked.seq_valid h3
  obtain ⟨_, mode, h5, -, rfl⟩ := Checked.seq_valid h4
  obtain ⟨_, account, h6, haccount, rfl⟩ := Checked.seq_valid h5
  obtain ⟨_, own, h7, hown, rfl⟩ := Checked.seq_valid h6
  obtain ⟨_, version, h8, -, rfl⟩ := Checked.seq_valid h7
  obtain ⟨_, policy, h9, hpolicy, rfl⟩ := Checked.seq_valid h8
  obtain ⟨image, himage, rfl⟩ := Checked.map_valid h9
  exact ⟨entries, rfl, himage, hpolicy, hown, haccount, hjobManager, htaskManager, hjob⟩

/-! ## What records hold without a field -/

section
variable {path : List FieldName}

theorem ProcessSize.cpu_without :
    ProcessSize.rule.Without [.plain "cpu"] fun size => size.cpu = none := by
  intro v size h homits
  obtain ⟨entries, rfl, hcpu, -⟩ := ProcessSize.check_valid h
  exact (Members.optional_eq_none_iff hcpu).2 homits

theorem ProcessSize.memory_without :
    ProcessSize.rule.Without [.plain "memory"] fun size => size.memory = none := by
  intro v size h homits
  obtain ⟨entries, rfl, -, hmemory⟩ := ProcessSize.check_valid h
  exact (Members.optional_eq_none_iff hmemory).2 homits

theorem JobManagerSpec.resource_without {P : ProcessSize → Prop}
    (hsize : ProcessSize.rule.Without path P) (hdefault : P {}) :
    JobManagerSpec.rule.Without (.plain "resource" :: path) fun spec => P spec.resource := by
  intro v spec h homits
  obtain ⟨entries, rfl, hresource, -⟩ := JobManagerSpec.check_valid h
  exact hsize.withDefault hdefault hresource homits

theorem JobManagerSpec.replicas_without :
    JobManagerSpec.rule.Without [.plain "replicas"] fun spec => spec.replicas = 1 := by
  intro v spec h homits
  obtain ⟨entries, rfl, -, hreplicas⟩ := JobManagerSpec.check_valid h
  exact (Rule.Without.null nofun).withDefault (P := (· = 1)) rfl hreplicas homits

theorem TaskManagerSpec.resource_without {P : ProcessSize → Prop}
    (hsize : ProcessSize.rule.Without path P) (hdefault : P {}) :
    TaskManagerSpec.rule.Without (.plain "resource" :: path) fun spec => P spec.resource := by
  intro v spec h homits
  obtain ⟨entries, rfl, hresource, -⟩ := TaskManagerSpec.check_valid h
  exact hsize.withDefault hdefault hresource homits

theorem TaskManagerSpec.replicas_without :
    TaskManagerSpec.rule.Without [.plain "replicas"] fun spec => spec.replicas = none := by
  intro v spec h homits
  obtain ⟨entries, rfl, -, hreplicas⟩ := TaskManagerSpec.check_valid h
  exact (Members.optional_eq_none_iff hreplicas).2 homits

theorem JobSpec.parallelism_without :
    JobSpec.rule.Without [.plain "parallelism"] fun job => job.parallelism = 1 := by
  intro v job h homits
  obtain ⟨entries, rfl, hparallelism, -, -⟩ := JobSpec.check_valid h
  exact (Rule.Without.null nofun).withDefault (P := (· = 1)) rfl hparallelism homits

theorem JobSpec.unclaimedState_without :
    JobSpec.rule.Without [⟨"allowNonRestoredState", "allow_non_restored_state"⟩]
      fun job => job.allowNonRestoredState = none := by
  intro v job h homits
  obtain ⟨entries, rfl, -, hallowed, -⟩ := JobSpec.check_valid h
  exact (Members.optional_eq_none_iff hallowed).2 homits

theorem JobSpec.savepoint_without :
    JobSpec.rule.Without [⟨"initialSavepointPath", "initial_savepoint_path"⟩]
      fun job => job.initialSavepointPath = none := by
  intro v job h homits
  obtain ⟨entries, rfl, -, -, hsavepoint⟩ := JobSpec.check_valid h
  exact (Members.optional_eq_none_iff hsavepoint).2 homits

end

/-! ## Entries of the deployment's own -/

theorem Table.get?_ofEntries_map {f : α → β} {entries : List (String × α)} {key : String} :
    (Table.ofEntries (entries.map fun e => (e.1, f e.2))).get? key =
      ((Table.ofEntries entries).get? key).map f := by
  induction entries using List.reverseRecOn with
  | nil => rfl
  | append_singleton entries e ih =>
    rw [List.map_append, List.map_singleton, get?_ofEntries_append, ih, get?_ofEntries_append]
    split <;> rfl

theorem Document.text_valid {v : Value} {s : String} (h : Document.text.check v = .valid s) :
    v = .text s := by
  cases v with
  | text t => exact congrArg Value.text (Checked.valid.inj h)
  | _ => cases h

/-- A table of texts holds what its document does. -/
theorem Document.table_text_valid {v : Value} {t : Table String}
    (h : Document.text.table.check v = .valid t) :
    ∃ entries, v = .map entries ∧
      ∀ key, (Table.ofEntries entries).get? key = (t.get? key).map Value.text := by
  cases v with
  | map entries =>
    obtain ⟨pairs, hpairs, rfl⟩ := Checked.map_valid h
    refine ⟨entries, rfl, fun key => ?_⟩
    have hentries : entries = pairs.map fun e => (e.1, .text e.2) := by
      refine Checked.all_map_valid (fun e pair he => ?_) hpairs
      obtain ⟨s, hs, rfl⟩ := Checked.map_valid he
      exact congrArg (Prod.mk e.1) (Document.text_valid (Checked.inside_valid hs))
    rw [hentries, Table.get?_ofEntries_map]
  | _ => cases h

/-- The datum that a deployment's own configuration has at a key. -/
def DeploymentSpec.ownDatum? (key : String) (v : Value) : Option Value :=
  match v.field? [⟨"flinkConfiguration", "flink_configuration"⟩] with
  | some (.map entries) => (Table.ofEntries entries).get? key
  | _ => none

namespace DeploymentSpec

variable {v : Value} {spec : DeploymentSpec} {key s : String}

/-- The own entries are those of the document. -/
theorem flinkConfiguration_of_check (h : rule.check v = .valid spec)
    (hown : ownDatum? key v = some (.text s)) : spec.flinkConfiguration.get? key = some s := by
  obtain ⟨entries, rfl, hfields⟩ := check_valid h
  rw [ownDatum?, Value.field?_single] at hown
  obtain ⟨name, w, hgiven, hw⟩ | ⟨hnone, -⟩ := Members.field_valid hfields.flinkConfiguration
  · obtain ⟨own, rfl, hget⟩ := Document.table_text_valid hw
    rw [hgiven] at hown
    obtain ⟨t, ht, hs⟩ := Option.map_eq_some_iff.1 ((hget key).symm.trans hown)
    rw [ht, Value.text.inj hs]
  · rw [hnone] at hown
    cases hown

end DeploymentSpec

/-! ## Options with a field -/

/-- The options that a deployment can choose by a field and by its own configuration. -/
inductive OptionField where
  | image
  | imagePullPolicy
  | serviceAccount
  | jobManagerCpu
  | jobManagerMemory
  | jobManagerReplicas
  | taskManagerCpu
  | taskManagerMemory
  | taskManagerReplicas
  | parallelism
  | savepoint
  | unclaimedState
  deriving DecidableEq, Repr

namespace OptionField

/-- The key of the option. -/
def key : OptionField → String
  | image => Options.image.key
  | imagePullPolicy => Options.imagePullPolicy.key
  | serviceAccount => Options.serviceAccount.key
  | jobManagerCpu => Options.jobManagerCpu.key
  | jobManagerMemory => Options.jobManagerMemory.key
  | jobManagerReplicas => Options.jobManagerReplicas.key
  | taskManagerCpu => Options.taskManagerCpu.key
  | taskManagerMemory => Options.taskManagerMemory.key
  | taskManagerReplicas => Options.taskManagerReplicas.key
  | parallelism => Options.defaultParallelism.key
  | savepoint => Options.savepointPath.key
  | unclaimedState => Options.ignoreUnclaimedState.key

/-- The place of the field in a document. -/
def place : OptionField → List FieldName
  | image => [.plain "image"]
  | imagePullPolicy => [⟨"imagePullPolicy", "image_pull_policy"⟩]
  | serviceAccount => [⟨"serviceAccount", "service_account"⟩]
  | jobManagerCpu => [⟨"jobManager", "job_manager"⟩, .plain "resource", .plain "cpu"]
  | jobManagerMemory => [⟨"jobManager", "job_manager"⟩, .plain "resource", .plain "memory"]
  | jobManagerReplicas => [⟨"jobManager", "job_manager"⟩, .plain "replicas"]
  | taskManagerCpu => [⟨"taskManager", "task_manager"⟩, .plain "resource", .plain "cpu"]
  | taskManagerMemory => [⟨"taskManager", "task_manager"⟩, .plain "resource", .plain "memory"]
  | taskManagerReplicas => [⟨"taskManager", "task_manager"⟩, .plain "replicas"]
  | parallelism => [.plain "job", .plain "parallelism"]
  | savepoint => [.plain "job", ⟨"initialSavepointPath", "initial_savepoint_path"⟩]
  | unclaimedState => [.plain "job", ⟨"allowNonRestoredState", "allow_non_restored_state"⟩]

/-- What the field of a deployment determines. -/
def value? (spec : DeploymentSpec) : OptionField → Option Value
  | image => (DeploymentSpec.nonEmpty spec.image).map .text
  | imagePullPolicy => (DeploymentSpec.nonEmpty spec.imagePullPolicy).map .text
  | serviceAccount => (DeploymentSpec.nonEmpty spec.serviceAccount).map .text
  | jobManagerCpu => spec.jobManager.resource.cpu.map .number
  | jobManagerMemory => (DeploymentSpec.nonEmpty spec.jobManager.resource.memory).map .text
  | jobManagerReplicas => some (.integer spec.jobManager.replicas)
  | taskManagerCpu => spec.taskManager.resource.cpu.map .number
  | taskManagerMemory => (DeploymentSpec.nonEmpty spec.taskManager.resource.memory).map .text
  | taskManagerReplicas => spec.taskManager.replicas.map .integer
  | parallelism => spec.job.map fun job => .integer job.parallelism
  | savepoint => spec.job.bind fun job =>
      (DeploymentSpec.nonEmpty job.initialSavepointPath).map .text
  | unclaimedState => spec.job.bind fun job => job.allowNonRestoredState.map .flag

/-- Whether a document that leaves the field out presets it: the field has a default, and stands in
a part that the document has. -/
def isPreset (v : Value) : OptionField → Bool
  | jobManagerReplicas => true
  | parallelism => !decide (v.Omits [.plain "job"])
  | _ => false

variable {v : Value} {spec : DeploymentSpec} {s ns id : String} {base : Configuration}

/-- What a field determines if the document leaves it out. -/
theorem value?_of_omits (h : DeploymentSpec.rule.check v = .valid spec) (f : OptionField)
    (homits : v.Omits f.place) :
    f.value? spec = if f.isPreset v then some (.integer 1) else none := by
  obtain ⟨entries, rfl, hfields⟩ := DeploymentSpec.check_valid h
  cases f with
  | image => rw [value?, (Members.optional_eq_none_iff hfields.image).2 homits]; rfl
  | imagePullPolicy =>
    rw [value?, (Members.optional_eq_none_iff hfields.imagePullPolicy).2 homits]; rfl
  | serviceAccount =>
    rw [value?, (Members.optional_eq_none_iff hfields.serviceAccount).2 homits]; rfl
  | jobManagerCpu =>
    have hcpu := (JobManagerSpec.resource_without ProcessSize.cpu_without rfl).withDefault
      rfl hfields.jobManager homits
    rw [value?, hcpu]; rfl
  | jobManagerMemory =>
    have hmemory := (JobManagerSpec.resource_without ProcessSize.memory_without rfl).withDefault
      rfl hfields.jobManager homits
    rw [value?, hmemory]; rfl
  | jobManagerReplicas =>
    have hreplicas := JobManagerSpec.replicas_without.withDefault rfl hfields.jobManager homits
    rw [value?, hreplicas]; rfl
  | taskManagerCpu =>
    have hcpu := (TaskManagerSpec.resource_without ProcessSize.cpu_without rfl).withDefault
      rfl hfields.taskManager homits
    rw [value?, hcpu]; rfl
  | taskManagerMemory =>
    have hmemory := (TaskManagerSpec.resource_without ProcessSize.memory_without rfl).withDefault
      rfl hfields.taskManager homits
    rw [value?, hmemory]; rfl
  | taskManagerReplicas =>
    have hreplicas := TaskManagerSpec.replicas_without.withDefault rfl hfields.taskManager homits
    rw [value?, hreplicas]; rfl
  | parallelism =>
    have hjob := JobSpec.parallelism_without.optional hfields.job homits
    have hnone := Members.optional_eq_none_iff hfields.job
    rw [value?, isPreset]
    cases hspec : spec.job with
    | none => rw [decide_eq_true (hnone.1 hspec)]; rfl
    | some job =>
      rw [Option.map_some, hjob job hspec, decide_eq_false fun h => Option.some_ne_none job
        (hspec.symm.trans (hnone.2 h))]
      rfl
  | savepoint =>
    have hjob := JobSpec.savepoint_without.optional hfields.job homits
    rw [value?]
    cases hspec : spec.job with
    | none => rfl
    | some job => rw [Option.bind_some, hjob job hspec]; rfl
  | unclaimedState =>
    have hjob := JobSpec.unclaimedState_without.optional hfields.job homits
    rw [value?]
    cases hspec : spec.job with
    | none => rfl
    | some job => rw [Option.bind_some, hjob job hspec]; rfl

theorem mem_determined_iff {f : OptionField} {x : Value} :
    (f.key, x) ∈ spec.determined ns id ↔ f.value? spec = some x := by
  cases hjob : spec.job <;> cases f <;>
    simp +decide [DeploymentSpec.determined, DeploymentSpec.jobEntries, DeploymentSpec.entry,
      DeploymentSpec.mem_entry?_iff, Kind.toValue, key, value?, hjob, @eq_comm _ x]

/-- The option of a field holds what the field determines, else what is below. -/
theorem text?_effective (f : OptionField) :
    (spec.effective ns id base).text? f.key =
      ((f.value? spec).map Value.stored).or
        ((spec.flinkConfiguration.get? f.key).or (base.text? f.key)) := by
  cases hvalue : f.value? spec with
  | some x => exact DeploymentSpec.text?_effective_of_mem (mem_determined_iff.2 hvalue)
  | none =>
    have hkey : f.key ∉ (spec.determined ns id).map Prod.fst := by
      intro hmem
      obtain ⟨⟨_, x⟩, hx, rfl⟩ := List.mem_map.1 hmem
      rw [mem_determined_iff, hvalue] at hx
      cases hx
    have hclass : ¬ (spec.lacksMainClass = true ∧ f.key = Options.mainClass.key) := by
      cases f <;> exact fun h => absurd h.2 (by decide)
    rw [DeploymentSpec.text?_effective_of_not_mem hkey, if_neg hclass,
      DeploymentSpec.text?_setAll_ownEntries]
    rfl

/-- **Where an entry of the deployment's own stands.** If the document leaves the field of an option
out and has an entry for it, the option holds this entry, unless the field is preset. Then it holds
one, whatever the entry is. -/
theorem own_entry_iff {f : OptionField} (h : DeploymentSpec.rule.check v = .valid spec)
    (homits : v.Omits f.place) (hown : DeploymentSpec.ownDatum? f.key v = some (.text s)) :
    (spec.effective ns id base).text? f.key = some (if f.isPreset v then "1" else s) ∧
    ((spec.effective ns id base).text? f.key = some s ↔ (f.isPreset v = true → s = "1")) := by
  have htext : (spec.effective ns id base).text? f.key =
      some (if f.isPreset v then "1" else s) := by
    rw [text?_effective, value?_of_omits h f homits,
      DeploymentSpec.flinkConfiguration_of_check h hown]
    have hone : (Value.integer 1).stored = "1" := by decide +kernel
    split
    · exact congrArg some hone
    · rfl
  refine ⟨htext, ?_⟩
  rw [htext, Option.some.injEq]
  split
  · rename_i hpreset
    exact ⟨fun hs _ => hs.symm, fun hs => (hs hpreset).symm⟩
  · rename_i hpreset
    exact ⟨fun _ hp => absurd hp hpreset, fun _ => rfl⟩

/-- A document with a job, and with entries of its own for counts that its fields leave out. -/
def ownCounts : Value :=
  .map [("job", .map []), ("flinkConfiguration", .map [(taskManagerReplicas.key, .text "2"),
    (jobManagerReplicas.key, .text "3"), (parallelism.key, .text "4")])]

/-- The number of task managers is the document's own. -/
theorem own_entry_taskManagers : ∃ spec, DeploymentSpec.rule.check ownCounts = .valid spec ∧
    (spec.effective "flink" "c1" .empty).text? taskManagerReplicas.key = some "2" := by
  obtain ⟨spec, hspec⟩ : ∃ spec, DeploymentSpec.rule.check ownCounts = .valid spec := ⟨_, rfl⟩
  exact ⟨spec, hspec, (own_entry_iff hspec (by decide +kernel) (by decide +kernel)).2.2 nofun⟩

/-- The number of job managers and the parallelism are not, though no field gives them. -/
theorem own_entry_overridden : ∃ spec, DeploymentSpec.rule.check ownCounts = .valid spec ∧
    ownCounts.Omits jobManagerReplicas.place ∧ ownCounts.Omits parallelism.place ∧
    DeploymentSpec.ownDatum? jobManagerReplicas.key ownCounts = some (.text "3") ∧
    DeploymentSpec.ownDatum? parallelism.key ownCounts = some (.text "4") ∧
    (spec.effective "flink" "c1" .empty).text? jobManagerReplicas.key = some "1" ∧
    (spec.effective "flink" "c1" .empty).text? parallelism.key = some "1" := by
  refine ⟨_, rfl, ?_⟩
  decide +kernel

end OptionField

end FlinkCluster
