import FlinkCluster.Parameters
import FlinkCluster.Proofs.Labels
import FlinkCluster.Step.Mounts

/-!
# Configurations that agree

What is read of a configuration depends on the texts at the keys that are read, and not on their
order.

* `Table.filter_sorted_congr`, `Table.perm_iff`: tables with the same view have the same entries in
  the order of the keys, and their entries are permutations of each other.
* `Configuration.find?_congr`, `Configuration.under_congr`: the values of settings, and the entries
  whose keys start with a text.
* `Role.reads`: the keys that composing a role reads.
* `Parameters.Agrees`: another configuration is the same to a role. Then so are the parameters that
  the role reads.
-/

set_option autoImplicit false

namespace FlinkCluster

/-! ## Tables -/

namespace Table

variable {α : Type} {t u : Table α}

theorem mem_sorted_iff {k : String} {v : α} : (k, v) ∈ t.sorted ↔ t.get? k = some v :=
  t.sorted_perm.mem_iff.trans mem_entries_iff

theorem pairwise_sorted (t : Table α) : t.sorted.Pairwise fun a b => a.1 ≤ b.1 := by
  have hsorted : (t.entries.mergeSort fun a b => decide (a.1 ≤ b.1)).Pairwise
      fun a b => decide (a.1 ≤ b.1) = true := by
    refine List.pairwise_mergeSort (fun a b c hab hbc => ?_) (fun a b => ?_) t.entries
    · exact decide_eq_true (String.le_trans (of_decide_eq_true hab) (of_decide_eq_true hbc))
    · simpa using String.le_total a.1 b.1
  exact hsorted.imp of_decide_eq_true

/-- Tables that agree at some keys have the same entries there, in the order of the keys. -/
theorem filter_sorted_congr {K : String → Bool} (h : ∀ k, K k = true → t.get? k = u.get? k) :
    t.sorted.filter (fun e => K e.1) = u.sorted.filter (fun e => K e.1) := by
  have hnodup (t : Table α) : (t.sorted.filter fun e => K e.1).Nodup :=
    (List.Pairwise.of_map Prod.fst (fun _ _ hne heq => hne (congrArg Prod.fst heq))
      t.nodup_keys_sorted).filter _
  have hmem (e : String × α) :
      e ∈ t.sorted.filter (fun e => K e.1) ↔ e ∈ u.sorted.filter fun e => K e.1 := by
    rw [List.mem_filter, List.mem_filter, mem_sorted_iff, mem_sorted_iff]
    exact and_congr_left fun hk => by rw [h e.1 hk]
  refine ((List.perm_ext_iff_of_nodup (hnodup t) (hnodup u)).2 hmem).eq_of_pairwise ?_
    (t.pairwise_sorted.filter _) (u.pairwise_sorted.filter _)
  rintro ⟨k, v⟩ ⟨k', v'⟩ hv hv' hle hle'
  obtain rfl := String.le_antisymm hle hle'
  have hv := mem_sorted_iff.1 (List.mem_filter.1 ((hmem _).1 hv)).1
  have hv' := mem_sorted_iff.1 (List.mem_filter.1 hv').1
  rw [Option.some.inj (hv.symm.trans hv')]

theorem sorted_congr (h : ∀ k, t.get? k = u.get? k) : t.sorted = u.sorted := by
  simpa using filter_sorted_congr (K := fun _ => true) fun k _ => h k

/-- The entries of two tables are permutations of each other if their views are the same. -/
theorem perm_iff : t.entries.Perm u.entries ↔ ∀ k, t.get? k = u.get? k := by
  constructor
  · intro h k
    ext v
    rw [← mem_entries_iff, ← mem_entries_iff, h.mem_iff]
  · intro h
    exact t.sorted_perm.symm.trans (sorted_congr h ▸ u.sorted_perm)

/-- The keys do not depend on the values. -/
theorem keys_sorted_set (t : Table α) (k : String) (v w : α) :
    (t.set k v).sorted.map Prod.fst = (t.set k w).sorted.map Prod.fst := by
  have hkeys (es : List (String × α)) :
      (setEntry k v es).map Prod.fst = (setEntry k w es).map Prod.fst := by
    induction es with
    | nil => rfl
    | cons e es ih =>
      simp only [setEntry]
      split
      · rfl
      · rw [List.map_cons, List.map_cons, ih]
  have hsorted (t : Table α) :
      t.sorted.map Prod.fst = (t.entries.map Prod.fst).mergeSort fun a b => a ≤ b :=
    List.map_mergeSort fun _ _ _ _ => rfl
  rw [hsorted, hsorted, set, set, hkeys]

end Table

/-! ## Configurations -/

namespace Configuration

variable {conf conf' : Configuration}

theorem find?_congr {k : Kind} {s : Setting k}
    (h : ∀ key ∈ s.key :: s.fallback, conf.text? key = conf'.text? key) :
    conf.find? s = conf'.find? s := by
  have hfirst (keys : List String) (h : ∀ key ∈ keys, conf.text? key = conf'.text? key) :
      keys.findSome? conf.text? = keys.findSome? conf'.text? := by
    induction keys with
    | nil => rfl
    | cons key keys ih =>
      rw [List.findSome?_cons, List.findSome?_cons, h key List.mem_cons_self,
        ih fun key hkey => h key (List.mem_cons_of_mem _ hkey)]
  unfold find?
  rw [hfirst _ h]

/-- Only the entries whose keys start with `lead` count. -/
theorem under_eq (conf : Configuration) (lead : String) :
    conf.under lead = .ofEntries
      ((conf.table.sorted.filter fun e => (Text.dropLeading? lead e.1).isSome).filterMap
        fun (k, v) => (Text.dropLeading? lead k).map (·, v)) := by
  rw [under, List.filterMap_filter]
  refine congrArg Table.ofEntries (List.filterMap_congr fun e _ => ?_)
  obtain ⟨k, v⟩ := e
  cases hrest : Text.dropLeading? lead k <;> simp [hrest]

theorem under_congr {lead : String}
    (h : ∀ key, (Text.dropLeading? lead key).isSome = true → conf.text? key = conf'.text? key) :
    conf.under lead = conf'.under lead := by
  rw [under_eq, under_eq, Table.filter_sorted_congr h]

theorem renderConfiguration_congr (h : ∀ key, conf.text? key = conf'.text? key) :
    Step.renderConfiguration conf = Step.renderConfiguration conf' := by
  rw [Step.renderConfiguration, Step.renderConfiguration, Table.sorted_congr h]

end Configuration

/-! ## What a role reads -/

namespace Role

/-- The keys that composing either role reads. -/
def sharedKeys : List String :=
  [Options.clusterId.key, Options.namespaceName.key, Options.image.key,
    Options.imagePullPolicy.key, Options.imagePullSecrets.key, Options.serviceAccount.key,
    Options.secrets.key, Options.environmentSecrets.key, Options.hadoopConfigMap.key,
    Options.kerberosKeytab.key, Options.kerberosPrincipal.key, Options.kerberosConfigFile.key,
    Options.flinkConfDir.key, Options.entryPath.key, Options.highAvailability.key,
    Options.clusterMode.key]

/-- The keys that composing one role reads and composing the other does not. -/
def ownKeys : Role → List String
  | .jobManager =>
    [Options.jobManagerServiceAccount.key, Options.jobManagerLabels.key,
      Options.jobManagerAnnotations.key, Options.jobManagerNodeSelector.key,
      Options.jobManagerOwnerReference.key, Options.jobManagerReplicas.key,
      Options.jobManagerCpu.key, Options.jobManagerMemory.key, Options.restPort.key,
      Options.rpcPort.key, Options.blobServerPort.key, Options.restServiceExposedType.key,
      Options.restServiceAnnotations.key, Options.mainClass.key, Options.programArgs.key,
      Options.savepointPath.key, Options.ignoreUnclaimedState.key]
  | .taskManager =>
    [Options.taskManagerServiceAccount.key, Options.taskManagerLabels.key,
      Options.taskManagerAnnotations.key, Options.taskManagerNodeSelector.key,
      Options.taskManagerReplicas.key, Options.taskManagerCpu.key, Options.taskManagerMemory.key,
      Options.taskSlots.key, Options.defaultParallelism.key, Options.taskManagerRpcPort.key]

/-- The keys that composing a role reads, the variables of its environment apart. -/
def reads (role : Role) : List String := sharedKeys ++ role.ownKeys

/-- What the keys of a role's environment variables start with. -/
def environment : Role → String
  | .jobManager => Options.jobManagerEnvironment
  | .taskManager => Options.taskManagerEnvironment

end Role

/-- Whether all keys of a setting are among others. -/
def Setting.IsAmong {k : Kind} (s : Setting k) (keys : List String) : Prop :=
  s.key ∈ keys ∧ s.fallback ⊆ keys

/-! ## Parameters -/

namespace Parameters

/-- The parameters of the same role and cluster under another configuration. -/
def reading (p : Parameters) (conf : Configuration) : Parameters := { p with conf }

/-- Another configuration is the same to the role. -/
structure Agrees (p : Parameters) (conf : Configuration) : Prop where
  texts : ∀ key ∈ p.role.reads, conf.text? key = p.conf.text? key
  environment : conf.under p.role.environment = p.conf.under p.role.environment

variable {p : Parameters} {conf : Configuration} {k : Kind}

@[simp] theorem conf_reading : (p.reading conf).conf = conf := rfl

@[simp] theorem clusterId_reading : (p.reading conf).clusterId = p.clusterId := rfl

@[simp] theorem commonLabels_reading : (p.reading conf).commonLabels = p.commonLabels := rfl

@[simp] theorem selectors_reading : (p.reading conf).selectors = p.selectors := rfl

@[simp] theorem refuse_reading {α : Type} (fault : ConfigurationFault) (key : String) :
    ((p.reading conf).refuse fault key : Outcome α) = p.refuse fault key := rfl

namespace Agrees

/-! ### Settings -/

theorem find? (h : p.Agrees conf) {s : Setting k} (hs : s.IsAmong p.role.reads) :
    conf.find? s = p.conf.find? s := by
  refine Configuration.find?_congr fun key hkey => h.texts key ?_
  rcases List.mem_cons.1 hkey with rfl | hkey
  · exact hs.1
  · exact hs.2 hkey

theorem get (h : p.Agrees conf) {s : Preset k} (hs : s.IsAmong p.role.reads) :
    conf.get s = p.conf.get s := by
  rw [Configuration.get, Configuration.get, h.find? hs]

/-- A setting without fallback that both roles read. -/
theorem shared {s : Setting k} (hs : s.key ∈ Role.sharedKeys) (hfallback : s.fallback = []) :
    s.IsAmong p.role.reads :=
  ⟨List.mem_append_left _ hs, by simp [hfallback]⟩

/-- A setting without fallback that the role reads. -/
theorem own {s : Setting k} {role : Role} (hrole : p.role = role) (hs : s.key ∈ role.ownKeys)
    (hfallback : s.fallback = []) : s.IsAmong p.role.reads :=
  ⟨List.mem_append_right _ (hrole ▸ hs), by simp [hfallback]⟩

/-- Of two settings, the role reads its own. -/
theorem get_select (h : p.Agrees conf) {s t : Preset k}
    (hs : p.role = .jobManager → s.IsAmong p.role.reads)
    (ht : p.role = .taskManager → t.IsAmong p.role.reads) :
    conf.get ((p.reading conf).select s t) = p.conf.get (p.select s t) := by
  rw [select, select]
  change conf.get (match p.role with | .jobManager => s | .taskManager => t) = _
  cases hrole : p.role with
  | jobManager => exact h.get (hs hrole)
  | taskManager => exact h.get (ht hrole)

/-- A parameter of one role is read by that role only. -/
theorem only {α : Type} {role : Role} {x x' : Outcome α} (hx : p.role = role → x' = x)
    (name : String) : (p.reading conf).only role name x' = p.only role name x := by
  rw [Parameters.only, Parameters.only]
  change (if p.role = role then x' else .error (.foreignParameter p.role name)) = _
  split
  · rename_i hrole
    rw [hx hrole]
  · rfl

/-! ### Both roles -/

variable (h : p.Agrees conf)
include h

theorem namespaceName : (p.reading conf).namespaceName = p.namespaceName :=
  h.get (shared (by simp [Role.sharedKeys]) rfl)

theorem image : (p.reading conf).image = p.image :=
  h.get (shared (by simp [Role.sharedKeys]) rfl)

theorem imagePullPolicy : (p.reading conf).imagePullPolicy = p.imagePullPolicy :=
  h.get (shared (by simp [Role.sharedKeys]) rfl)

theorem imagePullSecrets : (p.reading conf).imagePullSecrets = p.imagePullSecrets :=
  h.get (shared (by simp [Role.sharedKeys]) rfl)

theorem secrets : (p.reading conf).secrets = p.secrets :=
  h.get (shared (by simp [Role.sharedKeys]) rfl)

theorem environmentSecrets : (p.reading conf).environmentSecrets = p.environmentSecrets := by
  unfold Parameters.environmentSecrets
  change (conf.get Options.environmentSecrets >>= _) = _
  rw [h.get (shared (by simp [Role.sharedKeys]) rfl)]
  rfl

theorem flinkConfDir : (p.reading conf).flinkConfDir = p.flinkConfDir :=
  h.get (shared (by simp [Role.sharedKeys]) rfl)

theorem hadoopConfigMap : (p.reading conf).hadoopConfigMap = p.hadoopConfigMap :=
  h.find? (shared (by simp [Role.sharedKeys]) rfl)

theorem kerberosKeytab : (p.reading conf).kerberosKeytab = p.kerberosKeytab :=
  h.find? (shared (by simp [Role.sharedKeys]) rfl)

theorem kerberosPrincipal : (p.reading conf).kerberosPrincipal = p.kerberosPrincipal :=
  h.find? (shared (by simp [Role.sharedKeys]) rfl)

theorem kerberosConfigFile : (p.reading conf).kerberosConfigFile = p.kerberosConfigFile :=
  h.find? (shared (by simp [Role.sharedKeys]) rfl)

theorem entryPath : (p.reading conf).entryPath = p.entryPath :=
  h.get (shared (by simp [Role.sharedKeys]) rfl)

theorem highAvailability : (p.reading conf).highAvailability = p.highAvailability := by
  unfold Parameters.highAvailability
  exact congrArg _ (h.get (shared (by simp [Role.sharedKeys]) rfl))

theorem isApplication : (p.reading conf).isApplication = p.isApplication := by
  unfold Parameters.isApplication Parameters.clusterMode
  change Except.map _ (conf.get Options.clusterMode >>= _) = _
  rw [h.get (shared (by simp [Role.sharedKeys]) rfl)]
  rfl

theorem jobManagerAddress : (p.reading conf).jobManagerAddress = p.jobManagerAddress := by
  unfold Parameters.jobManagerAddress
  exact congrArg _ h.namespaceName

theorem environments : (p.reading conf).environments = p.environments := by
  have hlead : p.select Options.jobManagerEnvironment Options.taskManagerEnvironment =
      p.role.environment := by
    unfold select
    cases p.role <;> rfl
  unfold Parameters.environments
  change conf.under (p.select Options.jobManagerEnvironment Options.taskManagerEnvironment) = _
  rw [hlead, h.environment]

theorem labels : (p.reading conf).labels = p.labels := by
  unfold Parameters.labels
  exact congrArg _ (h.get_select (fun hrole => own hrole (by simp [Role.ownKeys]) rfl)
    fun hrole => own hrole (by simp [Role.ownKeys]) rfl)

theorem annotations : (p.reading conf).annotations = p.annotations :=
  h.get_select (fun hrole => own hrole (by simp [Role.ownKeys]) rfl)
    fun hrole => own hrole (by simp [Role.ownKeys]) rfl

theorem nodeSelector : (p.reading conf).nodeSelector = p.nodeSelector :=
  h.get_select (fun hrole => own hrole (by simp [Role.ownKeys]) rfl)
    fun hrole => own hrole (by simp [Role.ownKeys]) rfl

theorem cpu : (p.reading conf).cpu = p.cpu :=
  h.get_select (fun hrole => own hrole (by simp [Role.ownKeys]) rfl)
    fun hrole => own hrole (by simp [Role.ownKeys]) rfl

theorem memory : (p.reading conf).memory = p.memory :=
  h.get_select (fun hrole => own hrole (by simp [Role.ownKeys]) rfl)
    fun hrole => own hrole (by simp [Role.ownKeys]) rfl

theorem serviceAccount : (p.reading conf).serviceAccount = p.serviceAccount := by
  have hboth : [Options.serviceAccount.key] ⊆ p.role.reads := by
    simp [Role.reads, Role.sharedKeys]
  exact h.get_select
    (fun hrole => ⟨List.mem_append_right _ (by simp [hrole, Role.ownKeys]), hboth⟩)
    fun hrole => ⟨List.mem_append_right _ (by simp [hrole, Role.ownKeys]), hboth⟩

/-! ### One role -/

theorem restPort (hrole : p.role = .jobManager) : (p.reading conf).restPort = p.restPort :=
  h.get (own hrole (by simp [Role.ownKeys]) rfl)

theorem rpcPort (hrole : p.role = .jobManager) : (p.reading conf).rpcPort = p.rpcPort :=
  h.get (own hrole (by simp [Role.ownKeys]) rfl)

theorem blobServerPort (hrole : p.role = .jobManager) :
    (p.reading conf).blobServerPort = p.blobServerPort :=
  h.get (own hrole (by simp [Role.ownKeys]) rfl)

theorem ownerReferences : (p.reading conf).ownerReferences = p.ownerReferences :=
  only (fun hrole => h.get (own hrole (by simp [Role.ownKeys]) rfl)) _

theorem exposedType : (p.reading conf).exposedType = p.exposedType := by
  refine only (fun hrole => ?_) _
  change (conf.get Options.restServiceExposedType >>= _) = _
  rw [h.get (own hrole (by simp [Role.ownKeys]) rfl)]
  rfl

theorem restServiceAnnotations :
    (p.reading conf).restServiceAnnotations = p.restServiceAnnotations :=
  only (fun hrole => h.get (own hrole (by simp [Role.ownKeys]) rfl)) _

theorem mainClass : (p.reading conf).mainClass = p.mainClass :=
  only (fun hrole => h.find? (own hrole (by simp [Role.ownKeys]) rfl)) _

theorem programArgs : (p.reading conf).programArgs = p.programArgs :=
  only (fun hrole => h.get (own hrole (by simp [Role.ownKeys]) rfl)) _

theorem savepointPath : (p.reading conf).savepointPath = p.savepointPath :=
  only (fun hrole => h.find? (own hrole (by simp [Role.ownKeys]) rfl)) _

theorem allowsUnclaimedState : (p.reading conf).allowsUnclaimedState = p.allowsUnclaimedState :=
  only (fun hrole => h.get (own hrole (by simp [Role.ownKeys]) rfl)) _

theorem taskManagerRpcPort : (p.reading conf).taskManagerRpcPort = p.taskManagerRpcPort :=
  only (fun hrole => h.get (own hrole (by simp [Role.ownKeys]) rfl)) _

theorem jobManagerReplicas (hrole : p.role = .jobManager) :
    (p.reading conf).jobManagerReplicas = p.jobManagerReplicas := by
  rw [Parameters.jobManagerReplicas, Parameters.jobManagerReplicas, conf_reading,
    h.get (own hrole (by simp [Role.ownKeys]) rfl), h.highAvailability]
  simp only [refuse_reading]

theorem taskManagerReplicas (hrole : p.role = .taskManager) :
    (p.reading conf).taskManagerReplicas = p.taskManagerReplicas := by
  rw [Parameters.taskManagerReplicas, Parameters.taskManagerReplicas, conf_reading,
    h.find? (own hrole (by simp [Role.ownKeys]) rfl),
    h.get (own hrole (by simp [Role.ownKeys]) rfl), h.get (own hrole (by simp [Role.ownKeys]) rfl)]

theorem replicas : (p.reading conf).replicas = p.replicas := by
  unfold Parameters.replicas select
  change (match p.role with | .jobManager => _ | .taskManager => _) = _
  cases hrole : p.role with
  | jobManager => exact h.jobManagerReplicas hrole
  | taskManager => exact h.taskManagerReplicas hrole

end Agrees

end Parameters

end FlinkCluster
