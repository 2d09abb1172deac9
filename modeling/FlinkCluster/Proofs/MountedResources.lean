import FlinkCluster.Proofs.Labels
import FlinkCluster.Proofs.Mounting

/-!
# What is shown by the mounted volumes

The steps that mount configurations into the pods list the config maps and secrets that they mount.

* `Volume.Resolves`: a volume shows an object, with all of its keys if it lists any.
* `Step.resolves_of_decorate`: every volume that a mount step adds shows one of the resources that
  the step lists, except a Hadoop configuration that the user names.
-/

set_option autoImplicit false

namespace FlinkCluster

open Kubernetes

/-! ## Objects and volumes -/

/-- The keys of the data of a config map or secret. -/
def Kubernetes.Resource.dataKeys : Resource → List String
  | .configMap m => (m.data.getD .empty).keys
  | .secret s => (s.data.getD .empty).keys
  | _ => []

/-- Kind and name of the config map or secret that a volume shows, and the keys that it lists. -/
def Kubernetes.Volume.shown? (v : Volume) :
    Option (ObjectKind × Option String × Option (List (Option KeyToPath))) :=
  match v.configMap, v.secret with
  | some source, none => some (.configMap, source.name, source.items)
  | none, some source => some (.secret, source.secretName, source.items)
  | _, _ => none

/-- A volume shows an object in a namespace. If it lists keys, it lists those of the object's data,
and what is mounted of it by a path of its own is one of them. -/
structure Kubernetes.Volume.Resolves (v : Volume) (mounts : List VolumeMount)
    (namespaceName : String) (r : Resource) : Prop where
  shown : ∃ name items, v.shown? = some (r.kind, some name, items) ∧
    r.metadata.name = some name ∧
    ∀ listed, items = some listed → (listed.map (·.map (·.key))).Perm (r.dataKeys.map some)
  namespaceName : r.metadata.namespaceName = some namespaceName
  subPaths : ∀ m ∈ mounts, m.name = v.name → ∀ key, m.subPath = some key → key ∈ r.dataKeys

namespace Table

variable {α β : Type}

theorem keys_map (f : α → β) (t : Table α) : (t.map f).keys = t.keys := by
  simp [keys, map, List.map_map, Function.comp_def]

end Table

/-! ## What the mount steps show -/

namespace Step

variable {p : Parameters} {host : Host} {ns : String} {d d' : PodDraft}
  {volumes : List Volume} {mounts : List VolumeMount} {rs : List Resource}

/-- The parts of a config map of the cluster. -/
theorem configMap_ok {name : String} {data : Table String} {r : Resource}
    (h : configMap p name data = .ok r) :
    ∃ ns m, p.namespaceName = .ok ns ∧ r = .configMap m ∧ m.data = some (ofTexts data) ∧
      r.metadata.name = some name ∧ r.metadata.namespaceName = some ns := by
  obtain ⟨m, hm, h⟩ := Outcome.bind_ok h
  obtain ⟨ns, hns, hm⟩ := Outcome.bind_ok hm
  obtain rfl := Outcome.pure_ok hm
  obtain rfl := Outcome.pure_ok h
  exact ⟨ns, _, hns, rfl, rfl, rfl, rfl⟩

/-- A volume with keys of a config map shows it, if the map has these keys. -/
theorem resolves_configMapVolume {volume name : String} {keys : List String}
    {data : Table String} {r : Resource} (hns : p.namespaceName = .ok ns)
    (h : configMap p name data = .ok r) (hkeys : keys.Perm data.keys)
    (hpaths : ∀ m ∈ mounts, ∀ key, m.subPath = some key → key ∈ data.keys) :
    (configMapVolume volume name keys).Resolves mounts ns r := by
  obtain ⟨ns', m, hns', rfl, hdata, hname, hnamespace⟩ := configMap_ok h
  obtain rfl := Except.ok.inj (hns.symm.trans hns')
  have hkeysOf : (Resource.configMap m).dataKeys = data.keys := by
    rw [Resource.dataKeys, hdata, Option.getD_some, ofTexts, Table.keys_map]
  refine ⟨⟨name, _, rfl, hname, ?_⟩, hnamespace, ?_⟩
  · intro listed hlisted
    rw [hkeysOf]
    split at hlisted
    · cases hlisted
    · obtain rfl := Option.some.inj hlisted
      rw [List.map_map]
      exact hkeys.map some
  · intro m hm hsame key hkey
    rw [hkeysOf]
    exact hpaths m hm key hkey

theorem namedHadoopMap?_eq_some {name : String} (h : namedHadoopMap? p = .ok (some name)) :
    p.hadoopConfigMap = .ok (some name) ∧ name ≠ "" := by
  obtain ⟨name?, hname, hfilter⟩ := Outcome.map_ok h
  obtain ⟨rfl, hne⟩ := Option.filter_eq_some_iff.1 hfilter
  exact ⟨hname, by simpa using hne⟩

/-- The Hadoop configuration that is mounted is the user's or that of the cluster. -/
theorem resolves_hadoop (hns : p.namespaceName = .ok ns) (h : mountHadoop p host d = .ok d')
    (hadds : d.Adds d' volumes mounts) (hrs : hadoopResources p host = .ok rs) :
    ∀ v ∈ volumes, (∃ name, p.hadoopConfigMap = .ok (some name) ∧ name ≠ "") ∨
      ∃ r ∈ rs, v.Resolves mounts ns r := by
  obtain ⟨-, hnothing⟩ | ⟨name, hname, hmounted⟩ := mountHadoop_ok h
  · obtain ⟨rfl, -⟩ := hnothing.unique hadds
    simp
  obtain ⟨rfl, rfl⟩ := hmounted.unique hadds
  obtain ⟨named?, hnamed, hname⟩ := Outcome.bind_ok hname
  obtain ⟨named?', hnamed', hrs⟩ := Outcome.bind_ok hrs
  obtain rfl := Except.ok.inj (hnamed.symm.trans hnamed')
  intro v hv
  obtain rfl := List.mem_singleton.1 hv
  cases named? with
  | some given => exact .inl ⟨given, namedHadoopMap?_eq_some hnamed⟩
  | none =>
    right
    obtain ⟨files, hfiles, hname⟩ := Outcome.bind_ok hname
    obtain ⟨files', hfiles', hrs⟩ := Outcome.bind_ok hrs
    obtain rfl := Except.ok.inj (hfiles.symm.trans hfiles')
    split at hrs
    · rename_i hempty
      rw [if_pos hempty] at hname
      cases hname
    · rename_i hfull
      rw [if_neg hfull] at hname
      obtain ⟨r, hr, hrs⟩ := Outcome.bind_ok hrs
      obtain rfl := Outcome.pure_ok hrs
      obtain rfl := Option.some.inj (Outcome.pure_ok hname)
      refine ⟨r, List.mem_singleton_self r, ?_⟩
      obtain ⟨ns', m, hns', rfl, -, hname, hnamespace⟩ := configMap_ok hr
      obtain rfl := Except.ok.inj (hns.symm.trans hns')
      exact ⟨⟨_, none, rfl, hname, by simp⟩, hnamespace, by simp⟩

/-- The keytab's volume shows the secret with the keytab. -/
theorem resolves_keytab {path : String} (hns : p.namespaceName = .ok ns)
    (hpath : keytab? p = .ok (some path))
    (hwhole : ∀ m ∈ mounts, m.name = keytabVolume → m.subPath = none)
    (hrs : keytabResources p host = .ok rs) :
    ∃ r ∈ rs, (keytabSecretVolume p.clusterId).Resolves mounts ns r ∧ r.kind = .secret ∧
      r.dataKeys = [Text.baseName path] := by
  obtain ⟨path?, hpath', hrs⟩ := Outcome.bind_ok hrs
  obtain rfl := Except.ok.inj (hpath.symm.trans hpath')
  obtain ⟨bytes, -, hrs⟩ := Outcome.bind_ok hrs
  obtain ⟨m, hm, hrs⟩ := Outcome.bind_ok hrs
  obtain ⟨ns', hns', hm⟩ := Outcome.bind_ok hm
  obtain rfl := Except.ok.inj (hns.symm.trans hns')
  obtain rfl := Outcome.pure_ok hm
  obtain rfl := Outcome.pure_ok hrs
  refine ⟨_, List.mem_singleton_self _, ⟨⟨_, none, rfl, rfl, by simp⟩, rfl, ?_⟩, rfl, rfl⟩
  intro m hm hname key hkey
  rw [hwhole m hm hname] at hkey
  cases hkey

/-- The volume of the Kerberos configuration shows its config map. -/
theorem resolves_kerberosFile {path : String} (hns : p.namespaceName = .ok ns)
    (hpath : kerberosFile? p = .ok (some path))
    (hpaths : ∀ m ∈ mounts, ∀ key, m.subPath = some key → key = Text.baseName path)
    (hrs : kerberosFileResources p host = .ok rs) :
    ∃ r ∈ rs, (configMapVolume kerberosVolume (Naming.kerberosConfigMap p.clusterId)
      [Text.baseName path]).Resolves mounts ns r := by
  obtain ⟨path?, hpath', hrs⟩ := Outcome.bind_ok hrs
  obtain rfl := Except.ok.inj (hpath.symm.trans hpath')
  obtain ⟨text, -, hrs⟩ := Outcome.bind_ok hrs
  obtain ⟨r, hr, hrs⟩ := Outcome.bind_ok hrs
  obtain rfl := Outcome.pure_ok hrs
  refine ⟨r, List.mem_singleton_self r, resolves_configMapVolume hns hr (.refl _) ?_⟩
  intro m hm key hkey
  rw [hpaths m hm key hkey]
  exact List.mem_singleton_self _

theorem resolves_kerberos (hns : p.namespaceName = .ok ns) (h : mountKerberos p d = .ok d')
    (hadds : d.Adds d' volumes mounts) (hrs : kerberosResources p host = .ok rs) :
    ∀ v ∈ volumes, ∃ r ∈ rs, v.Resolves mounts ns r := by
  obtain ⟨d₁, hkeytab, h⟩ := Outcome.bind_ok h
  obtain ⟨secrets, hsecrets, hrs⟩ := Outcome.bind_ok hrs
  obtain ⟨maps, hmaps, hrs⟩ := Outcome.bind_ok hrs
  obtain rfl := Outcome.pure_ok hrs
  -- Each of the two is mounted or not.
  obtain ⟨-, hnothing⟩ | ⟨path, hpath, hfirst⟩ := mountKeytab_ok hkeytab
  · obtain ⟨-, hnothing'⟩ | ⟨path', hpath', hsecond⟩ := mountKerberosFile_ok h
    · obtain ⟨rfl, rfl⟩ := (hnothing.trans hnothing').unique hadds
      simp
    · obtain ⟨rfl, rfl⟩ := (hnothing.trans hsecond).unique hadds
      intro v hv
      obtain rfl := List.mem_singleton.1 hv
      exact (resolves_kerberosFile hns hpath' (by simp) hmaps).imp fun r hr =>
        ⟨List.mem_append_right secrets hr.1, hr.2⟩
  · obtain ⟨-, hnothing'⟩ | ⟨path', hpath', hsecond⟩ := mountKerberosFile_ok h
    · obtain ⟨rfl, rfl⟩ := (hfirst.trans hnothing').unique hadds
      intro v hv
      obtain rfl := List.mem_singleton.1 hv
      exact (resolves_keytab hns hpath (by simp) hsecrets).imp fun r hr =>
        ⟨List.mem_append_left maps hr.1, hr.2.1⟩
    · obtain ⟨rfl, rfl⟩ := (hfirst.trans hsecond).unique hadds
      intro v hv
      rcases List.mem_cons.1 hv with rfl | hv
      · exact (resolves_keytab hns hpath (by simp [keytabVolume, kerberosVolume])
          hsecrets).imp fun r hr => ⟨List.mem_append_left maps hr.1, hr.2.1⟩
      · obtain rfl := List.mem_singleton.1 hv
        exact (resolves_kerberosFile hns hpath' (by simp) hmaps).imp fun r hr =>
          ⟨List.mem_append_right secrets hr.1, hr.2⟩

theorem resolves_flinkConf (hns : p.namespaceName = .ok ns)
    (h : mountFlinkConf p host d = .ok d') (hadds : d.Adds d' volumes mounts)
    (hrs : flinkConfResources p host = .ok rs) :
    ∀ v ∈ volumes, ∃ r ∈ rs, v.Resolves mounts ns r := by
  obtain ⟨files, dir, hfiles, -, hmounted⟩ := mountFlinkConf_ok h
  obtain ⟨rfl, rfl⟩ := hmounted.unique hadds
  obtain ⟨files', hfiles', hrs⟩ := Outcome.bind_ok hrs
  obtain rfl := Except.ok.inj (hfiles.symm.trans hfiles')
  obtain ⟨r, hr, hrs⟩ := Outcome.bind_ok hrs
  obtain rfl := Outcome.pure_ok hrs
  intro v hv
  obtain rfl := List.mem_singleton.1 hv
  exact ⟨r, List.mem_singleton_self r,
    resolves_configMapVolume hns hr files.keys_sorted_perm (by simp)⟩

/-- **What a mount step mounts, it lists**, except a Hadoop configuration that the user names. -/
theorem resolves_of_decorate {step : Step} (hstep : step ∈ mountSteps)
    (hns : p.namespaceName = .ok ns) (h : step.decorate p host d = .ok d')
    (hadds : d.Adds d' volumes mounts) (hrs : step.resources p host = .ok rs) :
    ∀ v ∈ volumes,
      (step = .hadoop ∧ ∃ name, p.hadoopConfigMap = .ok (some name) ∧ name ≠ "") ∨
        ∃ r ∈ rs, v.Resolves mounts ns r := by
  intro v hv
  cases step with
  | hadoop => exact (resolves_hadoop hns h hadds hrs v hv).imp_left fun hnamed => ⟨rfl, hnamed⟩
  | kerberos => exact .inr (resolves_kerberos hns h hadds hrs v hv)
  | flinkConf => exact .inr (resolves_flinkConf hns h hadds hrs v hv)
  | _ => simp [mountSteps] at hstep

end Step

end FlinkCluster
