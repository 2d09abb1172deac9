import FlinkCluster.Proofs.Mounting
import FlinkCluster.Proofs.StepFailures

/-!
# Conflicts of volumes

When exactly composing the steps of a role fails for a volume. The volumes that other steps add are
of no importance, because every step owns its names: a volume is taken by the template or reserved.

* `Step.not_clash_of_decorate`: a step that succeeds has no volume that is taken.
* `Step.clash_transfer`: what is taken in the pod at which a step runs is taken in the template.
* `Step.compose_conflict_iff`: the composition fails if, and only if, a volume is taken in the
  template. Otherwise the volumes that it adds are new and different, and mounts have volumes.
-/

set_option autoImplicit false

namespace FlinkCluster

open Kubernetes

namespace Step

variable {p : Parameters} {host : Host} {d d' template : PodDraft} {step : Step}
  {mounted mounted' : Prop} {fault : ConfigurationFault} {rs : List Resource}

/-! ## Clashes at a step -/

/-- A clash depends on the volumes of the names that the step owns, and, of an application, on what
is mounted at the directory of its libraries. -/
theorem Clash.congr (h : Clash p host d mounted step fault)
    (hvolume : ∀ name, owner name = step → d.HasVolume name → d'.HasVolume name)
    (hmounted : step = .userLib → mounted' → mounted) : Clash p host d' mounted' step fault := by
  cases h with
  | @secret secrets s hsecrets hs htaken =>
    refine .secret hsecrets hs ?_
    by_cases hreserved : secretVolumeName s ∈ reservedVolumes
    · exact .inl hreserved
    · exact .inr (hvolume _ (owner_of_not_reserved hreserved) (htaken.resolve_left hreserved))
  | hadoop hname htaken => exact .hadoop hname (hvolume _ rfl htaken)
  | keytab hpath htaken => exact .keytab hpath (hvolume _ rfl htaken)
  | kerberosFile hpath htaken => exact .kerberosFile hpath (hvolume _ rfl htaken)
  | flinkConf htaken => exact .flinkConf (hvolume _ rfl htaken)
  | userLib happlication hfree htaken =>
    exact .userLib happlication (fun h => hfree (hmounted rfl h)) (hvolume _ rfl htaken)

theorem mem_chain_of_clash (h : Clash p host d mounted step fault) (role : Role) :
    step ∈ chain role := by
  cases h <;> cases role <;> decide

theorem not_clash_of_decorate (h : step.decorate p host d = .ok d')
    (hclash : Clash p host d (d.MountsAt userLibDir) step fault) : False := by
  cases hclash with
  | @secret secrets s hsecrets hs htaken =>
    have hmem : s ∈ secrets.sorted.map Prod.fst :=
      secrets.keys_sorted_perm.mem_iff.2 hs
    obtain ⟨secrets', hsecrets', hcases⟩ := eq_of_mountSecrets h
    obtain rfl := Except.ok.inj (hsecrets.symm.trans hsecrets')
    obtain ⟨hnone, -⟩ | ⟨⟨names, hnames, hfree⟩, -, -⟩ := hcases
    · rw [hnone] at hmem
      cases hmem
    · obtain ⟨hreserved, hnew⟩ := free_of_firstSecretTaken? hfree s hmem
      rcases htaken with htaken | htaken
      · exact hreserved htaken
      · exact hnew ((PodDraft.mem_volumeNames hnames _).2 htaken)
  | hadoop hname htaken =>
    obtain ⟨hnone, -⟩ | ⟨_, _, -, hfresh, -, -⟩ := eq_of_mountHadoop h
    · rw [hname] at hnone
      cases hnone
    · exact hfresh.not_hasVolume htaken
  | keytab hpath htaken =>
    obtain ⟨d₁, hkeytab, -⟩ := Outcome.bind_ok h
    obtain ⟨hnone, -⟩ | ⟨_, -, hfresh, -⟩ := eq_of_mountKeytab hkeytab
    · rw [hpath] at hnone
      cases hnone
    · exact hfresh.not_hasVolume htaken
  | kerberosFile hpath htaken =>
    obtain ⟨d₁, hkeytab, hfile⟩ := Outcome.bind_ok h
    -- The keytab, which is mounted first, takes no volume away.
    have hstill : d₁.HasVolume kerberosVolume := by
      obtain ⟨-, rfl⟩ | ⟨_, -, -, rfl⟩ := eq_of_mountKeytab hkeytab
      · exact htaken
      · exact ((PodDraft.adds_extended d _ _).hasVolume_iff _).2 (.inl htaken)
    obtain ⟨hnone, -⟩ | ⟨_, _, -, rfl, hfresh, -⟩ := eq_of_mountKerberosFile hfile
    · rw [hpath] at hnone
      cases hnone
    · exact hfresh.not_hasVolume hstill
  | flinkConf htaken =>
    obtain ⟨_, _, _, -, -, rfl, hfresh, -⟩ := eq_of_mountFlinkConf h
    exact hfresh.not_hasVolume htaken
  | userLib happlication hfree htaken =>
    obtain ⟨hoff, -⟩ | ⟨-, hmounted, -⟩ | ⟨_, -, -, rfl, hfresh, -⟩ := eq_of_mountUserLib h
    · rw [happlication] at hoff
      cases hoff
    · exact hfree hmounted
    · exact hfresh.not_hasVolume htaken

/-! ## Mounts of libraries -/

/-- A step before the libraries' mounts something at their directory. -/
inductive MountsLibraries (p : Parameters) : Step → Prop
  | secret {secrets : Table String} {s : String} (hsecrets : p.secrets = .ok secrets)
      (hs : secrets.get? s = some userLibDir) : MountsLibraries p .mountedSecrets
  | flinkConf (hdir : p.flinkConfDir = .ok userLibDir) : MountsLibraries p .flinkConf

/-- Something is mounted at the libraries' directory before their step: by the template, as a
secret, or as the configuration of the cluster. -/
def MountedBefore (p : Parameters) (template : PodDraft) : Prop :=
  template.MountsAt userLibDir ∨ ∃ step, MountsLibraries p step

theorem mountsAt_of_mountKerberos (h : mountKerberos p d = .ok d') :
    d'.MountsAt userLibDir ↔ d.MountsAt userLibDir := by
  obtain ⟨d₁, hkeytab, hfile⟩ := Outcome.bind_ok h
  have hdirs : userLibDir ≠ keytabDirInPod ∧ userLibDir ≠ kerberosFileInPod := by decide
  have hfirst : d₁.MountsAt userLibDir ↔ d.MountsAt userLibDir := by
    obtain ⟨-, hadds⟩ | ⟨_, -, hadds⟩ := mountKeytab_ok hkeytab
    · simp [hadds.mountsAt_iff]
    · simp [hadds.mountsAt_iff, hdirs]
  obtain ⟨-, hadds⟩ | ⟨_, -, hadds⟩ := mountKerberosFile_ok hfile
  · simp [hadds.mountsAt_iff, hfirst]
  · simp [hadds.mountsAt_iff, hfirst, hdirs]

theorem mountsAt_of_mountSecrets (h : mountSecrets p d = .ok d') :
    d'.MountsAt userLibDir ↔ d.MountsAt userLibDir ∨ MountsLibraries p .mountedSecrets := by
  obtain ⟨secrets, hsecrets, hmounts⟩ := eq_of_mountSecrets h
  have hpath : MountsLibraries p .mountedSecrets ↔
      userLibDir ∈ (secrets.sorted.map fun e => secretMount e.1 e.2).map (·.mountPath) := by
    simp only [List.map_map, List.mem_map, Prod.exists]
    constructor
    · intro hlibraries
      cases hlibraries with
      | @secret secrets' s hsecrets' hs =>
        obtain rfl := Except.ok.inj (hsecrets.symm.trans hsecrets')
        exact ⟨s, _, secrets.sorted_perm.mem_iff.2 (Table.mem_entries_iff.2 hs), rfl⟩
    · intro ⟨s, path, hs, hpath⟩
      obtain rfl : path = userLibDir := hpath
      exact .secret hsecrets (Table.mem_entries_iff.1 (secrets.sorted_perm.mem_iff.1 hs))
  rw [hpath]
  obtain ⟨hnone, rfl⟩ | ⟨-, -, rfl⟩ := hmounts
  · simp [hnone]
  · exact (PodDraft.adds_extended d _ _).mountsAt_iff _

theorem mountsAt_of_mountFlinkConf (h : mountFlinkConf p host d = .ok d') :
    d'.MountsAt userLibDir ↔ d.MountsAt userLibDir ∨ MountsLibraries p .flinkConf := by
  obtain ⟨_, dir, -, hdir, hadds⟩ := mountFlinkConf_ok h
  have hpath : MountsLibraries p .flinkConf ↔ userLibDir = dir := by
    constructor
    · intro hlibraries
      cases hlibraries with
      | flinkConf hdir' => exact Except.ok.inj (hdir'.symm.trans hdir)
    · intro heq
      exact .flinkConf (heq ▸ hdir)
  rw [hadds.mountsAt_iff, hpath]
  simp

theorem mountsAt_of_decorate (hstep : step ≠ .userLib) (h : step.decorate p host d = .ok d') :
    d'.MountsAt userLibDir ↔ d.MountsAt userLibDir ∨ MountsLibraries p step := by
  have hnothing (hadds : d.Adds d' [] []) (hnone : ¬ MountsLibraries p step) :
      d'.MountsAt userLibDir ↔ d.MountsAt userLibDir ∨ MountsLibraries p step := by
    simp [hadds.mountsAt_iff, hnone]
  cases step with
  | identity | internalService | externalService =>
    obtain rfl := Except.ok.inj h
    exact hnothing (.refl d) nofun
  | initialJobManager | initialTaskManager =>
    exact hnothing (adds_of_decorateInitially h) nofun
  | environmentSecrets => exact hnothing (adds_of_addSecretVariables h) nofun
  | jobManagerCommand =>
    obtain ⟨entry, args, rfl⟩ := eq_of_startJobManager h
    exact hnothing (adds_withCommand d entry args) nofun
  | taskManagerCommand =>
    obtain ⟨entry, args, rfl⟩ := eq_of_startTaskManager h
    exact hnothing (adds_withCommand d entry args) nofun
  | mountedSecrets => exact mountsAt_of_mountSecrets h
  | hadoop =>
    have hdir : userLibDir ≠ hadoopDirInPod := by decide
    have hnone : ¬ MountsLibraries p .hadoop := nofun
    obtain ⟨-, hadds⟩ | ⟨_, -, hadds⟩ := mountHadoop_ok h
    · exact hnothing hadds hnone
    · simp [hadds.mountsAt_iff, hdir, hnone]
  | kerberos =>
    have hnone : ¬ MountsLibraries p .kerberos := nofun
    rw [mountsAt_of_mountKerberos h, or_iff_left hnone]
  | flinkConf => exact mountsAt_of_mountFlinkConf h
  | userLib => exact absurd rfl hstep

theorem mountsAt_of_compose {steps : List Step} (hsteps : .userLib ∉ steps)
    (h : compose p host steps d = .ok (d', rs)) :
    d'.MountsAt userLibDir ↔ d.MountsAt userLibDir ∨ ∃ step ∈ steps, MountsLibraries p step := by
  induction steps generalizing d rs with
  | nil =>
    obtain ⟨rfl, -⟩ := Prod.mk.inj (Except.ok.inj h)
    simp
  | cons step steps ih =>
    obtain ⟨next, _, _, hdecorate, -, hrest, -⟩ := compose_cons_ok h
    have hstep : step ≠ .userLib := fun heq => hsteps (heq ▸ List.mem_cons_self)
    rw [ih (fun hmem => hsteps (List.mem_cons_of_mem step hmem)) hrest,
      mountsAt_of_decorate hstep hdecorate, or_assoc]
    simp

/-! ## Compositions -/

variable {early late : List Step} {last : PodDraft}

theorem late_eq_nil {role : Role} (h : chain role = early ++ .userLib :: late) : late = [] := by
  have hlast : (chain role).getLast? = some .userLib := by cases role <;> rfl
  have hnodup := nodup_chain role
  rw [h] at hlast hnodup
  rcases List.eq_nil_or_concat late with rfl | ⟨init, step, rfl⟩
  · rfl
  · rw [List.concat_eq_append] at hlast hnodup
    rw [List.getLast?_append, List.getLast?_cons, List.getLast?_concat] at hlast
    obtain rfl := Option.some.inj hlast
    rw [List.nodup_middle, List.nodup_cons] at hnodup
    exact absurd (by simp) hnodup.1

/-- **Steps do not take each other's volumes.** What a step of a role finds taken is taken in the
template. -/
theorem clash_transfer (hchain : chain p.role = early ++ step :: late)
    (h : compose p host early template = .ok (d, rs)) :
    Clash p host d (d.MountsAt userLibDir) step fault ↔
      Clash p host template (MountedBefore p template) step fault := by
  have hnodup := nodup_chain p.role
  rw [hchain, List.nodup_middle, List.nodup_cons, List.mem_append, not_or] at hnodup
  obtain ⟨⟨hearly, -⟩, -⟩ := hnodup
  obtain ⟨volumes, mounts, hadds⟩ := addsOwn_of_compose h
  have hvolume (name : String) (howner : owner name = step) :
      d.HasVolume name ↔ template.HasVolume name := by
    -- Every step occurs once, so that the steps before this one own other names.
    rw [hadds.adds.hasVolume_iff, or_iff_left]
    intro hadded
    obtain ⟨v, hv, rfl⟩ := List.mem_map.1 hadded
    exact hearly (howner ▸ hadds.owned v hv)
  have hmounted (hlibraries : step = .userLib) :
      d.MountsAt userLibDir ↔ MountedBefore p template := by
    subst hlibraries
    rw [mountsAt_of_compose hearly h, MountedBefore]
    refine or_congr_right ⟨fun ⟨s, _, hs⟩ => ⟨s, hs⟩, fun ⟨s, hs⟩ => ⟨s, ?_, hs⟩⟩
    -- The steps that mount at the directory are of the chain, and before its last step.
    have hmem : s ∈ chain p.role ∧ s ≠ .userLib := by
      cases hs <;> cases p.role <;> decide
    rw [hchain, late_eq_nil hchain, List.mem_append, List.mem_singleton] at hmem
    exact hmem.1.resolve_right hmem.2
  constructor
  · intro hclash
    exact hclash.congr (fun name howner => (hvolume name howner).1)
      (fun hlibraries => (hmounted hlibraries).2)
  · intro hclash
    exact hclash.congr (fun name howner => (hvolume name howner).2)
      (fun hlibraries => (hmounted hlibraries).1)

theorem not_clash_of_compose (h : compose p host (chain p.role) template = .ok (last, rs)) :
    ¬ Clash p host template (MountedBefore p template) step fault := by
  intro hclash
  obtain ⟨early, late, hchain⟩ := List.append_of_mem (mem_chain_of_clash hclash p.role)
  rw [hchain] at h
  obtain ⟨d, _, _, hearly, hrest, -⟩ := compose_append_ok h
  obtain ⟨d', _, _, hdecorate, -, -, -⟩ := compose_cons_ok hrest
  exact not_clash_of_decorate hdecorate ((clash_transfer hchain hearly).2 hclash)

/-- A composition fails for a volume that is taken in the template, or for another reason at one of
its pods. -/
theorem clash_of_compose {e : Failure} (h : compose p host (chain p.role) template = .error e) :
    (∃ c step, e = .configuration c ∧
      Clash p host template (MountedBefore p template) step c.fault) ∨
    ∃ early d rs, compose p host early template = .ok (d, rs) ∧ OtherReason p host d e := by
  obtain ⟨early, step, late, d, rs, hchain, hearly, hfails⟩ := exists_failing_step h
  have hstep : step ∈ chain p.role := hchain ▸ List.mem_append_right early List.mem_cons_self
  obtain hdecorate | hresources := hfails
  · cases decorate_fails hstep e hdecorate with
    | other hother => exact .inr ⟨early, d, rs, hearly, hother⟩
    | clash he hclash => exact .inl ⟨_, step, he, (clash_transfer hchain hearly).1 hclash⟩
  · exact .inr ⟨early, d, rs, hearly, resources_fails hstep e hresources⟩

theorem not_isVolumeConflict_of_other {e : Failure} (h : OtherReason p host d e) :
    ¬ e.IsVolumeConflict := by
  intro ⟨c, he, hconcerns⟩
  subst he
  rcases h with ⟨c', he', hconcerns'⟩ | hforeign
  · obtain rfl := Failure.configuration.inj he'
    rw [hconcerns] at hconcerns'
    cases hconcerns'
  · cases hforeign with
    | memory _ hlarge => cases hlarge

/-- **Volume conflicts are found exactly.** A composition that fails for volumes at most fails if
a secret's volume is reserved or in the template, or if the template has the volume of a step that
mounts something, and names it; a step after the secrets never fails for a secret. A composition
that succeeds adds new volumes of different names, and mounts of these. -/
theorem compose_conflict_iff
    (hvolumes : ∀ e, compose p host (chain p.role) template = .error e → e.IsVolumeConflict) :
    ((∃ c, compose p host (chain p.role) template = .error (.configuration c)) ↔
      ∃ step fault, Clash p host template (MountedBefore p template) step fault) ∧
    (∀ c v, compose p host (chain p.role) template = .error (.configuration c) →
      c.fault = .volumeTaken v → template.HasVolume v) ∧
    ∀ last rs, compose p host (chain p.role) template = .ok (last, rs) →
      ∃ volumes mounts, template.Adds last volumes mounts ∧ template.Fresh volumes ∧
        ∀ m ∈ mounts, last.HasVolume m.name := by
  -- Any other reason is excluded by the hypothesis: each failure comes with its clash.
  have hclash (e : Failure) (he : compose p host (chain p.role) template = .error e) :
      ∃ c step, e = .configuration c ∧
        Clash p host template (MountedBefore p template) step c.fault :=
    (clash_of_compose he).resolve_right fun ⟨_, _, _, _, hother⟩ =>
      not_isVolumeConflict_of_other hother (hvolumes e he)
  refine ⟨⟨fun ⟨c, hc⟩ => ?_, fun ⟨step, fault, htaken⟩ => ?_⟩, fun c v hc hv => ?_,
    fun last rs h => ?_⟩
  · obtain ⟨c', step, -, htaken⟩ := hclash _ hc
    exact ⟨step, c'.fault, htaken⟩
  · cases hresult : compose p host (chain p.role) template with
    | ok result => exact absurd htaken (not_clash_of_compose hresult)
    | error e =>
      obtain ⟨c, _, rfl, -⟩ := hclash e hresult
      exact ⟨c, rfl⟩
  · obtain ⟨c', step, heq, htaken⟩ := hclash _ hc
    obtain rfl := Failure.configuration.inj heq
    rw [hv] at htaken
    cases htaken <;> assumption
  · obtain ⟨volumes, mounts, hadds⟩ := addsOwn_of_compose h
    refine ⟨volumes, mounts, hadds.adds, hadds.fresh, fun m hm => ?_⟩
    exact (hadds.adds.hasVolume_iff m.name).2 (.inr (hadds.mounted m hm))

/-- A template with a volume of the name that libraries have, mounted elsewhere. -/
def libraryTemplate : PodDraft where
  spec := { containers := [], volumes := some [some { name := userLibVolume }] }
  main := {
    name := mainContainerName
    volumeMounts := some [some { name := userLibVolume, mountPath := "/libraries" }] }

def libraryParameters : Parameters where
  role := .jobManager
  conf := ⟨.ofEntries [(Options.clusterId.key, "demo"), (Options.clusterMode.key, "application")]⟩
  clusterId := "demo"

theorem compose_conflict_iff_libraries :
    (∀ e, compose libraryParameters .bare (chain .jobManager) libraryTemplate = .error e →
      e.IsVolumeConflict) ∧
    ∃ c, compose libraryParameters .bare (chain .jobManager) libraryTemplate =
      .error (.configuration c) := by
  have herror : compose libraryParameters .bare (chain .jobManager) libraryTemplate =
      .error (.configuration
        ⟨.volumeTaken userLibVolume, some Options.clusterMode.key, some "demo"⟩) := by
    decide +kernel
  have hvolumes : ∀ e, compose libraryParameters .bare (chain libraryParameters.role)
      libraryTemplate = .error e → e.IsVolumeConflict := by
    intro e he
    rw [← Except.error.inj (herror.symm.trans he)]
    exact ⟨_, rfl, rfl⟩
  have happlication : libraryParameters.isApplication = .ok true := by decide +kernel
  have hfree : ¬ MountedBefore libraryParameters libraryTemplate := by
    intro hmounted
    rcases hmounted with ⟨m, hm, hpath⟩ | ⟨step, hstep⟩
    · rw [Option.some.inj (List.mem_singleton.1 hm)] at hpath
      exact absurd hpath (by decide)
    · cases hstep with
      | secret hsecrets hs =>
        have hnone : libraryParameters.secrets = .ok .empty := by decide +kernel
        obtain rfl := Except.ok.inj (hnone.symm.trans hsecrets)
        cases hs
      | flinkConf hdir =>
        have hother : libraryParameters.flinkConfDir ≠ .ok userLibDir := by decide +kernel
        exact hother hdir
  have htaken : libraryTemplate.HasVolume userLibVolume := ⟨_, List.mem_singleton_self _, rfl⟩
  exact ⟨hvolumes, (compose_conflict_iff hvolumes).1.2
    ⟨.userLib, _, .userLib happlication hfree htaken⟩⟩

end Step

end FlinkCluster
