import FlinkCluster.Parameters
import FlinkCluster.Proofs.Outcome

/-!
# What computations fail for

`Outcome.Fails P x` says that whatever `x` fails with has the property `P`; it is proved along the
computation (`Outcome.Fails.bind`). A refusal (`Failure.IsRefusal`) is a configuration error that
does not concern the volumes of a pod.

* `Kind.refuses_read`, `Configuration.refuses_find?`, `Configuration.refuses_get`: reading a
  setting fails with a refusal only, and with it all parameters of a role.
* `Host.readText_fails`, `Host.readTexts_fails`: text files also fail for what is not UTF-8 in them
  and for the character NUL in their paths.
-/

set_option autoImplicit false

namespace FlinkCluster

/-! ## Failures -/

/-- A fault of a volume that the pod, or the cluster's steps, have already. -/
def ConfigurationFault.concernsVolumes : ConfigurationFault → Bool
  | .volumeTaken _ | .secretVolumeTaken _ _ => true
  | _ => false

namespace Failure

/-- The configuration is refused for a fault of a volume. -/
def IsVolumeConflict (e : Failure) : Prop :=
  ∃ c, e = .configuration c ∧ c.fault.concernsVolumes = true

/-- The configuration is refused for another fault than one of a volume. -/
def IsRefusal (e : Failure) : Prop :=
  ∃ c, e = .configuration c ∧ c.fault.concernsVolumes = false

end Failure

namespace Outcome

variable {α β : Type} {P Q : Failure → Prop} {x : Outcome α}

/-- Whatever the computation fails with has the property. -/
def Fails (P : Failure → Prop) (x : Outcome α) : Prop := ∀ e, x = .error e → P e

theorem fails_ok (a : α) : Fails P (.ok a) := nofun

theorem fails_error {e : Failure} (h : P e) : Fails P (.error e : Outcome α) := by
  intro e' he
  rwa [← Except.error.inj he]

theorem Fails.mono (h : Fails P x) (hPQ : ∀ e, P e → Q e) : Fails Q x := fun e he => hPQ e (h e he)

/-- A sequence fails in its first part or in its second. -/
theorem bind_error {f : α → Outcome β} {e : Failure} (h : x >>= f = .error e) :
    x = .error e ∨ ∃ a, x = .ok a ∧ f a = .error e := by
  cases x with
  | ok a => exact .inr ⟨a, rfl, h⟩
  | error e' => exact .inl (congrArg Except.error (Except.error.inj h))

theorem Fails.bind {f : α → Outcome β} (h : Fails P x) (hf : ∀ a, x = .ok a → Fails P (f a)) :
    Fails P (x >>= f) := by
  intro e he
  obtain hx | ⟨a, hx, ha⟩ := bind_error he
  · exact h e hx
  · exact hf a hx e ha

theorem Fails.map {f : α → β} (h : Fails P x) : Fails P (x.map f) := by
  intro e he
  cases x with
  | ok a => cases he
  | error e' => exact h e (congrArg Except.error (Except.error.inj he))

theorem fails_mapM {f : α → Outcome β} {xs : List α} (h : ∀ a ∈ xs, Fails P (f a)) :
    Fails P (xs.mapM f) := by
  induction xs with
  | nil => exact fails_ok []
  | cons a xs ih =>
    rw [List.mapM_cons]
    refine (h a List.mem_cons_self).bind fun b _ => ?_
    exact (ih fun a' ha' => h a' (List.mem_cons_of_mem a ha')).bind fun bs _ => fails_ok _

theorem fails_forM {f : α → Outcome PUnit} {xs : List α} (h : ∀ a ∈ xs, Fails P (f a)) :
    Fails P (xs.forM f) := by
  induction xs with
  | nil => exact fails_ok _
  | cons a xs ih =>
    change Fails P (f a >>= fun _ => xs.forM f)
    exact (h a List.mem_cons_self).bind fun _ _ => ih fun a' ha' =>
      h a' (List.mem_cons_of_mem a ha')

theorem fails_foldlM {f : β → α → Outcome β} {xs : List α} (h : ∀ b, ∀ a ∈ xs, Fails P (f b a))
    (b : β) : Fails P (xs.foldlM f b) := by
  induction xs generalizing b with
  | nil => exact fails_ok b
  | cons a xs ih =>
    rw [List.foldlM_cons]
    exact (h b a List.mem_cons_self).bind fun b' _ =>
      ih (fun b a' ha' => h b a' (List.mem_cons_of_mem a ha')) b'

abbrev Refuses (x : Outcome α) : Prop := Fails Failure.IsRefusal x

theorem refuses_misconfigured {fault : ConfigurationFault} {key clusterId : Option String}
    (h : fault.concernsVolumes = false) :
    Refuses (misconfigured fault key clusterId : Outcome α) :=
  fails_error ⟨⟨fault, key, clusterId⟩, rfl, h⟩

end Outcome

/-! ## Settings -/

open Outcome

theorem refuses_readMap (key raw : String) : Refuses (readMap key raw) := by
  refine fails_foldlM (fun t entry _ => ?_) _
  unfold readEntry
  split
  · exact fails_ok _
  · exact refuses_misconfigured rfl

theorem Kind.refuses_orUnreadable {α : Type} (key raw : String) (k : Kind) (a? : Option α) :
    Refuses (Kind.read.orUnreadable key raw k a?) := by
  cases a? with
  | none => exact refuses_misconfigured rfl
  | some a => exact fails_ok a

/-- A stored text that cannot be read is refused, whatever kind it is read as. -/
theorem Kind.refuses_read (key raw : String) (k : Kind) : Refuses (k.read key raw) := by
  cases k <;> unfold Kind.read
  case text | list => exact fails_ok _
  case integer | number | flag => exact refuses_orUnreadable key raw _ _
  case map => exact refuses_readMap key raw
  case maps => exact fails_mapM fun piece _ => refuses_readMap key piece

namespace Configuration

variable {k : Kind} (conf : Configuration)

theorem refuses_find? (s : Setting k) : Refuses (conf.find? s) := by
  unfold find?
  split
  · exact (k.refuses_read _ _).map
  · exact fails_ok none

theorem refuses_get (s : Preset k) : Refuses (conf.get s) := (conf.refuses_find? s.toSetting).map

end Configuration

namespace Parameters

variable (p : Parameters)

theorem refuses_only {α : Type} {role : Role} {name : String} {x : Outcome α}
    (hrole : p.role = role) (h : Refuses x) : Refuses (p.only role name x) := by
  rwa [only, if_pos hrole]

theorem refuses_environmentSecrets : Refuses p.environmentSecrets := by
  refine (p.conf.refuses_get _).bind fun refs _ => Fails.bind (fails_forM fun ref _ => ?_)
    fun _ _ => fails_ok refs
  dsimp only
  split
  · exact fails_ok _
  · exact refuses_misconfigured rfl

theorem refuses_highAvailability : Refuses p.highAvailability :=
  Fails.map (p.conf.refuses_get Options.highAvailability)

theorem refuses_isApplication : Refuses p.isApplication := by
  refine Fails.map ((p.conf.refuses_get _).bind fun mode _ => ?_)
  dsimp only
  split
  · exact fails_ok _
  · exact refuses_misconfigured rfl

theorem refuses_exposedType (hrole : p.role = .jobManager) : Refuses p.exposedType := by
  refine p.refuses_only hrole ((p.conf.refuses_get _).bind fun raw _ => ?_)
  split
  · exact fails_ok _
  · exact refuses_misconfigured rfl

theorem refuses_labels : Refuses p.labels := (p.conf.refuses_get _).map

theorem refuses_jobManagerReplicas : Refuses p.jobManagerReplicas := by
  refine (p.conf.refuses_get _).bind fun replicas _ => ?_
  split
  · exact refuses_misconfigured rfl
  split
  · refine p.refuses_highAvailability.bind fun available _ => ?_
    split
    · exact fails_ok replicas
    · exact refuses_misconfigured rfl
  · exact fails_ok replicas

end Parameters

/-! ## Files -/

namespace Host

variable (host : Host)

/-- The file at a path is not UTF-8. -/
def Undecodable (path : String) (fault : Text.Utf8Error) : Prop :=
  ∃ bytes, host.resolve (Text.normalPath path) = .ok (.file bytes) ∧
    Text.Utf8.decode bytes = .error fault

/-- The path holds the character NUL. -/
def HasNul (path : String) : Prop := Char.ofNat 0 ∈ path.toList

/-- Bytes cannot be read for a reason of the file system, or for a NUL in the path. -/
theorem readBytes_fails {path key clusterId : String} {wrap : FileError → ConfigurationFault}
    (hwrap : ∀ error, (wrap error).concernsVolumes = false) :
    Fails (fun e => e.IsRefusal ∨ (e = .nulInPath ∧ HasNul path))
      (host.readBytes path wrap key clusterId) := by
  unfold readBytes
  dsimp only
  split
  · rename_i hnul
    exact fails_error (.inr ⟨rfl, List.contains_iff_mem.1 hnul⟩)
  · split
    · exact fails_ok _
    · exact (refuses_misconfigured (hwrap _)).mono fun _ => .inl
    · exact (refuses_misconfigured (hwrap _)).mono fun _ => .inl

theorem resolve_of_readBytes {path key clusterId : String} {wrap : FileError → ConfigurationFault}
    {bytes : List UInt8} (h : host.readBytes path wrap key clusterId = .ok bytes) :
    host.resolve (Text.normalPath path) = .ok (.file bytes) := by
  unfold readBytes at h
  dsimp only at h
  split at h
  · cases h
  · split at h
    · rename_i hfile
      rw [hfile, Except.ok.inj h]
    · exact absurd h misconfigured_ne_ok
    · exact absurd h misconfigured_ne_ok

/-- A text cannot be read for the same reasons as bytes, or because it is not UTF-8. -/
theorem readText_fails (path key clusterId : String) :
    Fails (fun e => e.IsRefusal ∨ (e = .nulInPath ∧ HasNul path) ∨
      ∃ fault, e = .undecodable fault ∧ host.Undecodable path fault)
      (host.readText path key clusterId) := by
  refine Fails.bind ((host.readBytes_fails fun _ => rfl).mono fun e => ?_) fun bytes hbytes => ?_
  · exact Or.imp_right .inl
  · split
    · exact fails_ok _
    · rename_i fault hdecode
      exact fails_error (.inr (.inr ⟨fault, rfl, bytes, host.resolve_of_readBytes hbytes, hdecode⟩))

/-- Texts of a directory are read only where there is a file, so that no path holds a NUL. -/
theorem readTexts_fails (dir : String) (names : List String) (key clusterId : String) :
    Fails (fun e => e.IsRefusal ∨ ∃ name ∈ names, ∃ fault, e = .undecodable fault ∧
      host.Undecodable (Text.joinPath dir name) fault)
      (host.readTexts dir names key clusterId) := by
  refine fails_foldlM (fun files name hname => ?_) _
  dsimp only
  split
  · rename_i hfile
    refine ((host.readText_fails _ key clusterId).mono fun e he => ?_).map
    obtain he | ⟨-, hnul⟩ | ⟨fault, rfl, hfault⟩ := he
    · exact .inl he
    · -- A path with a NUL has been found to be no file.
      unfold isFile at hfile
      split at hfile
      · rw [Bool.not_eq_true', ← Bool.not_eq_true, List.contains_iff_mem] at hfile
        exact absurd hnul hfile
      · cases hfile
    · exact .inr ⟨name, hname, fault, rfl, hfault⟩
  · exact fails_ok files

end Host

end FlinkCluster
