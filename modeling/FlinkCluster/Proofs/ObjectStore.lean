import FlinkCluster.Cluster
import Mathlib.Logic.Function.Basic

/-!
# Servers that keep objects

`ObjectStore server view`: the state of the server holds at most one object at each place, which
`view` reads; creating stores an object where there is none, patching replaces one under its uid,
reading leaves everything as it is, and any of them may be refused without effect. A state is calm
(`Undisturbed`) where none is refused without need. The cluster in memory is such a server
(`Cluster.objectStore`), undisturbed while no call is made to fail (`Cluster.undisturbed`).

`ReadableStore server view due` says more of reading: which calls are refused, and that a stateful
set is missing where there is none (`Cluster.readableStore`).
-/

set_option autoImplicit false

namespace FlinkCluster

open Kubernetes Cluster

variable {σ τ : Type}

/-! ## Laws -/

/-- The answers to creating an object, with the state after them. -/
inductive Created (view : σ → Place → Option Resource) (ns : String) (body : Resource) (w : σ) :
    Outcome Resource × σ → Prop
  | stored {uid : String} {w' : σ} :
    view w (placeOf ns body) = none →
    view w' = Function.update (view w) (placeOf ns body) (some (settled ns uid body)) →
    Created view ns body w (.ok (settled ns uid body), w')
  | refused {e : ApiError} {w' : σ} :
    view w' = view w → Created view ns body w (.error (.api e), w')

/-- The answers to patching the object of a name, with the state after them. -/
inductive Patched (view : σ → Place → Option Resource) (ns name : String) (body : Resource)
    (w : σ) : Outcome Resource × σ → Prop
  | replaced {old : Resource} {uid : String} {w' : σ} :
    view w ⟨body.kind, ns, some name⟩ = some old →
    (∀ u, old.metadata.uid = some u → uid = u) →
    view w' = Function.update (view w) ⟨body.kind, ns, some name⟩ (some (settled ns uid body)) →
    Patched view ns name body w (.ok (settled ns uid body), w')
  | refused {e : ApiError} {w' : σ} :
    view w' = view w → Patched view ns name body w (.error (.api e), w')

/-- The answers to reading the stateful set of a name, with the state after them. -/
inductive ReadBack (view : σ → Place → Option Resource) (ns name : String) (w : σ) :
    Outcome StatefulSet × σ → Prop
  | found {s : StatefulSet} {w' : σ} :
    view w ⟨.statefulSet, ns, some name⟩ = some (.statefulSet s) → view w' = view w →
    ReadBack view ns name w (.ok s, w')
  | refused {e : ApiError} {w' : σ} :
    view w' = view w → ReadBack view ns name w (.error (.api e), w')

/-- A server that keeps the objects which `view` reads. -/
structure ObjectStore (server : Server σ τ) (view : σ → Place → Option Resource) : Prop where
  create : ∀ ns body w, Created view ns body w (server.respond (.create ns body) w)
  patch : ∀ ns name body w, Patched view ns name body w (server.respond (.patch ns name body) w)
  read : ∀ ns name w, ReadBack view ns name w (server.respond (.readStatefulSet ns name) w)

/-- In calm states, which lead to calm ones, creating is refused only where there is an object, as
a conflict, and patching and reading only where there is none. -/
structure Undisturbed (server : Server σ τ) (view : σ → Place → Option Resource)
    (calm : σ → Prop) : Prop where
  create_free : ∀ ns body w, calm w → view w (placeOf ns body) = none →
    (server.respond (.create ns body) w).1.isOk
  create_conflict : ∀ ns body w e, calm w → (server.respond (.create ns body) w).1 = .error e →
    e.isConflict
  create_calm : ∀ ns body w, calm w → calm (server.respond (.create ns body) w).2
  patch_taken : ∀ ns name body w, calm w → (view w ⟨body.kind, ns, some name⟩).isSome →
    (server.respond (.patch ns name body) w).1.isOk
  patch_calm : ∀ ns name body w, calm w → calm (server.respond (.patch ns name body) w).2
  read_taken : ∀ ns name w s, calm w →
    view w ⟨.statefulSet, ns, some name⟩ = some (.statefulSet s) →
    (server.respond (.readStatefulSet ns name) w).1.isOk

/-! ## Reading stateful sets -/

/-- The place of the stateful set of a name. -/
abbrev Place.ofStatefulSet (ns name : String) : Place := ⟨.statefulSet, ns, some name⟩

/-- The stateful set at a place, if there is one. -/
def statefulSetIn (objects : Place → Option Resource) (p : Place) : Option StatefulSet :=
  match objects p with
  | some (.statefulSet s) => some s
  | _ => none

/-- A server that refuses the calls for which a refusal is `due`, without effect, and of the others
answers those that read a stateful set with the one that `view` reads. -/
structure ReadableStore (server : Server σ τ) (view : σ → Place → Option Resource)
    (due : σ → Request → Option ApiError) : Prop where
  refused : ∀ r w e, due w r = some e →
    ∃ w', server.respond r w = (.error (.api e), w') ∧ view w' = view w
  found : ∀ ns name w s, due w (.readStatefulSet ns name) = none →
    statefulSetIn (view w) (.ofStatefulSet ns name) = some s →
    ∃ w', server.respond (.readStatefulSet ns name) w = (.ok s, w') ∧ view w' = view w
  missing : ∀ ns name w, due w (.readStatefulSet ns name) = none →
    statefulSetIn (view w) (.ofStatefulSet ns name) = none →
    ∃ e w', server.respond (.readStatefulSet ns name) w = (.error e, w') ∧ e.isMissing ∧
      view w' = view w

namespace ReadableStore

variable {server : Server σ τ} {view : σ → Place → Option Resource}
  {due : σ → Request → Option ApiError} {ns name : String} {w w' : σ}

/-- A stateful set that is read is there. -/
theorem of_read_ok (laws : ReadableStore server view due) {s : StatefulSet}
    (h : server.respond (.readStatefulSet ns name) w = (.ok s, w')) :
    due w (.readStatefulSet ns name) = none ∧
      statefulSetIn (view w) (.ofStatefulSet ns name) = some s ∧ view w' = view w := by
  cases hdue : due w (.readStatefulSet ns name) with
  | some e =>
    obtain ⟨_, hrefused, -⟩ := laws.refused _ w e hdue
    cases h.symm.trans hrefused
  | none =>
    cases hset : statefulSetIn (view w) (.ofStatefulSet ns name) with
    | some s' =>
      obtain ⟨_, hfound, hview⟩ := laws.found ns name w s' hdue hset
      cases h.symm.trans hfound
      exact ⟨rfl, rfl, hview⟩
    | none =>
      obtain ⟨_, _, hmissing, -⟩ := laws.missing ns name w hdue hset
      cases h.symm.trans hmissing

/-- A stateful set that is not read is refused, or missing. -/
theorem of_read_error (laws : ReadableStore server view due) {e : Failure}
    (h : server.respond (.readStatefulSet ns name) w = (.error e, w')) :
    view w' = view w ∧ ((∃ refusal, due w (.readStatefulSet ns name) = some refusal ∧
        e = .api refusal) ∨ due w (.readStatefulSet ns name) = none ∧
      statefulSetIn (view w) (.ofStatefulSet ns name) = none ∧ e.isMissing = true) := by
  cases hdue : due w (.readStatefulSet ns name) with
  | some refusal =>
    obtain ⟨_, hrefused, hview⟩ := laws.refused _ w refusal hdue
    cases h.symm.trans hrefused
    exact ⟨hview, .inl ⟨refusal, rfl, rfl⟩⟩
  | none =>
    cases hset : statefulSetIn (view w) (.ofStatefulSet ns name) with
    | some s =>
      obtain ⟨_, hfound, -⟩ := laws.found ns name w s hdue hset
      cases h.symm.trans hfound
    | none =>
      obtain ⟨_, _, hread, hmissing, hview⟩ := laws.missing ns name w hdue hset
      cases h.symm.trans hread
      exact ⟨hview, .inr ⟨rfl, rfl, hmissing⟩⟩

end ReadableStore

/-! ## The cluster in memory -/

namespace Cluster

theorem get?_set (c : Cluster) (p : Place) (r : Resource) :
    (c.set p r).get? = Function.update c.get? p (some r) := by
  funext q
  rw [get?, set, Table.findEntry_setEntry, Function.update_apply]
  rfl

theorem store_spec (c : Cluster) (ns : String) (r : Resource) :
    ∃ uid, (c.store ns r).1 = settled ns uid r ∧
      (c.store ns r).2.get? = Function.update c.get? (placeOf ns r) (some (settled ns uid r)) ∧
      (c.store ns r).2.faults = c.faults := by
  unfold store
  cases huid : c.uidAt? (placeOf ns r) r with
  | some uid =>
    simp only [huid]
    exact ⟨uid, rfl, get?_set .., rfl⟩
  | none =>
    simp only [huid]
    exact ⟨uidAfter c.uids, rfl, c.get?_set .., rfl⟩

theorem respond_of_faults_eq_nil {c : Cluster} (h : c.faults = []) (r : Request) :
    respond r c = c.answer r := by
  rw [respond, h]
  rfl

/-- A call is refused without effect, or answered. -/
theorem respond_cases (c : Cluster) (r : Request) :
    (∃ e c', respond r c = (.error (.api e), c') ∧ c'.get? = c.get?) ∨
      respond r c = c.answer r := by
  unfold respond
  cases takeFault r.operation c.faults with
  | none => exact .inr rfl
  | some taken => exact .inl ⟨taken.1, _, rfl, rfl⟩

/-- The refusal that is due for a request. -/
def due (c : Cluster) (r : Request) : Option ApiError :=
  (takeFault r.operation c.faults).map Prod.fst

theorem respond_of_due {c : Cluster} {r : Request} {e : ApiError} (h : c.due r = some e) :
    ∃ c', respond r c = (.error (.api e), c') ∧ c'.get? = c.get? := by
  obtain ⟨⟨_, faults⟩, htaken, rfl⟩ := Option.map_eq_some_iff.1 h
  unfold respond
  rw [htaken]
  exact ⟨_, rfl, rfl⟩

theorem respond_of_not_due {c : Cluster} {r : Request} (h : c.due r = none) :
    respond r c = c.answer r := by
  unfold respond
  rw [Option.map_eq_none_iff.1 h]

theorem answer_create (c : Cluster) (ns : String) (body : Resource) :
    Created get? ns body c (c.answer (.create ns body)) := by
  cases hplace : c.get? (placeOf ns body) with
  | some old =>
    simp only [answer, hplace]
    exact .refused rfl
  | none =>
    obtain ⟨uid, hstored, hview, -⟩ := c.store_spec ns body
    simp only [answer, hplace, hstored]
    exact .stored hplace hview

theorem answer_patch (c : Cluster) (ns name : String) (body : Resource) :
    Patched get? ns name body c (c.answer (.patch ns name body)) := by
  cases hplace : c.get? ⟨body.kind, ns, some name⟩ with
  | none =>
    simp only [answer, hplace]
    exact .refused rfl
  | some old =>
    simp only [answer, hplace]
    exact .replaced hplace (fun u hu => by rw [hu, Option.getD_some]) (get?_set ..)

theorem answer_read (c : Cluster) (ns name : String) :
    ReadBack get? ns name c (c.answer (.readStatefulSet ns name)) := by
  simp only [answer, statefulSet?]
  cases hplace : c.get? ⟨.statefulSet, ns, some name⟩ with
  | none => exact .refused rfl
  | some r =>
    cases r with
    | statefulSet s => exact .found hplace rfl
    | _ => exact .refused rfl

theorem objectStore : ObjectStore server get? where
  create ns body c := by
    change Created get? ns body c (respond (.create ns body) c)
    rcases c.respond_cases (.create ns body) with ⟨e, c', h, hview⟩ | h <;> rw [h]
    · exact .refused hview
    · exact c.answer_create ns body
  patch ns name body c := by
    change Patched get? ns name body c (respond (.patch ns name body) c)
    rcases c.respond_cases (.patch ns name body) with ⟨e, c', h, hview⟩ | h <;> rw [h]
    · exact .refused hview
    · exact c.answer_patch ns name body
  read ns name c := by
    change ReadBack get? ns name c (respond (.readStatefulSet ns name) c)
    rcases c.respond_cases (.readStatefulSet ns name) with ⟨e, c', h, hview⟩ | h <;> rw [h]
    · exact .refused hview
    · exact c.answer_read ns name

theorem statefulSet?_eq (c : Cluster) (p : Place) : c.statefulSet? p = statefulSetIn c.get? p := rfl

theorem readableStore : ReadableStore server get? due where
  refused _ _ _ h := respond_of_due h
  found ns name c s hdue hset := by
    refine ⟨c, ?_, rfl⟩
    change respond (.readStatefulSet ns name) c = _
    rw [respond_of_not_due hdue]
    simp only [answer, statefulSet?_eq, hset]
  missing ns name c hdue hset := by
    refine ⟨.api notFound, c, ?_, rfl, rfl⟩
    change respond (.readStatefulSet ns name) c = _
    rw [respond_of_not_due hdue]
    simp only [answer, statefulSet?_eq, hset]

theorem undisturbed : Undisturbed server get? (fun c => c.faults = []) where
  create_free ns body c hcalm hplace := by
    change (respond (.create ns body) c).1.isOk = true
    simp only [respond_of_faults_eq_nil hcalm, answer, hplace]
    rfl
  create_conflict ns body c e hcalm h := by
    change (respond (.create ns body) c).1 = .error e at h
    rw [respond_of_faults_eq_nil hcalm] at h
    cases hplace : c.get? (placeOf ns body) with
    | none => simp [answer, hplace] at h
    | some old =>
      simp only [answer, hplace] at h
      rw [← Except.error.inj h]
      rfl
  create_calm ns body c hcalm := by
    change (respond (.create ns body) c).2.faults = []
    rw [respond_of_faults_eq_nil hcalm]
    cases hplace : c.get? (placeOf ns body) with
    | none =>
      obtain ⟨_, -, -, hfaults⟩ := c.store_spec ns body
      simp only [answer, hplace, hfaults, hcalm]
    | some old => simp only [answer, hplace, hcalm]
  patch_taken ns name body c hcalm hplace := by
    change (respond (.patch ns name body) c).1.isOk = true
    obtain ⟨old, hplace⟩ := Option.isSome_iff_exists.1 hplace
    simp only [respond_of_faults_eq_nil hcalm, answer, hplace]
    rfl
  patch_calm ns name body c hcalm := by
    change (respond (.patch ns name body) c).2.faults = []
    rw [respond_of_faults_eq_nil hcalm]
    cases hplace : c.get? ⟨body.kind, ns, some name⟩ with
    | none => simp only [answer, hplace, hcalm]
    | some old => simp only [answer, hplace, set, hcalm]
  read_taken ns name c s hcalm hplace := by
    change (respond (.readStatefulSet ns name) c).1.isOk = true
    simp only [respond_of_faults_eq_nil hcalm, answer, statefulSet?, hplace]
    rfl

end Cluster

end FlinkCluster
