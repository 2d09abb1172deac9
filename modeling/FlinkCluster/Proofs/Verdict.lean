import FlinkCluster.Proofs.Footprint
import FlinkCluster.Proofs.StatusHistory

/-!
# The verdict on a job manager

What an observation comes to, for any stateful set, any pods and any status before.

* `Observation.signs`: what is judged, in this order: the conditions of the stateful set, then pod
  by pod the init containers and the containers. `Observation.found_failure?`: a failure is that of
  the first sign that does not pass.
* `Observation.judged_verdict`: when a failure is found, which, and the state without one.
* `ListingStore server view due sound`: a server that lists the pods whose labels contain those that
  a selector asks for. The cluster in memory is one (`Cluster.listingStore`).
* `Service.observe_verdict`: what is asked for, and what comes of it. The id of the cluster has no
  comma, as no name of an object has.
-/

set_option autoImplicit false

namespace FlinkCluster

open Kubernetes Cluster

namespace Observation

/-! ## Signs -/

/-- What is judged: a condition or the status of a container, or a null in the place of one. -/
inductive Sign where
  | condition (c : Option Condition)
  | container (c : Option ContainerStatus)

/-- The signs of a pod: its init containers, and after them its containers. -/
def podSigns (p : Pod) : List Sign :=
  ((p.status.bind (·.initContainerStatuses)).getD []).map .container ++
    ((p.status.bind (·.containerStatuses)).getD []).map .container

/-- The conditions of a stateful set, and after them the signs of each pod. -/
def signs (s : StatefulSet) (pods : List Pod) : List Sign :=
  ((s.status.bind (·.conditions)).getD []).map .condition ++ pods.flatMap podSigns

namespace Sign

/-- The failure that a sign reports, with its message, which is empty where there is none, and its
reason. -/
inductive Fails : Sign → DeploymentFailure → Prop
  | condition {c : Condition} : c.status = "True" →
    c.type = "ReplicaFailure" ∨ c.reason = some "ProgressDeadlineExceeded" →
    Fails (.condition (some c)) ⟨c.message.getD "", c.reason⟩
  | container {c : ContainerStatus} {waiting : WaitingState} {reason : String} :
    c.state.bind (·.waiting) = some waiting → waiting.reason = some reason →
    reason ∈ ["CrashLoopBackOff", "ImagePullBackOff", "ErrImagePull",
      "CreateContainerConfigError", "InvalidImageName"] →
    Fails (.container (some c)) ⟨waiting.message.getD "", waiting.reason⟩

/-- Whether a sign is a null. -/
def IsNull : Sign → Prop
  | .condition c => c = none
  | .container c => c = none

/-- Whether a sign reports nothing. -/
def Passes (x : Sign) : Prop := ¬x.IsNull ∧ ∀ f, ¬x.Fails f

/-- The field of which a null has none. -/
def field : Sign → String
  | .condition _ => "status"
  | .container _ => "state"

/-- The failure of a sign, if it has one. -/
def judge : Sign → Outcome (Option DeploymentFailure)
  | .condition (some c) => .ok (conditionFailure? c)
  | .container (some c) => .ok (containerFailure? c)
  | x => .error (.absentObject x.field)

theorem conditionFailure?_eq (c : Condition) :
    conditionFailure? c =
      if c.status = "True" ∧ (c.type = "ReplicaFailure" ∨ c.reason = some "ProgressDeadlineExceeded")
      then some (.of c.message c.reason) else none := by
  simp only [conditionFailure?, failedTypes, failedReasons, List.contains_iff_mem, Bool.and_eq_true,
    Bool.or_eq_true, decide_eq_true_eq, List.mem_singleton, Option.any_eq_true, exists_eq_right]

theorem Fails.judge {x : Sign} {f : DeploymentFailure} (h : x.Fails f) :
    x.judge = .ok (some f) := by
  cases h with
  | condition hstatus hfailed =>
    rw [Sign.judge, conditionFailure?_eq, if_pos ⟨hstatus, hfailed⟩, DeploymentFailure.of]
  | container hwaiting hreason hmem =>
    have hfailed : waitingFailures.contains _ = true := List.contains_iff_mem.2 hmem
    simp only [Sign.judge, containerFailure?, DeploymentFailure.of, hwaiting, hreason,
      Option.any_some, hfailed, if_true]

theorem IsNull.judge {x : Sign} (h : x.IsNull) : x.judge = .error (.absentObject x.field) := by
  cases x <;> cases h <;> rfl

theorem fails_of_judge {x : Sign} {f : DeploymentFailure} (h : x.judge = .ok (some f)) :
    x.Fails f := by
  rcases x with (_ | c) | (_ | c)
  · cases h
  · have h := Except.ok.inj h
    rw [conditionFailure?_eq] at h
    split at h
    · rename_i hfailed
      obtain rfl := Option.some.inj h
      exact .condition hfailed.1 hfailed.2
    · cases h
  · cases h
  · have h := Except.ok.inj h
    unfold containerFailure? at h
    split at h
    · rename_i w hwaiting
      split at h
      · rename_i hfailed
        obtain rfl := Option.some.inj h
        obtain ⟨reason, hreason, hmem⟩ := (Option.any_eq_true _ _).1 hfailed
        exact .container hwaiting hreason (List.contains_iff_mem.1 hmem)
      · cases h
    · cases h

theorem Passes.judge {x : Sign} (h : x.Passes) : x.judge = .ok none := by
  cases hjudge : x.judge with
  | error e =>
    rcases x with (_ | c) | (_ | c)
    · exact absurd rfl h.1
    · cases hjudge
    · exact absurd rfl h.1
    · cases hjudge
  | ok f? =>
    cases f? with
    | none => rfl
    | some f => exact absurd (fails_of_judge hjudge) (h.2 f)

/-- A sign is a null, fails or passes. -/
theorem null_or_fails_or_passes (x : Sign) : x.IsNull ∨ (∃ f, x.Fails f) ∨ x.Passes := by
  by_cases hnull : x.IsNull
  · exact .inl hnull
  · by_cases hfails : ∃ f, x.Fails f
    · exact .inr (.inl hfails)
    · exact .inr (.inr ⟨hnull, fun f hf => hfails ⟨f, hf⟩⟩)

end Sign

/-! ## The first failure -/

/-- What the first sign that does not pass comes to. -/
def firstSign? : List Sign → Outcome (Option DeploymentFailure)
  | [] => .ok none
  | x :: xs =>
    match x.judge with
    | .ok none => firstSign? xs
    | found => found

theorem firstSign?_append (xs ys : List Sign) :
    firstSign? (xs ++ ys) =
      match firstSign? xs with
      | .ok none => firstSign? ys
      | found => found := by
  induction xs with
  | nil => rfl
  | cons x xs ih =>
    rw [List.cons_append, firstSign?, firstSign?]
    rcases x.judge with e | _ | f
    · rfl
    · exact ih
    · rfl

/-- The items of a list are judged as the signs that they are. -/
theorem firstFailure?_eq {α : Type} {field : String} {judge : α → Option DeploymentFailure}
    {sign : Option α → Sign} (hnull : (sign none).judge = .error (.absentObject field))
    (hsome : ∀ a, (sign (some a)).judge = .ok (judge a)) (items : List (Option α)) :
    firstFailure? field judge items = firstSign? (items.map sign) := by
  induction items with
  | nil => rfl
  | cons item items ih =>
    rw [List.map_cons, firstSign?]
    cases item with
    | none => rw [hnull, firstFailure?]
    | some a =>
      rw [hsome, firstFailure?, ih]
      cases judge a <;> rfl

theorem podFailure?_eq (p : Pod) : podFailure? p = firstSign? (podSigns p) := by
  have hstatuses : (containerStatuses p).map Sign.container = podSigns p := by
    unfold containerStatuses podSigns
    cases p.status with
    | none => rfl
    | some s => exact List.map_append
  rw [← hstatuses]
  exact firstFailure?_eq rfl (fun _ => rfl) _

theorem firstPodFailure?_eq (pods : List Pod) :
    firstPodFailure? pods = firstSign? (pods.flatMap podSigns) := by
  induction pods with
  | nil => rfl
  | cons p pods ih =>
    rw [firstPodFailure?, List.flatMap_cons, firstSign?_append, podFailure?_eq, ih]
    rcases firstSign? (podSigns p) with e | _ | f <;> rfl

theorem failure?_eq (s : StatefulSet) (pods : List Pod) :
    failure? s pods = firstSign? (signs s pods) := by
  have hset : statefulSetFailure? s =
      firstSign? (((s.status.bind (·.conditions)).getD []).map .condition) :=
    firstFailure?_eq rfl (fun _ => rfl) _
  rw [failure?, signs, firstSign?_append, hset, firstPodFailure?_eq]
  rcases firstSign? (((s.status.bind (·.conditions)).getD []).map .condition) with e | _ | f <;> rfl

theorem firstSign?_of_passes {before : List Sign} (h : ∀ y ∈ before, y.Passes) (xs : List Sign) :
    firstSign? (before ++ xs) = firstSign? xs := by
  induction before with
  | nil => rfl
  | cons y before ih =>
    obtain ⟨hy, hbefore⟩ := List.forall_mem_cons.1 h
    rw [List.cons_append, firstSign?, hy.judge]
    exact ih hbefore

/-- What is found in signs: nothing, or the first of them that does not pass. -/
inductive Found (xs : List Sign) : Outcome (Option DeploymentFailure) → Prop
  | nothing : (∀ x ∈ xs, x.Passes) → Found xs (.ok none)
  | failure {before after : List Sign} {x : Sign} {f : DeploymentFailure} :
    xs = before ++ x :: after → (∀ y ∈ before, y.Passes) → x.Fails f → Found xs (.ok (some f))
  | null {before after : List Sign} {x : Sign} :
    xs = before ++ x :: after → (∀ y ∈ before, y.Passes) → x.IsNull →
    Found xs (.error (.absentObject x.field))

theorem Found.cons {xs : List Sign} {x : Sign} {out : Outcome (Option DeploymentFailure)}
    (hx : x.Passes) (h : Found xs out) : Found (x :: xs) out := by
  cases h with
  | nothing hpass => exact .nothing (List.forall_mem_cons.2 ⟨hx, hpass⟩)
  | @failure before after y _ hxs hbefore hfails =>
    have hcons : x :: xs = (x :: before) ++ y :: after := congrArg (x :: ·) hxs
    exact .failure hcons (List.forall_mem_cons.2 ⟨hx, hbefore⟩) hfails
  | @null before after y hxs hbefore hnull =>
    have hcons : x :: xs = (x :: before) ++ y :: after := congrArg (x :: ·) hxs
    exact .null hcons (List.forall_mem_cons.2 ⟨hx, hbefore⟩) hnull

theorem found_firstSign? (xs : List Sign) : Found xs (firstSign? xs) := by
  induction xs with
  | nil => exact .nothing (List.forall_mem_nil _)
  | cons x xs ih =>
    rw [firstSign?]
    have hhead : x :: xs = [] ++ x :: xs := rfl
    rcases x.null_or_fails_or_passes with hnull | ⟨f, hfails⟩ | hpass
    · rw [hnull.judge]
      exact .null hhead (List.forall_mem_nil _) hnull
    · rw [hfails.judge]
      exact .failure hhead (List.forall_mem_nil _) hfails
    · rw [hpass.judge]
      exact ih.cons hpass

/-- A failure is that of the first sign that does not pass. -/
theorem found_failure? (s : StatefulSet) (pods : List Pod) :
    Found (signs s pods) (failure? s pods) := by
  rw [failure?_eq]
  exact found_firstSign? _

theorem failure?_eq_some_iff {s : StatefulSet} {pods : List Pod} {f : DeploymentFailure} :
    failure? s pods = .ok (some f) ↔ ∃ before x after, signs s pods = before ++ x :: after ∧
      (∀ y ∈ before, y.Passes) ∧ x.Fails f := by
  constructor
  · intro hfailure
    have hfound := found_failure? s pods
    rw [hfailure] at hfound
    cases hfound with
    | failure hsigns hbefore hfails => exact ⟨_, _, _, hsigns, hbefore, hfails⟩
  · rintro ⟨before, x, after, hsigns, hbefore, hfails⟩
    rw [failure?_eq, hsigns, firstSign?_of_passes hbefore, firstSign?, hfails.judge]

/-- Among signs without a null, one fails exactly if a failure is found. -/
theorem Found.failure_iff {xs : List Sign} {out : Outcome (Option DeploymentFailure)}
    (h : Found xs out) (hnull : ∀ x ∈ xs, ¬x.IsNull) :
    (∃ f, out = .ok (some f)) ↔ ∃ x ∈ xs, ∃ f, x.Fails f := by
  cases h with
  | nothing hpass =>
    constructor
    · rintro ⟨f, hf⟩
      cases hf
    · rintro ⟨x, hx, f, hfails⟩
      exact absurd hfails ((hpass x hx).2 f)
  | failure hxs _ hfails =>
    exact ⟨fun _ => ⟨_, hxs ▸ List.mem_append_right _ List.mem_cons_self, _, hfails⟩,
      fun _ => ⟨_, rfl⟩⟩
  | null hxs _ hx =>
    exact absurd hx (hnull _ (hxs ▸ List.mem_append_right _ List.mem_cons_self))

/-! ## Readiness -/

/-- Pods are wanted, and at least as many are ready. None are where nothing is said. -/
def Enough (desired ready : Option Int) : Prop :=
  ∃ n, desired = some n ∧ n ≠ 0 ∧ n ≤ ready.getD 0

theorem atLeast_integer (m n : Int) :
    (Value.integer m).atLeast (.integer n) = .ok (decide (n ≤ m)) := by
  have hrank : Value.rankAtLeast (0, (m : Rat)) (0, (n : Rat)) = decide (n ≤ m) := by
    simp only [Value.rankAtLeast, Rat.intCast_le_intCast, Int.lt_irrefl, decide_false,
      beq_self_eq_true, Bool.true_and, Bool.false_or]
  simp [Value.atLeast, Value.isNumeric, Value.rank?, hrank]

/-- Where no pods are said to be ready, or none, there are none. -/
theorem readyCount_of_integers (ready : Option Int) :
    (((ready.map IntegerField.integer).map (·.toValue)).filter (·.isTruthy)).getD (.integer 0) =
      .integer (ready.getD 0) := by
  cases ready with
  | none => rfl
  | some m =>
    by_cases hm : m = 0
    · subst hm
      rfl
    · have htruthy : (Value.integer m).isTruthy = true := decide_eq_true hm
      exact congrArg (Option.getD · (.integer 0)) (Option.filter_some_pos htruthy)

theorem enoughReady_of_integers (desired ready : Option Int) :
    ∃ enough, enoughReady (desired.map .integer) (ready.map .integer) = .ok enough ∧
      (enough = true ↔ Enough desired ready) := by
  cases desired with
  | none => exact ⟨false, rfl, by simp [Enough]⟩
  | some n =>
    have hcount : enoughReady (some (.integer n)) (ready.map .integer) =
        if (Value.integer n).isTruthy then
          Value.atLeast ((((ready.map IntegerField.integer).map (·.toValue)).filter
            (·.isTruthy)).getD (.integer 0)) (.integer n)
        else .ok false := rfl
    rw [Option.map_some, hcount, readyCount_of_integers, atLeast_integer]
    by_cases hn : n = 0
    · exact ⟨false, if_neg (by simp [Value.isTruthy, hn]), by simp [Enough, hn]⟩
    · exact ⟨decide (n ≤ ready.getD 0), if_pos (by simp [Value.isTruthy, hn]), by simp [Enough, hn]⟩

/-- The state of a job manager without failures. -/
theorem readiness_of_integers {s : StatefulSet} {desired ready : Option Int} (pods : List Pod)
    (hdesired : s.spec.bind (·.replicas) = desired.map .integer)
    (hready : s.status.bind (·.readyReplicas) = ready.map .integer) :
    ∃ state, readiness s pods = .ok state ∧ (state = .ready ↔ Enough desired ready) ∧
      (state = .deployedNotReady ↔ ¬Enough desired ready ∧ pods ≠ []) ∧
      (state = .deploying ↔ ¬Enough desired ready ∧ pods = []) := by
  obtain ⟨enough, hcount, hiff⟩ := enoughReady_of_integers desired ready
  rw [readiness, hdesired, hready, hcount, ← hiff]
  cases enough with
  | true => exact ⟨.ready, rfl, by simp⟩
  | false =>
    cases pods with
    | nil => exact ⟨.deploying, rfl, by simp⟩
    | cons p pods => exact ⟨.deployedNotReady, rfl, by simp⟩

/-! ## Verdicts -/

/-- What a stateful set and pods come to, with a status before, and the status after that. -/
structure Judged (s : StatefulSet) (pods : List Pod) (status : DeploymentStatus)
    (out : Outcome (Except DeploymentFailure JobManagerState)) (after : DeploymentStatus) :
    Prop where
  /-- Without a null among the signs, a failure is found exactly if one of them fails. -/
  fails_iff : (∀ x ∈ signs s pods, ¬x.IsNull) →
    ((∃ f, out = .ok (.error f)) ↔ ∃ x ∈ signs s pods, ∃ f, x.Fails f)
  /-- The failure is that of the first sign that does not pass. -/
  failure_iff : ∀ f, out = .ok (.error f) ↔
    ∃ before x after, signs s pods = before ++ x :: after ∧ (∀ y ∈ before, y.Passes) ∧ x.Fails f
  /-- A failure is the error of the status. -/
  error : ∀ f, out = .ok (.error f) →
    after = { status with jobManager := .error, error := some f.message }
  /-- If all signs pass, the state is by the numbers of replicas and whether there are pods. -/
  state : (∀ x ∈ signs s pods, x.Passes) → ∀ desired ready : Option Int,
    s.spec.bind (·.replicas) = desired.map .integer →
    s.status.bind (·.readyReplicas) = ready.map .integer →
    ∃ state, out = .ok (.ok state) ∧ after = { status with jobManager := state } ∧
      (state = .ready ↔ Enough desired ready) ∧
      (state = .deployedNotReady ↔ ¬Enough desired ready ∧ pods ≠ []) ∧
      (state = .deploying ↔ ¬Enough desired ready ∧ pods = [])
  /-- A null before which all signs pass ends the observation without a verdict. -/
  null : ∀ before x after', signs s pods = before ++ x :: after' → (∀ y ∈ before, y.Passes) →
    x.IsNull → out = .error (.absentObject x.field) ∧ after = status

/-- A failure that is found is the verdict, and nothing else is. -/
theorem verdict_error_iff {s : StatefulSet} {pods : List Pod} {f : DeploymentFailure} :
    verdict s pods = .ok (.error f) ↔ failure? s pods = .ok (some f) := by
  constructor
  · intro hverdict
    obtain ⟨_ | g, hfailure, hfound⟩ := Outcome.bind_ok hverdict
    · obtain ⟨state, -, hstate⟩ := Outcome.bind_ok hfound
      cases hstate
    · rw [hfailure, Except.error.inj (Outcome.pure_ok hfound)]
  · intro hfailure
    rw [verdict, hfailure]
    rfl

theorem judged_verdict (s : StatefulSet) (pods : List Pod) (status : DeploymentStatus) :
    Judged s pods status (verdict s pods) (Service.noted (verdict s pods) status) where
  fails_iff hnull := by
    rw [← (found_failure? s pods).failure_iff hnull]
    exact exists_congr fun f => verdict_error_iff
  failure_iff _ := verdict_error_iff.trans failure?_eq_some_iff
  error f hverdict := by
    rw [hverdict]
    rfl
  state hpass desired ready hdesired hready := by
    obtain ⟨state, hstate, hcases⟩ := readiness_of_integers pods hdesired hready
    have hnone : failure? s pods = .ok none := by
      rw [failure?_eq, ← List.append_nil (signs s pods), firstSign?_of_passes hpass]
      rfl
    have hverdict : verdict s pods = .ok (.ok state) := by
      rw [verdict, hnone]
      change readiness s pods >>= _ = _
      rw [hstate]
      rfl
    rw [hverdict]
    exact ⟨state, rfl, rfl, hcases⟩
  null before x after hsigns hbefore hnull := by
    have hfailure : failure? s pods = .error (.absentObject x.field) := by
      rw [failure?_eq, hsigns, firstSign?_of_passes hbefore, firstSign?, hnull.judge]
    have hverdict : verdict s pods = .error (.absentObject x.field) := by
      rw [verdict, hfailure]
      rfl
    rw [hverdict]
    exact ⟨rfl, rfl⟩

end Observation

/-! ## Servers that list pods by labels -/

section Laws

variable {σ τ : Type}

/-- The pod at a place, if there is one. -/
def podIn (objects : Place → Option Resource) (p : Place) : Option Pod :=
  match objects p with
  | some (.pod pod) => some pod
  | _ => none

/-- The pods are those of a namespace that carry all the labels, each of them once. -/
def Lists (objects : Place → Option Resource) (ns : String) (labels : Table String)
    (pods : List Pod) : Prop :=
  ∃ places : List Place, places.Nodup ∧
    (∀ p, p ∈ places ↔ p.kind = .pod ∧ p.namespaceName = ns ∧
      ∃ r, objects p = some r ∧ carries labels r = true) ∧
    pods = places.filterMap (podIn objects)

namespace Lists

variable {objects objects' : Place → Option Resource} {ns : String} {labels labels' : Table String}
  {pods : List Pod}

theorem congr (hlabels : ∀ key, labels.get? key = labels'.get? key)
    (h : Lists objects ns labels pods) : Lists objects ns labels' pods := by
  obtain ⟨places, hnodup, hmem, hpods⟩ := h
  simp only [carries_congr hlabels] at hmem
  exact ⟨places, hnodup, hmem, hpods⟩

/-- Other objects have no influence: what is listed of some objects is listed of any others among
which those with the labels are the same. -/
theorem of_same (hsame : ∀ p : Place, p.kind = .pod → p.namespaceName = ns → ∀ r,
      carries labels r = true → (objects p = some r ↔ objects' p = some r))
    (h : Lists objects ns labels pods) : Lists objects' ns labels pods := by
  obtain ⟨places, hnodup, hmem, rfl⟩ := h
  refine ⟨places, hnodup, fun p => ?_, List.filterMap_congr fun p hp => ?_⟩
  · rw [hmem]
    refine and_congr_right fun hkind => and_congr_right fun hns => exists_congr fun r => ?_
    exact and_congr_left fun hcarries => hsame p hkind hns r hcarries
  · obtain ⟨hkind, hns, r, hr, hcarries⟩ := (hmem p).1 hp
    rw [podIn, podIn, hr, (hsame p hkind hns r hcarries).1 hr]

end Lists

/-- A server that reads stateful sets and lists pods by their labels, unless a refusal is `due`, in
the states that are sound. -/
structure ListingStore (server : Server σ τ) (view : σ → Place → Option Resource)
    (due : σ → Request → Option ApiError) (sound : σ → Prop) : Prop
    extends ReadableStore server view due where
  sound_read : ∀ ns name w, sound w → sound (server.respond (.readStatefulSet ns name) w).2
  listed : ∀ ns selector labels w, sound w → due w (.listPods ns selector) = none →
    Naming.selectedLabels selector = .ok labels →
    ∃ pods w', server.respond (.listPods ns selector) w = (.ok pods, w') ∧
      Lists (view w) ns labels pods

end Laws

namespace Cluster

theorem listingStore : ListingStore server get? due Sound where
  toReadableStore := readableStore
  sound_read ns name c h := confined.respond_sound _ c h
  listed ns selector labels c h hdue hlabels := by
    have hselected : c.selected .pod ns selector = .ok (c.carriers .pod ns labels) := by
      rw [selected, hlabels]
    refine ⟨c.podsAt (c.carriers .pod ns labels),
      c.countListing (c.carriers .pod ns labels), ?_, c.carriers .pod ns labels, ?_, ?_, rfl⟩
    · change respond (.listPods ns selector) c = _
      rw [respond_of_not_due hdue]
      simp only [answer, hselected]
    · rw [carriers, (List.mergeSort_perm _ _).nodup_iff]
      exact h.sublist ((List.filter_sublist).map Prod.fst)
    · intro p
      constructor
      · intro hp
        obtain ⟨hkind, hns, labels', r, hlabels', hr, hcarries⟩ :=
          carries_of_mem_selected h hselected hp
        obtain rfl := Except.ok.inj (hlabels.symm.trans hlabels')
        exact ⟨hkind, hns, r, hr, hcarries⟩
      · rintro ⟨hkind, hns, r, hr, hcarries⟩
        exact mem_selected h hselected hkind hns hlabels hr hcarries

end Cluster

/-! ## Observing -/

/-- The place of the stateful set of a cluster's job manager. -/
abbrev DeploymentMetadata.jobManager (m : DeploymentMetadata) : Place :=
  .ofStatefulSet m.namespaceName m.name

/-- The request for the stateful set of a cluster's job manager. -/
abbrev DeploymentMetadata.readJobManager (m : DeploymentMetadata) : Request :=
  .readStatefulSet m.namespaceName m.name

/-- The request for the pods of a cluster's job manager. -/
abbrev DeploymentMetadata.listJobManagerPods (m : DeploymentMetadata) : Request :=
  .listPods m.namespaceName (Naming.labelSelector (Naming.selectors m.name .jobManager))

namespace Service

variable {σ τ : Type} {service : Service σ τ} {metadata : DeploymentMetadata} {w v w' : σ}

theorem conclude_yields (verdict : Except DeploymentFailure JobManagerState) (w : σ) :
    (conclude verdict : Session σ τ _).Yields w (.ok verdict) [] w :=
  (Session.yields_record _ w).bind (Session.yields_pure verdict w)

theorem observe_of_refused {e : Failure}
    (hread : service.server.respond metadata.readJobManager w = (.error e, v)) :
    (service.observe metadata).Yields w (if e.isMissing then .ok (.ok .missing) else .error e)
      [.exchange metadata.readJobManager (.error e)] v :=
  Session.yields_read_refused hread (conclude_yields _ v)

theorem observe_of_found {s : StatefulSet}
    (hread : service.server.respond metadata.readJobManager w = (.ok s, v))
    {listing : Outcome (List Pod)}
    (hlist : service.server.respond metadata.listJobManagerPods v = (listing, w')) :
    (service.observe metadata).Yields w (listing >>= Observation.verdict s)
      [.exchange metadata.readJobManager (.ok s),
        .exchange metadata.listJobManagerPods listing] w' := by
  refine (Session.yields_attempt hread).bind (Session.Yields.of_ok rfl ?_)
  have hask := Session.yields_ask hlist
  cases listing with
  | error e => exact hask.bind_error
  | ok pods =>
    refine hask.bind ?_
    change (Session.ofOutcome (Observation.verdict s pods) >>= conclude).Yields w'
      (Observation.verdict s pods) [] w'
    cases hverdict : Observation.verdict s pods with
    | error e => exact Session.Yields.of_error rfl
    | ok verdict => exact Session.Yields.of_ok rfl (conclude_yields verdict w')

section Sights

variable (server : Server σ τ) (view : σ → Place → Option Resource)
  (due : σ → Request → Option ApiError) (metadata : DeploymentMetadata)
  (status : DeploymentStatus) (w : σ)

/-- The courses that an observation takes from a state, each with its outcome, the status after it
and its events. Where there is no stateful set, or it cannot be read, no pod is listed. -/
inductive Sight : Outcome (Except DeploymentFailure JobManagerState) → DeploymentStatus →
    List (Event τ) → Prop
  | refused {e : ApiError} : due w metadata.readJobManager = some e → e.status ≠ 404 →
    Sight (.error (.api e)) status [.exchange metadata.readJobManager (.error (.api e))]
  | denied {e : ApiError} : due w metadata.readJobManager = some e → e.status = 404 →
    Sight (.ok (.ok .missing)) { status with jobManager := .missing }
      [.exchange metadata.readJobManager (.error (.api e))]
  | missing {e : Failure} : due w metadata.readJobManager = none →
    statefulSetIn (view w) metadata.jobManager = none → e.isMissing →
    Sight (.ok (.ok .missing)) { status with jobManager := .missing }
      [.exchange metadata.readJobManager (.error e)]
  | unlisted {s : StatefulSet} {v : σ} {e : ApiError} : due w metadata.readJobManager = none →
    statefulSetIn (view w) metadata.jobManager = some s →
    server.respond metadata.readJobManager w = (.ok s, v) →
    due v metadata.listJobManagerPods = some e →
    Sight (.error (.api e)) status [.exchange metadata.readJobManager (.ok s),
      .exchange metadata.listJobManagerPods (.error (.api e))]
  | judged {s : StatefulSet} {v : σ} {pods : List Pod}
    {out : Outcome (Except DeploymentFailure JobManagerState)} {after : DeploymentStatus} :
    due w metadata.readJobManager = none →
    statefulSetIn (view w) metadata.jobManager = some s →
    server.respond metadata.readJobManager w = (.ok s, v) →
    due v metadata.listJobManagerPods = none →
    Lists (view w) metadata.namespaceName (Naming.selectors metadata.name .jobManager) pods →
    Observation.Judged s pods status out after →
    Sight out after [.exchange metadata.readJobManager (.ok s),
      .exchange metadata.listJobManagerPods (.ok pods)]

end Sights

variable {view : σ → Place → Option Resource} {due : σ → Request → Option ApiError}
  {sound : σ → Prop} {status : DeploymentStatus}

/-- Observing a job manager whose stateful set is there and can be read. -/
theorem sight_of_found (laws : ListingStore service.server view due sound)
    (hname : ',' ∉ metadata.name.toList) (hsound : sound w)
    (hdue : due w metadata.readJobManager = none) {s : StatefulSet}
    (hset : statefulSetIn (view w) metadata.jobManager = some s) :
    ∃ out trace w', (service.observe metadata).Yields w out trace w' ∧
      Sight service.server view due metadata status w out (noted out status) trace := by
  obtain ⟨v, hread, hv⟩ := laws.found _ _ w s hdue hset
  cases hrefusal : due v metadata.listJobManagerPods with
  | some e =>
    obtain ⟨w', hlist, -⟩ := laws.refused _ v e hrefusal
    exact ⟨_, _, w', observe_of_found hread hlist, .unlisted hdue hset hread hrefusal⟩
  | none =>
    have hv' : sound v := by
      have hkept :=
        laws.sound_read metadata.namespaceName metadata.name w hsound
      rwa [hread] at hkept
    obtain ⟨labels, hselected, hlabels⟩ :=
      Naming.selectedLabels_selectors hname Role.jobManager
    obtain ⟨pods, w', hlist, hpods⟩ := laws.listed _ _ labels v hv' hrefusal hselected
    exact ⟨_, _, w', observe_of_found hread hlist,
      .judged hdue hset hread hrefusal (hv ▸ hpods.congr hlabels)
        (Observation.judged_verdict s pods status)⟩

/-- Every observation takes one of these courses. -/
theorem sight_of_observe (laws : ListingStore service.server view due sound)
    (metadata : DeploymentMetadata) (status : DeploymentStatus) (w : σ)
    (hname : ',' ∉ metadata.name.toList) (hsound : sound w) :
    ∃ out trace w', (service.observe metadata).Yields w out trace w' ∧
      Sight service.server view due metadata status w out (noted out status) trace := by
  cases hdue : due w metadata.readJobManager with
  | some e =>
    obtain ⟨w', hread, -⟩ := laws.refused _ w e hdue
    have hyields := observe_of_refused hread
    simp only [Failure.isMissing, beq_iff_eq] at hyields
    by_cases hmissing : e.status = 404
    · rw [if_pos hmissing] at hyields
      exact ⟨_, _, w', hyields, .denied hdue hmissing⟩
    · rw [if_neg hmissing] at hyields
      exact ⟨_, _, w', hyields, .refused hdue hmissing⟩
  | none =>
    cases hset : statefulSetIn (view w) metadata.jobManager with
    | some s => exact sight_of_found laws hname hsound hdue hset
    | none =>
      obtain ⟨e, w', hread, hmissing, -⟩ := laws.missing _ _ w hdue hset
      have hyields : (service.observe metadata).Yields w _ _ w' := observe_of_refused hread
      rw [if_pos hmissing] at hyields
      exact ⟨_, _, w', hyields, .missing hdue hset hmissing⟩

/-- **Observing.** In every sound state, and with any calls refused, an observation reads the job
manager's stateful set and, where there is one, lists the pods with the job manager's labels; the
verdict is on these alone, and the status after it is by the verdict. -/
theorem observe_verdict (laws : ListingStore service.server view due sound)
    (metadata : DeploymentMetadata) (status : DeploymentStatus) (w : σ)
    (hname : ',' ∉ metadata.name.toList) (hsound : sound w) :
    ∃ out after trace w', (service.observe metadata).Yields w out trace w' ∧
      (service.observe metadata).Leaves w (some status) (some after) ∧
      Sight service.server view due metadata status w out after trace := by
  obtain ⟨out, trace, w', hyields, hsight⟩ := sight_of_observe laws metadata status w hname hsound
  exact ⟨out, _, trace, w', hyields,
    (service.records_observe metadata).leaves hyields (some status), hsight⟩

end Service

/-! ## A job manager without its image -/

/-- The status of a container that waits. -/
def Kubernetes.ContainerStatus.waits (name message reason : String) : ContainerStatus where
  image := "flink"
  imageID := ""
  name := name
  ready := false
  restartCount := .integer 0
  state := some { waiting := some { message := some message, reason := some reason } }

/-- A pod with labels of a job manager, with init containers and containers. -/
def Kubernetes.Pod.ofStatuses (id : String) (init main : List ContainerStatus) : Pod where
  metadata := some { labels := some (ofTexts (Naming.selectors id .jobManager)) }
  status := some
    { initContainerStatuses := some (init.map some), containerStatuses := some (main.map some) }

/-- A stateful set that asks for one pod. -/
def Kubernetes.StatefulSet.single : StatefulSet where
  spec := some { replicas := some (.integer 1), selector := {}, template := {} }
  status := some { replicas := .integer 1 }

/-- A cluster in memory in which the init container of the job manager's pod cannot get its image and
the main container crashes. Before that pod in the order of names there is one of another cluster. -/
def Cluster.pulling : Cluster where
  objects := [
    (⟨.statefulSet, "default", some "demo"⟩, .statefulSet .single),
    (⟨.pod, "default", some "another-0"⟩,
      .pod (.ofStatuses "another" [.waits "init" "" "InvalidImageName"] [])),
    (⟨.pod, "default", some "demo-0"⟩,
      .pod (.ofStatuses "demo" [.waits "init" "not found" "ImagePullBackOff"]
        [.waits "main" "back-off" "CrashLoopBackOff"]))]

/-- The observation of that job manager. -/
def Cluster.observePulling :
    Outcome (Except DeploymentFailure JobManagerState) × Run Cluster Seconds :=
  ((Cluster.service ⟨.whole 0, .whole 1⟩).observe { name := "demo" }).run.run
    { world := Cluster.pulling, status := some {} }

/-- The failure is that of the init container of the job manager's own pod. -/
theorem Service.observe_verdict_pulling :
    Cluster.pulling.Sound ∧ ',' ∉ "demo".toList ∧
      Cluster.observePulling.1 = .ok (.error ⟨"not found", some "ImagePullBackOff"⟩) ∧
      Cluster.observePulling.2.status =
        some { jobManager := .error, error := some "not found | Reason: ImagePullBackOff" } ∧
      ∃ pods before x after,
        Lists Cluster.pulling.get? "default" (Naming.selectors "demo" .jobManager) pods ∧
        Observation.signs .single pods = before ++ x :: after ∧ (∀ y ∈ before, y.Passes) ∧
        x.Fails ⟨"not found", some "ImagePullBackOff"⟩ := by
  have hsound : Cluster.pulling.Sound := by decide
  have hname : ',' ∉ "demo".toList := by decide
  have hverdict : Cluster.observePulling.1 =
      .ok (.error ⟨"not found", some "ImagePullBackOff"⟩) := by
    simp only [Cluster.observePulling, observe]
    rw [Naming.labelSelector_jobManager_demo]
    decide +kernel
  have laws : ListingStore (Cluster.service ⟨.whole 0, .whole 1⟩).server get? due Sound :=
    Cluster.listingStore
  obtain ⟨out, left, trace, c, hyields, hleaves, hsight⟩ :=
    observe_verdict laws { name := "demo" } {} Cluster.pulling hname hsound
  obtain ⟨_, hrun⟩ := hyields [] (some {})
  have hout : Cluster.observePulling.1 = out := congrArg Prod.fst hrun
  have hset : statefulSetIn Cluster.pulling.get? ⟨.statefulSet, "default", some "demo"⟩ =
      some .single := by decide +kernel
  have hfailure := hout.symm.trans hverdict
  cases hsight with
  | refused hdue => cases hdue
  | denied hdue => cases hdue
  | missing _ hnone => cases hnone.symm.trans hset
  | unlisted => cases hfailure
  | judged _ hsome _ _ hlists hjudged =>
    obtain rfl := Option.some.inj (hsome.symm.trans hset)
    obtain ⟨before, x, after, hsigns, hbefore, hfails⟩ := (hjudged.failure_iff _).1 hfailure
    have hleft : Cluster.observePulling.2.status = some left := hleaves []
    refine ⟨hsound, hname, hverdict, ?_, _, before, x, after, hlists, hsigns, hbefore, hfails⟩
    rw [hleft, hjudged.error _ hfailure]
    rfl

end FlinkCluster
