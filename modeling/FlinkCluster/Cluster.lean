import FlinkCluster.Lifecycle

/-!
# A cluster in memory

`Cluster` is a server whose state is the stored objects. Creating refuses an object that exists,
patching replaces one, deleting and listing work by name and by labels. An object keeps its uid for
as long as it is stored, whatever replaces it. Calls can be made to fail, pods can be made to vanish
after they were listed for a while, and the clock, which counts in double precision, moves only when
a session pauses.
-/

set_option autoImplicit false

namespace FlinkCluster

open Kubernetes

/-- Where an object is stored. Of the objects of a kind and namespace, one may be without a name. -/
structure Place where
  kind : ObjectKind
  namespaceName : String
  name : Option String
  deriving DecidableEq, Repr

/-- Calls of an operation that are going to be refused. -/
structure Fault where
  operation : String
  error : ApiError
  times : Nat
  deriving DecidableEq, Repr

/-- The stored objects with the number of uids given out, the faults to come, the pods that vanish
with the listings they still appear in, and the time. -/
structure Cluster where
  objects : List (Place × Resource) := []
  uids : Nat := 0
  faults : List Fault := []
  vanishing : List (Place × Nat) := []
  time : Seconds := .precise (.ofRatio false 0 1)
  deriving DecidableEq, Repr, Inhabited

namespace Cluster

/-! ## Objects -/

/-- The object at a place. -/
def get? (c : Cluster) (p : Place) : Option Resource := Table.findEntry p c.objects

/-- Puts an object at a place. -/
def set (c : Cluster) (p : Place) (r : Resource) : Cluster :=
  { c with objects := Table.setEntry p r c.objects }

/-- Removes the objects at the places that meet a condition. -/
def eraseWhere (c : Cluster) (gone : Place → Bool) : Cluster :=
  { c with objects := c.objects.filter (fun e => !gone e.1) }

/-- Removes the object at a place. -/
def erase (c : Cluster) (p : Place) : Cluster := c.eraseWhere (· == p)

/-- The place of an object in a namespace. -/
def placeOf (namespaceName : String) (r : Resource) : Place :=
  ⟨r.kind, namespaceName, r.metadata.name⟩

/-- The object as it is stored: in its namespace, and with the given uid. -/
def settled (namespaceName uid : String) (r : Resource) : Resource :=
  r.withMetadata { r.metadata with namespaceName := some namespaceName, uid := some uid }

/-- The uid that comes after a number of others. -/
def uidAfter (count : Nat) : String := "uid-" ++ Number.integerText (count + 1)

/-- The uid that an object gets at a place: that of the object it replaces, or else its own, unless
that is empty. -/
def uidAt? (c : Cluster) (place : Place) (r : Resource) : Option String :=
  ((c.get? place).bind (·.metadata.uid)).or (r.metadata.uid.filter (· ≠ ""))

/-- Stores an object. Where there is no uid for it, it gets the next one. -/
def store (c : Cluster) (namespaceName : String) (r : Resource) : Resource × Cluster :=
  let place := placeOf namespaceName r
  match c.uidAt? place r with
  | some uid => (settled namespaceName uid r, c.set place (settled namespaceName uid r))
  | none =>
    let stored := settled namespaceName (uidAfter c.uids) r
    (stored, { c.set place stored with uids := c.uids + 1 })

/-- Whether an object carries all the labels. -/
def carries (labels : Table String) (r : Resource) : Bool :=
  labels.entries.all fun (k, v) => (r.metadata.labels.getD .empty).get? k == some (some v)

/-- The places of the objects of a kind and namespace that carry all the labels, by name. -/
def carriers (c : Cluster) (kind : ObjectKind) (namespaceName : String) (labels : Table String) :
    List Place :=
  let chosen := c.objects.filter fun (p, r) =>
    p.kind == kind && p.namespaceName == namespaceName && carries labels r
  (chosen.map Prod.fst).mergeSort (fun p q => p.name.getD "" ≤ q.name.getD "")

/-- The places of the objects of a kind and namespace that a selector selects, by name. -/
def selected (c : Cluster) (kind : ObjectKind) (namespaceName selector : String) :
    Outcome (List Place) :=
  match Naming.selectedLabels selector with
  | .ok labels => .ok (c.carriers kind namespaceName labels)
  | .error index => .error (.unreadableTerm index)

/-! ## Arrangements -/

/-- Stores an object from outside; a pod may vanish after a number of listings. An object without
metadata cannot hold its namespace. -/
def put (c : Cluster) (namespaceName : String) (r : Resource) (listings : Option Nat) :
    Outcome Cluster :=
  match r.metadata? with
  | none => .error (.absentObject "namespace")
  | some _ =>
    let place := placeOf namespaceName r
    let c := (c.store namespaceName r).2
    let others := c.vanishing.filter (fun e => e.1 ≠ place)
    .ok { c with vanishing := others ++ (listings.map (place, ·)).toList }

/-- Removes an object from outside. -/
def drop (c : Cluster) (p : Place) : Cluster :=
  { c.erase p with vanishing := c.vanishing.filter (fun e => e.1 ≠ p) }

/-- Makes the next calls of an operation fail. -/
def fail (c : Cluster) (f : Fault) : Cluster := { c with faults := c.faults ++ [f] }

/-! ## Answering -/

/-- The refusal for an object that does not exist. -/
def notFound : ApiError := ⟨404, "NotFound"⟩

/-- The refusal for an object that exists already. -/
def alreadyExists : ApiError := ⟨409, "AlreadyExists"⟩

/-- The refusal that is due for an operation, and the faults that remain: the oldest one with calls
left. -/
def takeFault (operation : String) : List Fault → Option (ApiError × List Fault)
  | [] => none
  | f :: fs =>
    if f.operation = operation && 0 < f.times then
      some (f.error, { f with times := f.times - 1 } :: fs)
    else (takeFault operation fs).map fun (e, rest) => (e, f :: rest)

/-- Counts a listing of the pods at the places; those in their last one vanish. -/
def countListing (c : Cluster) (listed : List Place) : Cluster :=
  let left := c.vanishing.map fun (p, n) => if listed.contains p then (p, n - 1) else (p, n)
  let gone := (left.filter fun e => e.2 = 0 && listed.contains e.1).map Prod.fst
  { c.eraseWhere gone.contains with vanishing := left.filter fun e => !gone.contains e.1 }

/-- The stateful set at a place. -/
def statefulSet? (c : Cluster) (p : Place) : Option StatefulSet :=
  match c.get? p with
  | some (.statefulSet s) => some s
  | _ => none

/-- The pods at the places. -/
def podsAt (c : Cluster) (places : List Place) : List Pod :=
  places.filterMap fun p =>
    match c.get? p with
    | some (.pod pod) => some pod
    | _ => none

/-- A stateful set with another number of replicas, if it has a specification that holds them. -/
def scaled? (s : StatefulSet) (replicas : Int) : Option StatefulSet :=
  s.spec.map fun spec => { s with spec := some { spec with replicas := some (.integer replicas) } }

/-- The answer to a request and the cluster after it. -/
def answer (c : Cluster) : (r : Request) → Outcome r.Answer × Cluster
  | .create ns body =>
    match c.get? (placeOf ns body) with
    | some _ => (.error (.api alreadyExists), c)
    | none => let (stored, c) := c.store ns body; (.ok stored, c)
  | .patch ns name body =>
    let place : Place := ⟨body.kind, ns, some name⟩
    match c.get? place with
    | some old =>
      let stored := settled ns (old.metadata.uid.getD "") body
      (.ok stored, c.set place stored)
    | none => (.error (.api notFound), c)
  | .readStatefulSet ns name =>
    match c.statefulSet? ⟨.statefulSet, ns, some name⟩ with
    | some s => (.ok s, c)
    | none => (.error (.api notFound), c)
  | .deleteStatefulSet ns name _ =>
    let place : Place := ⟨.statefulSet, ns, some name⟩
    match c.get? place with
    | some _ => (.ok (), c.erase place)
    | none => (.error (.api notFound), c)
  | .scaleStatefulSet ns name replicas =>
    let place : Place := ⟨.statefulSet, ns, some name⟩
    match c.statefulSet? place with
    | some s =>
      match scaled? s replicas with
      | some s => (.ok (), c.set place (.statefulSet s))
      | none => (.error (.absentObject "replicas"), c)
    | none => (.error (.api notFound), c)
  | .listPods ns selector =>
    match c.selected .pod ns selector with
    | .ok listed => (.ok (c.podsAt listed), c.countListing listed)
    | .error e => (.error e, c)
  | .deleteConfigMaps ns selector =>
    match c.selected .configMap ns selector with
    | .ok gone => (.ok (), c.eraseWhere gone.contains)
    | .error e => (.error e, c)

/-- The answer, unless the call is going to be refused. -/
def respond (r : Request) (c : Cluster) : Outcome r.Answer × Cluster :=
  match takeFault r.operation c.faults with
  | some (e, faults) => (.error (.api e), { c with faults })
  | none => c.answer r

/-- The cluster as a server. -/
def server : Server Cluster Seconds where
  respond := respond
  now c := (c.time, c)
  pause length c := (Clock.after c.time length).map fun time => { c with time }

/-- The service on the cluster, with the metadata of high availability in config maps. -/
def service (patience : Patience Seconds) : Service Cluster Seconds where
  server := server
  store := .configMaps server
  patience := patience

/-- The most looks that a wait takes on exact clocks; a wait without end or pause takes none of its
own. -/
def exactLooks (patience : Patience Seconds) : Nat :=
  match patience.timeout.toRat?, patience.interval.toRat? with
  | some timeout, some interval => Patience.looks ⟨timeout, interval⟩
  | _, _ => 1

/-- The most looks that a wait takes on this cluster: until the deadline, which rounding delays by
less than as much again, or until the vanishing pods are gone. -/
def looks (c : Cluster) (patience : Patience Seconds) : Nat :=
  2 * exactLooks patience + c.vanishing.foldl (fun n v => n + v.2) 0 + 1

end Cluster

end FlinkCluster
