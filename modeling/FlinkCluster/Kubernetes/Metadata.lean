import FlinkCluster.Manifest.Codec

/-!
# Object metadata

Names, labels, annotations and owners of Kubernetes objects, with their codecs.
-/

set_option autoImplicit false

namespace FlinkCluster.Kubernetes

/-! ## Lists and maps -/

/-- An object, which may not be null, because `field` of it is needed. -/
def demand {α : Type} (field : String) : Option α → Outcome α
  | some a => .ok a
  | none => .error (.absentObject field)

/-- The objects of a list, none of which may be null, because `field` of each is needed. -/
def demandAll {α : Type} (field : String) (items : List (Option α)) : Outcome (List α) :=
  items.mapM (demand field)

/-- Labels and similar maps as objects hold them; a value may be null. -/
abbrev TextMap := Table (Option String)

/-- Texts as the values of an object's map. -/
def ofTexts (t : Table String) : TextMap := t.map some

/-! ## Metadata -/

/-- A reference from an object to its owner. -/
structure OwnerReference where
  apiVersion : String
  blockOwnerDeletion : Option Bool := none
  controller : Option Bool := none
  kind : String
  name : String
  uid : String
  deriving DecidableEq, Repr

def OwnerReference.codec : Codec OwnerReference := Fields.codec <|
  OwnerReference.mk <$> .required "apiVersion" "api_version" .text (·.apiVersion)
    <*> .optional "blockOwnerDeletion" .flag (·.blockOwnerDeletion)
    <*> .optional "controller" .flag (·.controller)
    <*> .required "kind" "kind" .text (·.kind)
    <*> .required "name" "name" .text (·.name)
    <*> .required "uid" "uid" .text (·.uid)

/-- What identifies and describes an object. -/
structure ObjectMeta where
  annotations : Option TextMap := none
  generation : Option IntegerField := none
  labels : Option TextMap := none
  name : Option String := none
  namespaceName : Option String := none
  ownerReferences : Option (List (Option OwnerReference)) := none
  uid : Option String := none
  others : Entries := []
  deriving DecidableEq, Repr, Inhabited

/-- The fields of metadata that nothing reads. -/
def ObjectMeta.otherNames : List String :=
  ["creationTimestamp", "deletionGracePeriodSeconds", "deletionTimestamp", "finalizers",
    "generateName", "managedFields", "resourceVersion", "selfLink"]

def ObjectMeta.codec : Codec ObjectMeta := Fields.codec <|
  ObjectMeta.mk <$> .optional "annotations" .textMap (·.annotations)
    <*> .optional "generation" .integer (·.generation)
    <*> .optional "labels" .textMap (·.labels)
    <*> .optional "name" .text (·.name)
    <*> .optional "namespace" .text (·.namespaceName)
    <*> .optional "ownerReferences" (.listOf OwnerReference.codec) (·.ownerReferences)
    <*> .optional "uid" .text (·.uid)
    <*> .others otherNames (·.others)

end FlinkCluster.Kubernetes
