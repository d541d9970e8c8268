import GatewayOperator.Json.Access
import GatewayOperator.Shape.Read

/-!
# Object metadata

Every stored object carries `Metadata`: its name, labels, annotations, owners and finalizers, and
what the store assigns (uid, resource version, deletion timestamp). A `Key` is an object's name in
its namespace, or its name alone for objects of the whole cluster.
-/

namespace GatewayOperator

/-- A name in a namespace, or in the whole cluster. -/
structure Key where
  ns : Option String
  name : String
  deriving DecidableEq, Repr, Inhabited

namespace Key

/-- A name in a namespace. -/
def inNamespace (ns name : String) : Key := ⟨some ns, name⟩

/-- A name in the whole cluster. -/
def inCluster (name : String) : Key := ⟨none, name⟩

/-- Namespace and name with a slash between them, or the name alone. -/
def text (k : Key) : String :=
  match k.ns with
  | some ns => ns ++ "/" ++ k.name
  | none => k.name

/-- The key of a text, split at its first slash. -/
def ofText (s : String) : Key :=
  let cs := s.toList
  let front := cs.takeWhile (· ≠ '/')
  match cs.dropWhile (· ≠ '/') with
  | _ :: name => ⟨some (String.ofList front), String.ofList name⟩
  | [] => ⟨none, s⟩

end Key

/-- A reference from an object to one that owns it. -/
structure OwnerReference where
  apiVersion : String
  kind : String
  name : String
  uid : String
  controller : Option Bool
  blockOwnerDeletion : Option Bool
  deriving DecidableEq, Repr

namespace OwnerReference

def toJson (o : OwnerReference) : Json :=
  .obj ([("apiVersion", .str o.apiVersion)] ++
    Json.optional "blockOwnerDeletion" (o.blockOwnerDeletion.map .bool) ++
    Json.optional "controller" (o.controller.map .bool) ++
    [("kind", .str o.kind), ("name", .str o.name), ("uid", .str o.uid)])

/-- The reference of a normal form. -/
def ofJson (j : Json) : OwnerReference where
  apiVersion := j.textAt "apiVersion"
  kind := j.textAt "kind"
  name := j.textAt "name"
  uid := j.textAt "uid"
  controller := j.boolAt? "controller"
  blockOwnerDeletion := j.boolAt? "blockOwnerDeletion"

end OwnerReference

/-- What every stored object carries beside its content. -/
structure Metadata where
  annotations : Option (Dict String) := none
  creationTimestamp : Option String := none
  deletionGracePeriodSeconds : Option Int := none
  deletionTimestamp : Option String := none
  finalizers : Option (List String) := none
  generateName : Option String := none
  generation : Option Int := none
  labels : Option (Dict String) := none
  managedFields : Option (List Json) := none
  name : Option String := none
  ns : Option String := none
  ownerReferences : Option (List OwnerReference) := none
  resourceVersion : Option String := none
  selfLink : Option String := none
  uid : Option String := none
  deriving DecidableEq, Inhabited

namespace Metadata

/-- The metadata as JSON, its fields ascending by name. -/
def toJson (m : Metadata) : Json :=
  .obj (Json.optional "annotations" (m.annotations.map Json.ofDict) ++
    Json.ofText? "creationTimestamp" m.creationTimestamp ++
    Json.optional "deletionGracePeriodSeconds" (m.deletionGracePeriodSeconds.map .int) ++
    Json.ofText? "deletionTimestamp" m.deletionTimestamp ++
    Json.optional "finalizers" (m.finalizers.map Json.texts) ++
    Json.ofText? "generateName" m.generateName ++
    Json.optional "generation" (m.generation.map .int) ++
    Json.optional "labels" (m.labels.map Json.ofDict) ++
    Json.optional "managedFields" (m.managedFields.map .arr) ++
    Json.ofText? "name" m.name ++
    Json.ofText? "namespace" m.ns ++
    Json.optional "ownerReferences"
      (m.ownerReferences.map fun os => .arr (os.map OwnerReference.toJson)) ++
    Json.ofText? "resourceVersion" m.resourceVersion ++
    Json.ofText? "selfLink" m.selfLink ++
    Json.ofText? "uid" m.uid)

/-- The metadata of a normal form. -/
def ofJson (j : Json) : Metadata where
  annotations := j.dictAt? "annotations"
  creationTimestamp := j.textAt? "creationTimestamp"
  deletionGracePeriodSeconds := j.intAt? "deletionGracePeriodSeconds"
  deletionTimestamp := j.textAt? "deletionTimestamp"
  finalizers := j.textsAt? "finalizers"
  generateName := j.textAt? "generateName"
  generation := j.intAt? "generation"
  labels := j.dictAt? "labels"
  managedFields := j.itemsAt? "managedFields"
  name := j.textAt? "name"
  ns := j.textAt? "namespace"
  ownerReferences := (j.itemsAt? "ownerReferences").map fun os => os.map OwnerReference.ofJson
  resourceVersion := j.textAt? "resourceVersion"
  selfLink := j.textAt? "selfLink"
  uid := j.textAt? "uid"

/-- The metadata that a value reads as. -/
def read (j : Json) : Except Shape.Mismatch Metadata :=
  (Shape.read (.record "ObjectMeta") j).map ofJson

/-- Where the object is stored. -/
def key (m : Metadata) : Key := ⟨m.ns, m.name.getD ""⟩

/-- The name, or the start of a generated one. -/
def anyName (m : Metadata) : String := (m.name <|> m.generateName).getD ""

/-- The namespace, or nothing but an empty text. -/
def nsOrEmpty (m : Metadata) : String := m.ns.getD ""

/-- The metadata of a fresh object at a key. -/
def ofKey (k : Key) : Metadata := { name := some k.name, ns := k.ns }

/-- Whether deletion was asked for. -/
def isBeingDeleted (m : Metadata) : Bool := m.deletionTimestamp.isSome

def hasFinalizer (m : Metadata) (finalizer : String) : Bool :=
  (m.finalizers.getD []).contains finalizer

/-- Whether something still holds back the deletion. -/
def hasFinalizers (m : Metadata) : Bool := !(m.finalizers.getD []).isEmpty

end Metadata

end GatewayOperator
