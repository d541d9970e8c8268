import GatewayOperator.Resource.Basic

/-!
# Ownership

Labels, owner references and metadata of the objects that are compiled for an owner. An object in
the owner's namespace refers to its owner; one of the whole cluster cannot.
-/

namespace GatewayOperator

/-- The value of the label that says who manages an object. -/
def managedBy : String := "higress-operator"

variable {k : Kind}

/-- Labels of every compiled object: the owner's, and three that name component, owner and
manager. -/
def standardLabels (owner : Resource k) (component : String) : Dict String :=
  (((owner.metadata.labels.getD ∅).insert "app.kubernetes.io/name" component).insert
    "app.kubernetes.io/instance" owner.metadata.anyName).insert
    "app.kubernetes.io/managed-by" managedBy

/-- The reference by which an object is collected with its owner. -/
def ownerReference (owner : Resource k) : OwnerReference where
  apiVersion := k.apiVersion
  kind := k.name
  name := owner.metadata.anyName
  uid := owner.metadata.uid.getD ""
  controller := some true
  blockOwnerDeletion := some true

/-- Metadata of an object in its owner's namespace. -/
def ownedMetadata (owner : Resource k) (name : String) (labels : Dict String) : Metadata where
  name := some name
  ns := owner.metadata.ns
  labels := some labels
  ownerReferences := some [ownerReference owner]

/-- Metadata of an object of the whole cluster. -/
def clusterMetadata (name : String) (labels : Dict String) : Metadata where
  name := some name
  labels := some labels

/-- The service account of a component. -/
def compileServiceAccount (owner : Resource k) (name component : String)
    (annotations : Dict String) : Resource .serviceAccount where
  metadata := { ownedMetadata owner name (standardLabels owner component) with
    annotations := annotations.nonempty? }
  content := {}

end GatewayOperator
