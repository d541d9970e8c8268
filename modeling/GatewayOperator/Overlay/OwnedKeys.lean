import GatewayOperator.Json.Reader
import GatewayOperator.Json.Text
import GatewayOperator.Metadata

/-!
# Owned keys

Labels and annotations of a live object belong to whoever wrote them. The operator keeps a record of
the keys that it rendered last, in an annotation: what it no longer renders it takes away,
everything else it leaves alone. `Metadata.overlay` puts desired metadata onto live metadata under
this rule.
-/

namespace GatewayOperator

/-- The annotation with the fingerprint of the last rendered body. -/
def fingerprintAnnotation : String := "operator.higress.io/fingerprint"

/-- The annotation with the keys that were rendered last. -/
def ownedKeysAnnotation : String := "operator.higress.io/owned-keys"

/-- Whether an annotation is one of the operator's own records. -/
def isBookkeeping (key : String) : Bool :=
  key == fingerprintAnnotation || key == ownedKeysAnnotation

/-- The keys of labels and annotations that one convergence rendered. -/
structure OwnedKeys where
  labels : List String := []
  annotations : List String := []
  deriving DecidableEq, Repr, Inhabited

namespace OwnedKeys

/-- The keys of a dictionary, records apart. -/
def keysOf (d : Option (Dict String)) : List String :=
  ((d.map Dict.keys).getD []).filter fun k => !isBookkeeping k

/-- The keys that metadata renders. -/
def ofMetadata (m : Metadata) : OwnedKeys := ⟨keysOf m.labels, keysOf m.annotations⟩

def isEmpty (o : OwnedKeys) : Bool := o.labels.isEmpty && o.annotations.isEmpty

/-- The text of the record; a list without keys is left out. -/
def text (o : OwnedKeys) : String :=
  let field (name : String) (keys : List String) : Json.Fields :=
    if keys.isEmpty then [] else [(name, Json.texts keys)]
  (Json.obj (field "labels" o.labels ++ field "annotations" o.annotations)).compact

/-- A list of texts and nothing else. -/
def textList? : Json → Option (List String)
  | .arr items => items.mapM Json.text?
  | _ => none

/-- A list of the record, which may be missing but not given twice. -/
def list? (fields : Json.Fields) (name : String) : Option (List String) :=
  match fields.filter fun f => f.1 == name with
  | [] => some []
  | [(_, v)] => textList? v
  | _ => none

/-- The record of a text, by the names of its lists or in their order. -/
def parse? (s : String) : Option OwnedKeys :=
  match Json.parse? s with
  | some (.obj fields) => do
    let labels ← list? fields "labels"
    let annotations ← list? fields "annotations"
    pure ⟨labels, annotations⟩
  | some (.arr []) => some {}
  | some (.arr [a]) => (textList? a).map fun labels => ⟨labels, []⟩
  | some (.arr [a, b]) => do
    let labels ← textList? a
    let annotations ← textList? b
    pure ⟨labels, annotations⟩
  | _ => none

/-- The record on a live object; one that does not read counts as none. -/
def recorded (m : Metadata) : OwnedKeys :=
  ((m.annotations.bind fun a => a.get? ownedKeysAnnotation).bind parse?).getD {}

end OwnedKeys

/-- Take away the keys that were rendered before and no longer are. A dictionary that loses its last
key is unset. -/
def dropReleased (current : Option (Dict String)) (before now : List String) :
    Option (Dict String) :=
  current.bind fun d =>
    let kept := d.filterKeys fun k => !before.contains k || now.contains k
    if kept.size ≠ d.size ∧ kept.isEmpty then none else some kept

/-- Put desired bindings over the live ones. -/
def mergeBindings (current desired : Option (Dict String)) : Option (Dict String) :=
  match desired with
  | none => current
  | some d => if d.isEmpty then current else some ((current.getD ∅).union d)

/-- Add the owners whose uid is not there. -/
def mergeOwners (current desired : Option (List OwnerReference)) : Option (List OwnerReference) :=
  match desired with
  | none => current
  | some refs =>
    some (refs.foldl (fun owners o =>
      if owners.any fun p => p.uid == o.uid then owners else owners ++ [o]) (current.getD []))

/-- Keep the record of owned keys, or take it away when nothing is owned. -/
def recordOwned (annotations : Option (Dict String)) (owned : OwnedKeys) : Option (Dict String) :=
  if owned.isEmpty then
    annotations.bind fun d =>
      if d.contains ownedKeysAnnotation then (d.erase ownedKeysAnnotation).nonempty? else some d
  else some ((annotations.getD ∅).insert ownedKeysAnnotation owned.text)

/-- Put desired metadata onto live metadata: its labels, annotations and owners are there
afterwards, and the keys that an earlier convergence rendered and this one does not are gone. -/
def Metadata.overlay (current desired : Metadata) : Metadata :=
  let before := OwnedKeys.recorded current
  let owned := OwnedKeys.ofMetadata desired
  { current with
    labels := mergeBindings (dropReleased current.labels before.labels owned.labels) desired.labels
    annotations := recordOwned
      (mergeBindings (dropReleased current.annotations before.annotations owned.annotations)
        desired.annotations)
      owned
    ownerReferences := mergeOwners current.ownerReferences desired.ownerReferences }

end GatewayOperator
