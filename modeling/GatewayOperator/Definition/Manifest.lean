import GatewayOperator.Failure
import GatewayOperator.Resource.Wire
import GatewayOperator.Shape.Yaml

/-!
# Manifests

A manifest is a YAML text with a definition in each of its documents that is not null. Its documents
are read in order and the first fault is the one that is reported: a text that is no YAML has no
message, a document that is no definition has one with the manifest's path.
-/

namespace GatewayOperator

namespace Manifest

/-- The failure of a document that is no definition. -/
def invalid (path : String) (m : Shape.Mismatch) : Failure :=
  .config s!"invalid CRD manifest {path}: {m.message}"

/-- The definition that a value stands for. -/
def definitionOf (v : Yaml.Value) : Except Shape.Mismatch (Resource .definition) :=
  (Shape.readYaml true (.record Kind.definition.name) v).map (Resource.ofNormal .definition)

/-- The definition of a document, if it is not null. -/
def ofDocument (path : String) (d : Except Yaml.ReadError Yaml.Document) :
    Except Failure (Option (Resource .definition)) :=
  match d with
  | .error _ => .error .serialization
  | .ok d =>
    match d.value? with
    | none => .error .serialization
    | some (.scalar .null) => .ok none
    | some v =>
      match definitionOf v with
      | .error m => .error (invalid path m)
      | .ok r => .ok (some r)

/-- The definitions of a manifest. -/
def read (path text : String) : Except Failure (List (Resource .definition)) := do
  let rs ← (Yaml.Document.ofText text).mapM (ofDocument path)
  pure (rs.filterMap id)

end Manifest

end GatewayOperator
