import GatewayOperator.Kind
import GatewayOperator.Schema.OpenApi
import GatewayOperator.Schema.Tables

/-!
# Definitions of the operator's kinds

`Schema.definition?` is the definition by which an API server learns of a kind: its names, the
columns that listings show and the schema of its specification and status.
-/

namespace GatewayOperator

namespace Schema

/-- A column of a listing. -/
structure Column where
  name : String
  type : String
  jsonPath : String
  deriving DecidableEq, Repr

def Column.toJson (c : Column) : Json :=
  .obj [("jsonPath", .str c.jsonPath), ("name", .str c.name), ("type", .str c.type)]

/-- What the definition of a kind says beside the kind's names. -/
structure Outline where
  /-- the name of the specification's type -/
  specName : String
  description : Option String := none
  fields : Fields
  status : Option FieldType := none
  shortNames : List String := []
  columns : List Column := []

def deployedColumn : Column := ⟨"Deployed", "boolean", ".status.deployed"⟩
def ageColumn : Column := ⟨"Age", "date", ".metadata.creationTimestamp"⟩

/-- The outline of each kind that is defined here. -/
def outline? : Kind → Option Outline
  | .gateway => some {
      specName := "HigressGatewaySpec"
      description := commonDescription
      fields := gatewayFields
      status := componentStatus
      shortNames := ["hgw"]
      columns := [deployedColumn, ⟨"Replicas", "integer", ".spec.replicas"⟩, ageColumn] }
  | .controller => some {
      specName := "HigressControllerSpec"
      description := commonDescription
      fields := controllerFields
      status := componentStatus
      shortNames := ["hc"]
      columns := [deployedColumn, ageColumn] }
  | .autoscaler .v2beta2 => some {
      specName := "HorizontalPodAutoscalerSpec"
      fields := autoscalerFields targetedResource }
  | .autoscaler .v2beta1 => some {
      specName := "HorizontalPodAutoscalerSpec"
      fields := autoscalerFields flatResource }
  | _ => none

/-- The specification and the status as the fields of an object. -/
def Outline.objectFields (o : Outline) : Fields :=
  [required "spec" (.record o.description o.fields)] ++
    (match o.status with
      | some status => [maybe "status" status]
      | none => [])

/-- The schema of a whole object. -/
def Outline.objectSchema (o : Outline) (k : Kind) : Json :=
  let description := s!"Auto-generated derived type for {o.specName} via `CustomResource`"
  .obj (Json.Fields.ascending
    (("title", .str k.name) :: schemaOf (.record description o.objectFields)))

/-- The one version of a kind. -/
def Outline.versionJson (o : Outline) (k : Kind) : Json :=
  .obj [
    ("additionalPrinterColumns", .arr (o.columns.map Column.toJson)),
    ("name", .str k.version),
    ("schema", .obj [("openAPIV3Schema", o.objectSchema k)]),
    ("served", .bool true),
    ("storage", .bool true),
    ("subresources", .obj (if o.status.isSome then [("status", .obj [])] else []))]

/-- The definition of a kind. -/
def Outline.definition (o : Outline) (k : Kind) : Json :=
  .obj [
    ("apiVersion", .str Kind.definition.apiVersion),
    ("kind", .str Kind.definition.name),
    ("metadata", .obj [("name", .str (k.plural ++ "." ++ k.group))]),
    ("spec", .obj [
      ("group", .str k.group),
      ("names", .obj [
        ("categories", .arr []),
        ("kind", .str k.name),
        ("plural", .str k.plural),
        ("shortNames", .arr (o.shortNames.map Json.str)),
        ("singular", .str (String.ofList (k.name.toList.map Char.toLower)))]),
      ("scope", .str "Namespaced"),
      ("versions", .arr [o.versionJson k])])]

/-- The definition of a kind, if it is one of the operator's own. -/
def definition? (k : Kind) : Option Json := (outline? k).map fun o => o.definition k

end Schema

end GatewayOperator
