import GatewayOperator.Resource.Basic

/-!
# Objects on the wire

`Resource.toJson` writes an object with its API version and kind; `Resource.decode?` reads one.
Objects of the operator's own kinds need their metadata and specification, those of other APIs are
read by the shape of their kind.
-/

namespace GatewayOperator

open Wire

namespace DeploymentSpec

/-- The whole specification. -/
def toJson (s : DeploymentSpec) : Json :=
  match s.replicas with
  | some n => .obj (Json.Fields.ascending (s.shape.fields ++ [("replicas", Json.ofInt32 n)]))
  | none => s.shape

/-- The specification of a normal form. -/
def ofJson (j : Json) : DeploymentSpec where
  replicas := j.int32At? "replicas"
  shape := .obj (j.rest ["replicas"])

end DeploymentSpec

namespace ServiceSpec

/-- The fields that the operator sets. -/
def ownFields : List String :=
  ["type", "selector", "loadBalancerIP", "loadBalancerSourceRanges",
    "externalTrafficPolicy", "ports"]

/-- The whole specification. -/
def toJson (s : ServiceSpec) : Json :=
  .obj (Json.Fields.ascending (s.assigned ++
    Json.ofText? "externalTrafficPolicy" s.externalTrafficPolicy ++
    Json.ofText? "loadBalancerIP" s.loadBalancerIP ++
    Json.optional "loadBalancerSourceRanges" (s.loadBalancerSourceRanges.map Json.texts) ++
    Json.optional "ports" (s.ports.map fun ps => .arr (ps.map ServicePort.toJson)) ++
    Json.optional "selector" (s.selector.map Json.ofDict) ++ Json.ofText? "type" s.type))

/-- The specification of a normal form. -/
def ofJson (j : Json) : ServiceSpec where
  type := j.textAt? "type"
  selector := j.dictAt? "selector"
  loadBalancerIP := j.textAt? "loadBalancerIP"
  loadBalancerSourceRanges := j.textsAt? "loadBalancerSourceRanges"
  externalTrafficPolicy := j.textAt? "externalTrafficPolicy"
  ports := (j.itemsAt? "ports").map fun ps => ps.map ServicePort.ofJson
  assigned := j.rest ownFields

end ServiceSpec

/-- Rules as a field that may be unset. -/
def rulesField (rules : Option (List PolicyRule)) : Json.Fields :=
  Json.optional "rules" (rules.map fun rs => .arr (rs.map PolicyRule.toJson))

def rulesOf (j : Json) : Option (List PolicyRule) :=
  (j.itemsAt? "rules").map fun rs => rs.map PolicyRule.ofJson

namespace BindingContent

def toFields (b : BindingContent) : Json.Fields :=
  [("roleRef", b.roleRef.toJson)] ++
    Json.optional "subjects" (b.subjects.map fun ss => .arr (ss.map Subject.toJson))

/-- The binding of a normal form. -/
def ofJson (j : Json) : BindingContent where
  roleRef := RoleRef.ofJson ((j.field? "roleRef").getD .null)
  subjects := (j.itemsAt? "subjects").map fun ss => ss.map Subject.ofJson

end BindingContent

/-- The fields of a desired state. -/
def Managed.toFields {Spec : Type} [Wire Spec] (m : Managed Spec) : Json.Fields :=
  always "spec" m.spec ++ maybe "status" m.status

namespace Kind

/-- The fields of an object beside its metadata. -/
def contentFields : (k : Kind) → k.Content → Json.Fields
  | .gateway, c => c.toFields
  | .controller, c => c.toFields
  | .deployment, c =>
    Json.optional "spec" (c.spec.map DeploymentSpec.toJson) ++ Json.optional "status" c.status
  | .service, c =>
    Json.optional "spec" (c.spec.map ServiceSpec.toJson) ++ Json.optional "status" c.status
  | .serviceAccount, c => c.fields
  | .configMap, c =>
    Json.optional "binaryData" c.binaryData ++ Json.optional "data" (c.data.map Json.ofDict) ++
      Json.optional "immutable" c.immutable
  | .namespaceKind, c => Json.optional "spec" c.spec ++ Json.optional "status" c.status
  | .event, c => c.fields
  | .role, c => rulesField c.rules
  | .roleBinding, c => c.toFields
  | .clusterRole, c => Json.optional "aggregationRule" c.aggregationRule ++ rulesField c.rules
  | .clusterRoleBinding, c => c.toFields
  | .definition, c => [("spec", c.spec)] ++ Json.optional "status" c.status
  | .autoscaler .v2, c =>
    Json.optional "spec" (c.spec.map AutoscalerSpec.toJson) ++ Json.optional "status" c.status
  | .autoscaler .v2beta2, c => always "spec" c
  | .autoscaler .v2beta1, c => always "spec" c

/-- The fields of every object. -/
def headFields : List String := ["apiVersion", "kind", "metadata"]

/-- The content of an object of another API, from its normal form. -/
def contentOf : (k : Kind) → Json → k.Content
  | .deployment, j => {
      spec := (j.field? "spec").map DeploymentSpec.ofJson
      status := j.field? "status" }
  | .service, j => {
      spec := (j.field? "spec").map ServiceSpec.ofJson
      status := j.field? "status" }
  | .serviceAccount, j => { fields := j.rest headFields }
  | .configMap, j => {
      binaryData := j.field? "binaryData"
      data := j.dictAt? "data"
      immutable := j.field? "immutable" }
  | .namespaceKind, j => { spec := j.field? "spec", status := j.field? "status" }
  | .event, j => { fields := j.rest headFields }
  | .role, j => { rules := rulesOf j }
  | .roleBinding, j => BindingContent.ofJson j
  | .clusterRole, j => { aggregationRule := j.field? "aggregationRule", rules := rulesOf j }
  | .clusterRoleBinding, j => BindingContent.ofJson j
  | .definition, j => {
      spec := (j.field? "spec").getD emptyDefinitionSpec
      status := j.field? "status" }
  | .autoscaler .v2, j => {
      spec := (j.field? "spec").map AutoscalerSpec.ofJson
      status := j.field? "status" }
  | k, _ => k.emptyContent

end Kind

namespace Resource

/-- The object with its API version and kind. -/
def toJson {k : Kind} (r : Resource k) : Json :=
  .obj ([("apiVersion", .str k.apiVersion), ("kind", .str k.name),
    ("metadata", r.metadata.toJson)] ++
    k.contentFields r.content)

/-- The fields of an object of the operator's own, or of an older version. -/
def ownFields? (names : List String) (j : Json) : Option (Metadata × Json.Fields) := do
  let fs ← fieldsOf? names j
  let metadata ← Json.Fields.get? fs "metadata"
  let metadata ← (Metadata.read metadata).toOption
  pure (metadata, fs)

/-- A desired state with its metadata. -/
def decodeManaged? {Spec : Type} [Wire Spec] (j : Json) : Option (Metadata × Managed Spec) := do
  let (metadata, fs) ← ownFields? ["metadata", "spec", "status"] j
  pure (metadata, { spec := ← required fs "spec", status := ← orUnset fs "status" })

/-- A specification with its metadata. -/
def decodeSpec? {Spec : Type} [Wire Spec] (j : Json) : Option (Metadata × Spec) := do
  let (metadata, fs) ← ownFields? ["metadata", "spec"] j
  pure (metadata, ← required fs "spec")

/-- An object of another API, from its normal form. -/
def ofNormal (k : Kind) (n : Json) : Resource k :=
  ⟨Metadata.ofJson ((n.field? "metadata").getD .null), k.contentOf n⟩

/-- An object of another API. -/
def read (k : Kind) (j : Json) : Except Shape.Mismatch (Resource k) :=
  (Shape.read (.record k.name) j).map (ofNormal k)

/-- The object that a value reads as. -/
def decode? : (k : Kind) → Json → Option (Resource k)
  | .gateway, j => (decodeManaged? j).map fun (m, c) => ⟨m, c⟩
  | .controller, j => (decodeManaged? j).map fun (m, c) => ⟨m, c⟩
  | .autoscaler .v2beta2, j => (decodeSpec? j).map fun (m, c) => ⟨m, c⟩
  | .autoscaler .v2beta1, j => (decodeSpec? j).map fun (m, c) => ⟨m, c⟩
  | k, j => (read k j).toOption

/-- Whether two objects are written alike, up to the order of fields. -/
def sameAs {k : Kind} (r s : Resource k) : Bool := r.toJson.same s.toJson

end Resource

end GatewayOperator
