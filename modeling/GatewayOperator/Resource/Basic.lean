import GatewayOperator.Access.Rule
import GatewayOperator.Autoscaling.Spec
import GatewayOperator.Kind
import GatewayOperator.Metadata
import GatewayOperator.Settings.Controller
import GatewayOperator.Settings.Gateway

/-!
# Resources

A `Resource k` is an object of kind `k`: its metadata and the content that its kind has. Contents
hold as values what the operator decides on; what it only passes on stays JSON in its normal form.
-/

namespace GatewayOperator

/-! ## Contents -/

/-- A desired state with what was reported about it. -/
structure Managed (Spec : Type) where
  spec : Spec
  status : Option ComponentStatus := none
  deriving DecidableEq

/-- A Deployment's specification: its replica count apart, the rest is one body. -/
structure DeploymentSpec where
  replicas : Option Int32 := none
  shape : Json := .obj [("selector", .obj []), ("template", .obj [])]
  deriving DecidableEq, Inhabited

structure DeploymentContent where
  spec : Option DeploymentSpec := none
  status : Option Json := none
  deriving DecidableEq, Inhabited

/-- A Service's specification; the fields that a cluster assigns are in `assigned`. -/
structure ServiceSpec where
  type : Option String := none
  selector : Option (Dict String) := none
  loadBalancerIP : Option String := none
  loadBalancerSourceRanges : Option (List String) := none
  externalTrafficPolicy : Option String := none
  ports : Option (List ServicePort) := none
  assigned : Json.Fields := []
  deriving DecidableEq, Inhabited

structure ServiceContent where
  spec : Option ServiceSpec := none
  status : Option Json := none
  deriving DecidableEq, Inhabited

structure ConfigMapContent where
  binaryData : Option Json := none
  data : Option (Dict String) := none
  immutable : Option Json := none
  deriving DecidableEq, Inhabited

structure NamespaceContent where
  spec : Option Json := none
  status : Option Json := none
  deriving DecidableEq, Inhabited

structure RoleContent where
  rules : Option (List PolicyRule) := none
  deriving DecidableEq, Inhabited

structure ClusterRoleContent where
  aggregationRule : Option Json := none
  rules : Option (List PolicyRule) := none
  deriving DecidableEq, Inhabited

/-- What a binding grants and to whom. -/
structure BindingContent where
  roleRef : RoleRef := {}
  subjects : Option (List Subject) := none
  deriving DecidableEq, Inhabited

/-- The specification of a definition that says nothing. -/
def emptyDefinitionSpec : Json :=
  .obj [("group", .str ""), ("names", .obj [("kind", .str ""), ("plural", .str "")]),
    ("scope", .str ""), ("versions", .arr [])]

structure DefinitionContent where
  spec : Json := emptyDefinitionSpec
  status : Option Json := none
  deriving DecidableEq, Inhabited

structure AutoscalerContent where
  spec : Option AutoscalerSpec := none
  status : Option Json := none
  deriving DecidableEq, Inhabited

/-- The fields of an object that the operator passes on as they are. -/
structure PlainContent where
  fields : Json.Fields := []
  deriving DecidableEq, Inhabited

namespace Kind

/-- What an object of a kind holds beside its metadata. -/
abbrev Content : Kind → Type
  | .gateway => Managed GatewaySpec
  | .controller => Managed ControllerSpec
  | .deployment => DeploymentContent
  | .service => ServiceContent
  | .serviceAccount => PlainContent
  | .configMap => ConfigMapContent
  | .namespaceKind => NamespaceContent
  | .event => PlainContent
  | .role => RoleContent
  | .roleBinding => BindingContent
  | .clusterRole => ClusterRoleContent
  | .clusterRoleBinding => BindingContent
  | .definition => DefinitionContent
  | .autoscaler .v2 => AutoscalerContent
  | .autoscaler .v2beta2 => V2beta2.AutoscalerSpec
  | .autoscaler .v2beta1 => V2beta1.AutoscalerSpec

/-- The content of a fresh object. -/
def emptyContent : (k : Kind) → k.Content
  | .gateway => { spec := {} }
  | .controller => { spec := {} }
  | .deployment => {}
  | .service => {}
  | .serviceAccount => {}
  | .configMap => {}
  | .namespaceKind => {}
  | .event => { fields := [("involvedObject", .obj [])] }
  | .role => {}
  | .roleBinding => {}
  | .clusterRole => {}
  | .clusterRoleBinding => {}
  | .definition => {}
  | .autoscaler .v2 => {}
  | .autoscaler .v2beta2 => {}
  | .autoscaler .v2beta1 => {}

end Kind

/-- An object of a kind. -/
structure Resource (k : Kind) where
  metadata : Metadata
  content : k.Content

/-- An object of some kind. -/
abbrev AnyResource := (k : Kind) × Resource k

abbrev Gateway := Resource .gateway

abbrev Controller := Resource .controller

namespace Resource

variable {k : Kind}

/-- Where the object is stored. -/
def key (r : Resource k) : Key := r.metadata.key

/-- An object that holds nothing but the identity of its key. -/
def empty (k : Kind) (key : Key) : Resource k where
  metadata := if k.isNamespaced then Metadata.ofKey key else { name := some key.name }
  content := k.emptyContent

/-- The object with other metadata. -/
def withMetadata (r : Resource k) (f : Metadata → Metadata) : Resource k :=
  { r with metadata := f r.metadata }

/-- The first content with the status of the second; some kinds have none. -/
def contentWithStatusOf : (k : Kind) → k.Content → k.Content → k.Content
  | .gateway, c, d => { c with status := d.status }
  | .controller, c, d => { c with status := d.status }
  | .deployment, c, d => { c with status := d.status }
  | .service, c, d => { c with status := d.status }
  | .namespaceKind, c, d => { c with status := d.status }
  | .definition, c, d => { c with status := d.status }
  | .autoscaler .v2, c, d => { c with status := d.status }
  | .autoscaler .v2beta2, c, _ => c
  | .autoscaler .v2beta1, c, _ => c
  | .serviceAccount, c, _ => c
  | .configMap, c, _ => c
  | .event, c, _ => c
  | .role, c, _ => c
  | .roleBinding, c, _ => c
  | .clusterRole, c, _ => c
  | .clusterRoleBinding, c, _ => c

/-- The object with the status of another. -/
def withStatusOf (r s : Resource k) : Resource k :=
  { r with content := contentWithStatusOf k r.content s.content }

end Resource

end GatewayOperator
