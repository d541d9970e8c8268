import GatewayOperator.Autoscaling.Version

/-!
# Kinds

The kinds of objects that the operator reads or writes. A kind has a name and an API version, lives
in namespaces or in the whole cluster, and has a path in the API. Autoscalers share their name in
every version of their API.
-/

namespace GatewayOperator

/-- A kind of stored objects. -/
inductive Kind where
  | gateway
  | controller
  | deployment
  | service
  | serviceAccount
  | configMap
  | namespaceKind
  | event
  | role
  | roleBinding
  | clusterRole
  | clusterRoleBinding
  | definition
  | autoscaler (version : AutoscalingVersion)
  deriving DecidableEq, Repr, Inhabited

namespace Kind

/-- The group of the operator's own kinds. -/
def operatorGroup : String := "operator.higress.io"

def rbacGroup : String := "rbac.authorization.k8s.io"

/-- The kind's name, which all versions of a kind share. -/
def name : Kind → String
  | .gateway => "HigressGateway"
  | .controller => "HigressController"
  | .deployment => "Deployment"
  | .service => "Service"
  | .serviceAccount => "ServiceAccount"
  | .configMap => "ConfigMap"
  | .namespaceKind => "Namespace"
  | .event => "Event"
  | .role => "Role"
  | .roleBinding => "RoleBinding"
  | .clusterRole => "ClusterRole"
  | .clusterRoleBinding => "ClusterRoleBinding"
  | .definition => "CustomResourceDefinition"
  | .autoscaler _ => "HorizontalPodAutoscaler"

/-- The API group; the core group has no name. -/
def group : Kind → String
  | .gateway | .controller => operatorGroup
  | .deployment => "apps"
  | .service | .serviceAccount | .configMap | .namespaceKind | .event => ""
  | .role | .roleBinding | .clusterRole | .clusterRoleBinding => rbacGroup
  | .definition => "apiextensions.k8s.io"
  | .autoscaler _ => "autoscaling"

/-- The version within the group. -/
def version : Kind → String
  | .gateway | .controller => "v1alpha1"
  | .autoscaler v => v.text
  | _ => "v1"

/-- Group and version as objects name them. -/
def apiVersion (k : Kind) : String :=
  if k.group = "" then k.version else k.group ++ "/" ++ k.version

/-- The kind's name in paths. -/
def plural : Kind → String
  | .gateway => "higressgateways"
  | .controller => "higresscontrollers"
  | .deployment => "deployments"
  | .service => "services"
  | .serviceAccount => "serviceaccounts"
  | .configMap => "configmaps"
  | .namespaceKind => "namespaces"
  | .event => "events"
  | .role => "roles"
  | .roleBinding => "rolebindings"
  | .clusterRole => "clusterroles"
  | .clusterRoleBinding => "clusterrolebindings"
  | .definition => "customresourcedefinitions"
  | .autoscaler _ => "horizontalpodautoscalers"

/-- Whether objects of the kind live in a namespace. -/
def isNamespaced : Kind → Bool
  | .namespaceKind | .clusterRole | .clusterRoleBinding | .definition => false
  | _ => true

/-- The name that tells a kind from all others: an older version is part of it. -/
def label : Kind → String
  | .autoscaler .v2beta2 => "HorizontalPodAutoscaler.v2beta2"
  | .autoscaler .v2beta1 => "HorizontalPodAutoscaler.v2beta1"
  | k => k.name

/-- All kinds. -/
def all : List Kind :=
  [.gateway, .controller, .deployment, .service, .serviceAccount, .configMap, .namespaceKind,
   .event, .role, .roleBinding, .clusterRole, .clusterRoleBinding, .definition, .autoscaler .v2,
   .autoscaler .v2beta2, .autoscaler .v2beta1]

/-- The kind of a label. -/
def ofLabel? (s : String) : Option Kind := all.find? fun k => k.label == s

end Kind

end GatewayOperator
