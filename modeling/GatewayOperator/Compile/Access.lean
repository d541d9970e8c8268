import GatewayOperator.Compile.Ownership

/-!
# Access of a component

What a component's service account may do, and the four objects that grant it: the same rules as a
role of the namespace and as a role of the cluster, each with its binding, all named after the
service account.
-/

namespace GatewayOperator

/-- A rule on resources of API groups. -/
def PolicyRule.on (groups resources verbs : List String) : PolicyRule where
  apiGroups := some groups
  resources := some resources
  verbs := verbs

/-- The verbs of a reader. -/
def readVerbs : List String := ["get", "list", "watch"]

/-- What the ingress controller and its discovery container may do. -/
def controllerRules : List PolicyRule :=
  [.on [""] ["services", "endpoints"] readVerbs,
   .on [""] ["secrets"] readVerbs,
   .on [""] ["configmaps"] ["get", "list", "watch", "update", "create"],
   .on [""] ["pods"] ["list", "watch"],
   .on [""] ["events"] ["create", "patch"],
   .on ["networking.k8s.io"] ["ingresses"] readVerbs,
   .on ["networking.k8s.io"] ["ingresses/status"] ["update"],
   .on ["networking.k8s.io"] ["ingressclasses"] ["get", "create"],
   .on ["networking.higress.io", "extensions.higress.io"] ["*"] readVerbs,
   .on ["networking.istio.io", "security.istio.io", "extensions.istio.io", "telemetry.istio.io"]
     ["*"] readVerbs,
   .on ["apiextensions.k8s.io"] ["customresourcedefinitions"] readVerbs]

/-- What the gateway's proxy may do. -/
def gatewayRules : List PolicyRule := [.on [""] ["secrets"] readVerbs]

/-- The objects that grant a component its access. -/
structure AccessObjects where
  role : Resource .role
  roleBinding : Resource .roleBinding
  clusterRole : Resource .clusterRole
  clusterRoleBinding : Resource .clusterRoleBinding

/-- The reference to a role that is named after a service account. -/
def roleRefTo (kind : Kind) (account : String) : RoleRef where
  apiGroup := Kind.rbacGroup
  kind := kind.name
  name := account

/-- Compile the objects that grant `rules` to a service account of the owner's namespace. -/
def compileAccess {k : Kind} (owner : Resource k) (account component : String)
    (rules : List PolicyRule) : AccessObjects :=
  let labels := standardLabels owner component
  let subjects := some [Subject.serviceAccount account owner.metadata.nsOrEmpty]
  { role := ⟨ownedMetadata owner account labels, { rules := some rules }⟩
    roleBinding := ⟨ownedMetadata owner account labels, ⟨roleRefTo .role account, subjects⟩⟩
    clusterRole := ⟨clusterMetadata account labels, { rules := some rules }⟩
    clusterRoleBinding :=
      ⟨clusterMetadata account labels, ⟨roleRefTo .clusterRole account, subjects⟩⟩ }

end GatewayOperator
