import GatewayOperator.Shape.Basic

/-!
# Fields: whole objects: their version and kind may be left out, but may not be those of others
-/

namespace GatewayOperator

namespace Shape

/-- Whole objects: their version and kind may be left out, but may not be those of others. -/
def objectTypes : Types :=
  [("NamespaceSpec",
     [opt "finalizers" (.list .text)]),
   ("NamespaceStatus",
     [opt "conditions" (.list (.record "NamespaceCondition")), opt "phase" .text]),
   ("NamespaceCondition",
     [opt "lastTransitionTime" .time, opt "message" .text, opt "reason" .text, reqText "status",
      reqText "type"]),
   ("EventSeries",
     [opt "count" .int32, opt "lastObservedTime" .microTime]),
   ("EventSource",
     [opt "component" .text, opt "host" .text]),
   ("LeaseSpec",
     [opt "acquireTime" .microTime, opt "holderIdentity" .text,
      opt "leaseDurationSeconds" .int32, opt "leaseTransitions" .int32,
      opt "renewTime" .microTime]),
   ("Deployment",
     [opt "apiVersion" (.exactly "apps/v1"), opt "kind" (.exactly "Deployment"),
      reqRecord "metadata" "ObjectMeta" [], opt "spec" (.record "DeploymentSpec"),
      opt "status" (.record "DeploymentStatus")]),
   ("Service",
     [opt "apiVersion" (.exactly "v1"), opt "kind" (.exactly "Service"),
      reqRecord "metadata" "ObjectMeta" [], opt "spec" (.record "ServiceSpec"),
      opt "status" (.record "ServiceStatus")]),
   ("ServiceAccount",
     [opt "apiVersion" (.exactly "v1"), opt "automountServiceAccountToken" .flag,
      opt "imagePullSecrets" (.list (.record "LocalObjectReference")),
      opt "kind" (.exactly "ServiceAccount"), reqRecord "metadata" "ObjectMeta" [],
      opt "secrets" (.list (.record "ObjectReference"))]),
   ("ConfigMap",
     [opt "apiVersion" (.exactly "v1"), opt "binaryData" (.dict .bytes),
      opt "data" (.dict .text), opt "immutable" .flag, opt "kind" (.exactly "ConfigMap"),
      reqRecord "metadata" "ObjectMeta" []]),
   ("Namespace",
     [opt "apiVersion" (.exactly "v1"), opt "kind" (.exactly "Namespace"),
      reqRecord "metadata" "ObjectMeta" [], opt "spec" (.record "NamespaceSpec"),
      opt "status" (.record "NamespaceStatus")]),
   ("Event",
     [opt "action" .text, opt "apiVersion" (.exactly "v1"), opt "count" .int32,
      opt "eventTime" .microTime, opt "firstTimestamp" .time,
      reqRecord "involvedObject" "ObjectReference" [], opt "kind" (.exactly "Event"),
      opt "lastTimestamp" .time, opt "message" .text, reqRecord "metadata" "ObjectMeta" [],
      opt "reason" .text, opt "related" (.record "ObjectReference"),
      opt "reportingComponent" .text, opt "reportingInstance" .text,
      opt "series" (.record "EventSeries"), opt "source" (.record "EventSource"),
      opt "type" .text]),
   ("Role",
     [opt "apiVersion" (.exactly "rbac.authorization.k8s.io/v1"), opt "kind" (.exactly "Role"),
      reqRecord "metadata" "ObjectMeta" [], opt "rules" (.list (.record "PolicyRule"))]),
   ("RoleBinding",
     [opt "apiVersion" (.exactly "rbac.authorization.k8s.io/v1"),
      opt "kind" (.exactly "RoleBinding"), reqRecord "metadata" "ObjectMeta" [],
      reqRecord "roleRef" "RoleRef" ["apiGroup", "kind", "name"],
      opt "subjects" (.list (.record "Subject"))]),
   ("ClusterRole",
     [opt "aggregationRule" (.record "AggregationRule"),
      opt "apiVersion" (.exactly "rbac.authorization.k8s.io/v1"),
      opt "kind" (.exactly "ClusterRole"), reqRecord "metadata" "ObjectMeta" [],
      opt "rules" (.list (.record "PolicyRule"))]),
   ("ClusterRoleBinding",
     [opt "apiVersion" (.exactly "rbac.authorization.k8s.io/v1"),
      opt "kind" (.exactly "ClusterRoleBinding"), reqRecord "metadata" "ObjectMeta" [],
      reqRecord "roleRef" "RoleRef" ["apiGroup", "kind", "name"],
      opt "subjects" (.list (.record "Subject"))]),
   ("CustomResourceDefinition",
     [opt "apiVersion" (.exactly "apiextensions.k8s.io/v1"),
      opt "kind" (.exactly "CustomResourceDefinition"), reqRecord "metadata" "ObjectMeta" [],
      req "spec" (.record "CustomResourceDefinitionSpec")
        (.obj [("group", .str ""), ("names", zeroTexts ["kind", "plural"]), ("scope", .str ""),
          ("versions", .arr [])]),
      opt "status" (.record "CustomResourceDefinitionStatus")]),
   ("HorizontalPodAutoscaler",
     [opt "apiVersion" (.exactly "autoscaling/v2"),
      opt "kind" (.exactly "HorizontalPodAutoscaler"), reqRecord "metadata" "ObjectMeta" [],
      opt "spec" (.record "HorizontalPodAutoscalerSpec"),
      opt "status" (.record "HorizontalPodAutoscalerStatus")]),
   ("Lease",
     [opt "apiVersion" (.exactly "coordination.k8s.io/v1"), opt "kind" (.exactly "Lease"),
      reqRecord "metadata" "ObjectMeta" [], opt "spec" (.record "LeaseSpec")]),
   ("ServerAddressByClientCIDR",
     [reqText "clientCIDR", reqText "serverAddress"]),
   ("GroupVersionForDiscovery",
     [reqText "groupVersion", reqText "version"]),
   ("APIGroup",
     [opt "apiVersion" (.exactly "v1"), opt "kind" (.exactly "APIGroup"), reqText "name",
      opt "preferredVersion" (.record "GroupVersionForDiscovery"),
      opt "serverAddressByClientCIDRs" (.list (.record "ServerAddressByClientCIDR")),
      reqList "versions" (.record "GroupVersionForDiscovery")]),
   ("APIGroupList",
     [opt "apiVersion" (.exactly "v1"), reqList "groups" (.record "APIGroup"),
      opt "kind" (.exactly "APIGroupList")])]

end Shape

end GatewayOperator
