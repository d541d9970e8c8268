import GatewayOperator.Shape.Basic

/-!
# Fields: roles and their bindings
-/

namespace GatewayOperator

namespace Shape

/-- Roles and their bindings. -/
def accessTypes : Types :=
  [("PolicyRule",
     [opt "apiGroups" (.list .text), opt "nonResourceURLs" (.list .text),
      opt "resourceNames" (.list .text), opt "resources" (.list .text), reqList "verbs" .text]),
   ("RoleRef",
     [reqText "apiGroup", reqText "kind", reqText "name"]),
   ("Subject",
     [opt "apiGroup" .text, reqText "kind", reqText "name", opt "namespace" .text]),
   ("AggregationRule",
     [opt "clusterRoleSelectors" (.list (.record "LabelSelector"))])]

end Shape

end GatewayOperator
