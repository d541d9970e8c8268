/-!
# Autoscaling versions

The versions of the autoscaling API that a cluster may serve, the newest first.
-/

namespace GatewayOperator

/-- A version of the autoscaling API. -/
inductive AutoscalingVersion where
  | v2
  | v2beta2
  | v2beta1
  deriving DecidableEq, Repr, Inhabited

namespace AutoscalingVersion

/-- The version's name in the API. -/
def text : AutoscalingVersion → String
  | .v2 => "v2"
  | .v2beta2 => "v2beta2"
  | .v2beta1 => "v2beta1"

/-- The newest known version among those that are served. -/
def ofServed (served : List String) : Option AutoscalingVersion :=
  [v2, v2beta2, v2beta1].find? fun v => served.contains v.text

end AutoscalingVersion

end GatewayOperator
