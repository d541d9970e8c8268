import GatewayOperator.Autoscaling.Version
import GatewayOperator.Http.Exchange

/-!
# Discovery

Which versions of an API a server serves, asked once at the start.
-/

namespace GatewayOperator

/-- The request for all groups of APIs. -/
def discoveryRequest : HttpRequest := { method := .get, target := "/apis" }

/-- The versions of a group among the groups that are served. -/
def servedVersions (group : String) (groups : Json) : List String :=
  (((groups.itemsAt? "groups").getD []).filter fun g => g.textAt "name" == group).flatMap fun g =>
    ((g.itemsAt? "versions").getD []).map fun v => v.textAt "version"

/-- The version of autoscalers to work with; the current one where none is recognized. -/
def detectAutoscaling (a : HttpAnswer) : Except ApiFailure AutoscalingVersion :=
  (a.readAs fun j =>
    (Shape.read (.record "APIGroupList") j).mapError Shape.Mismatch.message).map fun groups =>
      (AutoscalingVersion.ofServed (servedVersions "autoscaling" groups)).getD .v2

end GatewayOperator
