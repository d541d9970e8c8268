import GatewayOperator.Settings.Common

/-!
# Settings of a controller

The desired state of the control plane: the ingress controller's container and, unless discovery is
left to an external service, the discovery container beside it.
-/

namespace GatewayOperator

open Wire

/-- Settings of the ingress controller's container. -/
structure IngressSettings where
  container : ContainerSettings := {}
  /-- the gateway that the controller programs -/
  gatewayName : String := ""
  ingressClass : String := ""
  /-- the one namespace to watch, or none for all -/
  watchNamespace : String := ""
  deriving DecidableEq, Inhabited

instance : Wire IngressSettings where
  encode s := .obj (s.container.toFields ++ always "gatewayName" s.gatewayName ++
    always "ingressClass" s.ingressClass ++ always "watchNamespace" s.watchNamespace)
  decode j := do
    let fs ← namedFields? j
    pure {
      container := ← ContainerSettings.ofFields? fs
      gatewayName := ← orElse fs "gatewayName" ""
      ingressClass := ← orElse fs "ingressClass" ""
      watchNamespace := ← orElse fs "watchNamespace" "" }

/-- Settings of the discovery container. -/
structure PilotSettings where
  container : ContainerSettings := {}
  traceSampling : String := ""
  plugins : List String := []
  /-- minutes until a long-lived connection is renewed -/
  keepaliveMaxServerConnectionAge : Int64 := 0
  clusterDomain : String := ""
  /-- whether discovery is limited to the controller's own namespace -/
  oneNamespace : Bool := false
  jwtPolicy : String := ""
  enableProtocolSniffingForOutbound : Bool := false
  enableProtocolSniffingForInbound : Bool := false
  deriving DecidableEq, Inhabited

instance : Wire PilotSettings where
  encode s := .obj (s.container.toFields ++ always "traceSampling" s.traceSampling ++
    always "plugins" s.plugins ++
    always "keepaliveMaxServerConnectionAge" s.keepaliveMaxServerConnectionAge ++
    always "clusterDomain" s.clusterDomain ++ always "oneNamespace" s.oneNamespace ++
    always "jwtPolicy" s.jwtPolicy ++
    always "enableProtocolSniffingForOutbound" s.enableProtocolSniffingForOutbound ++
    always "enableProtocolSniffingForInbound" s.enableProtocolSniffingForInbound)
  decode j := do
    let fs ← namedFields? j
    pure {
      container := ← ContainerSettings.ofFields? fs
      traceSampling := ← orElse fs "traceSampling" ""
      plugins := ← orElse fs "plugins" []
      keepaliveMaxServerConnectionAge := ← orElse fs "keepaliveMaxServerConnectionAge" 0
      clusterDomain := ← orElse fs "clusterDomain" ""
      oneNamespace := ← orElse fs "oneNamespace" false
      jwtPolicy := ← orElse fs "jwtPolicy" ""
      enableProtocolSniffingForOutbound := ← orElse fs "enableProtocolSniffingForOutbound" false
      enableProtocolSniffingForInbound := ← orElse fs "enableProtocolSniffingForInbound" false }

/-- The desired state of a controller. -/
structure ControllerSpec where
  common : CommonSettings := {}
  controller : IngressSettings := {}
  pilot : PilotSettings := {}
  deriving DecidableEq, Inhabited

namespace ControllerSpec

instance : Wire ControllerSpec where
  encode s := .obj (s.common.toFields ++ always "controller" s.controller ++ always "pilot" s.pilot)
  decode j := do
    let fs ← namedFields? j
    pure {
      common := ← CommonSettings.ofFields? fs
      controller := ← orElse fs "controller" {}
      pilot := ← orElse fs "pilot" {} }

/-- The discovery container's JWT policy, or the common one. -/
def pilotJwtPolicy (s : ControllerSpec) : String :=
  if s.pilot.jwtPolicy = "" then s.common.jwtPolicy else s.pilot.jwtPolicy

/-- Whether discovery runs beside the controller. -/
def runsEmbeddedDiscovery (s : ControllerSpec) : Bool := !s.common.enableHigressIstio

end ControllerSpec

end GatewayOperator
