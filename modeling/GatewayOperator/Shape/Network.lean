import GatewayOperator.Shape.Basic

/-!
# Fields: services
-/

namespace GatewayOperator

namespace Shape

/-- Services. -/
def networkTypes : Types :=
  [("ServiceSpec",
     [opt "allocateLoadBalancerNodePorts" .flag, opt "clusterIP" .text,
      opt "clusterIPs" (.list .text), opt "externalIPs" (.list .text), opt "externalName" .text,
      opt "externalTrafficPolicy" .text, opt "healthCheckNodePort" .int32,
      opt "internalTrafficPolicy" .text, opt "ipFamilies" (.list .text),
      opt "ipFamilyPolicy" .text, opt "loadBalancerClass" .text, opt "loadBalancerIP" .text,
      opt "loadBalancerSourceRanges" (.list .text), opt "ports" (.list (.record "ServicePort")),
      opt "publishNotReadyAddresses" .flag, opt "selector" (.dict .text),
      opt "sessionAffinity" .text, opt "sessionAffinityConfig" (.record "SessionAffinityConfig"),
      opt "trafficDistribution" .text, opt "type" .text]),
   ("ServicePort",
     [opt "appProtocol" .text, opt "name" .text, opt "nodePort" .int32, reqInt "port",
      opt "protocol" .text, opt "targetPort" .intOrText]),
   ("SessionAffinityConfig",
     [opt "clientIP" (.record "ClientIPConfig")]),
   ("ClientIPConfig",
     [opt "timeoutSeconds" .int32]),
   ("ServiceStatus",
     [opt "conditions" (.list (.record "Condition")),
      opt "loadBalancer" (.record "LoadBalancerStatus")]),
   ("LoadBalancerStatus",
     [opt "ingress" (.list (.record "LoadBalancerIngress"))]),
   ("LoadBalancerIngress",
     [opt "hostname" .text, opt "ip" .text, opt "ipMode" .text,
      opt "ports" (.list (.record "PortStatus"))]),
   ("PortStatus",
     [opt "error" .text, reqInt "port", reqText "protocol"])]

end Shape

end GatewayOperator
