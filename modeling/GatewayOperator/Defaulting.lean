import GatewayOperator.Resource.Basic

/-!
# Defaulting

Before anything is compiled from a desired state, every unset setting gets its fixed value.
Defaulting never fails, leaves alone what is set, and is not stored.
-/

namespace GatewayOperator

/-- The gateway's component, which also names its service account and container. -/
def gatewayComponent : String := "higress-gateway"

/-- The controller's component, which also names its service account and container. -/
def controllerComponent : String := "higress-controller"

/-- Name of the discovery container. -/
def pilotContainer : String := "discovery"

def defaultImageRegistry : String := "higress-registry.cn-hangzhou.cr.aliyuncs.com/higress"

def defaultImageTag : String := "latest"

def defaultIngressClass : String := "higress"

def defaultClusterDomain : String := "cluster.local"

def defaultKeepaliveMinutes : Int64 := 30

def defaultGatewayReplicas : Int32 := 1

/-- The pod label that names the mesh network of a gateway. -/
def topologyNetworkLabel : String := "topology.istio.io/network"

/-- The label by which a controller finds the pods of its gateway. -/
def gatewaySelectorKey : String := "higress"

namespace CommonSettings

/-- The common settings with their defaults; a component may have a default replica count. -/
def withDefaults (s : CommonSettings) (account : String) (replicas : Option Int32) :
    CommonSettings :=
  { s with
    rbac := some (s.rbac.getD { enable := true })
    serviceAccount := some (s.serviceAccount.getD { enable := true, name := account })
    replicas := s.replicas <|> replicas
    enableStatus := some (s.enableStatus.getD true) }

end CommonSettings

/-- A text, or another one in place of an empty one. -/
def orText (s default : String) : String := if s = "" then default else s

namespace ContainerSettings

/-- The container settings with their defaults. -/
def withDefaults (s : ContainerSettings) (name image : String) : ContainerSettings :=
  { s with
    name := orText s.name name
    image := { s.image with
      repository := orText s.image.repository (defaultImageRegistry ++ "/" ++ image)
      tag := orText s.image.tag defaultImageTag } }

end ContainerSettings

/-- The Service of a gateway whose user described none. -/
def defaultGatewayService : ServiceSettings where
  type := "LoadBalancer"
  ports := [.tcp "http2" 80 80, .tcp "https" 443 443]

/-- The labels that select a gateway's pods: the given ones, or the component and the gateway's own
value under the selector key. -/
def gatewaySelector (labels : Dict String) (ns : String) : Dict String :=
  if labels.isEmpty then
    ((∅ : Dict String).insert "app" gatewayComponent).insert gatewaySelectorKey
      (ns ++ "-" ++ gatewayComponent)
  else labels

/-- Labels with the network of a gateway, unless a network is named there. -/
def withNetworkLabel (labels : Dict String) (network : String) : Dict String :=
  if network = "" ∨ labels.contains topologyNetworkLabel then labels
  else labels.insert topologyNetworkLabel network

namespace GatewaySpec

/-- A gateway's settings with their defaults, in a namespace. -/
def withDefaults (s : GatewaySpec) (ns : String) : GatewaySpec :=
  let common := s.common.withDefaults gatewayComponent (some defaultGatewayReplicas)
  { s with
    common := { common with
      selectorLabels :=
        withNetworkLabel (gatewaySelector common.selectorLabels ns) s.networkGateway
      service := some (common.service.getD defaultGatewayService) }
    container := s.container.withDefaults gatewayComponent "gateway"
    skywalking := some (s.skywalking.getD {}) }

end GatewaySpec

namespace ControllerSpec

/-- A controller's settings with their defaults. -/
def withDefaults (s : ControllerSpec) : ControllerSpec :=
  let common := s.common.withDefaults controllerComponent none
  { common := { common with
      selectorLabels :=
        if common.selectorLabels.isEmpty then (∅ : Dict String).insert "app" controllerComponent
        else common.selectorLabels }
    controller := { s.controller with
      container := s.controller.container.withDefaults controllerComponent "higress"
      gatewayName := orText s.controller.gatewayName gatewayComponent
      ingressClass := orText s.controller.ingressClass defaultIngressClass }
    pilot := { s.pilot with
      container := s.pilot.container.withDefaults pilotContainer "pilot"
      clusterDomain := orText s.pilot.clusterDomain defaultClusterDomain
      keepaliveMaxServerConnectionAge :=
        if s.pilot.keepaliveMaxServerConnectionAge = 0 then defaultKeepaliveMinutes
        else s.pilot.keepaliveMaxServerConnectionAge } }

end ControllerSpec

/-- A gateway with its settings filled in. -/
def Resource.gatewayWithDefaults (g : Gateway) : Gateway :=
  { g with content := { g.content with
      spec := g.content.spec.withDefaults g.metadata.nsOrEmpty } }

/-- A controller with its settings filled in. -/
def Resource.controllerWithDefaults (c : Controller) : Controller :=
  { c with content := { c.content with spec := c.content.spec.withDefaults } }

end GatewayOperator
