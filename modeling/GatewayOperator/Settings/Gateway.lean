import GatewayOperator.Settings.Common
import GatewayOperator.Settings.Mesh

/-!
# Settings of a gateway

The desired state of the data plane: the proxy's workload, its Service and the mesh configuration
that the proxy reads.
-/

namespace GatewayOperator

open Wire

/-- Tracing through a proxy bootstrap of the user's own. -/
structure SkywalkingSettings where
  enable : Bool := false
  port : Option Int32 := none
  address : String := ""
  /-- the bootstrap that is mounted into the proxy -/
  customBootstrap : String := ""
  deriving DecidableEq, Repr, Inhabited

instance : Wire SkywalkingSettings where
  encode s := .obj (always "enable" s.enable ++ maybe "port" s.port ++
    unlessBlank "address" s.address ++ unlessBlank "customBootStrap" s.customBootstrap)
  decode j := do
    let fs ← fieldsOf? ["enable", "port", "address", "customBootStrap"] j
    pure {
      enable := ← orElse fs "enable" false
      port := ← orUnset fs "port"
      address := ← orElse fs "address" ""
      customBootstrap := ← orElse fs "customBootStrap" "" }

/-- The desired state of a gateway. -/
structure GatewaySpec where
  common : CommonSettings := {}
  container : ContainerSettings := {}
  /-- the network that this gateway joins when it connects clusters -/
  networkGateway : String := ""
  skywalking : Option SkywalkingSettings := none
  rollingMaxSurge : Option IntOrText := none
  rollingMaxUnavailable : Option IntOrText := none
  meshConfig : MeshConfig := {}
  meshNetworks : Dict Network := ∅
  /-- host directories that hold plugins -/
  volumeWasmPlugins : List String := []
  hostNetwork : Bool := false
  deriving DecidableEq, Inhabited

namespace GatewaySpec

instance : Wire GatewaySpec where
  encode s := .obj (s.common.toFields ++ s.container.toFields ++
    unlessBlank "netWorkGateway" s.networkGateway ++ maybe "skywalking" s.skywalking ++
    maybe "rollingMaxSurge" s.rollingMaxSurge ++
    maybe "rollingMaxUnavailable" s.rollingMaxUnavailable ++ always "meshConfig" s.meshConfig ++
    unlessEmpty "meshNetworks" s.meshNetworks ++
    unlessNil "volumeWasmPlugins" s.volumeWasmPlugins ++ always "hostNetwork" s.hostNetwork)
  decode j := do
    let fs ← namedFields? j
    pure {
      common := ← CommonSettings.ofFields? fs
      container := ← ContainerSettings.ofFields? fs
      networkGateway := ← orElse fs "netWorkGateway" ""
      skywalking := ← orUnset fs "skywalking"
      rollingMaxSurge := ← orUnset fs "rollingMaxSurge"
      rollingMaxUnavailable := ← orUnset fs "rollingMaxUnavailable"
      meshConfig := ← orElse fs "meshConfig" {}
      meshNetworks := ← orElse fs "meshNetworks" ∅
      volumeWasmPlugins := ← orElse fs "volumeWasmPlugins" []
      hostNetwork := ← orElse fs "hostNetwork" false }

def skywalkingEnabled (s : GatewaySpec) : Bool :=
  match s.skywalking with
  | some w => w.enable
  | none => false

/-- Whether the gateway connects the networks of several clusters. -/
def isNetworkGateway (s : GatewaySpec) : Bool := s.networkGateway ≠ ""

end GatewaySpec

end GatewayOperator
