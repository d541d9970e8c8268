import GatewayOperator.Compile.Gateway
import GatewayOperator.Failure
import GatewayOperator.Yaml.Text

/-!
# Mesh configuration of a gateway

The ConfigMaps that the proxy mounts: the mesh configuration with its addresses filled in, and the
user's proxy bootstrap, without which tracing cannot be enabled.
-/

namespace GatewayOperator

namespace GatewayCompile

open Wire

/-- The namespace of the external discovery service. -/
def istioNamespace (s : GatewaySpec) (ns : String) : String := orText s.common.istioNamespace ns

/-- Where the proxy finds the discovery service. -/
def discoveryAddress (s : GatewaySpec) (ns : String) : String :=
  if s.common.enableHigressIstio then
    (if s.common.revision = "" then "istiod." else "istiod-" ++ s.common.revision ++ ".") ++
      istioNamespace s ns ++ ".svc:15012"
  else "higress-controller." ++ ns ++ ".svc:15012"

/-- The mesh configuration, its root namespace and discovery address filled in where they are
empty. -/
def effectiveMeshConfig (s : GatewaySpec) (ns : String) : MeshConfig :=
  { s.meshConfig with
    rootNamespace := orText s.meshConfig.rootNamespace
      (if s.common.enableHigressIstio then istioNamespace s ns else ns)
    defaultConfig := { s.meshConfig.defaultConfig with
      discoveryAddress := orText s.meshConfig.defaultConfig.discoveryAddress
        (discoveryAddress s ns) } }

/-- The mesh configuration as the proxy reads it. -/
def meshText (m : MeshConfig) : String := Yaml.document (encode m)

/-- The mesh's networks as the proxy reads them. -/
def networksText (networks : Dict Network) : String :=
  Yaml.document (.obj [("networks", encode networks)])

/-- Compile the ConfigMap with the mesh configuration and the mesh's networks. -/
def meshConfiguration (g : Gateway) : Resource .configMap where
  metadata := ownedMetadata g meshConfigMap (standardLabels g gatewayComponent)
  content := {
    data := some (((∅ : Dict String).insert "mesh"
        (meshText (effectiveMeshConfig g.content.spec g.metadata.nsOrEmpty))).insert
      "meshNetworks" (networksText g.content.spec.meshNetworks)) }

/-- Compile the ConfigMap with the proxy bootstrap, if tracing is enabled; then there has to be
one. -/
def bootstrap (g : Gateway) : Except Failure (Option (Resource .configMap)) :=
  match g.content.spec.skywalking with
  | none => .ok none
  | some s =>
    if !s.enable then .ok none
    else if s.customBootstrap = "" then
      .error (.validation ("skywalking is enabled on " ++ g.metadata.anyName ++
        " but customBootStrap is empty"))
    else .ok (some {
      metadata := ownedMetadata g bootstrapConfigMap (standardLabels g gatewayComponent)
      content := { data := some ((∅ : Dict String).insert bootstrapKey s.customBootstrap) } })

end GatewayCompile

end GatewayOperator
