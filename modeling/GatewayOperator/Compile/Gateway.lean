import GatewayOperator.Compile.Exposure
import GatewayOperator.Defaulting
import GatewayOperator.Workload.Pod

/-!
# Compiling a gateway

The Deployment and the Service of a gateway whose settings are filled in. The proxy mounts the mesh
configuration, the mesh's root certificate and, as the settings ask for them, the service-account
token, a proxy bootstrap and the plugins of the host.
-/

namespace GatewayOperator

/-- Name of the ConfigMap with the mesh configuration. -/
def meshConfigMap : String := "higress-config"

/-- Name of the ConfigMap with the proxy bootstrap. -/
def bootstrapConfigMap : String := "higress-custom-bootstrap"

/-- The key of the proxy bootstrap in its ConfigMap. -/
def bootstrapKey : String := "custom_bootstrap.json"

namespace GatewayCompile

def bootstrapVolume : String := "custom-bootstrap-volume"

def bootstrapMountPath : String := "/etc/istio/custom-bootstrap"

def pluginsVolume : String := "local-wasmplugins-volume"

def pluginsPath : String := "/opt/plugins"

def statusPort : Int32 := 15021

/-- Name of the ConfigMap with the mesh's root certificate. -/
def rootCertificateMap (s : GatewaySpec) : String :=
  if s.common.enableHigressIstio then "istio-ca-root-cert" else "higress-ca-root-cert"

/-! ## The proxy -/

/-- Arguments of the proxy. -/
def args (ns : String) : List String :=
  ["proxy", "router", "--domain", ns ++ ".svc.cluster.local", "--proxyLogLevel=warning",
   "--proxyComponentLogLevel=misc:error", "--log_output_level=all:info",
   "--serviceCluster=" ++ gatewayComponent]

/-- Environment of the proxy. -/
def env (s : GatewaySpec) : List EnvVar :=
  [.field "NODE_NAME" "spec.nodeName",
   .field "POD_NAME" "metadata.name",
   .field "POD_NAMESPACE" "metadata.namespace",
   .field "INSTANCE_IP" "status.podIP",
   .field "HOST_IP" "status.hostIP",
   .field "SERVICE_ACCOUNT" "spec.serviceAccountName",
   .value "PROXY_XDS_VIA_AGENT" "true",
   .value "ENABLE_INGRESS_GATEWAY_SDS" "false",
   .value "JWT_POLICY" s.common.jwtPolicy,
   .value "ISTIO_META_HTTP10" "1",
   .value "ISTIO_META_CLUSTER_ID" s.common.clusterId,
   .value "INSTANCE_NAME" gatewayComponent] ++
  (if s.skywalkingEnabled then
    [.value "ISTIO_BOOTSTRAP_OVERRIDE" (bootstrapMountPath ++ "/" ++ bootstrapKey)] else []) ++
  (if s.isNetworkGateway then
    [.value "ISTIO_META_REQUESTED_NETWORK_VIEW" s.networkGateway] else []) ++
  EnvVar.ofUser s.container.env

/-- Ports of the proxy: the user's, or the metrics port, with the host's own ports in local mode. -/
def ports (s : GatewaySpec) : List (Fragment "ContainerPort") :=
  if s.container.ports.isEmpty then
    containerPort (some "http-envoy-prom") 15090 none ::
      (if s.common.isLocal then
        [containerPort (some "http") 80 (some 80), containerPort (some "https") 443 (some 443)]
       else [])
  else s.container.ports

/-- When the proxy counts as ready. -/
def probe : Fragment "Probe" :=
  ⟨.obj [("failureThreshold", .int 30),
    ("httpGet", .obj [("path", .str "/healthz/ready"), ("port", Json.ofInt32 statusPort),
      ("scheme", .str "HTTP")]),
    ("initialDelaySeconds", .int 1), ("periodSeconds", .int 2), ("successThreshold", .int 1),
    ("timeoutSeconds", .int 3)]⟩

/-- Whether the pod sees plugins of its host. -/
def mountsPlugins (s : GatewaySpec) : Bool := !s.volumeWasmPlugins.isEmpty || s.common.isLocal

/-- Whether the pod gets a service-account token. -/
def mountsToken (s : GatewaySpec) : Bool := s.common.jwtPolicy == thirdPartyJwt

def mounts (s : GatewaySpec) : List Mount :=
  [⟨"config", "/etc/istio/config", none⟩,
   ⟨"istio-ca-root-cert", "/var/run/secrets/istio", none⟩,
   ⟨"istio-data", "/var/lib/istio/data", none⟩,
   ⟨"podinfo", "/etc/istio/pod", none⟩,
   ⟨"proxy-socket", "/etc/istio/proxy", none⟩] ++
  (if mountsToken s then [tokenMount] else []) ++
  (if s.skywalkingEnabled then [⟨bootstrapVolume, bootstrapMountPath, none⟩] else []) ++
  (if mountsPlugins s then [⟨pluginsVolume, pluginsPath, none⟩] else [])

def volumes (s : GatewaySpec) : List Volume :=
  [⟨"config", .configMap meshConfigMap none⟩,
   ⟨"istio-ca-root-cert", .configMap (rootCertificateMap s) none⟩,
   ⟨"istio-data", .emptyDir⟩,
   ⟨"proxy-socket", .emptyDir⟩,
   ⟨"podinfo", .podInfo s.container.name⟩] ++
  (if mountsToken s then [tokenVolume] else []) ++
  (if s.skywalkingEnabled then
    [⟨bootstrapVolume, .configMap bootstrapConfigMap (some fileMode)⟩] else []) ++
  (if mountsPlugins s then [⟨pluginsVolume, .hostPath pluginsPath⟩] else [])

/-- Lets the proxy bind low ports without privileges. -/
def defaultPodSecurityContext : Fragment "PodSecurityContext" :=
  ⟨.obj [("sysctls", .arr [.obj [("name", .str "net.ipv4.ip_unprivileged_port_start"),
    ("value", .str "0")]])]⟩

/-! ## The Deployment -/

/-- The proxy's container. -/
def container (s : GatewaySpec) (ns : String) : Container where
  name := s.container.name
  image := s.container.image.reference
  pullPolicy := s.container.image.pullPolicy
  args := args ns
  env := env s
  ports := ports s
  securityContext := s.container.securityContext.getD restrictedSecurityContext
  readinessProbe := some (s.container.readinessProbe.getD probe)
  resources := if s.common.isLocal then none else s.container.resources
  mounts := some (mounts s)

def pod (s : GatewaySpec) (name ns : String) : Pod where
  serviceAccountName := s.common.serviceAccountName name
  containers := [container s ns]
  volumes := some (volumes s)
  nodeSelector := s.common.nodeSelector.nonempty?
  affinity := s.common.affinity
  tolerations := s.common.tolerations
  securityContext := some (s.common.podSecurityContext.getD defaultPodSecurityContext)
  imagePullSecrets := s.container.imagePullSecrets
  hostNetwork := s.hostNetwork

/-- The update strategy, if the user sets a part of it. -/
def rollingUpdate (s : GatewaySpec) : Option RollingUpdate :=
  if s.rollingMaxSurge.isNone && s.rollingMaxUnavailable.isNone then none
  else some ⟨s.rollingMaxSurge, s.rollingMaxUnavailable⟩

/-- The gateway's pods; an enabled autoscaler owns their number. -/
def workload (s : GatewaySpec) (name ns : String) : Workload where
  replicas := if s.common.autoscalingEnabled then none else s.common.replicas
  podLabels := s.common.selectorLabels
  podAnnotations := s.container.annotations.nonempty?
  rollingUpdate := rollingUpdate s
  pod := pod s name ns

/-- Compile the gateway's Deployment. -/
def deployment (g : Gateway) : Resource .deployment :=
  let name := g.metadata.anyName
  (workload g.content.spec name g.metadata.nsOrEmpty).deployment
    (ownedMetadata g name (standardLabels g gatewayComponent))

/-! ## The Service -/

/-- Ports that a gateway between networks always exposes. -/
def networkPorts : List ServicePort :=
  [.tcp "status-port" statusPort statusPort, .tcp "tls" 15443 15443,
   .tcp "tls-istiod" 15012 15012, .tcp "tls-webhook" 15017 15017]

/-- How the gateway is exposed. -/
def exposure (g : Gateway) : Exposure :=
  let s := g.content.spec
  { name := g.metadata.anyName
    component := gatewayComponent
    selector := s.common.selectorLabels
    settings := s.common.service
    fixedPorts := if s.isNetworkGateway then networkPorts else []
    extraLabels :=
      if s.isNetworkGateway then (∅ : Dict String).insert topologyNetworkLabel s.networkGateway
      else ∅ }

/-- Compile the gateway's Service. -/
def service (g : Gateway) : Resource .service := (exposure g).compile g

end GatewayCompile

end GatewayOperator
