import GatewayOperator.Compile.Exposure
import GatewayOperator.Defaulting
import GatewayOperator.Workload.Pod

/-!
# Compiling a controller

The Deployment and the Service of a controller whose settings are filled in. The discovery container
runs beside the ingress controller's unless discovery is left to an external service.
-/

namespace GatewayOperator

namespace ControllerCompile

def httpPort : Int32 := 8888

def grpcPort : Int32 := 15051

/-! ## The ingress controller's container -/

/-- Arguments of the ingress controller. -/
def args (s : ControllerSpec) (ns : String) : List String :=
  ["--gatewaySelectorKey=" ++ gatewaySelectorKey,
   "--gatewaySelectorValue=" ++ ns ++ "-" ++ s.controller.gatewayName,
   "--ingressClass=" ++ s.controller.ingressClass] ++
  (if s.common.statusEnabled then [] else ["--enableStatus=false"]) ++
  (if s.controller.watchNamespace = "" then []
   else ["--watchNamespace=" ++ s.controller.watchNamespace])

def env (s : ControllerSpec) : List EnvVar :=
  [.field "POD_NAMESPACE" "metadata.namespace", .field "POD_NAME" "metadata.name"] ++
  EnvVar.ofUser s.controller.container.env

def ports (s : ControllerSpec) : List (Fragment "ContainerPort") :=
  if s.controller.container.ports.isEmpty then
    [containerPort (some "http") httpPort none, containerPort (some "grpc") grpcPort none]
  else s.controller.container.ports

def container (s : ControllerSpec) (ns : String) : Container :=
  let c := s.controller.container
  { name := c.name
    image := c.image.reference
    pullPolicy := c.image.pullPolicy
    args := args s ns
    env := env s
    ports := ports s
    securityContext := c.securityContext.getD ⟨.obj []⟩
    readinessProbe := c.readinessProbe
    resources := if s.common.isLocal then none else c.resources
    mounts := none }

/-! ## The discovery container -/

/-- Arguments of the discovery service. -/
def pilotArgs (s : ControllerSpec) (ns : String) : List String :=
  let p := s.pilot
  ["--monitoringAddr=:15014",
   "--domain=" ++ p.clusterDomain,
   "--keepaliveMaxServerConnectionAge=" ++ toString p.keepaliveMaxServerConnectionAge.toInt ++
     "m"] ++
  (if p.container.logLevel = "" then [] else ["--log_output_level=" ++ p.container.logLevel]) ++
  (if p.container.logAsJson then ["--log_as_json"] else []) ++
  (if p.oneNamespace then ["-a=" ++ ns] else []) ++
  (if p.plugins.isEmpty then [] else ["--plugins=" ++ String.intercalate "," p.plugins])

/-- Address of the discovery service of a revision in a namespace. -/
def istiodAddress (revision ns : String) : String :=
  if revision = "" then "istiod." ++ ns ++ ".svc:15012"
  else "istiod-" ++ revision ++ "." ++ ns ++ ".svc:15012"

/-- A flag as a variable's value. -/
def flagText (b : Bool) : String := if b then "true" else "false"

/-- Environment of the discovery service. -/
def pilotEnv (s : ControllerSpec) (ns : String) : List EnvVar :=
  let p := s.pilot
  [.value "HIGRESS_CONTROLLER_SVC" "127.0.0.1",
   .value "HIGRESS_CONTROLLER_PORT" (toString grpcPort.toInt),
   .value "REVISION" (orText s.common.revision "default"),
   .value "JWT_POLICY" s.pilotJwtPolicy,
   .value "PILOT_CERT_PROVIDER" "istiod",
   .field "POD_NAMESPACE" "metadata.namespace",
   .field "POD_NAME" "metadata.name",
   .field "SERVICE_ACCOUNT" "spec.serviceAccountName",
   .value "KUBECONFIG" "/var/run/secrets/remote/config",
   .value "PRIORITIZED_LEADER_ELECTION" "false",
   .value "INJECT_ENABLE" "false",
   .value "PILOT_ENABLE_PROTOCOL_SNIFFING_FOR_OUTBOUND"
     (flagText p.enableProtocolSniffingForOutbound),
   .value "PILOT_ENABLE_PROTOCOL_SNIFFING_FOR_INBOUND"
     (flagText p.enableProtocolSniffingForInbound)] ++
  (if p.traceSampling = "" then [] else [.value "PILOT_TRACE_SAMPLING" p.traceSampling]) ++
  [.value "ISTIOD_ADDR" (istiodAddress s.common.revision ns),
   .value "PILOT_ENABLE_ANALYSIS" (flagText s.common.istiod.enableAnalysis),
   .value "CLUSTER_ID" s.common.clusterId,
   .value "HIGRESS_ENABLE_ISTIO_API" (flagText s.common.enableIstioApi),
   .value "CUSTOM_CA_CERT_NAME" "higress-ca-root-cert"] ++
  EnvVar.ofUser p.container.env

/-- When the discovery service counts as ready. -/
def pilotProbe : Fragment "Probe" :=
  ⟨.obj [("httpGet", .obj [("path", .str "/ready"), ("port", .int 8080)]),
    ("initialDelaySeconds", .int 1), ("periodSeconds", .int 3), ("timeoutSeconds", .int 5)]⟩

def pilotPorts (s : ControllerSpec) : List (Fragment "ContainerPort") :=
  if s.pilot.container.ports.isEmpty then
    [8080, 15017, 15010].map fun port => containerPort none port none
  else s.pilot.container.ports

/-- Whether the discovery container gets a service-account token. -/
def mountsToken (s : ControllerSpec) : Bool := s.pilotJwtPolicy == thirdPartyJwt

def discoveryContainer (s : ControllerSpec) (ns : String) : Container :=
  let c := s.pilot.container
  { name := c.name
    image := c.image.reference
    pullPolicy := c.image.pullPolicy
    args := pilotArgs s ns
    env := pilotEnv s ns
    ports := pilotPorts s
    securityContext := c.securityContext.getD restrictedSecurityContext
    readinessProbe := some (c.readinessProbe.getD pilotProbe)
    resources := if s.common.isLocal then none else c.resources
    mounts := if mountsToken s then some [tokenMount] else none }

/-! ## The Deployment -/

/-- Secrets of the discovery container that the other one does not name are added. -/
def pullSecrets (s : ControllerSpec) : List (Fragment "LocalObjectReference") :=
  s.pilot.container.imagePullSecrets.foldl
    (fun acc x => if acc.contains x then acc else acc ++ [x])
    s.controller.container.imagePullSecrets

def volumes (s : ControllerSpec) : List Volume :=
  if s.runsEmbeddedDiscovery && mountsToken s then [tokenVolume] else []

def pod (s : ControllerSpec) (name ns : String) : Pod where
  serviceAccountName := s.common.serviceAccountName name
  containers := container s ns ::
    (if s.runsEmbeddedDiscovery then [discoveryContainer s ns] else [])
  volumes := Exposure.nonempty? (volumes s)
  nodeSelector := s.common.nodeSelector.nonempty?
  affinity := s.common.affinity
  tolerations := s.common.tolerations
  securityContext := s.common.podSecurityContext
  imagePullSecrets := pullSecrets s
  hostNetwork := false

/-- The controller's pods; an enabled autoscaler owns their number. -/
def workload (s : ControllerSpec) (name ns : String) : Workload where
  replicas := if s.common.autoscalingEnabled then none else s.common.replicas
  podLabels := s.common.selectorLabels
  podAnnotations := s.controller.container.annotations.nonempty?
  rollingUpdate := none
  pod := pod s name ns

/-- Compile the controller's Deployment. -/
def deployment (c : Controller) : Resource .deployment :=
  let name := c.metadata.anyName
  (workload c.content.spec name c.metadata.nsOrEmpty).deployment
    (ownedMetadata c name (standardLabels c controllerComponent))

/-! ## The Service -/

/-- Ports of the discovery service. -/
def discoveryPorts : List ServicePort :=
  [.tcp "grpc-xds" 15010 15010, .tcp "https-dns" 15012 15012, .tcp "https-webhook" 443 15017,
   .tcp "https-monitoring" 15014 15014]

/-- How the controller is exposed. -/
def exposure (c : Controller) : Exposure :=
  let s := c.content.spec
  { name := c.metadata.anyName
    component := controllerComponent
    selector := s.common.selectorLabels
    settings := s.common.service
    defaultPorts := [.tcp "http" httpPort httpPort, .tcp "grpc" grpcPort grpcPort]
    fixedPorts := if s.runsEmbeddedDiscovery then discoveryPorts else [] }

/-- Compile the controller's Service. -/
def service (c : Controller) : Resource .service := (exposure c).compile c

end ControllerCompile

end GatewayOperator
