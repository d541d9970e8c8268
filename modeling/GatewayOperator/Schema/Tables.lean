import GatewayOperator.Schema.Field

/-!
# The records of the desired state

Each record of `Settings` and of the older autoscaler versions, field by field.
-/

namespace GatewayOperator

namespace Schema

open FieldType

/-- Texts by name. -/
def texts : FieldType := .dict .text

/-- A list of values of another API. -/
def fragments (type : String) : FieldType := .list (.fragment (.record type))

/-- A value of another API that may be unset. -/
def maybeFragment (name type : String) : FieldInfo × FieldType :=
  maybe name (.fragment (.record type))

/-! ## Common settings -/

def image : FieldType :=
  .record none [always "repository" text, always "tag" text, whenSet "imagePullPolicy" text]

def serviceAccount : FieldType :=
  .record none [always "enable" flag, always "name" text, whenSet "annotations" texts]

def rbac : FieldType := .record none [always "enable" flag]

def autoscaling : FieldType :=
  .record "Declarative horizontal scaling of the component's Deployment"
    [always "enable" flag, maybe "minReplicas" int32, always "maxReplicas" int32,
     maybe "targetCPUUtilizationPercentage" int32]

def istiod : FieldType := .record none [always "enableAnalysis" flag]

def multiCluster : FieldType := .record none [always "enable" flag, always "clusterName" text]

def service : FieldType :=
  .record "Service exposure of a component"
    [always "type" text, whenSet "ports" (fragments "ServicePort"), whenSet "annotations" texts,
     whenSet "loadBalancerIP" text, whenSet "loadBalancerSourceRanges" (.list text),
     whenSet "externalTrafficPolicy" text]

def componentStatus : FieldType :=
  .record "Observed state shared by both kinds"
    [always "deployed" flag,
     maybe "serviceAccountName" text
       "Service account whose subject was last bound in the shared bindings"]

def commonFields : Fields :=
  [maybe "replicas" int32,
   whenSet "selectorLabels" texts,
   whenSet "nodeSelector" texts,
   maybeFragment "affinity" "Affinity",
   whenSet "toleration" (fragments "Toleration"),
   maybe "service" service,
   maybe "rbac" rbac,
   maybe "serviceAccount" serviceAccount,
   maybe "autoScaling" autoscaling,
   maybeFragment "podSecurityContext" "PodSecurityContext",
   maybe "enableStatus" flag "Whether the controller writes ingress status back (unset means yes)",
   always "enableHigressIstio" flag
     "Delegate discovery to an external higress-istio instead of the embedded one",
   always "enableIstioAPI" flag,
   always "istioNamespace" text,
   always "revision" text,
   always "istiod" istiod,
   always "multiCluster" multiCluster,
   always "local" flag "Local mode: host ports instead of a load balancer, no resource limits",
   always "jwtPolicy" text]

/-- What the schema of a specification says about it. -/
def commonDescription : String := "Fields shared by every desired-state kind"

def containerFields : Fields :=
  [always "name" text,
   whenSet "annotations" texts,
   always "image" image,
   whenSet "imagePullSecrets" (fragments "LocalObjectReference"),
   whenSet "env" texts,
   maybeFragment "readinessProbe" "Probe",
   whenSet "ports" (fragments "ContainerPort"),
   maybeFragment "resources" "ResourceRequirements",
   maybeFragment "securityContext" "SecurityContext",
   always "logLevel" text,
   always "logAsJson" flag]

/-! ## Mesh configuration -/

def addressedTracer : FieldType := .record none [always "address" text]

def lightstepTracer : FieldType :=
  .record none [always "address" text, always "accessToken" text]

def stackdriverTracer : FieldType :=
  .record none
    [always "debug" flag, maybe "maxNumberOfAttributes" int64,
     maybe "maxNumberOfAnnotations" int64, maybe "maxNumberOfMessageEvents" int64]

def tracing : FieldType :=
  .record "Tracing backends; at most one is expected to be set"
    [maybe "zipkin" addressedTracer, maybe "lightstep" lightstepTracer,
     maybe "datadog" addressedTracer, maybe "stackdriver" stackdriverTracer,
     maybe "openCensusAgent" addressedTracer]

def proxyStatsMatcher : FieldType :=
  .record none
    [whenSet "inclusionPrefixes" (.list text), whenSet "inclusionSuffixes" (.list text),
     whenSet "inclusionRegexps" (.list text)]

def proxyConfig : FieldType :=
  .record none
    [always "disableAlpnH2" flag, whenSet "meshId" text, maybe "tracing" tracing,
     whenSet "discoveryAddress" text, maybe "proxyStatsMatcher" proxyStatsMatcher]

def configSource : FieldType := .record none [always "address" text]

def meshConfig : FieldType :=
  .record none
    [whenSet "trustDomain" text, whenSet "accessLogEncoding" text, whenSet "accessLogFile" text,
     whenSet "ingressControllerMode" text, whenSet "accessLogFormat" text,
     whenSet "dnsRefreshRate" text, always "enableAutoMtls" flag,
     always "enablePrometheusMerge" flag, whenSet "protocolDetectionTimeout" text,
     whenSet "configSources" (.list configSource), always "defaultConfig" proxyConfig,
     whenSet "rootNamespace" text]

def networkEndpoint : FieldType :=
  .record none [whenSet "fromCidr" text, whenSet "fromRegistry" text]

def networkGateway : FieldType :=
  .record none
    [whenSet "address" text, whenSet "registryServiceName" text, always "port" int32]

def network : FieldType :=
  .record none
    [whenSet "endpoints" (.list networkEndpoint), whenSet "gateways" (.list networkGateway)]

/-! ## Gateways -/

def skywalking : FieldType :=
  .record "Skywalking tracing through a custom Envoy bootstrap"
    [always "enable" flag, maybe "port" int32, whenSet "address" text,
     whenSet "customBootStrap" text "Raw bootstrap JSON mounted into the proxy"]

def gatewayFields : Fields :=
  shared (commonFields ++ containerFields) ++
    [whenSet "netWorkGateway" text "Network name advertised when this gateway federates clusters",
     maybe "skywalking" skywalking,
     maybe "rollingMaxSurge" (.fragment .intOrText),
     maybe "rollingMaxUnavailable" (.fragment .intOrText),
     always "meshConfig" meshConfig,
     whenSet "meshNetworks" (.dict network),
     whenSet "volumeWasmPlugins" (.list text) "Host directories holding Wasm plugins",
     always "hostNetwork" flag]

/-! ## Controllers -/

def ingressContainer : FieldType :=
  .record "The ingress controller container"
    (shared containerFields ++
      [always "gatewayName" text "Name of the gateway this controller programs",
       always "ingressClass" text,
       always "watchNamespace" text "Restrict the watch to one namespace (empty watches all)"])

def pilotContainer : FieldType :=
  .record "The embedded discovery container"
    (shared containerFields ++
      [always "traceSampling" text,
       always "plugins" (.list text),
       always "keepaliveMaxServerConnectionAge" int64
         "Minutes before a long-lived xDS connection is recycled",
       always "clusterDomain" text,
       always "oneNamespace" flag "Limit discovery to the controller's own namespace",
       always "jwtPolicy" text,
       always "enableProtocolSniffingForOutbound" flag,
       always "enableProtocolSniffingForInbound" flag])

def controllerFields : Fields :=
  shared commonFields ++
    [always "controller" ingressContainer, always "pilot" pilotContainer]

/-! ## Autoscalers of older versions -/

def scaleTarget : FieldType :=
  .record "Reference to the scaled workload, identical in every version"
    [maybe "apiVersion" text, required "kind" text, required "name" text]

/-- An autoscaler's specification, by what a resource metric holds. -/
def autoscalerFields (resource : FieldType) : Fields :=
  [required "scaleTargetRef" scaleTarget,
   maybe "minReplicas" int32,
   required "maxReplicas" int32,
   maybe "metrics" (.list (.record none [required "type" text, maybe "resource" resource]))]

/-- A resource metric with its target as a record. -/
def targetedResource : FieldType :=
  .record none
    [required "name" text,
     required "target" (.record none
       [required "type" text, maybe "averageUtilization" int32, maybe "averageValue" text,
        maybe "value" text])]

/-- A resource metric with its target among its fields. -/
def flatResource : FieldType :=
  .record "v2beta1 flattens the target into the source"
    [required "name" text, maybe "targetAverageUtilization" int32,
     maybe "targetAverageValue" text]

end Schema

end GatewayOperator
