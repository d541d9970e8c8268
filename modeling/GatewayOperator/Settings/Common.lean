import GatewayOperator.Service.Port

/-!
# Settings that both kinds share

A desired state consists of the common settings (`CommonSettings`), the settings of each container
(`ContainerSettings`) and those of its own kind. An unset setting means its default, which
`Defaulting` fills in; the accessors here answer with the same defaults.
-/

namespace GatewayOperator

open Wire

/-- Cluster id reported to the mesh when no other is configured. -/
def defaultClusterId : String := "Kubernetes"

/-- The JWT policy that asks for a projected service-account token. -/
def thirdPartyJwt : String := "third-party-jwt"

/-- Where a container's image comes from. -/
structure ImageSettings where
  repository : String := ""
  tag : String := ""
  imagePullPolicy : String := ""
  deriving DecidableEq, Repr, Inhabited

namespace ImageSettings

instance : Wire ImageSettings where
  encode s := .obj (always "repository" s.repository ++ always "tag" s.tag ++
    unlessBlank "imagePullPolicy" s.imagePullPolicy)
  decode j := do
    let fs ← fieldsOf? ["repository", "tag", "imagePullPolicy"] j
    pure {
      repository := ← orElse fs "repository" ""
      tag := ← orElse fs "tag" ""
      imagePullPolicy := ← orElse fs "imagePullPolicy" "" }

/-- Repository and tag in one reference. -/
def reference (s : ImageSettings) : String := s.repository ++ ":" ++ s.tag

def pullPolicy (s : ImageSettings) : Option String :=
  if s.imagePullPolicy = "" then none else some s.imagePullPolicy

end ImageSettings

/-- The service account that a component runs under. -/
structure ServiceAccountSettings where
  enable : Bool := false
  name : String := ""
  annotations : Dict String := ∅
  deriving DecidableEq, Inhabited

instance : Wire ServiceAccountSettings where
  encode s := .obj (always "enable" s.enable ++ always "name" s.name ++
    unlessEmpty "annotations" s.annotations)
  decode j := do
    let fs ← fieldsOf? ["enable", "name", "annotations"] j
    pure {
      enable := ← orElse fs "enable" false
      name := ← orElse fs "name" ""
      annotations := ← orElse fs "annotations" ∅ }

/-- Whether roles are bound to the service account. -/
structure RbacSettings where
  enable : Bool := false
  deriving DecidableEq, Repr, Inhabited

instance : Wire RbacSettings where
  encode s := .obj (always "enable" s.enable)
  decode j := do
    let fs ← fieldsOf? ["enable"] j
    pure { enable := ← orElse fs "enable" false }

/-- How a component's replicas follow its load. -/
structure AutoscalingSettings where
  enable : Bool := false
  minReplicas : Option Int32 := none
  maxReplicas : Int32 := 0
  targetCpuUtilizationPercentage : Option Int32 := none
  deriving DecidableEq, Repr, Inhabited

instance : Wire AutoscalingSettings where
  encode s := .obj (always "enable" s.enable ++ maybe "minReplicas" s.minReplicas ++
    always "maxReplicas" s.maxReplicas ++
    maybe "targetCPUUtilizationPercentage" s.targetCpuUtilizationPercentage)
  decode j := do
    let fs ← fieldsOf? ["enable", "minReplicas", "maxReplicas",
      "targetCPUUtilizationPercentage"] j
    pure {
      enable := ← orElse fs "enable" false
      minReplicas := ← orUnset fs "minReplicas"
      maxReplicas := ← orElse fs "maxReplicas" 0
      targetCpuUtilizationPercentage := ← orUnset fs "targetCPUUtilizationPercentage" }

/-- Settings of the discovery service. -/
structure IstiodSettings where
  enableAnalysis : Bool := false
  deriving DecidableEq, Repr, Inhabited

instance : Wire IstiodSettings where
  encode s := .obj (always "enableAnalysis" s.enableAnalysis)
  decode j := do
    let fs ← fieldsOf? ["enableAnalysis"] j
    pure { enableAnalysis := ← orElse fs "enableAnalysis" false }

/-- The cluster's place among several. -/
structure MultiClusterSettings where
  enable : Bool := false
  clusterName : String := ""
  deriving DecidableEq, Repr, Inhabited

instance : Wire MultiClusterSettings where
  encode s := .obj (always "enable" s.enable ++ always "clusterName" s.clusterName)
  decode j := do
    let fs ← fieldsOf? ["enable", "clusterName"] j
    pure {
      enable := ← orElse fs "enable" false
      clusterName := ← orElse fs "clusterName" "" }

/-- How a component's Service exposes it. -/
structure ServiceSettings where
  type : String := ""
  ports : List ServicePort := []
  annotations : Dict String := ∅
  loadBalancerIP : String := ""
  loadBalancerSourceRanges : List String := []
  externalTrafficPolicy : String := ""
  deriving DecidableEq, Inhabited

instance : Wire ServiceSettings where
  encode s := .obj (always "type" s.type ++ unlessNil "ports" s.ports ++
    unlessEmpty "annotations" s.annotations ++ unlessBlank "loadBalancerIP" s.loadBalancerIP ++
    unlessNil "loadBalancerSourceRanges" s.loadBalancerSourceRanges ++
    unlessBlank "externalTrafficPolicy" s.externalTrafficPolicy)
  decode j := do
    let fs ← fieldsOf? ["type", "ports", "annotations", "loadBalancerIP",
      "loadBalancerSourceRanges", "externalTrafficPolicy"] j
    pure {
      type := ← orElse fs "type" ""
      ports := ← orElse fs "ports" []
      annotations := ← orElse fs "annotations" ∅
      loadBalancerIP := ← orElse fs "loadBalancerIP" ""
      loadBalancerSourceRanges := ← orElse fs "loadBalancerSourceRanges" []
      externalTrafficPolicy := ← orElse fs "externalTrafficPolicy" "" }

/-- What an object of either kind reports back. -/
structure ComponentStatus where
  deployed : Bool := false
  /-- the service account whose subject was last bound -/
  serviceAccountName : Option String := none
  deriving DecidableEq, Repr, Inhabited

instance : Wire ComponentStatus where
  encode s := .obj (always "deployed" s.deployed ++ maybe "serviceAccountName" s.serviceAccountName)
  decode j := do
    let fs ← fieldsOf? ["deployed", "serviceAccountName"] j
    pure {
      deployed := ← orElse fs "deployed" false
      serviceAccountName := ← orUnset fs "serviceAccountName" }

/-! ## Container settings -/

/-- Settings of one container. -/
structure ContainerSettings where
  name : String := ""
  annotations : Dict String := ∅
  image : ImageSettings := {}
  imagePullSecrets : List (Fragment "LocalObjectReference") := []
  env : Dict String := ∅
  readinessProbe : Option (Fragment "Probe") := none
  ports : List (Fragment "ContainerPort") := []
  resources : Option (Fragment "ResourceRequirements") := none
  securityContext : Option (Fragment "SecurityContext") := none
  logLevel : String := ""
  logAsJson : Bool := false
  deriving DecidableEq, Inhabited

namespace ContainerSettings

/-- The settings as fields of the record that they are part of. -/
def toFields (s : ContainerSettings) : Json.Fields :=
  always "name" s.name ++ unlessEmpty "annotations" s.annotations ++ always "image" s.image ++
    unlessNil "imagePullSecrets" s.imagePullSecrets ++ unlessEmpty "env" s.env ++
    maybe "readinessProbe" s.readinessProbe ++ unlessNil "ports" s.ports ++
    maybe "resources" s.resources ++ maybe "securityContext" s.securityContext ++
    always "logLevel" s.logLevel ++ always "logAsJson" s.logAsJson

/-- The settings among the fields of a record. -/
def ofFields? (fs : Json.Fields) : Option ContainerSettings := do
  pure {
    name := ← orElse fs "name" ""
    annotations := ← orElse fs "annotations" ∅
    image := ← orElse fs "image" {}
    imagePullSecrets := ← orElse fs "imagePullSecrets" []
    env := ← orElse fs "env" ∅
    readinessProbe := ← orUnset fs "readinessProbe"
    ports := ← orElse fs "ports" []
    resources := ← orUnset fs "resources"
    securityContext := ← orUnset fs "securityContext"
    logLevel := ← orElse fs "logLevel" ""
    logAsJson := ← orElse fs "logAsJson" false }

end ContainerSettings

/-! ## Common settings -/

/-- Settings that a gateway and a controller share. -/
structure CommonSettings where
  replicas : Option Int32 := none
  selectorLabels : Dict String := ∅
  nodeSelector : Dict String := ∅
  affinity : Option (Fragment "Affinity") := none
  tolerations : List (Fragment "Toleration") := []
  service : Option ServiceSettings := none
  rbac : Option RbacSettings := none
  serviceAccount : Option ServiceAccountSettings := none
  autoScaling : Option AutoscalingSettings := none
  podSecurityContext : Option (Fragment "PodSecurityContext") := none
  enableStatus : Option Bool := none
  enableHigressIstio : Bool := false
  enableIstioApi : Bool := false
  istioNamespace : String := ""
  revision : String := ""
  istiod : IstiodSettings := {}
  multiCluster : MultiClusterSettings := {}
  isLocal : Bool := false
  jwtPolicy : String := ""
  deriving DecidableEq, Inhabited

namespace CommonSettings

/-- The settings as fields of the record that they are part of. -/
def toFields (s : CommonSettings) : Json.Fields :=
  maybe "replicas" s.replicas ++ unlessEmpty "selectorLabels" s.selectorLabels ++
    unlessEmpty "nodeSelector" s.nodeSelector ++ maybe "affinity" s.affinity ++
    unlessNil "toleration" s.tolerations ++ maybe "service" s.service ++ maybe "rbac" s.rbac ++
    maybe "serviceAccount" s.serviceAccount ++ maybe "autoScaling" s.autoScaling ++
    maybe "podSecurityContext" s.podSecurityContext ++ maybe "enableStatus" s.enableStatus ++
    always "enableHigressIstio" s.enableHigressIstio ++ always "enableIstioAPI" s.enableIstioApi ++
    always "istioNamespace" s.istioNamespace ++ always "revision" s.revision ++
    always "istiod" s.istiod ++ always "multiCluster" s.multiCluster ++ always "local" s.isLocal ++
    always "jwtPolicy" s.jwtPolicy

/-- The settings among the fields of a record. -/
def ofFields? (fs : Json.Fields) : Option CommonSettings := do
  pure {
    replicas := ← orUnset fs "replicas"
    selectorLabels := ← orElse fs "selectorLabels" ∅
    nodeSelector := ← orElse fs "nodeSelector" ∅
    affinity := ← orUnset fs "affinity"
    tolerations := ← orElse fs "toleration" []
    service := ← orUnset fs "service"
    rbac := ← orUnset fs "rbac"
    serviceAccount := ← orUnset fs "serviceAccount"
    autoScaling := ← orUnset fs "autoScaling"
    podSecurityContext := ← orUnset fs "podSecurityContext"
    enableStatus := ← orUnset fs "enableStatus"
    enableHigressIstio := ← orElse fs "enableHigressIstio" false
    enableIstioApi := ← orElse fs "enableIstioAPI" false
    istioNamespace := ← orElse fs "istioNamespace" ""
    revision := ← orElse fs "revision" ""
    istiod := ← orElse fs "istiod" {}
    multiCluster := ← orElse fs "multiCluster" {}
    isLocal := ← orElse fs "local" false
    jwtPolicy := ← orElse fs "jwtPolicy" "" }

def rbacEnabled (s : CommonSettings) : Bool :=
  match s.rbac with
  | some r => r.enable
  | none => true

def serviceAccountEnabled (s : CommonSettings) : Bool :=
  match s.serviceAccount with
  | some a => a.enable
  | none => true

/-- The configured service account, or a fallback if none is named. -/
def serviceAccountName (s : CommonSettings) (fallback : String) : String :=
  match s.serviceAccount with
  | some a => if a.name = "" then fallback else a.name
  | none => fallback

def serviceAccountAnnotations (s : CommonSettings) : Dict String :=
  match s.serviceAccount with
  | some a => a.annotations
  | none => ∅

def statusEnabled (s : CommonSettings) : Bool := s.enableStatus.getD true

def autoscalingEnabled (s : CommonSettings) : Bool :=
  match s.autoScaling with
  | some a => a.enable
  | none => false

def clusterId (s : CommonSettings) : String :=
  if s.multiCluster.clusterName = "" then defaultClusterId else s.multiCluster.clusterName

end CommonSettings

end GatewayOperator
