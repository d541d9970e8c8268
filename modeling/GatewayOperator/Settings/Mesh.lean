import GatewayOperator.Wire

/-!
# Mesh configuration

What the gateway's proxy reads at start-up: `MeshConfig`, with the proxy's own defaults in
`ProxyConfig`, and the `Network`s of a mesh. Empty settings are left out when the configuration is
written, so that the proxy applies its own defaults.
-/

namespace GatewayOperator

open Wire

/-! ## Tracing -/

/-- A tracing backend at an address. -/
structure AddressedTracer where
  address : String := ""
  deriving DecidableEq, Repr, Inhabited

instance : Wire AddressedTracer where
  encode s := .obj (always "address" s.address)
  decode j := do
    let fs ← fieldsOf? ["address"] j
    pure {
      address := ← orElse fs "address" "" }

/-- A tracing backend that asks for a token. -/
structure LightstepTracer where
  address : String := ""
  accessToken : String := ""
  deriving DecidableEq, Repr, Inhabited

instance : Wire LightstepTracer where
  encode s := .obj (always "address" s.address ++ always "accessToken" s.accessToken)
  decode j := do
    let fs ← fieldsOf? ["address", "accessToken"] j
    pure {
      address := ← orElse fs "address" ""
      accessToken := ← orElse fs "accessToken" "" }

/-- A tracing backend of the cloud that the cluster runs in. -/
structure StackdriverTracer where
  debug : Bool := false
  maxNumberOfAttributes : Option Int64 := none
  maxNumberOfAnnotations : Option Int64 := none
  maxNumberOfMessageEvents : Option Int64 := none
  deriving DecidableEq, Repr, Inhabited

instance : Wire StackdriverTracer where
  encode s := .obj (always "debug" s.debug ++
    maybe "maxNumberOfAttributes" s.maxNumberOfAttributes ++
    maybe "maxNumberOfAnnotations" s.maxNumberOfAnnotations ++
    maybe "maxNumberOfMessageEvents" s.maxNumberOfMessageEvents)
  decode j := do
    let fs ← fieldsOf? ["debug", "maxNumberOfAttributes", "maxNumberOfAnnotations",
      "maxNumberOfMessageEvents"] j
    pure {
      debug := ← orElse fs "debug" false
      maxNumberOfAttributes := ← orUnset fs "maxNumberOfAttributes"
      maxNumberOfAnnotations := ← orUnset fs "maxNumberOfAnnotations"
      maxNumberOfMessageEvents := ← orUnset fs "maxNumberOfMessageEvents" }

/-- Tracing backends; at most one is meant to be set. -/
structure Tracing where
  zipkin : Option AddressedTracer := none
  lightstep : Option LightstepTracer := none
  datadog : Option AddressedTracer := none
  stackdriver : Option StackdriverTracer := none
  openCensusAgent : Option AddressedTracer := none
  deriving DecidableEq, Repr, Inhabited

instance : Wire Tracing where
  encode s := .obj (maybe "zipkin" s.zipkin ++ maybe "lightstep" s.lightstep ++
    maybe "datadog" s.datadog ++ maybe "stackdriver" s.stackdriver ++
    maybe "openCensusAgent" s.openCensusAgent)
  decode j := do
    let fs ← fieldsOf? ["zipkin", "lightstep", "datadog", "stackdriver", "openCensusAgent"] j
    pure {
      zipkin := ← orUnset fs "zipkin"
      lightstep := ← orUnset fs "lightstep"
      datadog := ← orUnset fs "datadog"
      stackdriver := ← orUnset fs "stackdriver"
      openCensusAgent := ← orUnset fs "openCensusAgent" }

/-! ## The mesh -/

/-- Which of its statistics a proxy reports. -/
structure ProxyStatsMatcher where
  inclusionPrefixes : List String := []
  inclusionSuffixes : List String := []
  inclusionRegexps : List String := []
  deriving DecidableEq, Repr, Inhabited

instance : Wire ProxyStatsMatcher where
  encode s := .obj (unlessNil "inclusionPrefixes" s.inclusionPrefixes ++
    unlessNil "inclusionSuffixes" s.inclusionSuffixes ++
    unlessNil "inclusionRegexps" s.inclusionRegexps)
  decode j := do
    let fs ← fieldsOf? ["inclusionPrefixes", "inclusionSuffixes", "inclusionRegexps"] j
    pure {
      inclusionPrefixes := ← orElse fs "inclusionPrefixes" []
      inclusionSuffixes := ← orElse fs "inclusionSuffixes" []
      inclusionRegexps := ← orElse fs "inclusionRegexps" [] }

/-- Settings of every proxy of the mesh. -/
structure ProxyConfig where
  disableAlpnH2 : Bool := false
  meshId : String := ""
  tracing : Option Tracing := none
  discoveryAddress : String := ""
  proxyStatsMatcher : Option ProxyStatsMatcher := none
  deriving DecidableEq, Repr, Inhabited

instance : Wire ProxyConfig where
  encode s := .obj (always "disableAlpnH2" s.disableAlpnH2 ++ unlessBlank "meshId" s.meshId ++
    maybe "tracing" s.tracing ++ unlessBlank "discoveryAddress" s.discoveryAddress ++
    maybe "proxyStatsMatcher" s.proxyStatsMatcher)
  decode j := do
    let fs ← fieldsOf? ["disableAlpnH2", "meshId", "tracing", "discoveryAddress",
      "proxyStatsMatcher"] j
    pure {
      disableAlpnH2 := ← orElse fs "disableAlpnH2" false
      meshId := ← orElse fs "meshId" ""
      tracing := ← orUnset fs "tracing"
      discoveryAddress := ← orElse fs "discoveryAddress" ""
      proxyStatsMatcher := ← orUnset fs "proxyStatsMatcher" }

/-- Where the mesh reads further configuration. -/
structure ConfigSource where
  address : String := ""
  deriving DecidableEq, Repr, Inhabited

instance : Wire ConfigSource where
  encode s := .obj (always "address" s.address)
  decode j := do
    let fs ← fieldsOf? ["address"] j
    pure {
      address := ← orElse fs "address" "" }

/-- Settings of the whole mesh. -/
structure MeshConfig where
  trustDomain : String := ""
  accessLogEncoding : String := ""
  accessLogFile : String := ""
  ingressControllerMode : String := ""
  accessLogFormat : String := ""
  dnsRefreshRate : String := ""
  enableAutoMtls : Bool := false
  enablePrometheusMerge : Bool := false
  protocolDetectionTimeout : String := ""
  configSources : List ConfigSource := []
  defaultConfig : ProxyConfig := {}
  rootNamespace : String := ""
  deriving DecidableEq, Repr, Inhabited

instance : Wire MeshConfig where
  encode s := .obj (unlessBlank "trustDomain" s.trustDomain ++
    unlessBlank "accessLogEncoding" s.accessLogEncoding ++
    unlessBlank "accessLogFile" s.accessLogFile ++
    unlessBlank "ingressControllerMode" s.ingressControllerMode ++
    unlessBlank "accessLogFormat" s.accessLogFormat ++
    unlessBlank "dnsRefreshRate" s.dnsRefreshRate ++ always "enableAutoMtls" s.enableAutoMtls ++
    always "enablePrometheusMerge" s.enablePrometheusMerge ++
    unlessBlank "protocolDetectionTimeout" s.protocolDetectionTimeout ++
    unlessNil "configSources" s.configSources ++ always "defaultConfig" s.defaultConfig ++
    unlessBlank "rootNamespace" s.rootNamespace)
  decode j := do
    let fs ← fieldsOf? ["trustDomain", "accessLogEncoding", "accessLogFile",
      "ingressControllerMode", "accessLogFormat", "dnsRefreshRate",
      "enableAutoMtls", "enablePrometheusMerge", "protocolDetectionTimeout",
      "configSources", "defaultConfig", "rootNamespace"] j
    pure {
      trustDomain := ← orElse fs "trustDomain" ""
      accessLogEncoding := ← orElse fs "accessLogEncoding" ""
      accessLogFile := ← orElse fs "accessLogFile" ""
      ingressControllerMode := ← orElse fs "ingressControllerMode" ""
      accessLogFormat := ← orElse fs "accessLogFormat" ""
      dnsRefreshRate := ← orElse fs "dnsRefreshRate" ""
      enableAutoMtls := ← orElse fs "enableAutoMtls" false
      enablePrometheusMerge := ← orElse fs "enablePrometheusMerge" false
      protocolDetectionTimeout := ← orElse fs "protocolDetectionTimeout" ""
      configSources := ← orElse fs "configSources" []
      defaultConfig := ← orElse fs "defaultConfig" {}
      rootNamespace := ← orElse fs "rootNamespace" "" }

/-! ## Networks -/

/-- Where the endpoints of a network come from. -/
structure NetworkEndpoint where
  fromCidr : String := ""
  fromRegistry : String := ""
  deriving DecidableEq, Repr, Inhabited

instance : Wire NetworkEndpoint where
  encode s := .obj (unlessBlank "fromCidr" s.fromCidr ++
    unlessBlank "fromRegistry" s.fromRegistry)
  decode j := do
    let fs ← fieldsOf? ["fromCidr", "fromRegistry"] j
    pure {
      fromCidr := ← orElse fs "fromCidr" ""
      fromRegistry := ← orElse fs "fromRegistry" "" }

/-- A gateway into a network. -/
structure NetworkGateway where
  address : String := ""
  registryServiceName : String := ""
  port : Int32 := 0
  deriving DecidableEq, Repr, Inhabited

instance : Wire NetworkGateway where
  encode s := .obj (unlessBlank "address" s.address ++
    unlessBlank "registryServiceName" s.registryServiceName ++ always "port" s.port)
  decode j := do
    let fs ← fieldsOf? ["address", "registryServiceName", "port"] j
    pure {
      address := ← orElse fs "address" ""
      registryServiceName := ← orElse fs "registryServiceName" ""
      port := ← orElse fs "port" 0 }

/-- A network of the mesh. -/
structure Network where
  endpoints : List NetworkEndpoint := []
  gateways : List NetworkGateway := []
  deriving DecidableEq, Repr, Inhabited

instance : Wire Network where
  encode s := .obj (unlessNil "endpoints" s.endpoints ++ unlessNil "gateways" s.gateways)
  decode j := do
    let fs ← fieldsOf? ["endpoints", "gateways"] j
    pure {
      endpoints := ← orElse fs "endpoints" []
      gateways := ← orElse fs "gateways" [] }

end GatewayOperator
