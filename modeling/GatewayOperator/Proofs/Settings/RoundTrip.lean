import GatewayOperator.Proofs.Shape.Read
import GatewayOperator.Settings.Controller
import GatewayOperator.Settings.Gateway

/-!
# Desired states read back
-/

namespace GatewayOperator

open Wire
open Json (Fields)
open Json.Fields (get? get?_append)

/-! ## The mesh -/

@[simp] theorem AddressedTracer.roundTrips (s : AddressedTracer) : RoundTrips s := by
  refine ⟨?_, nofun⟩
  unfold instWireAddressedTracer
  simp [orElse_eq]

@[simp] theorem LightstepTracer.roundTrips (s : LightstepTracer) : RoundTrips s := by
  refine ⟨?_, nofun⟩
  unfold instWireLightstepTracer
  simp [orElse_eq, get?_append]

@[simp] theorem StackdriverTracer.roundTrips (s : StackdriverTracer) : RoundTrips s := by
  refine ⟨?_, nofun⟩
  unfold instWireStackdriverTracer
  simp [orElse_eq, orUnset_eq, get?_append]

@[simp] theorem Tracing.roundTrips (s : Tracing) : RoundTrips s := by
  refine ⟨?_, nofun⟩
  unfold instWireTracing
  simp [orUnset_eq, get?_append]

@[simp] theorem ProxyStatsMatcher.roundTrips (s : ProxyStatsMatcher) : RoundTrips s := by
  refine ⟨?_, nofun⟩
  unfold instWireProxyStatsMatcher
  simp [orElse_eq, get?_append]

@[simp] theorem ProxyConfig.roundTrips (s : ProxyConfig) : RoundTrips s := by
  refine ⟨?_, nofun⟩
  unfold instWireProxyConfig
  simp [orElse_eq, orUnset_eq, get?_append]

@[simp] theorem ConfigSource.roundTrips (s : ConfigSource) : RoundTrips s := by
  refine ⟨?_, nofun⟩
  unfold instWireConfigSource
  simp [orElse_eq]

@[simp] theorem MeshConfig.roundTrips (s : MeshConfig) : RoundTrips s := by
  refine ⟨?_, nofun⟩
  unfold instWireMeshConfig
  simp [orElse_eq, get?_append]

@[simp] theorem NetworkEndpoint.roundTrips (s : NetworkEndpoint) : RoundTrips s := by
  refine ⟨?_, nofun⟩
  unfold instWireNetworkEndpoint
  simp [orElse_eq, get?_append]

@[simp] theorem NetworkGateway.roundTrips (s : NetworkGateway) : RoundTrips s := by
  refine ⟨?_, nofun⟩
  unfold instWireNetworkGateway
  simp [orElse_eq, get?_append]

@[simp] theorem Network.roundTrips (s : Network) : RoundTrips s := by
  refine ⟨?_, nofun⟩
  unfold instWireNetwork
  simp [orElse_eq, get?_append]

/-! ## Settings that both kinds share -/

@[simp] theorem ImageSettings.roundTrips (s : ImageSettings) : RoundTrips s := by
  refine ⟨?_, nofun⟩
  unfold ImageSettings.instWire
  simp [orElse_eq, get?_append]

@[simp] theorem ServiceAccountSettings.roundTrips (s : ServiceAccountSettings) : RoundTrips s := by
  refine ⟨?_, nofun⟩
  unfold instWireServiceAccountSettings
  simp [orElse_eq, get?_append]

@[simp] theorem RbacSettings.roundTrips (s : RbacSettings) : RoundTrips s := by
  refine ⟨?_, nofun⟩
  unfold instWireRbacSettings
  simp [orElse_eq]

@[simp] theorem AutoscalingSettings.roundTrips (s : AutoscalingSettings) : RoundTrips s := by
  refine ⟨?_, nofun⟩
  unfold instWireAutoscalingSettings
  simp [orElse_eq, orUnset_eq, get?_append]

@[simp] theorem IstiodSettings.roundTrips (s : IstiodSettings) : RoundTrips s := by
  refine ⟨?_, nofun⟩
  unfold instWireIstiodSettings
  simp [orElse_eq]

@[simp] theorem MultiClusterSettings.roundTrips (s : MultiClusterSettings) : RoundTrips s := by
  refine ⟨?_, nofun⟩
  unfold instWireMultiClusterSettings
  simp [orElse_eq, get?_append]

@[simp] theorem ServiceSettings.roundTrips (s : ServiceSettings) : RoundTrips s := by
  refine ⟨?_, nofun⟩
  unfold instWireServiceSettings
  simp [orElse_eq, get?_append]

@[simp] theorem ComponentStatus.roundTrips (s : ComponentStatus) : RoundTrips s := by
  refine ⟨?_, nofun⟩
  unfold instWireComponentStatus
  simp [orElse_eq, orUnset_eq, get?_append]

/-! ## Blocks of fields -/

namespace ContainerSettings

/-- The values of other APIs among the settings are ones that these APIs can hold. -/
structure IsNormal (s : ContainerSettings) : Prop where
  imagePullSecrets : ∀ f ∈ s.imagePullSecrets, f.IsNormal
  readinessProbe : ∀ f ∈ s.readinessProbe, f.IsNormal
  ports : ∀ f ∈ s.ports, f.IsNormal
  resources : ∀ f ∈ s.resources, f.IsNormal
  securityContext : ∀ f ∈ s.securityContext, f.IsNormal

/-- The names of the fields. -/
def fieldNames : List String :=
  ["name", "annotations", "image", "imagePullSecrets", "env", "readinessProbe", "ports",
    "resources", "securityContext", "logLevel", "logAsJson"]

theorem get?_toFields (s : ContainerSettings) {name : String} (h : name ∉ fieldNames) :
    get? s.toFields name = none := by
  simp only [fieldNames, List.mem_cons, List.not_mem_nil, or_false, not_or] at h
  simp [toFields, get?_append, Ne.symm, h]

/-- The settings are read from a record that holds under their names what they write. -/
theorem ofFields?_eq {s : ContainerSettings} (hs : s.IsNormal) {fs : Fields}
    (h : ∀ name ∈ fieldNames, get? fs name = get? s.toFields name) : ofFields? fs = some s := by
  have hsecrets : RoundTrips s.imagePullSecrets :=
    roundTrips_list fun f hf => (hs.imagePullSecrets f hf).roundTrips
  have hports : RoundTrips s.ports := roundTrips_list fun f hf => (hs.ports f hf).roundTrips
  have hprobe := readUnset_maybe fun f hf => (hs.readinessProbe f hf).roundTrips
  have hresources := readUnset_maybe fun f hf => (hs.resources f hf).roundTrips
  have hcontext := readUnset_maybe fun f hf => (hs.securityContext f hf).roundTrips
  simp only [fieldNames, List.forall_mem_cons] at h
  simp only [ofFields?, orElse_eq, orUnset_eq, h]
  simp [toFields, get?_append, hsecrets, hprobe, hports, hresources, hcontext]

end ContainerSettings

namespace CommonSettings

/-- The values of other APIs among the settings are ones that these APIs can hold. -/
structure IsNormal (s : CommonSettings) : Prop where
  affinity : ∀ f ∈ s.affinity, f.IsNormal
  tolerations : ∀ f ∈ s.tolerations, f.IsNormal
  podSecurityContext : ∀ f ∈ s.podSecurityContext, f.IsNormal

/-- The names of the fields. -/
def fieldNames : List String :=
  ["replicas", "selectorLabels", "nodeSelector", "affinity", "toleration", "service", "rbac",
    "serviceAccount", "autoScaling", "podSecurityContext", "enableStatus", "enableHigressIstio",
    "enableIstioAPI", "istioNamespace", "revision", "istiod", "multiCluster", "local", "jwtPolicy"]

theorem get?_toFields (s : CommonSettings) {name : String} (h : name ∉ fieldNames) :
    get? s.toFields name = none := by
  simp only [fieldNames, List.mem_cons, List.not_mem_nil, or_false, not_or] at h
  unfold toFields
  simp [get?_append, Ne.symm, h]

/-- The settings are read from a record that holds under their names what they write. -/
theorem ofFields?_eq {s : CommonSettings} (hs : s.IsNormal) {fs : Fields}
    (h : ∀ name ∈ fieldNames, get? fs name = get? s.toFields name) : ofFields? fs = some s := by
  have htolerations : RoundTrips s.tolerations :=
    roundTrips_list fun f hf => (hs.tolerations f hf).roundTrips
  have haffinity := readUnset_maybe fun f hf => (hs.affinity f hf).roundTrips
  have hcontext := readUnset_maybe fun f hf => (hs.podSecurityContext f hf).roundTrips
  simp only [fieldNames, List.forall_mem_cons] at h
  simp only [ofFields?, orElse_eq, orUnset_eq, h]
  unfold toFields
  simp [get?_append, haffinity, htolerations, hcontext]

end CommonSettings

/-! ## Desired states -/

@[simp] theorem SkywalkingSettings.roundTrips (s : SkywalkingSettings) : RoundTrips s := by
  refine ⟨?_, nofun⟩
  unfold instWireSkywalkingSettings
  simp [orElse_eq, orUnset_eq, get?_append]

/-- The fields of both blocks and a gateway's own have different names. -/
theorem GatewaySpec.roundTrips {s : GatewaySpec} (hcommon : s.common.IsNormal)
    (hcontainer : s.container.IsNormal) : RoundTrips s := by
  refine ⟨?_, nofun⟩
  unfold GatewaySpec.instWire
  simp only [namedFields?_obj, Option.bind_eq_bind, Option.bind_some]
  rw [CommonSettings.ofFields?_eq hcommon, ContainerSettings.ofFields?_eq hcontainer]
  · simp [orElse_eq, orUnset_eq, get?_append, CommonSettings.get?_toFields,
      CommonSettings.fieldNames, ContainerSettings.get?_toFields, ContainerSettings.fieldNames]
  · simp [ContainerSettings.fieldNames, get?_append, CommonSettings.get?_toFields,
      CommonSettings.fieldNames]
  · simp [CommonSettings.fieldNames, get?_append, ContainerSettings.get?_toFields,
      ContainerSettings.fieldNames]

theorem IngressSettings.roundTrips {s : IngressSettings} (hs : s.container.IsNormal) :
    RoundTrips s := by
  refine ⟨?_, nofun⟩
  unfold instWireIngressSettings
  simp only [namedFields?_obj, Option.bind_eq_bind, Option.bind_some]
  rw [ContainerSettings.ofFields?_eq hs]
  · simp [orElse_eq, get?_append, ContainerSettings.get?_toFields, ContainerSettings.fieldNames]
  · simp [ContainerSettings.fieldNames, get?_append]

theorem PilotSettings.roundTrips {s : PilotSettings} (hs : s.container.IsNormal) :
    RoundTrips s := by
  refine ⟨?_, nofun⟩
  unfold instWirePilotSettings
  simp only [namedFields?_obj, Option.bind_eq_bind, Option.bind_some]
  rw [ContainerSettings.ofFields?_eq hs]
  · simp [orElse_eq, get?_append, ContainerSettings.get?_toFields, ContainerSettings.fieldNames]
  · simp [ContainerSettings.fieldNames, get?_append]

theorem ControllerSpec.roundTrips {s : ControllerSpec} (hcommon : s.common.IsNormal)
    (hcontroller : s.controller.container.IsNormal) (hpilot : s.pilot.container.IsNormal) :
    RoundTrips s := by
  refine ⟨?_, nofun⟩
  unfold ControllerSpec.instWire
  simp only [namedFields?_obj, Option.bind_eq_bind, Option.bind_some]
  rw [CommonSettings.ofFields?_eq hcommon]
  · simp [orElse_eq, get?_append, CommonSettings.get?_toFields, CommonSettings.fieldNames,
      IngressSettings.roundTrips hcontroller, PilotSettings.roundTrips hpilot]
  · simp [CommonSettings.fieldNames, get?_append]

end GatewayOperator
