import GatewayOperator.Compile.Controller
import GatewayOperator.Compile.Mesh

/-!
# Compiled pods

Containers, mounts and volumes of a pod are compiled by functions of their own, which look at the
settings again and again. They agree for all settings (`Pod.IsCoherent`): volumes have names of
their own, what is mounted is a volume of the pod, every volume is mounted, and what a volume shows
of a container is one of the pod.

The same holds of what a volume takes from elsewhere: a gateway's maps are those that are compiled
with it (`GatewayCompile.maps_agree`), and a token is mounted exactly if the settings ask for one.
-/

namespace GatewayOperator

/-! ## Pods that fit together -/

/-- What a container mounts. -/
def Container.mountList (x : Container) : List Mount := x.mounts.getD []

namespace Pod

def volumeList (p : Pod) : List Volume := p.volumes.getD []

/-- Whether a container of the pod has a mount. -/
def Mounts (p : Pod) (m : Mount) : Prop := ∃ x ∈ p.containers, m ∈ x.mountList

/-- The parts of a pod fit together. -/
structure IsCoherent (p : Pod) : Prop where
  volumeNames : (p.volumeList.map (·.name)).Nodup
  paths : ∀ x ∈ p.containers, (x.mountList.map (·.path)).Nodup
  mounted : ∀ m, p.Mounts m → ∃ v ∈ p.volumeList, v.name = m.volume
  used : ∀ v ∈ p.volumeList, ∃ m, p.Mounts m ∧ m.volume = v.name
  /-- what a volume shows of a container is one of the pod -/
  shown : ∀ v ∈ p.volumeList, ∀ name, v.source = .podInfo name → ∃ x ∈ p.containers, x.name = name

end Pod

/-! ## The pod of a gateway -/

namespace GatewayCompile

section Pod

variable (s : GatewaySpec) (name ns : String)

/-- The proxy is the only container. -/
theorem mounts_pod_iff (m : Mount) : (pod s name ns).Mounts m ↔ m ∈ mounts s := by
  simp [Pod.Mounts, pod, container, Container.mountList]

theorem volumeNames_eq : (volumes s).map (·.name) =
    ["config", "istio-ca-root-cert", "istio-data", "proxy-socket", "podinfo"] ++
      (if mountsToken s then ["istio-token"] else []) ++
      (if s.skywalkingEnabled then [bootstrapVolume] else []) ++
      (if mountsPlugins s then [pluginsVolume] else []) := by
  unfold volumes
  cases mountsToken s <;> cases s.skywalkingEnabled <;> cases mountsPlugins s <;> rfl

/-- Volumes are mounted one by one, the pod's own fields before the socket. -/
theorem mountedNames_eq : (mounts s).map (·.volume) =
    ["config", "istio-ca-root-cert", "istio-data", "podinfo", "proxy-socket"] ++
      (if mountsToken s then ["istio-token"] else []) ++
      (if s.skywalkingEnabled then [bootstrapVolume] else []) ++
      (if mountsPlugins s then [pluginsVolume] else []) := by
  unfold mounts
  cases mountsToken s <;> cases s.skywalkingEnabled <;> cases mountsPlugins s <;> rfl

theorem mountPaths_eq : (mounts s).map (·.path) =
    ["/etc/istio/config", "/var/run/secrets/istio", "/var/lib/istio/data", "/etc/istio/pod",
      "/etc/istio/proxy"] ++
      (if mountsToken s then [tokenMountPath] else []) ++
      (if s.skywalkingEnabled then [bootstrapMountPath] else []) ++
      (if mountsPlugins s then [pluginsPath] else []) := by
  unfold mounts
  cases mountsToken s <;> cases s.skywalkingEnabled <;> cases mountsPlugins s <;> rfl

theorem mem_volumes_iff {v : Volume} : v ∈ volumes s ↔
    v = ⟨"config", .configMap meshConfigMap none⟩ ∨
    v = ⟨"istio-ca-root-cert", .configMap (rootCertificateMap s) none⟩ ∨
    v = ⟨"istio-data", .emptyDir⟩ ∨ v = ⟨"proxy-socket", .emptyDir⟩ ∨
    v = ⟨"podinfo", .podInfo s.container.name⟩ ∨
    mountsToken s = true ∧ v = tokenVolume ∨
    s.skywalkingEnabled = true ∧
    v = ⟨bootstrapVolume, .configMap bootstrapConfigMap (some fileMode)⟩ ∨
    mountsPlugins s = true ∧ v = ⟨pluginsVolume, .hostPath pluginsPath⟩ := by
  simp only [volumes, List.mem_append, List.mem_cons, List.mem_ite_nil_right, List.not_mem_nil,
    or_false, or_assoc]

theorem mountedNames_perm : ((mounts s).map (·.volume)).Perm ((volumes s).map (·.name)) := by
  rw [mountedNames_eq, volumeNames_eq]
  refine ((List.Perm.append_right _ ?_).append_right _).append_right _
  decide

theorem isCoherent_pod : (pod s name ns).IsCoherent where
  volumeNames := by
    -- the settings decide which of the names are there, not what they are
    have hnodup (token bootstrap plugins : Bool) :
        (["config", "istio-ca-root-cert", "istio-data", "proxy-socket", "podinfo"] ++
          (if token then ["istio-token"] else []) ++
          (if bootstrap then [bootstrapVolume] else []) ++
          (if plugins then [pluginsVolume] else [])).Nodup := by
      revert token bootstrap plugins
      decide
    rw [Pod.volumeList, pod, Option.getD_some, volumeNames_eq]
    exact hnodup _ _ _
  paths := by
    have hnodup (token bootstrap plugins : Bool) :
        (["/etc/istio/config", "/var/run/secrets/istio", "/var/lib/istio/data", "/etc/istio/pod",
          "/etc/istio/proxy"] ++ (if token then [tokenMountPath] else []) ++
          (if bootstrap then [bootstrapMountPath] else []) ++
          (if plugins then [pluginsPath] else [])).Nodup := by
      revert token bootstrap plugins
      decide
    intro x hx
    obtain rfl := List.mem_singleton.1 hx
    rw [Container.mountList, container, Option.getD_some, mountPaths_eq]
    exact hnodup _ _ _
  mounted m hm := by
    have hname := (mountedNames_perm s).mem_iff.1
      (List.mem_map_of_mem ((mounts_pod_iff s name ns m).1 hm))
    exact List.mem_map.1 hname
  used v hv := by
    obtain ⟨m, hm, hname⟩ := List.mem_map.1
      ((mountedNames_perm s).mem_iff.2 (List.mem_map_of_mem hv))
    exact ⟨m, (mounts_pod_iff s name ns m).2 hm, hname⟩
  shown v hv shown hsource := by
    refine ⟨container s ns, List.mem_singleton.2 rfl, ?_⟩
    rcases (mem_volumes_iff s).1 hv with
      rfl | rfl | rfl | rfl | rfl | ⟨-, rfl⟩ | ⟨-, rfl⟩ | ⟨-, rfl⟩ <;> cases hsource
    rfl

/-- The token is mounted exactly if the settings ask for it. -/
theorem mounts_token_iff : (∃ m, (pod s name ns).Mounts m ∧ m.path = "/var/run/secrets/tokens") ↔
    s.common.jwtPolicy = thirdPartyJwt := by
  have hpath : (∃ m, (pod s name ns).Mounts m ∧ m.path = "/var/run/secrets/tokens") ↔
      tokenMountPath ∈ (mounts s).map (·.path) := by
    simp only [mounts_pod_iff, List.mem_map]
    rfl
  have hflag : mountsToken s = true ↔ s.common.jwtPolicy = thirdPartyJwt := beq_iff_eq
  rw [hpath, mountPaths_eq, ← hflag]
  -- no other mount has the token's path
  have hdecided (token bootstrap plugins : Bool) :
      tokenMountPath ∈
          ["/etc/istio/config", "/var/run/secrets/istio", "/var/lib/istio/data", "/etc/istio/pod",
            "/etc/istio/proxy"] ++
          (if token then [tokenMountPath] else []) ++
          (if bootstrap then [bootstrapMountPath] else []) ++
          (if plugins then [pluginsPath] else []) ↔
        token = true := by
    revert token bootstrap plugins
    decide
  exact hdecided _ _ _

end Pod

/-! ## The maps of a gateway -/

/-- The proxy bootstrap is compiled, or the gateway is rejected for having none. -/
def CompilesBootstrap (g : Gateway) : Prop :=
  (∃ m, bootstrap g = .ok (some m) ∧ m.metadata.name = some bootstrapConfigMap) ∨
    ∃ text, bootstrap g = .error (.validation text)

/-- The maps that a pod takes files from are compiled with the gateway, up to the mesh's root
certificate. -/
structure MapsAgree (g : Gateway) (p : Pod) : Prop where
  compiled : ∀ v ∈ p.volumeList, ∀ name mode, v.source = .configMap name mode →
    v.name = "istio-ca-root-cert" ∧ name = rootCertificateMap g.content.spec ∨
      (meshConfiguration g).metadata.name = some name ∨
      name = bootstrapConfigMap ∧ CompilesBootstrap g
  bootstrap : (∃ v ∈ p.volumeList, (∃ mode, v.source = .configMap bootstrapConfigMap mode) ∧
    ∃ m, p.Mounts m ∧ m.volume = v.name) ↔ CompilesBootstrap g

theorem compilesBootstrap_iff (g : Gateway) :
    CompilesBootstrap g ↔ g.content.spec.skywalkingEnabled = true := by
  unfold CompilesBootstrap bootstrap GatewaySpec.skywalkingEnabled
  cases g.content.spec.skywalking with
  | none => simp
  | some w =>
    cases henable : w.enable with
    | false => simp [henable]
    | true =>
      by_cases hempty : w.customBootstrap = ""
      · simp [henable, hempty]
      · simp [henable, hempty, ownedMetadata]

theorem rootCertificateMap_ne (s : GatewaySpec) : rootCertificateMap s ≠ bootstrapConfigMap := by
  unfold rootCertificateMap
  split <;> decide

theorem maps_agree (g : Gateway) (name ns : String) : MapsAgree g (pod g.content.spec name ns) where
  compiled v hv map mode hsource := by
    rcases (mem_volumes_iff g.content.spec).1 hv with
      rfl | rfl | rfl | rfl | rfl | ⟨-, rfl⟩ | ⟨hsky, rfl⟩ | ⟨-, rfl⟩ <;> cases hsource
    · exact Or.inr (Or.inl rfl)
    · exact Or.inl ⟨rfl, rfl⟩
    · exact Or.inr (Or.inr ⟨rfl, (compilesBootstrap_iff g).2 hsky⟩)
  bootstrap := by
    rw [compilesBootstrap_iff]
    constructor
    · rintro ⟨v, hv, ⟨mode, hsource⟩, -⟩
      rcases (mem_volumes_iff g.content.spec).1 hv with
        rfl | rfl | rfl | rfl | rfl | ⟨-, rfl⟩ | ⟨hsky, -⟩ | ⟨-, rfl⟩
      case inr.inr.inr.inr.inr.inr.inl => exact hsky
      case inl => exact absurd (VolumeSource.configMap.inj hsource).1 (by decide)
      case inr.inl => exact absurd (VolumeSource.configMap.inj hsource).1 (rootCertificateMap_ne _)
      all_goals cases hsource
    · intro hsky
      -- the volume is there, and every volume is mounted
      have hv : (⟨bootstrapVolume, .configMap bootstrapConfigMap (some fileMode)⟩ : Volume) ∈
          volumes g.content.spec := by
        simp [mem_volumes_iff, hsky]
      exact ⟨_, hv, ⟨_, rfl⟩, (isCoherent_pod g.content.spec name ns).used _ hv⟩

end GatewayCompile

/-! ## The pod of a controller -/

namespace ControllerCompile

variable (s : ControllerSpec) (name ns : String)

theorem volumeList_pod : (pod s name ns).volumeList = volumes s := by
  unfold Pod.volumeList pod Exposure.nonempty?
  cases volumes s <;> rfl

/-- The token is all that is mounted. -/
theorem mounts_pod_iff (m : Mount) : (pod s name ns).Mounts m ↔
    s.runsEmbeddedDiscovery = true ∧ mountsToken s = true ∧ m = tokenMount := by
  cases hdiscovery : s.runsEmbeddedDiscovery <;> cases htoken : mountsToken s <;>
    simp [Pod.Mounts, pod, container, discoveryContainer, Container.mountList, hdiscovery, htoken]

theorem mem_volumes_iff {v : Volume} : v ∈ volumes s ↔
    s.runsEmbeddedDiscovery = true ∧ mountsToken s = true ∧ v = tokenVolume := by
  cases hdiscovery : s.runsEmbeddedDiscovery <;> cases htoken : mountsToken s <;>
    simp [volumes, hdiscovery, htoken]

theorem isCoherent_pod : (pod s name ns).IsCoherent where
  volumeNames := by
    rw [volumeList_pod, volumes]
    split <;> simp
  paths x hx := by
    have hmounts : x.mountList = [] ∨ x.mountList = [tokenMount] := by
      rcases List.mem_cons.1 hx with rfl | hx
      · exact Or.inl rfl
      · split at hx
        · obtain rfl := List.mem_singleton.1 hx
          cases htoken : mountsToken s <;> simp [discoveryContainer, Container.mountList, htoken]
        · cases hx
    rcases hmounts with h | h <;> simp [h]
  mounted m hm := by
    obtain ⟨hdiscovery, htoken, rfl⟩ := (mounts_pod_iff s name ns m).1 hm
    rw [volumeList_pod]
    exact ⟨tokenVolume, (mem_volumes_iff s).2 ⟨hdiscovery, htoken, rfl⟩, rfl⟩
  used v hv := by
    rw [volumeList_pod] at hv
    obtain ⟨hdiscovery, htoken, rfl⟩ := (mem_volumes_iff s).1 hv
    exact ⟨tokenMount, (mounts_pod_iff s name ns _).2 ⟨hdiscovery, htoken, rfl⟩, rfl⟩
  shown v hv shown hsource := by
    rw [volumeList_pod] at hv
    obtain ⟨-, -, rfl⟩ := (mem_volumes_iff s).1 hv
    cases hsource

/-- The token is mounted exactly if discovery runs in the pod and the settings ask for it. -/
theorem mounts_token_iff : (∃ m, (pod s name ns).Mounts m ∧ m.path = "/var/run/secrets/tokens") ↔
    s.runsEmbeddedDiscovery = true ∧ s.pilotJwtPolicy = thirdPartyJwt := by
  have hflag : mountsToken s = true ↔ s.pilotJwtPolicy = thirdPartyJwt := beq_iff_eq
  simp only [mounts_pod_iff, ← hflag]
  constructor
  · rintro ⟨m, ⟨hdiscovery, htoken, -⟩, -⟩
    exact ⟨hdiscovery, htoken⟩
  · rintro ⟨hdiscovery, htoken⟩
    exact ⟨tokenMount, ⟨hdiscovery, htoken, rfl⟩, rfl⟩

end ControllerCompile

end GatewayOperator
