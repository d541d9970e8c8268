import GatewayOperator.Proofs.Compile.Pods
import GatewayOperator.Proofs.Reconcile.Selector

/-!
# References between compiled objects

Compiled objects refer to each other by name: a Deployment to a service account and to ConfigMaps, a
binding to a role and to its subjects, an autoscaler to a Deployment. `Target.references` reads them
off an object as it is stored.

With a service account, every reference of a compiled object names one that is compiled before it,
the mesh's root certificate excepted (`Component.refersBack_targets`).
-/

namespace GatewayOperator

open Json (Step)

/-! ## Reading references -/

/-- The name of an object of a kind, in a namespace or in none. -/
structure Reference where
  kind : Kind
  ns : String
  name : String
  deriving DecidableEq, Repr

/-- A reference by the name of a kind, if there is such a kind. Cluster-wide objects are in no
namespace. -/
def Reference.ofKindName? (kind ns name : String) : Option Reference :=
  (Kind.ofLabel? kind).map fun k => ⟨k, if k.isNamespaced then ns else "", name⟩

/-- The items of a list in an object. -/
def Json.itemsOf (j : Json) (name : String) : List Json :=
  match j.inside? (.field name) with
  | some (.arr items) => items
  | _ => []

namespace Resource

/-- The pod that a Deployment makes, as it is rendered. -/
def podSpec? (r : Resource .deployment) : Option Json :=
  (r.content.spec.getD {}).toJson.reach? [.field "template", .field "spec"]

/-- What the pods of a Deployment refer to: the account that they run as and the maps that they take
files from. -/
def podReferences (r : Resource .deployment) : List Reference :=
  let pod := r.podSpec?.getD .null
  ((pod.textAlong? [.field "serviceAccountName"]).map
    (Reference.mk .serviceAccount r.metadata.nsOrEmpty)).toList ++
    (pod.itemsOf "volumes").filterMap fun volume =>
      (volume.textAlong? [.field "configMap", .field "name"]).map
        (Reference.mk .configMap r.metadata.nsOrEmpty)

end Resource

/-- What a binding in a namespace refers to: the role that it grants and those whom it grants it. -/
def BindingContent.references (b : BindingContent) (ns : String) : List Reference :=
  (Reference.ofKindName? b.roleRef.kind ns b.roleRef.name).toList ++
    (b.subjects.getD []).filterMap fun s => Reference.ofKindName? s.kind (s.ns.getD "") s.name

/-- The workload that an autoscaler scales, in each version of the API. -/
def Resource.scaleTarget? : {version : AutoscalingVersion} → Resource (.autoscaler version) →
    Option ScaleTarget
  | .v2, r => r.content.spec.map (·.scaleTargetRef)
  | .v2beta2, r => some (V2beta2.AutoscalerSpec.scaleTargetRef r.content)
  | .v2beta1, r => some (V2beta1.AutoscalerSpec.scaleTargetRef r.content)

namespace Target

/-- What a target refers to. -/
def references : Target → List Reference
  | @settled .deployment d => d.podReferences
  | @settled .roleBinding d => d.content.references d.metadata.nsOrEmpty
  | @settled .clusterRoleBinding d => d.content.references ""
  | @settled (.autoscaler _) d =>
    d.scaleTarget?.toList.filterMap fun t =>
      Reference.ofKindName? t.kind d.metadata.nsOrEmpty t.name
  | _ => []

/-- Whether a reference names a target. -/
def IsNamedBy (x : Target) (ref : Reference) : Prop :=
  x.kind = ref.kind ∧ x.key.ns.getD "" = ref.ns ∧ x.key.name = ref.name

/-- An object is named by its name beside the owner whose namespace it is in. -/
theorem isNamedBy_of_key {x : Target} {k : Kind} {m : Metadata} {name : String} (hkind : x.kind = k)
    (hkey : x.key = ⟨m.ns, name⟩) : x.IsNamedBy ⟨k, m.nsOrEmpty, name⟩ := by
  refine ⟨hkind, ?_, ?_⟩
  · rw [hkey]
    rfl
  · rw [hkey]

end Target

/-! ## References of a workload -/

/-- The map that a volume takes its files from. -/
def Volume.configMap? (v : Volume) : Option String :=
  match v.source with
  | .configMap name _ => some name
  | _ => none

theorem Volume.configMap?_eq_some_iff {v : Volume} {name : String} :
    v.configMap? = some name ↔ ∃ mode, v.source = .configMap name mode := by
  unfold Volume.configMap?
  cases v.source <;> simp

theorem last?_fragmentsField {type : String} {name k : String} (fs : List (Fragment type))
    (h : k ≠ name) :
    Json.Fields.last? (fragmentsField name fs) k = none := by
  unfold fragmentsField
  split <;> simp [h]

theorem textAlong?_volume (v : Volume) :
    v.toJson.textAlong? [.field "configMap", .field "name"] = v.configMap? := by
  obtain ⟨name, source⟩ := v
  unfold Json.textAlong? Volume.toJson Volume.configMap?
  cases source <;> simp [Json.reach?, Json.inside?, VolumeSource.toField, Json.text?]

namespace Pod

variable (p : Pod)

theorem serviceAccountName_toJson :
    p.toJson.textAlong? [.field "serviceAccountName"] = some p.serviceAccountName := by
  unfold toJson Json.textAlong?
  simp [Json.reach?, Json.inside?, last?_fragmentsField, Json.text?]

theorem volumes_toJson : p.toJson.itemsOf "volumes" = p.volumeList.map Volume.toJson := by
  unfold toJson Json.itemsOf volumeList
  cases p.volumes <;> cases p.hostNetwork <;> simp [Json.inside?, last?_fragmentsField]

end Pod

namespace Resource

theorem podSpec?_deployment (w : Workload) (m : Metadata) :
    (w.deployment m).podSpec? = some w.pod.toJson := by
  unfold podSpec?
  rw [Json.reach?, inside?_template]
  simp [Json.reach?, Json.inside?]

/-- A workload refers to the account and to the maps of its pod. -/
theorem podReferences_deployment (w : Workload) (m : Metadata) : (w.deployment m).podReferences =
    ⟨.serviceAccount, m.nsOrEmpty, w.pod.serviceAccountName⟩ ::
      w.pod.volumeList.filterMap fun v =>
        v.configMap?.map (Reference.mk .configMap m.nsOrEmpty) := by
  have hns : (w.deployment m).metadata.nsOrEmpty = m.nsOrEmpty := rfl
  unfold podReferences
  rw [podSpec?_deployment, Option.getD_some]
  dsimp only
  rw [Pod.serviceAccountName_toJson, Pod.volumes_toJson, List.filterMap_map, hns]
  simp [textAlong?_volume]

end Resource

/-! ## References in a list of targets -/

namespace Target

/-- Every reference of a target names an earlier one, unless it is excused. -/
def RefersBack (excused : Reference → Prop) (earlier : List Target) : List Target → Prop
  | [] => True
  | x :: xs => (∀ ref ∈ x.references, excused ref ∨ ∃ y ∈ earlier, y.IsNamedBy ref) ∧
      RefersBack excused (earlier ++ [x]) xs

variable {excused : Reference → Prop} {earlier xs ys : List Target}

theorem refersBack_append : RefersBack excused earlier (xs ++ ys) ↔
    RefersBack excused earlier xs ∧ RefersBack excused (earlier ++ xs) ys := by
  induction xs generalizing earlier with
  | nil => simp [RefersBack]
  | cons x xs ih => simp [RefersBack, ih, and_assoc]

theorem refersBack_of_none (h : ∀ x ∈ xs, x.references = []) : RefersBack excused earlier xs := by
  induction xs generalizing earlier with
  | nil => trivial
  | cons x xs ih =>
    refine ⟨by simp [h x List.mem_cons_self], ih fun y hy => h y (List.mem_cons_of_mem x hy)⟩

end Target

/-! ## References of a component -/

namespace Component

variable {c : Component} {settings : PassSettings} {owner : Resource c.kind}

/-- The pod that is compiled from an object. -/
def pod : (c : Component) → Resource c.kind → Pod
  | .gateway, g => GatewayCompile.pod g.content.spec g.metadata.anyName g.metadata.nsOrEmpty
  | .controller, r => ControllerCompile.pod r.content.spec r.metadata.anyName r.metadata.nsOrEmpty

/-- The Deployment makes this pod. -/
theorem podSpec?_compiled (owner : Resource c.kind) :
    (c.deployment owner).podSpec? = some (c.pod owner).toJson := by
  cases c <;> exact Resource.podSpec?_deployment _ _

theorem podReferences_compiled (owner : Resource c.kind) : (c.deployment owner).podReferences =
    ⟨.serviceAccount, owner.metadata.nsOrEmpty,
      (c.common owner).serviceAccountName owner.metadata.anyName⟩ ::
      (c.pod owner).volumeList.filterMap fun v =>
        v.configMap?.map (Reference.mk .configMap owner.metadata.nsOrEmpty) := by
  cases c <;> exact Resource.podReferences_deployment _ _

/-- The map with the mesh's root certificate, which the mesh itself keeps. -/
def IsRootCertificate : (c : Component) → Resource c.kind → Reference → Prop
  | .gateway, g, ref =>
    ref = ⟨.configMap, g.metadata.nsOrEmpty, GatewayCompile.rootCertificateMap g.content.spec⟩
  | .controller, _, _ => False

/-- The pod of a controller takes no files from maps. -/
theorem configMap?_controller (r : Controller) :
    ∀ v ∈ (controller.pod r).volumeList, v.configMap? = none := by
  intro v hv
  obtain ⟨-, -, rfl⟩ := (ControllerCompile.mem_volumes_iff r.content.spec).1
    (ControllerCompile.volumeList_pod r.content.spec _ _ ▸ hv)
  rfl

/-- The maps that a pod takes files from are compiled with it. -/
theorem exists_configMap {ms : List (Resource .configMap)} (hms : c.configMaps owner = .ok ms)
    {v : Volume} (hv : v ∈ (c.pod owner).volumeList) {name : String}
    (hname : v.configMap? = some name) :
    c.IsRootCertificate owner ⟨.configMap, owner.metadata.nsOrEmpty, name⟩ ∨
      ∃ m ∈ ms, m.key = ⟨owner.metadata.ns, name⟩ := by
  obtain ⟨mode, hsource⟩ := Volume.configMap?_eq_some_iff.1 hname
  cases c with
  | gateway =>
    have hcompiled : (GatewayCompile.bootstrap owner).map
        (fun m => GatewayCompile.meshConfiguration owner :: m.toList) = .ok ms := hms
    cases hb : GatewayCompile.bootstrap owner with
    | error e =>
      rw [hb] at hcompiled
      cases hcompiled
    | ok bootstrap =>
      rw [hb] at hcompiled
      cases hcompiled
      rcases (GatewayCompile.maps_agree owner _ _).compiled v hv name mode hsource with
        ⟨-, rfl⟩ | hmesh | ⟨rfl, ⟨m, hm, -⟩ | ⟨text, herror⟩⟩
      · exact Or.inl rfl
      · obtain rfl : meshConfigMap = name := Option.some.inj hmesh
        exact Or.inr ⟨_, List.mem_cons_self, rfl⟩
      · obtain rfl : bootstrap = some m := Except.ok.inj (hb.symm.trans hm)
        exact Or.inr ⟨m, List.mem_cons_of_mem _ (by simp), key_of_bootstrap hb⟩
      · -- without a bootstrap there are no maps at all
        rw [hb] at herror
        cases herror
  | controller => cases (configMap?_controller owner v hv).symm.trans hname

/-- The references of a compiled binding are its role and the service account. -/
theorem references_bindings (owner : Resource c.kind) :
    let ns := owner.metadata.nsOrEmpty
    let account := (c.common owner).serviceAccountName owner.metadata.anyName
    (Target.settled (c.access owner).roleBinding).references =
        [⟨.role, ns, account⟩, ⟨.serviceAccount, ns, account⟩] ∧
      (Target.settled (c.access owner).clusterRoleBinding).references =
        [⟨.clusterRole, "", account⟩, ⟨.serviceAccount, ns, account⟩] := ⟨rfl, rfl⟩

/-- An autoscaler refers to the Deployment of its component. -/
theorem references_autoscaler (owner : Resource c.kind) (a : AutoscalingSettings)
    (version : AutoscalingVersion) :
    (Target.settled (c.autoscaler owner a version)).references =
      [⟨.deployment, owner.metadata.nsOrEmpty, owner.metadata.anyName⟩] := by
  cases version <;> rfl

theorem references_scalingTarget (owner : Resource c.kind) (version : AutoscalingVersion) :
    (scalingTarget version owner (c.common owner) c.label).references = [] ∨
      (scalingTarget version owner (c.common owner) c.label).references =
        [⟨.deployment, owner.metadata.nsOrEmpty, owner.metadata.anyName⟩] := by
  cases henabled : (c.common owner).autoscalingEnabled with
  | false =>
    rw [scalingTarget_disabled henabled]
    exact Or.inl rfl
  | true =>
    unfold CommonSettings.autoscalingEnabled at henabled
    split at henabled
    · rename_i a ha
      rw [scalingTarget_enabled ha henabled]
      exact Or.inr (references_autoscaler owner a version)
    · cases henabled

theorem key_deployment (owner : Resource c.kind) :
    (c.deployment owner).key = ⟨owner.metadata.ns, owner.metadata.anyName⟩ := by
  cases c <;> rfl

/-- The service account comes first. -/
theorem exists_account (henabled : (c.common owner).serviceAccountEnabled = true) :
    ∃ rest, identityTargets owner (c.common owner) c.label c.rules =
      .present (c.serviceAccount owner) :: rest := by
  unfold identityTargets
  rw [if_pos henabled]
  exact ⟨_, rfl⟩

/-- The service account and the objects that grant it its access, in the order in which they are
worked on. -/
theorem refersBack_identity {excused : Reference → Prop} :
    Target.RefersBack excused [] (identityTargets owner (c.common owner) c.label c.rules) := by
  obtain ⟨hrole, hclusterRole⟩ := references_bindings owner
  have haccount : (Target.present (c.serviceAccount owner)).IsNamedBy
      ⟨.serviceAccount, owner.metadata.nsOrEmpty,
        (c.common owner).serviceAccountName owner.metadata.anyName⟩ :=
    ⟨rfl, rfl, rfl⟩
  -- a binding comes after its role and after the account
  have hbinding {x : Target} {ref : Reference} {earlier : List Target} (role : Target)
      (hrole : role.IsNamedBy ref) (hmem : role ∈ earlier)
      (hfirst : .present (c.serviceAccount owner) ∈ earlier)
      (hrefs : x.references = [ref, ⟨.serviceAccount, owner.metadata.nsOrEmpty,
        (c.common owner).serviceAccountName owner.metadata.anyName⟩]) :
      ∀ ref ∈ x.references, excused ref ∨ ∃ y ∈ earlier, y.IsNamedBy ref := by
    intro ref href
    rw [hrefs] at href
    simp only [List.mem_cons, List.not_mem_nil, or_false] at href
    rcases href with rfl | rfl
    · exact Or.inr ⟨role, hmem, hrole⟩
    · exact Or.inr ⟨_, hfirst, haccount⟩
  unfold identityTargets
  dsimp only
  split
  · refine ⟨by simp [Target.references], ?_⟩
    split
    · refine ⟨by simp [Target.references], ?_, by simp [Target.references], ?_, trivial⟩
      · exact hbinding (.settled (c.access owner).role) ⟨rfl, rfl, rfl⟩ (by simp [access])
          (by simp [serviceAccount]) hrole
      · exact hbinding (.settled (c.access owner).clusterRole) ⟨rfl, rfl, rfl⟩ (by simp [access])
          (by simp [serviceAccount]) hclusterRole
    · trivial
  · trivial

/-- With a service account, what is compiled refers to what is compiled before it. -/
theorem refersBack_targets (henabled : (c.common owner).serviceAccountEnabled = true)
    {xs : List Target} (h : c.targets settings owner = .ok xs) :
    Target.RefersBack (c.IsRootCertificate owner) [] xs := by
  obtain ⟨ms, hms, rfl⟩ := targets_eq h
  obtain ⟨rest, hidentity⟩ := exists_account henabled
  rw [Target.refersBack_append, Target.refersBack_append]
  refine ⟨refersBack_identity, Target.refersBack_of_none ?_, ?_⟩
  · intro x hx
    obtain ⟨m, -, rfl⟩ := List.mem_map.1 hx
    rfl
  refine ⟨?_, by simp [Target.references], ?_, trivial⟩
  · -- the pod's account is the first object of the identity, and its maps come after that
    intro ref href
    have href : ref ∈ (c.deployment owner).podReferences := href
    rw [podReferences_compiled] at href
    rcases List.mem_cons.1 href with rfl | href
    · exact Or.inr ⟨.present (c.serviceAccount owner), by simp [hidentity], rfl, rfl, rfl⟩
    · obtain ⟨v, hv, hmap⟩ := List.mem_filterMap.1 href
      obtain ⟨name, hname, rfl⟩ := Option.map_eq_some_iff.1 hmap
      rcases exists_configMap hms hv hname with hroot | ⟨m, hm, hkey⟩
      · exact Or.inl hroot
      · exact Or.inr ⟨.settled m, by simp [hm], Target.isNamedBy_of_key rfl hkey⟩
  · intro ref href
    rcases references_scalingTarget owner settings.version with hnone | hone
    · rw [hnone] at href
      cases href
    · rw [hone] at href
      obtain rfl := List.mem_singleton.1 href
      exact Or.inr ⟨.settled (c.deployment owner), by simp,
        Target.isNamedBy_of_key rfl (key_deployment owner)⟩

end Component

end GatewayOperator
