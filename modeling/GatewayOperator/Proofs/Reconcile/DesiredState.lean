import GatewayOperator.Proofs.Overlay.Desired
import GatewayOperator.Proofs.Reconcile.Quiescence

/-!
# The desired state

A pass that converges establishes everything that is compiled from its object, at once and whatever
stood there before (`pass_establishes`): each step overlays what it finds with what is compiled, no
step undoes another one, and an overlay shows what was overlaid. `Component.Established` lists what
that means for each compiled object.

A shared binding is the one place where something else may stand for what is compiled: a subject
that was there in another API group stays, and the compiled one is not added beside it
(`pass_keeps_subject`).
-/

namespace GatewayOperator

open StoreProgram

/-! ## What a step leaves -/

theorem Server.Overlaid.congr {k : Kind} {d : Resource k} {s s' t : Server}
    (hbefore : s.find? k d.key = s'.find? k d.key) (h : s.Overlaid t d) : s'.Overlaid t d := by
  unfold Server.Overlaid Server.standing at h ⊢
  rw [← hbefore]
  exact h

namespace Target

/-- What a step leaves at the place of its target, given a store in which nothing happened there
yet. -/
def Left (before : Server) : Target → Server → Prop
  | @present k r, t => (t.find? k r.key).isSome = true
  | .settled d, t => before.Overlaid t d
  | .absent k key, t => ∀ r, t.find? k key = some r → r.metadata.hasFinalizers = true

/-- Whether nothing happened yet at the place of a target. -/
def Untouched (before : Server) (x : Target) (s : Server) : Prop :=
  s.find? x.kind x.key = before.find? x.kind x.key

/-- Nothing happened yet at the place of a target, and nothing is being deleted there. -/
structure IsReady (before : Server) (x : Target) (s : Server) : Prop where
  untouched : x.Untouched before s
  stays : ∀ r, before.find? x.kind x.key = some r → r.metadata.isBeingDeleted = false

theorem local_untouched (before : Server) : Local (Untouched before) :=
  fun _ _ _ hplace hs => hplace.symm.trans hs

theorem local_isReady (before : Server) : Local (IsReady before) :=
  fun x s t hplace hs => ⟨local_untouched before x s t hplace hs.untouched, hs.stays⟩

theorem local_left (before : Server) : Local (Left before) := by
  intro x s t hplace hs
  cases x with
  | @present k r =>
    have heq : s.find? k r.key = t.find? k r.key := hplace
    have hthere : (s.find? k r.key).isSome = true := hs
    show (t.find? k r.key).isSome = true
    rwa [← heq]
  | settled d =>
    obtain ⟨r, hr, hwritten⟩ := hs
    exact ⟨r, hplace ▸ hr, hwritten⟩
  | absent k key =>
    have heq : s.find? k key = t.find? k key := hplace
    show ∀ r, t.find? k key = some r → r.metadata.hasFinalizers = true
    rw [← heq]
    exact hs

/-- A step that succeeds leaves at its place what its target asks for. -/
theorem left_of_work {before : Server} (x : Target) (s t : Server) (hs : x.IsReady before s)
    (h : x.work.run Server.world s = (.ok (), t)) : x.Left before t := by
  obtain ⟨hplace, hstays⟩ := hs
  cases x with
  | present r =>
    obtain ⟨o, u, hrun, hend⟩ := Program.run_bind_ok.1 h
    cases hend
    exact createIfAbsent_ok hrun
  | @settled k d =>
    obtain ⟨o, u, hrun, hend⟩ := Program.run_bind_ok.1 h
    cases hend
    have heq : s.find? k d.key = before.find? k d.key := hplace
    refine (convergeTo_overlaid ?_ hrun).congr heq
    intro r hr
    rw [heq] at hr
    exact hstays r hr
  | absent k key =>
    have hfind := Server.find?_delete s k key
    have ht : (s.delete k key).2 = t := congrArg Prod.snd h
    rw [ht] at hfind
    intro r hr
    rw [hfind] at hr
    obtain ⟨stored, hstored, hr⟩ := Option.bind_eq_some_iff.1 hr
    -- only an object that finalizers hold back is still there
    split at hr
    · rename_i hheld
      cases hr
      exact hheld
    · cases hr

end Target

/-! ## Compiled objects -/

section Provides

variable {k : Kind}

/-- At the place of a compiled object one is there that shows it, and if its kind lives in
namespaces it is owned by the object with the uid. -/
def Server.Provides (before t : Server) (uid : String) (d : Resource k) : Prop :=
  ∃ r, t.find? k d.key = some r ∧ (before.standing k d.key).Shows r d ∧
    (k.isNamespaced = true → ∃ p ∈ r.metadata.ownerReferences.getD [], p.uid = uid)

/-- What an object looks like that is compiled for the owner with a uid. -/
structure Resource.IsCompiledFor (uid : String) (d : Resource k) : Prop where
  notAccount : k ≠ .serviceAccount
  notEvent : k ≠ .event
  content : k.IsRendered d.content
  owned : k.isNamespaced = true → ∃ o ∈ d.metadata.ownerReferences.getD [], o.uid = uid

/-- What was written over shows what was compiled. -/
theorem provides_of_overlaid {before t : Server} {uid : String} {d : Resource k}
    (hd : d.IsCompiledFor uid) (h : before.Overlaid t d) : before.Provides t uid d := by
  obtain ⟨r, hfind, hwritten⟩ := h
  have hshows : (before.standing k d.key).Shows r d := by
    -- an object that was left alone is written like its overlay
    rcases hwritten with ⟨hfound, hsame⟩ | ⟨version, uid, rfl⟩
    · rw [Server.standing_of_found hfound]
      exact (r.shows_overlay hd.content).of_sameAs hd.notAccount hd.notEvent hsame
    · exact (Resource.shows_overlay _ hd.content).issued version uid
  refine ⟨r, hfind, hshows, fun hnamespaced => ?_⟩
  obtain ⟨o, ho, rfl⟩ := hd.owned hnamespaced
  exact hshows.owners o ho

end Provides

namespace Component

variable {c : Component} {settings : PassSettings} {s t : Server}

/-- The component's name in labels. -/
def label : Component → String
  | .gateway => gatewayComponent
  | .controller => controllerComponent

/-- What the component's service account may do. -/
def rules : Component → List PolicyRule
  | .gateway => gatewayRules
  | .controller => controllerRules

theorem identity_eq (owner : Resource c.kind) :
    c.identity owner = identityTargets owner (c.common owner) c.label c.rules := by
  cases c <;> rfl

/-- The service account that is compiled from an object. -/
def serviceAccount (c : Component) (owner : Resource c.kind) : Resource .serviceAccount :=
  compileServiceAccount owner ((c.common owner).serviceAccountName owner.metadata.anyName) c.label
    (c.common owner).serviceAccountAnnotations

/-- The objects that are compiled from an object to grant its service account access. -/
def access (c : Component) (owner : Resource c.kind) : AccessObjects :=
  compileAccess owner ((c.common owner).serviceAccountName owner.metadata.anyName) c.label c.rules

/-- The configuration that is compiled from an object, if it can be compiled. -/
def configMaps : (c : Component) → Resource c.kind → Except Failure (List (Resource .configMap))
  | .gateway, g =>
    (GatewayCompile.bootstrap g).map fun m => GatewayCompile.meshConfiguration g :: m.toList
  | .controller, _ => .ok []

def deployment : (c : Component) → Resource c.kind → Resource .deployment
  | .gateway, g => GatewayCompile.deployment g
  | .controller, r => ControllerCompile.deployment r

def service : (c : Component) → Resource c.kind → Resource .service
  | .gateway, g => GatewayCompile.service g
  | .controller, r => ControllerCompile.service r

/-- The autoscaler that is compiled from an object, in a version of the API. -/
def autoscaler (c : Component) (owner : Resource c.kind) (a : AutoscalingSettings) :
    (version : AutoscalingVersion) → Resource (.autoscaler version)
  | .v2 => compileAutoscaler owner owner.metadata.anyName c.label a
  | .v2beta2 => toV2beta2 (compileAutoscaler owner owner.metadata.anyName c.label a)
  | .v2beta1 => toV2beta1 (compileAutoscaler owner owner.metadata.anyName c.label a)

/-- What a converged pass leaves of everything that is compiled from an object, its settings filled
in. -/
structure Established (c : Component) (settings : PassSettings) (owner : Resource c.kind)
    (before t : Server) : Prop where
  serviceAccount : (c.common owner).serviceAccountEnabled = true →
    ∃ r, t.find? .serviceAccount (c.serviceAccount owner).key = some r
  access : (c.common owner).serviceAccountEnabled = true → (c.common owner).rbacEnabled = true →
    before.Provides t (owner.metadata.uid.getD "") (c.access owner).role ∧
      before.Provides t (owner.metadata.uid.getD "") (c.access owner).roleBinding ∧
      before.Provides t (owner.metadata.uid.getD "") (c.access owner).clusterRole ∧
      before.Provides t (owner.metadata.uid.getD "") (c.access owner).clusterRoleBinding
  configMaps : ∃ ms, c.configMaps owner = .ok ms ∧
    ∀ m ∈ ms, before.Provides t (owner.metadata.uid.getD "") m
  deployment : before.Provides t (owner.metadata.uid.getD "") (c.deployment owner)
  service : before.Provides t (owner.metadata.uid.getD "") (c.service owner)
  autoscaler : ∀ a, (c.common owner).autoScaling = some a → a.enable = true →
    before.Provides t (owner.metadata.uid.getD "") (c.autoscaler owner a settings.version)
  noAutoscaler : (c.common owner).autoscalingEnabled = false →
    ∀ r, t.find? (.autoscaler settings.version)
      (.inNamespace owner.metadata.nsOrEmpty owner.metadata.anyName) = some r →
        r.metadata.hasFinalizers = true

/-! ## Targets of a pass -/

/-- The targets of a pass are the identity, the configuration, the workload, its Service and its
autoscaler. -/
theorem targets_eq {owner : Resource c.kind} {xs : List Target}
    (h : c.targets settings owner = .ok xs) :
    ∃ ms, c.configMaps owner = .ok ms ∧
      xs = identityTargets owner (c.common owner) c.label c.rules ++ (ms.map .settled ++
        [.settled (c.deployment owner), .settled (c.service owner),
          scalingTarget settings.version owner (c.common owner) c.label]) := by
  cases c with
  | gateway =>
    obtain ⟨bootstrap, hb, rfl⟩ := exists_of_gatewayTargets h
    refine ⟨GatewayCompile.meshConfiguration owner :: bootstrap.toList, ?_, rfl⟩
    simp only [configMaps, hb]
    rfl
  | controller =>
    cases h
    exact ⟨[], rfl, rfl⟩

section Compiled

variable (owner : Resource c.kind)

theorem isCompiledFor_access :
    (c.access owner).role.IsCompiledFor (owner.metadata.uid.getD "") ∧
      (c.access owner).roleBinding.IsCompiledFor (owner.metadata.uid.getD "") ∧
      (c.access owner).clusterRole.IsCompiledFor (owner.metadata.uid.getD "") ∧
      (c.access owner).clusterRoleBinding.IsCompiledFor (owner.metadata.uid.getD "") := by
  refine ⟨⟨by simp, by simp, trivial, fun _ => ⟨_, List.mem_singleton.2 rfl, rfl⟩⟩,
    ⟨by simp, by simp, trivial, fun _ => ⟨_, List.mem_singleton.2 rfl, rfl⟩⟩,
    ⟨by simp, by simp, trivial, fun h => by cases h⟩,
    ⟨by simp, by simp, ?_, fun h => by cases h⟩⟩
  intro x hx y hy _
  rw [List.mem_singleton.1 hx, List.mem_singleton.1 hy]

theorem isCompiledFor_configMap {ms : List (Resource .configMap)}
    (h : c.configMaps owner = .ok ms) :
    ∀ m ∈ ms, m.IsCompiledFor (owner.metadata.uid.getD "") := by
  intro m hm
  refine ⟨by simp, by simp, trivial, fun _ => ⟨ownerReference owner, ?_, rfl⟩⟩
  cases c with
  | gateway =>
    simp only [configMaps] at h
    cases hb : GatewayCompile.bootstrap owner with
    | error e =>
      rw [hb] at h
      cases h
    | ok bootstrap =>
      rw [hb] at h
      cases h
      rcases List.mem_cons.1 hm with rfl | hm
      · exact List.mem_singleton.2 rfl
      · rw [Option.mem_toList] at hm
        subst hm
        rw [metadata_of_bootstrap hb]
        exact List.mem_singleton.2 rfl
  | controller =>
    cases h
    cases hm

theorem isCompiledFor_deployment :
    (c.deployment owner).IsCompiledFor (owner.metadata.uid.getD "") := by
  have hrendered (w : Workload) (m : Metadata) :
      Kind.IsRendered .deployment (w.deployment m).content :=
    ⟨_, rfl, by simp⟩
  cases c with
  | gateway =>
    exact ⟨by simp, by simp, hrendered _ _, fun _ => ⟨_, List.mem_singleton.2 rfl, rfl⟩⟩
  | controller =>
    exact ⟨by simp, by simp, hrendered _ _, fun _ => ⟨_, List.mem_singleton.2 rfl, rfl⟩⟩

theorem isCompiledFor_service : (c.service owner).IsCompiledFor (owner.metadata.uid.getD "") := by
  cases c with
  | gateway => exact ⟨by simp, by simp, rfl, fun _ => ⟨_, List.mem_singleton.2 rfl, rfl⟩⟩
  | controller => exact ⟨by simp, by simp, rfl, fun _ => ⟨_, List.mem_singleton.2 rfl, rfl⟩⟩

theorem isCompiledFor_autoscaler (a : AutoscalingSettings) (version : AutoscalingVersion) :
    (c.autoscaler owner a version).IsCompiledFor (owner.metadata.uid.getD "") := by
  cases version <;>
    exact ⟨by simp, by simp, trivial, fun _ => ⟨_, List.mem_singleton.2 rfl, rfl⟩⟩

end Compiled

/-- The autoscaler that an object asks for is settled in the served version. -/
theorem scalingTarget_enabled {owner : Resource c.kind} {a : AutoscalingSettings}
    (ha : (c.common owner).autoScaling = some a) (henable : a.enable = true)
    (version : AutoscalingVersion) :
    scalingTarget version owner (c.common owner) c.label =
      .settled (c.autoscaler owner a version) := by
  unfold scalingTarget autoscaler?
  simp only [ha, henable, if_true]
  cases version <;> rfl

/-- Without an autoscaler its place is to be empty. -/
theorem scalingTarget_disabled {owner : Resource c.kind}
    (h : (c.common owner).autoscalingEnabled = false) (version : AutoscalingVersion) :
    scalingTarget version owner (c.common owner) c.label = .absent (.autoscaler version)
      (.inNamespace owner.metadata.nsOrEmpty owner.metadata.anyName) := by
  have hnone : autoscaler? owner (c.common owner) c.label = none := by
    unfold autoscaler?
    unfold CommonSettings.autoscalingEnabled at h
    cases ha : (c.common owner).autoScaling with
    | none => rfl
    | some a =>
      rw [ha] at h
      simp only at h
      simp [h]
  unfold scalingTarget
  rw [hnone]

/-- If every target of a pass has what it asks for, everything is established. -/
theorem established_of_left {owner : Resource c.kind} {xs : List Target}
    (hxs : c.targets settings owner = .ok xs) (h : ∀ x ∈ xs, x.Left s t) :
    c.Established settings owner s t := by
  obtain ⟨ms, hms, rfl⟩ := targets_eq hxs
  -- targets are found by their position: identity, maps, Deployment, Service, autoscaler
  simp only [List.mem_append, List.mem_cons, List.mem_map, List.not_mem_nil, or_false] at h
  refine ⟨?_, ?_, ⟨ms, hms, ?_⟩, ?_, ?_, ?_, ?_⟩
  · intro henabled
    have hleft := h (.present (c.serviceAccount owner)) (Or.inl (by
      simp [identityTargets, henabled, serviceAccount]))
    exact Option.isSome_iff_exists.1 hleft
  · intro henabled hrbac
    have hmem (x : Target) (hx : x ∈ [.settled (c.access owner).role,
        .settled (c.access owner).roleBinding, .settled (c.access owner).clusterRole,
        .settled (c.access owner).clusterRoleBinding]) :
        x ∈ identityTargets owner (c.common owner) c.label c.rules := by
      simp only [identityTargets, henabled, hrbac, if_true]
      exact List.mem_cons_of_mem _ hx
    obtain ⟨hrole, hroleBinding, hclusterRole, hclusterRoleBinding⟩ := isCompiledFor_access owner
    exact ⟨provides_of_overlaid hrole (h _ (Or.inl (hmem (.settled _) (by simp)))),
      provides_of_overlaid hroleBinding (h _ (Or.inl (hmem (.settled _) (by simp)))),
      provides_of_overlaid hclusterRole (h _ (Or.inl (hmem (.settled _) (by simp)))),
      provides_of_overlaid hclusterRoleBinding (h _ (Or.inl (hmem (.settled _) (by simp))))⟩
  · intro m hm
    exact provides_of_overlaid (isCompiledFor_configMap owner hms m hm)
      (h (.settled m) (Or.inr (Or.inl ⟨m, hm, rfl⟩)))
  · exact provides_of_overlaid (isCompiledFor_deployment owner)
      (h (.settled (c.deployment owner)) (Or.inr (Or.inr (Or.inl rfl))))
  · exact provides_of_overlaid (isCompiledFor_service owner)
      (h (.settled (c.service owner)) (Or.inr (Or.inr (Or.inr (Or.inl rfl)))))
  · intro a ha henable
    exact provides_of_overlaid (isCompiledFor_autoscaler owner a settings.version)
      (h (.settled (c.autoscaler owner a settings.version)) (Or.inr (Or.inr (Or.inr (Or.inr
        (scalingTarget_enabled ha henable settings.version).symm)))))
  · intro hdisabled
    exact h (.absent _ _) (Or.inr (Or.inr (Or.inr (Or.inr
      (scalingTarget_disabled hdisabled settings.version).symm))))

/-! ## The pass -/

/-- A pass that converges leaves everything that is compiled from its object, whatever stood there
before without being deleted, and the object reports it. -/
theorem pass_establishes (c : Component) (settings : PassSettings) (ns name : String) (s t : Server)
    (hstays : ∀ (raw : Resource c.kind) (x : Target) (r : Resource x.kind),
      s.find? c.kind (.inNamespace ns name) = some raw → c.IsTargetOf settings raw x →
      s.find? x.kind x.key = some r → r.metadata.isBeingDeleted = false)
    (h : (c.pass settings (.inNamespace ns name)).run Server.world s = (.ok .converged, t)) :
    ∃ raw, s.find? c.kind (.inNamespace ns name) = some raw ∧
      c.Established settings (c.withDefaults raw) s t ∧
      ∃ finalizers version status,
        t.find? c.kind (.inNamespace ns name) = some (raw.restated finalizers version status) ∧
          (raw.restated finalizers version status).reported =
            some { deployed := true, serviceAccountName := some (c.account raw) } := by
  obtain ⟨raw, hraw, -, hconverged⟩ :=
    converged_of_pass (Target.local_isReady s) (Target.local_left s) Target.left_of_work
      (fun raw hraw x hx => ⟨rfl, fun r hr => hstays raw x r hraw hx hr⟩) h
  obtain ⟨xs, hxs, hleft⟩ := hconverged.compiled
  obtain ⟨finalizers, version, status, hfind, -, hreported⟩ := hconverged.object
  exact ⟨raw, hraw, established_of_left hxs hleft, finalizers, version, status, hfind, hreported⟩

/-- A gateway as a user applies it. -/
def appliedGateway : Gateway where
  metadata :=
    { name := some "edge", ns := some "higress-system", uid := some "uid-2",
      resourceVersion := some "2" }
  content := { spec := {} }

/-- The gateway's service account as a subject of another API group. -/
def groupedSubject : Subject :=
  { Subject.serviceAccount "higress-gateway" "higress-system" with apiGroup := some Kind.rbacGroup }

/-- A store with a gateway for which no pass ran, and a binding that names its service account
so. -/
def groupedStore : Server where
  objects := [⟨.namespaceKind, { name := some "higress-system" }, {}⟩,
    ⟨.gateway, appliedGateway⟩,
    ⟨.clusterRoleBinding,
      { name := some "higress-gateway", uid := some "uid-3", resourceVersion := some "3" },
      { roleRef := roleRefTo .clusterRole "higress-gateway", subjects := some [groupedSubject] }⟩]
  version := 3

theorem groupedStore_stays (k : Kind) (key : Key) (r : Resource k)
    (hdependent : k.isDependent = true)
    (hfind : groupedStore.find? k key = some r) : r.metadata.isBeingDeleted = false := by
  have hmem := Server.mem_of_find? hfind
  simp only [groupedStore, List.mem_cons, List.not_mem_nil, or_false] at hmem
  rcases hmem with hmem | hmem | hmem <;> cases hmem
  · cases hdependent
  · cases hdependent
  · rfl

theorem pass_establishes_groupedStore :
    ∃ t, (gateway.pass {} (.inNamespace "higress-system" "edge")).run Server.world groupedStore =
        (.ok .converged, t) ∧
      gateway.Established {} (gateway.withDefaults appliedGateway) groupedStore t := by
  have hrun :
      (gateway.pass {} (.inNamespace "higress-system" "edge")).run Server.world groupedStore =
        (.ok .converged, ((gateway.pass {} (.inNamespace "higress-system" "edge")).run
          Server.world groupedStore).2) :=
    Prod.ext rfl rfl
  obtain ⟨raw, hraw, hestablished, -⟩ := pass_establishes .gateway {} "higress-system" "edge"
    groupedStore _ (fun _ _ r _ hx hr => groupedStore_stays _ _ r hx.isDependent hr) hrun
  cases hraw
  exact ⟨_, hrun, hestablished⟩

/-- The compiled subject need not be in the binding: one of another API group stays in its place. -/
theorem pass_keeps_subject :
    (∀ (k : Kind) (key : Key) (r : Resource k), k.isDependent = true →
        groupedStore.find? k key = some r → r.metadata.isBeingDeleted = false) ∧
      ∃ t, (gateway.pass {} (.inNamespace "higress-system" "edge")).run Server.world groupedStore =
          (.ok .converged, t) ∧
        ∃ b, t.find? .clusterRoleBinding
            (gateway.access (gateway.withDefaults appliedGateway)).clusterRoleBinding.key = some b ∧
          ∃ x ∈ (gateway.access
              (gateway.withDefaults appliedGateway)).clusterRoleBinding.content.subjects.getD [],
            x ∉ b.content.subjects.getD [] := by
  refine ⟨groupedStore_stays, _, Prod.ext rfl rfl, _, rfl, _, List.mem_singleton.2 rfl, ?_⟩
  show _ ∉ [groupedSubject]
  decide

end Component

end GatewayOperator
