import GatewayOperator.Proofs.Reconcile.Ownership

/-!
# Controllers of what is compiled

Everything that is compiled into the namespace of an object names the object as the owner that
controls it, and an object may have one controller only. `Owns` lists the places of what is
compiled, and `Disputes` when two objects have such a place in common: they use one service account
with access rules, both are gateways, or they have one name.

In every history of passes, whichever calls fail, every controller is one of the objects at the
start that own the place, and only objects that dispute each other can both control anything
(`controllers_of_history`). They do as soon as a pass of each has converged: an overlay adds its
owner beside the one that is there. Service accounts are created and not written over, so they have
the owner who came first.
-/

namespace GatewayOperator

open Program (Runs)

namespace Component

variable {c c₁ c₂ : Component} {settings : PassSettings} {raw : Resource c.kind}
  {raw₁ : Resource c₁.kind} {raw₂ : Resource c₂.kind} {s t : Server} {k : Kind} {key : Key}
  {ns name : String}

/-! ## Places with an owner -/

/-- The places where something is compiled from an object that names it as its owner. -/
def Owns (c : Component) (raw : Resource c.kind) (k : Kind) (key : Key) : Prop :=
  key.ns = raw.metadata.ns ∧
    match k with
    | .serviceAccount =>
      (c.common (c.withDefaults raw)).serviceAccountEnabled = true ∧ key.name = c.account raw
    | .role | .roleBinding => c.ManagesAccess raw ∧ key.name = c.account raw
    | .configMap => c = .gateway ∧ (key.name = meshConfigMap ∨ key.name = bootstrapConfigMap)
    | .deployment | .service | .autoscaler _ => key.name = raw.metadata.anyName
    | _ => False

theorem managesAccess_restated {finalizers : Option (List String)} {version : Option String}
    {status : c.kind.Content} :
    c.ManagesAccess (raw.restated finalizers version status) ↔ c.ManagesAccess raw := by
  constructor
  · rintro ⟨haccount, hrbac⟩
    rw [common_restated] at haccount hrbac
    exact ⟨haccount, hrbac⟩
  · rintro ⟨haccount, hrbac⟩
    exact ⟨by rwa [common_restated], by rwa [common_restated]⟩

/-- The places depend on the identity of the object and on its specification. -/
theorem owns_restated {finalizers : Option (List String)} {version : Option String}
    {status : c.kind.Content} :
    c.Owns (raw.restated finalizers version status) k key ↔ c.Owns raw k key := by
  unfold Owns
  simp only [common_restated, managesAccess_restated, account_restated]
  rfl

theorem ownerReference_withDefaults (raw : Resource c.kind) :
    ownerReference (c.withDefaults raw) = ownerReference raw := by
  unfold ownerReference
  rw [metadata_withDefaults]

/-! ## Targets -/

section Targets

variable {eligible : Kind → Key → OwnerReference → Prop} {x : Target}

theorem isOwned_settled {d : Resource k} (hdependent : k.isDependent = true)
    (hnot : k ≠ .serviceAccount)
    (howners : d.metadata.owners = [ownerReference (c.withDefaults raw)])
    (heligible : eligible k d.key (ownerReference raw)) : (Target.settled d).IsOwned eligible := by
  refine .settled d hdependent hnot fun o ho => ?_
  rw [howners, ownerReference_withDefaults] at ho
  obtain rfl := List.mem_singleton.1 ho
  exact heligible

theorem isOwned_scalingTarget {version : AutoscalingVersion} {common : CommonSettings}
    {component : String}
    (heligible : ∀ version, eligible (.autoscaler version)
      ⟨(c.withDefaults raw).metadata.ns, (c.withDefaults raw).metadata.anyName⟩
        (ownerReference raw)) :
    (scalingTarget version (c.withDefaults raw) common component).IsOwned eligible := by
  unfold scalingTarget
  cases ha : autoscaler? (c.withDefaults raw) common component with
  | none => exact .absent _ _
  | some a =>
    obtain ⟨scaling, rfl⟩ := exists_of_autoscaler? ha
    cases version <;> exact isOwned_settled rfl (by simp) rfl (heligible _)

variable (heligible : ∀ k key, c.Owns raw k key → eligible k key (ownerReference raw))

include heligible

theorem isOwned_of_identity (hx : x ∈ c.identity (c.withDefaults raw)) : x.IsOwned eligible := by
  have hmeta := metadata_withDefaults raw
  have hns := congrArg Metadata.ns hmeta
  rw [identity_eq] at hx
  have hnamed : (c.common (c.withDefaults raw)).serviceAccountName
      (c.withDefaults raw).metadata.anyName = c.account raw := by rw [hmeta]; rfl
  have hmanages (haccess : x.kind.isAccess = true) : c.ManagesAccess raw := by
    obtain ⟨haccount, hrbac⟩ := isAccess_of_identityTargets hx haccess
    exact ⟨haccount, hrbac⟩
  rcases of_mem_identityTargets hx with rfl | rfl | rfl | rfl | rfl
  · refine .present _ rfl rfl rfl (fun _ => Nat.le_refl 1) (OwnerReference.extends_singleton ?_)
    rw [ownerReference_withDefaults]
    exact heligible _ _ ⟨hns, enabled_of_identityTargets hx, hnamed⟩
  · exact isOwned_settled rfl (by simp) rfl (heligible _ _ ⟨hns, hmanages rfl, hnamed⟩)
  · exact isOwned_settled rfl (by simp) rfl (heligible _ _ ⟨hns, hmanages rfl, hnamed⟩)
  -- what belongs to the whole cluster has no owners
  · exact .settled _ rfl (by simp) fun o ho => absurd ho List.not_mem_nil
  · exact .settled _ rfl (by simp) fun o ho => absurd ho List.not_mem_nil

/-- What a pass works on names the object as its owner, or nobody. -/
theorem isOwned_of_reached (hx : x ∈ c.reached settings (c.withDefaults raw)) :
    x.IsOwned eligible := by
  have hmeta := metadata_withDefaults raw
  have hns := congrArg Metadata.ns hmeta
  have hnamed := congrArg Metadata.anyName hmeta
  have hscaling (version : AutoscalingVersion) :
      eligible (.autoscaler version) ⟨(c.withDefaults raw).metadata.ns,
        (c.withDefaults raw).metadata.anyName⟩ (ownerReference raw) :=
    heligible _ _ ⟨hns, hnamed⟩
  cases c with
  | gateway =>
    have hmesh :
        (Target.settled (GatewayCompile.meshConfiguration (gateway.withDefaults raw))).IsOwned
          eligible :=
      isOwned_settled rfl (by simp) rfl (heligible _ _ ⟨hns, rfl, Or.inl rfl⟩)
    simp only [reached] at hx
    cases hb : GatewayCompile.bootstrap (gateway.withDefaults raw) with
    | ok bootstrap =>
      simp only [hb, gatewayTargets, List.mem_append, List.mem_cons, List.mem_map,
        List.not_mem_nil, or_false, Option.mem_toList] at hx
      rcases hx with hx | rfl | ⟨m, hm, rfl⟩ | rfl | rfl | rfl
      · exact isOwned_of_identity heligible hx
      · exact hmesh
      · subst hm
        have hm := metadata_of_bootstrap hb
        refine isOwned_settled rfl (by simp) ?_ (heligible _ _ ?_)
        · rw [hm]
          rfl
        · unfold Resource.key
          rw [hm]
          exact ⟨hns, rfl, Or.inr rfl⟩
      · exact isOwned_settled rfl (by simp) rfl (heligible _ _ ⟨hns, hnamed⟩)
      · exact isOwned_settled rfl (by simp) rfl (heligible _ _ ⟨hns, hnamed⟩)
      · exact isOwned_scalingTarget hscaling
    | error e =>
      simp only [hb, List.mem_append, List.mem_cons, List.not_mem_nil, or_false] at hx
      rcases hx with hx | rfl
      · exact isOwned_of_identity heligible hx
      · exact hmesh
  | controller =>
    simp only [reached, controllerTargets, List.mem_append, List.mem_cons, List.not_mem_nil,
      or_false] at hx
    rcases hx with hx | rfl | rfl | rfl
    · exact isOwned_of_identity heligible hx
    · exact isOwned_settled rfl (by simp) rfl (heligible _ _ ⟨hns, hnamed⟩)
    · exact isOwned_settled rfl (by simp) rfl (heligible _ _ ⟨hns, hnamed⟩)
    · exact isOwned_scalingTarget hscaling

end Targets

/-! ## Objects that own a place together -/

/-- Objects of one namespace that compile something to the same place and would both own it. -/
inductive Disputes (c₁ : Component) (raw₁ : Resource c₁.kind) (c₂ : Component)
    (raw₂ : Resource c₂.kind) : Prop
  | accounts : raw₁.metadata.ns = raw₂.metadata.ns → c₁.ManagesAccess raw₁ → c₂.ManagesAccess raw₂ →
      c₁.account raw₁ = c₂.account raw₂ → Disputes c₁ raw₁ c₂ raw₂
  | maps : raw₁.metadata.ns = raw₂.metadata.ns → c₁ = .gateway → c₂ = .gateway →
      Disputes c₁ raw₁ c₂ raw₂
  | names : raw₁.metadata.ns = raw₂.metadata.ns → raw₁.metadata.anyName = raw₂.metadata.anyName →
      Disputes c₁ raw₁ c₂ raw₂

/-- A place with two owners is that of a service account, or its owners dispute it. -/
theorem disputes_of_owns (h₁ : c₁.Owns raw₁ k key) (h₂ : c₂.Owns raw₂ k key)
    (hnot : k ≠ .serviceAccount) : Disputes c₁ raw₁ c₂ raw₂ := by
  obtain ⟨hns₁, h₁⟩ := h₁
  obtain ⟨hns₂, h₂⟩ := h₂
  have hns : raw₁.metadata.ns = raw₂.metadata.ns := hns₁.symm.trans hns₂
  cases k with
  | serviceAccount => exact absurd rfl hnot
  | role | roleBinding => exact .accounts hns h₁.1 h₂.1 (h₁.2.symm.trans h₂.2)
  | configMap => exact .maps hns h₁.1 h₂.1
  | deployment | service | autoscaler => exact .names hns (h₁.symm.trans h₂)
  | _ => exact h₁.elim

/-- Places of an object whose owners stay: of each group that is named alike, one. -/
inductive Anchors (c : Component) (raw : Resource c.kind) : Kind → Key → Prop
  | role : c.ManagesAccess raw → Anchors c raw .role ⟨raw.metadata.ns, c.account raw⟩
  | meshConfig : c = .gateway → Anchors c raw .configMap ⟨raw.metadata.ns, meshConfigMap⟩
  | deployment : Anchors c raw .deployment ⟨raw.metadata.ns, raw.metadata.anyName⟩

/-- Objects that dispute each other have such a place in common. -/
theorem Disputes.exists_anchor (h : Disputes c₁ raw₁ c₂ raw₂) :
    ∃ k key, c₁.Anchors raw₁ k key ∧ c₂.Anchors raw₂ k key := by
  cases h with
  | accounts hns h₁ h₂ haccount => exact ⟨_, _, .role h₁, hns ▸ haccount ▸ .role h₂⟩
  | maps hns h₁ h₂ => exact ⟨_, _, .meshConfig h₁, hns ▸ .meshConfig h₂⟩
  | names hns hname => exact ⟨_, _, .deployment, hns ▸ hname ▸ .deployment⟩

theorem Anchors.restated (h : c.Anchors raw k key) (finalizers : Option (List String))
    (version : Option String) (status : c.kind.Content) :
    c.Anchors (raw.restated finalizers version status) k key := by
  cases h with
  | role hmanages =>
    rw [← account_restated raw finalizers version status]
    exact .role (managesAccess_restated.2 hmanages)
  | meshConfig hc => exact .meshConfig hc
  | deployment => exact .deployment

theorem Anchors.isDependent (h : c.Anchors raw k key) :
    k.isDependent = true ∧ k ≠ .definition ∧ ∀ version, k ≠ .autoscaler version := by
  cases h <;> simp [Kind.isDependent]

/-- The configuration of the mesh is the map that every gateway has. -/
theorem meshConfiguration_mem {g : Gateway} {ms : List (Resource .configMap)}
    (h : gateway.configMaps g = .ok ms) : GatewayCompile.meshConfiguration g ∈ ms := by
  simp only [configMaps] at h
  cases hb : GatewayCompile.bootstrap g with
  | error e =>
    rw [hb] at h
    cases h
  | ok bootstrap =>
    rw [hb] at h
    cases h
    exact List.mem_cons_self

theorem hasOwner_of_provides {uid : String} {d : Resource k} (h : s.Provides t uid d)
    (hnamespaced : k.isNamespaced = true) : t.HasOwner k d.key uid := by
  obtain ⟨r, hr, -, howned⟩ := h
  exact ⟨r, hr, howned hnamespaced⟩

/-- After a converged pass the object is among the owners at these places. -/
theorem hasOwner_of_converged (hunheld : s.IsUnheld)
    (hraw : s.find? c.kind (.inNamespace ns name) = some raw) (hanchor : c.Anchors raw k key)
    (h : (c.pass settings (.inNamespace ns name)).run Server.world s = (.ok .converged, t)) :
    t.HasOwner k key (raw.metadata.uid.getD "") := by
  obtain ⟨found, hfound, -, hconverged⟩ :=
    converged_of_pass (Target.local_isReady s) (Target.local_left s) Target.left_of_work
      (fun raw _ x hx => ⟨rfl, fun r hr => (hunheld _ _ r hx.isDependent hr).1⟩) h
  obtain rfl : raw = found := Option.some.inj (hraw.symm.trans hfound)
  obtain ⟨xs, hxs, hleft⟩ := hconverged.compiled
  have hestablished := established_of_left hxs hleft
  have hmeta := metadata_withDefaults raw
  cases hanchor with
  | role hmanages =>
    have howner := hasOwner_of_provides (hestablished.access hmanages.account hmanages.rbac).1 rfl
    cases c <;> exact howner
  | meshConfig hc =>
    subst hc
    obtain ⟨ms, hms, hprovides⟩ := hestablished.configMaps
    exact hasOwner_of_provides (hprovides _ (meshConfiguration_mem hms)) rfl
  | deployment =>
    have howner := hasOwner_of_provides hestablished.deployment rfl
    cases c <;> exact howner

end Component

/-! ## Histories -/

/-- A store of desired states and namespaces: desired states have different uids, and nothing has
more than one controller. -/
structure Server.HoldsDesiredStates (s : Server) : Prop where
  kinds : ∀ (k : Kind) (key : Key) (r : Resource k), s.find? k key = some r →
    k = .namespaceKind ∨ ∃ c : Component, k = c.kind
  uids : ∀ (c₁ c₂ : Component) (key₁ key₂ : Key) (raw₁ : Resource c₁.kind)
    (raw₂ : Resource c₂.kind),
    s.find? c₁.kind key₁ = some raw₁ → s.find? c₂.kind key₂ = some raw₂ →
    raw₁.metadata.uid.getD "" = raw₂.metadata.uid.getD "" → c₁ = c₂ ∧ key₁ = key₂
  controllers : ∀ (k : Kind) (key : Key) (r : Resource k), s.find? k key = some r →
    r.metadata.controllers.length ≤ 1

/-- Settings whose definitions name no controller. -/
def PassSettings.NamesNoController (settings : PassSettings) : Prop :=
  ∀ ds, settings.definitions = some (.ok ds) → ∀ d ∈ ds, d.metadata.controllers = []

/-- One pass of any object, whichever of its calls fail. -/
inductive Server.Passes (s : Server) : Server → Prop
  | pass (c : Component) (settings : PassSettings) (ns name : String) (calls : List StoreCall)
      (res : Except Failure PassEnd) (t : Server) : settings.NamesNoController →
      Runs Server.world (c.pass settings (.inNamespace ns name)) s calls res t → Passes s t

/-- A pass whose calls are all answered is one of the passes. -/
theorem Server.Passes.of_run {s t : Server} {c : Component} {settings : PassSettings}
    {ns name : String} {res : Except Failure PassEnd} (hsettings : settings.NamesNoController)
    (h : (c.pass settings (.inNamespace ns name)).run Server.world s = (res, t)) : s.Passes t := by
  obtain ⟨calls, hruns⟩ := Program.runs_of_run h
  exact .pass c settings ns name calls res t hsettings hruns

/-- Whether a pass of an object converged in a history from one server to another one. -/
def Server.Converges (s t : Server) (c : Component) (ns name : String) : Prop :=
  ∃ (settings : PassSettings) (before after : Server),
    Relation.ReflTransGen Server.Passes s before ∧
    settings.NamesNoController ∧
    (c.pass settings (.inNamespace ns name)).run Server.world before = (.ok .converged, after) ∧
    Relation.ReflTransGen Server.Passes after t

/-- The owners that a place may have, given the store at the start. -/
inductive Server.MayOwn (s₀ : Server) (k : Kind) (key : Key) (o : OwnerReference) : Prop
  /-- who was there at first -/
  | initial (r : Resource k) : s₀.find? k key = some r → o ∈ r.metadata.owners → MayOwn s₀ k key o
  /-- whom a definition names -/
  | installed : k = .definition → o.isController = false → MayOwn s₀ k key o
  /-- who compiles something to this place -/
  | owner (c : Component) (place : Key) (raw : Resource c.kind) : s₀.find? c.kind place = some raw →
      c.Owns raw k key → o = ownerReference raw → MayOwn s₀ k key o

/-- Whether any two objects keep to places of their own. -/
def Server.IsUndisputed (s : Server) : Prop :=
  ∀ (c₁ c₂ : Component) (key₁ key₂ : Key) (raw₁ : Resource c₁.kind) (raw₂ : Resource c₂.kind),
    s.find? c₁.kind key₁ = some raw₁ → s.find? c₂.kind key₂ = some raw₂ →
    Component.Disputes c₁ raw₁ c₂ raw₂ → c₁ = c₂ ∧ key₁ = key₂

namespace Component

variable {c c₁ c₂ : Component} {settings : PassSettings} {raw : Resource c.kind}
  {raw₁ : Resource c₁.kind} {raw₂ : Resource c₂.kind} {s s₀ t : Server} {k : Kind} {key : Key}
  {ns name name₁ name₂ : String} {o : OwnerReference}

theorem not_isDependent_of_initial (hs₀ : s₀.HoldsDesiredStates) {r : Resource k}
    (hr : s₀.find? k key = some r) : k.isDependent = false := by
  rcases hs₀.kinds k key r hr with rfl | ⟨c, rfl⟩
  · rfl
  · exact isDependent_kind_eq_false

theorem isOwned_initial (hs₀ : s₀.HoldsDesiredStates) : s₀.IsOwned s₀.MayOwn s₀ := by
  intro k key r hr
  have hkind := not_isDependent_of_initial hs₀ hr
  refine ⟨fun o ho => .initial r hr ho,
    areApart_of_length_le_one (hs₀.controllers k key r hr), ?_, ?_,
    fun _ => ⟨r, _, _, _, hr, r.eq_restated⟩⟩
  · rintro rfl
    cases hkind
  · intro hdependent
    cases hkind.symm.trans hdependent

theorem isOwned_of_definitionTargets {ds : List Target} (hsettings : settings.NamesNoController)
    (hds : c.definitionTargets settings = .ok ds) : ∀ x ∈ ds, x.IsOwned s₀.MayOwn := by
  intro x hx
  obtain ⟨defs, rfl, rfl | ⟨-, hread⟩⟩ := definitionTargets_eq hds
  · exact absurd hx List.not_mem_nil
  obtain ⟨d, hd, rfl⟩ := List.mem_map.1 hx
  have hnone : d.metadata.controllers = [] := hsettings defs hread d hd
  refine .settled d rfl (by simp) fun o ho =>
    .installed rfl (Bool.eq_false_iff.2 fun hcontroller => ?_)
  have hmem := Metadata.mem_controllers.2 ⟨ho, hcontroller⟩
  rw [hnone] at hmem
  cases hmem

/-- What a pass works on is owned by those who may. -/
theorem isOwnedPass_of_found (hs : s.IsOwned s₀.MayOwn s₀) (hsettings : settings.NamesNoController)
    (hraw : s.find? c.kind key = some raw) : IsOwnedPass s₀.MayOwn c settings raw := by
  refine ⟨fun ds hds => isOwned_of_definitionTargets hsettings hds,
    fun x hx => isOwned_of_reached (fun k place howns => ?_) hx⟩
  -- the object of the pass is one of the objects at first
  obtain ⟨raw₀, _, _, _, hraw₀, rfl⟩ := (hs c.kind key raw hraw).standing isDependent_kind_eq_false
  exact .owner c key raw₀ hraw₀ (owns_restated.1 howns) rfl

/-- One pass. -/
theorem isOwned_of_passes (hs : s.IsOwned s₀.MayOwn s₀) (h : s.Passes t) :
    t.IsOwned s₀.MayOwn s₀ ∧
      ∀ k key uid, k.isDependent = true → (∀ version, k ≠ .autoscaler version) →
        s.HasOwner k key uid → t.HasOwner k key uid := by
  obtain ⟨c, settings, ns, name, calls, res, _, hsettings, hruns⟩ := h
  exact isOwned_of_runs hruns (sparesOwners_of_pass (fun raw hraw =>
    isOwnedPass_of_found hs hsettings hraw) hruns) hs

/-- Any number of passes. -/
theorem isOwned_of_history (hs : s.IsOwned s₀.MayOwn s₀)
    (h : Relation.ReflTransGen Server.Passes s t) :
    t.IsOwned s₀.MayOwn s₀ ∧
      ∀ k key uid, k.isDependent = true → (∀ version, k ≠ .autoscaler version) →
        s.HasOwner k key uid → t.HasOwner k key uid := by
  induction h with
  | refl => exact ⟨hs, fun _ _ _ _ _ howner => howner⟩
  | tail _ hlast ih =>
    obtain ⟨howned, hkept⟩ := ih
    obtain ⟨hnext, hkept'⟩ := isOwned_of_passes howned hlast
    exact ⟨hnext, fun k key uid hdependent hnot howner =>
      hkept' k key uid hdependent hnot (hkept k key uid hdependent hnot howner)⟩

/-! ## Controllers -/

/-- A controller of something that is compiled is an object that owns its place. -/
theorem exists_owner (hs₀ : s₀.HoldsDesiredStates) (hdependent : k.isDependent = true)
    (hcontroller : k = .definition → o.isController = true) (h : s₀.MayOwn k key o) :
    ∃ (c : Component) (place : Key) (raw : Resource c.kind), s₀.find? c.kind place = some raw ∧
      c.Owns raw k key ∧ o = ownerReference raw := by
  cases h with
  | initial r hr ho => cases (not_isDependent_of_initial hs₀ hr).symm.trans hdependent
  | installed hdefinition hnot => cases hnot.symm.trans (hcontroller hdefinition)
  | owner c place raw hraw howns heq => exact ⟨c, place, raw, hraw, howns, heq⟩

/-- Without disputes nothing has two controllers. -/
theorem length_controllers_of_undisputed (hs₀ : s₀.HoldsDesiredStates) (ht : t.IsOwned s₀.MayOwn s₀)
    (hundisputed : s₀.IsUndisputed) {r : Resource k} (hr : t.find? k key = some r) :
    r.metadata.controllers.length ≤ 1 := by
  have howned := ht k key r hr
  cases hdependent : k.isDependent with
  | false =>
    obtain ⟨r₀, _, _, _, hr₀, rfl⟩ := howned.standing hdependent
    exact hs₀.controllers k key r₀ hr₀
  | true =>
    by_cases haccount : k = .serviceAccount
    · exact Nat.le_trans (List.length_filter_le _ _) (howned.account haccount)
    · refine length_controllers_le_one howned.apart fun o ho p hp => ?_
      obtain ⟨ho, hcontrols⟩ := Metadata.mem_controllers.1 ho
      obtain ⟨hp, hcontrols'⟩ := Metadata.mem_controllers.1 hp
      obtain ⟨c₁, key₁, raw₁, h₁, howns₁, rfl⟩ :=
        exists_owner hs₀ hdependent (fun _ => hcontrols) (howned.owners o ho)
      obtain ⟨c₂, key₂, raw₂, h₂, howns₂, rfl⟩ :=
        exists_owner hs₀ hdependent (fun _ => hcontrols') (howned.owners p hp)
      obtain ⟨rfl, rfl⟩ := hundisputed c₁ c₂ key₁ key₂ raw₁ raw₂ h₁ h₂
        (disputes_of_owns howns₁ howns₂ haccount)
      cases h₁.symm.trans h₂
      rfl

/-- An object of which a pass converged is among the owners ever after. -/
theorem hasOwner_of_converges (hs₀ : s₀.HoldsDesiredStates)
    (hraw : s₀.find? c.kind (.inNamespace ns name) = some raw) (hanchor : c.Anchors raw k key)
    (h : s₀.Converges t c ns name) :
    t.IsOwned s₀.MayOwn s₀ ∧ t.HasOwner k key (raw.metadata.uid.getD "") := by
  obtain ⟨settings, before, after, hfront, hsettings, hrun, hback⟩ := h
  obtain ⟨hbefore, -⟩ := isOwned_of_history (isOwned_initial hs₀) hfront
  obtain ⟨hafter, -⟩ := isOwned_of_passes hbefore (.of_run hsettings hrun)
  obtain ⟨ht, hkept⟩ := isOwned_of_history hafter hback
  obtain ⟨hdependent, -, hnot⟩ := hanchor.isDependent
  obtain ⟨found, hfound, -⟩ := settle_of_pass hrun
  obtain ⟨raw₀, _, _, _, hraw₀, rfl⟩ :=
    (hbefore _ _ found hfound).standing isDependent_kind_eq_false
  cases hraw.symm.trans hraw₀
  have howner := hasOwner_of_converged hbefore.isUnheld hfound (hanchor.restated _ _ _) hrun
  exact ⟨ht, hkept k key _ hdependent hnot howner⟩

/-- Objects that dispute each other control something together once a pass of each has converged. -/
theorem two_le_length_of_disputes (hs₀ : s₀.HoldsDesiredStates)
    (h₁ : s₀.find? c₁.kind (.inNamespace ns name₁) = some raw₁)
    (h₂ : s₀.find? c₂.kind (.inNamespace ns name₂) = some raw₂)
    (hdisputes : Disputes c₁ raw₁ c₂ raw₂) (hne : ¬ (c₁ = c₂ ∧ name₁ = name₂))
    (hconverges₁ : s₀.Converges t c₁ ns name₁) (hconverges₂ : s₀.Converges t c₂ ns name₂) :
    ∃ (k : Kind) (key : Key) (r : Resource k), t.find? k key = some r ∧
      2 ≤ r.metadata.controllers.length := by
  obtain ⟨k, key, hanchor₁, hanchor₂⟩ := hdisputes.exists_anchor
  obtain ⟨ht, r, hr, o, ho, huid₁⟩ := hasOwner_of_converges hs₀ h₁ hanchor₁ hconverges₁
  obtain ⟨-, r', hr', p, hp, huid₂⟩ := hasOwner_of_converges hs₀ h₂ hanchor₂ hconverges₂
  obtain rfl : r = r' := Option.some.inj (hr.symm.trans hr')
  obtain ⟨hdependent, hnot, -⟩ := hanchor₁.isDependent
  have hcontrols (o : OwnerReference) (ho : o ∈ r.metadata.owners) :
      o ∈ r.metadata.controllers := by
    obtain ⟨c, key, raw, -, -, rfl⟩ := exists_owner hs₀ hdependent
      (fun hdefinition => absurd hdefinition hnot) ((ht k key r hr).owners o ho)
    exact Metadata.mem_controllers.2 ⟨ho, rfl⟩
  refine ⟨k, key, r, hr, two_le_length_controllers (hcontrols o ho) (hcontrols p hp)
    fun hsame => hne ?_⟩
  rw [huid₁, huid₂] at hsame
  obtain ⟨hc, hkey⟩ := hs₀.uids c₁ c₂ _ _ raw₁ raw₂ h₁ h₂ hsame
  exact ⟨hc, congrArg Key.name hkey⟩

/-- Who controls what after any number of passes: only objects that compile something to a place
control what is there, so nothing has two controllers as long as no two objects dispute a place. Two
that do control something together once a pass of each has converged. -/
theorem controllers_of_history (s₀ t : Server) (hs₀ : s₀.HoldsDesiredStates)
    (h : Relation.ReflTransGen Server.Passes s₀ t) :
    (∀ (k : Kind) (key : Key) (r : Resource k), k.isDependent = true → t.find? k key = some r →
      ∀ o ∈ r.metadata.controllers, ∃ (c : Component) (place : Key) (raw : Resource c.kind),
        s₀.find? c.kind place = some raw ∧ c.Owns raw k key ∧ o = ownerReference raw) ∧
    (s₀.IsUndisputed → ∀ (k : Kind) (key : Key) (r : Resource k), t.find? k key = some r →
      r.metadata.controllers.length ≤ 1) ∧
    ∀ (c₁ c₂ : Component) (ns name₁ name₂ : String) (raw₁ : Resource c₁.kind)
      (raw₂ : Resource c₂.kind), s₀.find? c₁.kind (.inNamespace ns name₁) = some raw₁ →
      s₀.find? c₂.kind (.inNamespace ns name₂) = some raw₂ → Disputes c₁ raw₁ c₂ raw₂ →
      ¬ (c₁ = c₂ ∧ name₁ = name₂) → s₀.Converges t c₁ ns name₁ → s₀.Converges t c₂ ns name₂ →
      ∃ (k : Kind) (key : Key) (r : Resource k), t.find? k key = some r ∧
        2 ≤ r.metadata.controllers.length := by
  obtain ⟨ht, -⟩ := isOwned_of_history (isOwned_initial hs₀) h
  refine ⟨fun k key r hdependent hr o ho => ?_, fun hundisputed k key r hr =>
    length_controllers_of_undisputed hs₀ ht hundisputed hr,
    fun c₁ c₂ ns name₁ name₂ raw₁ raw₂ h₁ h₂ => two_le_length_of_disputes hs₀ h₁ h₂⟩
  obtain ⟨ho, hcontrols⟩ := Metadata.mem_controllers.1 ho
  exact exists_owner hs₀ hdependent (fun _ => hcontrols) ((ht k key r hr).owners o ho)

/-! Two gateways of a namespace write the same map. -/

/-- A gateway with default settings and a uid. -/
def rivalGateway (name uid : String) : Gateway where
  metadata := { name := some name, ns := some "team", uid := some uid }
  content := { spec := {} }

def rivalStore : Server where
  objects := [⟨.namespaceKind, { name := some "team" }, {}⟩,
    ⟨.gateway, rivalGateway "east" "uid-2"⟩, ⟨.gateway, rivalGateway "west" "uid-3"⟩]

theorem holdsDesiredStates_rivalStore : rivalStore.HoldsDesiredStates := by
  have hmem {k : Kind} {key : Key} {r : Resource k} (hr : rivalStore.find? k key = some r) :
      (⟨k, r⟩ : AnyResource) ∈ rivalStore.objects := Server.mem_of_find? hr
  simp only [rivalStore, List.mem_cons, List.not_mem_nil, or_false] at hmem
  have huids {c : Component} {key : Key} {raw : Resource c.kind}
      (hraw : rivalStore.find? c.kind key = some raw) :
      c = gateway ∧ (key = .inNamespace "team" "east" ∧ raw.metadata.uid.getD "" = "uid-2" ∨
        key = .inNamespace "team" "west" ∧ raw.metadata.uid.getD "" = "uid-3") := by
    rw [← Server.key_of_find? hraw]
    have hstored := hmem hraw
    cases c <;> rcases hstored with h | h | h <;> cases h
    · exact ⟨rfl, Or.inl ⟨rfl, rfl⟩⟩
    · exact ⟨rfl, Or.inr ⟨rfl, rfl⟩⟩
  refine ⟨fun k key r hr => ?_, fun c₁ c₂ key₁ key₂ raw₁ raw₂ h₁ h₂ hsame => ?_,
    fun k key r hr => ?_⟩
  · rcases hmem hr with h | h | h <;> cases h
    · exact Or.inl rfl
    · exact Or.inr ⟨gateway, rfl⟩
    · exact Or.inr ⟨gateway, rfl⟩
  · obtain ⟨rfl, ⟨rfl, huid₁⟩ | ⟨rfl, huid₁⟩⟩ := huids h₁ <;>
      obtain ⟨rfl, ⟨rfl, huid₂⟩ | ⟨rfl, huid₂⟩⟩ := huids h₂
    · exact ⟨rfl, rfl⟩
    · exact absurd (huid₁.symm.trans (hsame.trans huid₂)) (by decide)
    · exact absurd (huid₁.symm.trans (hsame.trans huid₂)) (by decide)
    · exact ⟨rfl, rfl⟩
  · rcases hmem hr with h | h | h <;> cases h <;> exact Nat.zero_le 1

theorem controllers_of_rivalStore :
    ∃ s t : Server,
      (gateway.pass {} (.inNamespace "team" "east")).run Server.world rivalStore =
        (.ok .converged, s) ∧
      (gateway.pass {} (.inNamespace "team" "west")).run Server.world s = (.ok .converged, t) ∧
      ∃ (k : Kind) (key : Key) (r : Resource k), t.find? k key = some r ∧
        2 ≤ r.metadata.controllers.length := by
  have hsettings : PassSettings.NamesNoController {} := fun ds hds => by cases hds
  obtain ⟨s, heast⟩ : ∃ s, (gateway.pass {} (.inNamespace "team" "east")).run Server.world
      rivalStore = (.ok .converged, s) :=
    pass_converges rfl rfl rfl rfl rfl (by simp) rfl
  obtain ⟨t, hwest⟩ : ∃ t, (gateway.pass {} (.inNamespace "team" "west")).run Server.world s =
      (.ok .converged, t) :=
    pass_converges_after (by decide) heast rfl rfl rfl rfl rfl (by simp) rfl
  have hfirst : rivalStore.Passes s := .of_run hsettings heast
  have hlast : s.Passes t := .of_run hsettings hwest
  obtain ⟨-, -, htwo⟩ := controllers_of_history rivalStore t holdsDesiredStates_rivalStore
    (.tail (.single hfirst) hlast)
  exact ⟨s, t, heast, hwest, htwo gateway gateway "team" "east" "west" _ _ rfl rfl
    (.maps rfl rfl rfl) (by decide) ⟨{}, rivalStore, s, .refl, hsettings, heast, .single hlast⟩
    ⟨{}, s, t, .single hfirst, hsettings, hwest, .refl⟩⟩

end Component

end GatewayOperator
