import GatewayOperator.Proofs.Reconcile.Neighbour

/-!
# Footprints

The places that a pass may change, whatever it finds there and whichever of its calls fail: the
object itself, what is named after its service account, two maps of its namespace, and what has its
own name. `Footprint` lists them, and `find?_of_pass` says that every run of a pass leaves
everything else as it is.

Two of these places are only written in part. A service account that is there is never changed
(`serviceAccount_of_pass`), and of the object itself only finalizers, version and status change
(`object_of_pass`).
-/

namespace GatewayOperator

open StoreProgram
open Program (Runs asks_bind)

namespace Component

variable {c : Component} {settings : PassSettings} {raw : Resource c.kind} {s t : Server}
  {calls : List StoreCall} {key : Key} {ns name : String}

/-! ## Places of compiled objects -/

/-- The places of what runs a component, in a namespace and under a name. -/
inductive IsWorkload (ns name : String) : Kind → Key → Prop
  | meshConfig : IsWorkload ns name .configMap (.inNamespace ns meshConfigMap)
  | bootstrap : IsWorkload ns name .configMap (.inNamespace ns bootstrapConfigMap)
  | deployment : IsWorkload ns name .deployment (.inNamespace ns name)
  | service : IsWorkload ns name .service (.inNamespace ns name)
  | autoscaler (version : AutoscalingVersion) :
      IsWorkload ns name (.autoscaler version) (.inNamespace ns name)

/-- The places of a service account and of what grants it its access. -/
inductive IsIdentity (ns account : String) : Kind → Key → Prop
  | serviceAccount : IsIdentity ns account .serviceAccount (.inNamespace ns account)
  | role : IsIdentity ns account .role (.inNamespace ns account)
  | clusterRole : IsIdentity ns account .clusterRole (.inCluster account)
  | binding (b : Binding) : IsIdentity ns account b.kind (b.key account ns)

/-- A key that is given by its two parts. -/
theorem eq_inNamespace {place : Key} (hns : place.ns = some ns) (hname : place.name = name) :
    place = .inNamespace ns name := by
  cases place
  exact congrArg₂ Key.mk hns hname

theorem IsWorkload.of_eq {k : Kind} {place other : Key} (h : IsWorkload ns name k place)
    (heq : other = place) : IsWorkload ns name k other := heq ▸ h

theorem IsIdentity.of_eq {account : String} {k : Kind} {place other : Key}
    (h : IsIdentity ns account k place) (heq : other = place) : IsIdentity ns account k other :=
  heq ▸ h

theorem isWorkload_scalingTarget {k : Kind} {version : AutoscalingVersion} {owner : Resource k}
    {common : CommonSettings} {component : String} (hns : owner.metadata.ns = some ns) :
    IsWorkload ns owner.metadata.anyName (scalingTarget version owner common component).kind
      (scalingTarget version owner common component).key := by
  unfold scalingTarget
  cases ha : autoscaler? owner common component with
  | none =>
    have hempty : owner.metadata.nsOrEmpty = ns := Metadata.nsOrEmpty_of_ns hns
    exact (IsWorkload.autoscaler version).of_eq (by rw [Target.key_absent, hempty])
  | some a =>
    obtain ⟨scaling, rfl⟩ := exists_of_autoscaler? ha
    cases version <;> exact (IsWorkload.autoscaler _).of_eq (eq_inNamespace hns rfl)

theorem isIdentity_of_identityTargets {k : Kind} {owner : Resource k} {common : CommonSettings}
    {component : String} {rules : List PolicyRule} {x : Target} (hns : owner.metadata.ns = some ns)
    (hx : x ∈ identityTargets owner common component rules) :
    IsIdentity ns (common.serviceAccountName owner.metadata.anyName) x.kind x.key := by
  rcases of_mem_identityTargets hx with rfl | rfl | rfl | rfl | rfl
  · exact IsIdentity.serviceAccount.of_eq (eq_inNamespace hns rfl)
  · exact IsIdentity.role.of_eq (eq_inNamespace hns rfl)
  · exact (IsIdentity.binding .role).of_eq (eq_inNamespace hns rfl)
  · exact IsIdentity.clusterRole
  · exact IsIdentity.binding .cluster

/-- What a pass works on belongs to the identity of its object or runs the component. -/
theorem isWorkload_of_reached {r : Resource c.kind} {x : Target} (hns : r.metadata.ns = some ns)
    (hx : x ∈ c.reached settings r) :
    x ∈ c.identity r ∨ IsWorkload ns r.metadata.anyName x.kind x.key := by
  cases c with
  | gateway =>
    simp only [reached] at hx
    cases hb : GatewayCompile.bootstrap r with
    | ok bootstrap =>
      simp only [hb, gatewayTargets, List.mem_append, List.mem_cons, List.mem_map,
        List.not_mem_nil, or_false, Option.mem_toList] at hx
      rcases hx with hx | rfl | ⟨m, hm, rfl⟩ | rfl | rfl | rfl
      · exact Or.inl hx
      · exact Or.inr (IsWorkload.meshConfig.of_eq (eq_inNamespace hns rfl))
      · subst hm
        rw [Target.key_settled, key_of_bootstrap hb]
        exact Or.inr (IsWorkload.bootstrap.of_eq (eq_inNamespace hns rfl))
      · exact Or.inr (IsWorkload.deployment.of_eq (eq_inNamespace hns rfl))
      · exact Or.inr (IsWorkload.service.of_eq (eq_inNamespace hns rfl))
      · exact Or.inr (isWorkload_scalingTarget hns)
    | error e =>
      simp only [hb, List.mem_append, List.mem_cons, List.not_mem_nil, or_false] at hx
      rcases hx with hx | rfl
      · exact Or.inl hx
      · exact Or.inr (IsWorkload.meshConfig.of_eq (eq_inNamespace hns rfl))
  | controller =>
    simp only [reached, controllerTargets, List.mem_append, List.mem_cons, List.not_mem_nil,
      or_false] at hx
    rcases hx with hx | rfl | rfl | rfl
    · exact Or.inl hx
    · exact Or.inr (IsWorkload.deployment.of_eq (eq_inNamespace hns rfl))
    · exact Or.inr (IsWorkload.service.of_eq (eq_inNamespace hns rfl))
    · exact Or.inr (isWorkload_scalingTarget hns)

theorem isIdentity_of_identity {x : Target} (hns : raw.metadata.ns = some ns)
    (hx : x ∈ c.identity (c.withDefaults raw)) :
    IsIdentity ns (c.account raw) x.kind x.key := by
  have hdefaults : (c.withDefaults raw).metadata.ns = some ns := by
    rw [metadata_withDefaults]
    exact hns
  unfold account
  rw [← metadata_withDefaults]
  cases c <;> exact isIdentity_of_identityTargets hdefaults hx

/-! ## What a pass asks for -/

/-- The places that a pass of an object may change. -/
inductive Footprint (c : Component) (raw : Resource c.kind) (ns name : String) : Kind → Key → Prop
  /-- the object itself -/
  | object : Footprint c raw ns name c.kind (.inNamespace ns name)
  /-- what is named after the current account -/
  | identity (k : Kind) (place : Key) : IsIdentity ns (c.account raw) k place →
      Footprint c raw ns name k place
  /-- the bindings of the account that was recorded last -/
  | previous (b : Binding) (account : String) : b ∈ c.bindings → raw.boundAccount? = some account →
      Footprint c raw ns name b.kind (b.key account ns)
  /-- what runs the component -/
  | workload (k : Kind) (place : Key) : IsWorkload ns raw.metadata.anyName k place →
      Footprint c raw ns name k place

/-- The places that a pass may change, by the object that it finds; without an object there are
none. -/
def Reach (c : Component) (s : Server) (ns name : String) (k : Kind) (place : Key) : Prop :=
  ∃ raw, s.find? c.kind (.inNamespace ns name) = some raw ∧ Footprint c raw ns name k place

theorem footprint_of_release {p : Binding × String} (hb : p.1 ∈ c.bindings)
    (haccount : c.HasAccount raw p.2) : Footprint c raw ns name p.1.kind (p.1.key p.2 ns) := by
  rcases haccount with heq | hbound
  · rw [heq]
    exact .identity _ _ (.binding p.1)
  · exact .previous p.1 p.2 hb hbound

theorem footprint_of_reached {x : Target} (hns : raw.metadata.ns = some ns)
    (hx : x ∈ c.reached settings (c.withDefaults raw)) :
    Footprint c raw ns name x.kind x.key := by
  rcases isWorkload_of_reached (by rw [metadata_withDefaults]; exact hns) hx with hx | hx
  · exact .identity _ _ (isIdentity_of_identity hns hx)
  · rw [metadata_withDefaults] at hx
    exact .workload _ _ hx

/-- Without definitions there is nothing to install. -/
theorem definitionTargets_of_none (hdefs : settings.definitions = none) :
    c.definitionTargets settings = .ok [] := by
  obtain ⟨version, definitions⟩ := settings
  obtain rfl : definitions = none := hdefs
  cases c <;> rfl

theorem install_of_none (hdefs : settings.definitions = none) : c.install settings = pure () := by
  rw [install_eq, definitionTargets_of_none hdefs]
  rfl

/-- Every call of a pass for its object is in its footprint. -/
theorem IsPassCall.footprint {q : StoreCall} (h : c.IsPassCall settings key raw q)
    (hdefs : settings.definitions = none) (hkey : raw.key = .inNamespace ns name)
    (hns : raw.metadata.ns = some ns) : Footprint c raw ns name q.request.kind q.request.key := by
  have hobject {r : Resource c.kind} (hr : r.key = raw.key) :
      Footprint c raw ns name c.kind r.key := by
    rw [hr, hkey]
    exact .object
  cases h with
  | adds _ _ hrequest =>
    rw [hrequest]
    exact hobject rfl
  | installs ds x hds hx =>
    cases (definitionTargets_of_none hdefs).symm.trans hds
    cases hx
  | releases b account r hb _ _ hgives hmakes =>
    obtain ⟨s, calls, res, t, hruns, hq⟩ := hmakes
    rw [Metadata.nsOrEmpty_of_ns hns] at hruns
    obtain ⟨hkind, hplace⟩ := (Binding.runs_release hruns).place q hq
    rw [hkind, hplace]
    exact footprint_of_release (p := (b, account)) hb hgives.hasAccount
  | works x hx hmakes =>
    obtain ⟨hkind, hplace⟩ := hmakes.asks x.asks_work
    rw [hkind, hplace]
    exact footprint_of_reached hns hx
  | reports r hr hrequest =>
    rw [hrequest]
    exact hobject hr
  | removes _ _ hrequest =>
    rw [hrequest]
    exact hobject rfl

/-! ## What a pass leaves alone -/

/-- A run whose writes are about other places leaves a place as it is. -/
theorem find?_of_writes {α : Type} {p : StoreProgram α} {res : Except Failure α}
    (h : Runs Server.world p s calls res t) {k : Kind} {place : Key}
    (hplace : ∀ q ∈ calls, q.request.isWrite = true → ¬ StoreRequest.isAbout k place q.request) :
    t.find? k place = s.find? k place := by
  refine (h.keeps (fun u => u.find? k place = s.find? k place) rfl fun q hq hserved hbefore => ?_).2
  refine Eq.trans ?_ hbefore
  cases hwrite : q.request.isWrite with
  | true => exact StoreCall.find?_of_isServed hserved (hplace q hq hwrite)
  | false => rw [StoreCall.after_of_read hserved hwrite]

/-- A pass leaves everything out of its reach as it is. -/
theorem find?_of_pass {res : Except Failure PassEnd} (hdefs : settings.definitions = none)
    (h : Runs Server.world (c.pass settings (.inNamespace ns name)) s calls res t) {k : Kind}
    {place : Key} (hplace : ¬ c.Reach s ns name k place) : t.find? k place = s.find? k place := by
  refine find?_of_writes h fun q hq hwrite habout => hplace ?_
  rcases calls_of_pass h q hq with ⟨j, other, hread⟩ | ⟨raw, hraw, hcall⟩
  · rw [hread] at hwrite
    cases hwrite
  · obtain ⟨rfl, rfl⟩ := habout
    exact ⟨raw, hraw, hcall.footprint hdefs (Server.key_of_find? hraw) (Server.ns_of_find? hraw)⟩

/-! ## Service accounts -/

theorem kind_ne_serviceAccount : c.kind ≠ .serviceAccount := by
  cases c <;> simp

/-- The only target that is a service account is to be present. -/
theorem serviceAccount_of_reached {r : Resource c.kind} {x : Target} (hx : x ∈ c.reached settings r)
    (hns : r.metadata.ns = some ns) (hkind : x.kind = .serviceAccount) :
    ∃ account : Resource .serviceAccount, x = .present account := by
  rcases isWorkload_of_reached hns hx with hx | hx
  · have hidentity : ∀ {k : Kind} {owner : Resource k} {common : CommonSettings}
        {component : String} {rules : List PolicyRule},
        x ∈ identityTargets owner common component rules →
        ∃ account : Resource .serviceAccount, x = .present account := by
      intro k owner common component rules hx
      rcases of_mem_identityTargets hx with rfl | rfl | rfl | rfl | rfl
      · exact ⟨_, rfl⟩
      · cases hkind
      · cases hkind
      · cases hkind
      · cases hkind
    cases c <;> exact hidentity hx
  · rw [hkind] at hx
    cases hx

/-- What a pass writes to service accounts are creations. -/
theorem IsPassCall.creates_account {q : StoreCall} (h : c.IsPassCall settings key raw q)
    (hns : raw.metadata.ns = some ns) (hkind : q.request.kind = .serviceAccount)
    (hwrite : q.request.isWrite = true) : ∃ r, q.request = .create .serviceAccount r := by
  obtain ⟨x, hx, hx', hmakes⟩ :=
    h.exists_works (hkind ▸ kind_ne_serviceAccount.symm) (by simp [hkind])
    fun b => by cases b <;> simp [hkind]
  obtain ⟨r, rfl⟩ :=
    serviceAccount_of_reached hx (by rw [metadata_withDefaults]; exact hns) (hx'.trans hkind)
  have hasks : (Target.present r).work.Asks
      fun q : StoreRequest => q.isWrite = true → q = .create .serviceAccount r :=
    asks_bind (asks_createIfAbsent_of (fun hread => by cases hread) fun _ => rfl) fun _ => trivial
  exact ⟨r, hmakes.asks hasks hwrite⟩

/-- A pass leaves every service account that is there as it is. -/
theorem serviceAccount_of_pass {res : Except Failure PassEnd}
    (h : Runs Server.world (c.pass settings (.inNamespace ns name)) s calls res t) {place : Key}
    {r : Resource .serviceAccount} (hr : s.find? .serviceAccount place = some r) :
    t.find? .serviceAccount place = some r := by
  refine (h.keeps (fun u => u.find? .serviceAccount place = some r) hr
    fun q hq hserved hbefore => ?_).2
  cases hwrite : q.request.isWrite with
  | false => rw [StoreCall.after_of_read hserved hwrite, hbefore]
  | true =>
    by_cases hkind : q.request.kind = .serviceAccount
    · rcases calls_of_pass h q hq with ⟨k, other, hread⟩ | ⟨raw, hraw, hcall⟩
      · rw [hread] at hwrite
        cases hwrite
      · obtain ⟨written, hcreate⟩ := hcall.creates_account (Server.ns_of_find? hraw) hkind hwrite
        exact StoreCall.find?_of_create hserved hcreate hbefore
    · exact (StoreCall.find?_of_isServed hserved fun habout => hkind habout.1).trans hbefore

/-! ## The object -/

/-- An object of a pass: as the pass found it, but for finalizers, version and status, or gone with
its last finalizer. -/
def IsKept (c : Component) (raw : Resource c.kind) (found : Option (Resource c.kind)) : Prop :=
  (∃ finalizers version status, found = some (raw.restated finalizers version status)) ∨
    found = none ∧ raw.metadata.isBeingDeleted = true ∧
      raw.metadata.hasFinalizer c.finalizer = true ∧
      (raw.metadata.removeFinalizer c.finalizer).hasFinalizers = false

/-- What an update without the finalizer stores. -/
theorem merged_removal (finalizers : Option (List String)) (version : Option String)
    (status : c.kind.Content) :
    Server.merged (raw.withMetadata fun m => m.removeFinalizer c.finalizer)
        (raw.restated finalizers version status) =
      raw.restated (raw.metadata.removeFinalizer c.finalizer).finalizers
        raw.metadata.resourceVersion status := by
  have hmark :
      (raw.withMetadata fun m => m.removeFinalizer c.finalizer).metadata.deletionTimestamp =
        (raw.restated finalizers version status).metadata.deletionTimestamp := rfl
  rw [Server.merged_of_mark hmark]
  cases c <;> rfl

/-- The removal of the finalizer takes nothing else from the object. -/
theorem isKept_of_removal {q : StoreCall} (hserved : q.IsServed Server.world)
    (hfinalizer : raw.metadata.hasFinalizer c.finalizer = true)
    (hrequest : q.request = c.removal raw) (hbefore : c.IsKept raw (q.before.find? c.kind key)) :
    c.IsKept raw (q.after.find? c.kind key) := by
  -- what the update stores is what was there, without the finalizer
  have hmerged {r stored : Resource c.kind} (hupdate : q.request = .update c.kind r)
      (hstored : q.before.find? c.kind key = some stored) :
      ∃ status, Server.merged r stored =
        raw.restated (raw.metadata.removeFinalizer c.finalizer).finalizers
          raw.metadata.resourceVersion status := by
    rw [hrequest] at hupdate
    obtain rfl := StoreRequest.eq_of_update hupdate
    rw [hstored] at hbefore
    rcases hbefore with ⟨finalizers, version, status, heq⟩ | ⟨hgone, -⟩
    · obtain rfl := Option.some.inj heq
      exact ⟨status, merged_removal finalizers version status⟩
    · cases hgone
  have hleaves := StoreCall.leaves_of_isServed hserved c.kind key
  generalize q.after.find? c.kind key = found at hleaves
  cases hleaves with
  | same => exact hbefore
  | released r stored hupdate hkey hstored hreleased =>
    obtain ⟨status, heq⟩ := hmerged hupdate hstored
    rw [heq, Server.isReleased, Bool.and_eq_true, Bool.not_eq_true'] at hreleased
    exact Or.inr ⟨rfl, hreleased.1, hfinalizer, hreleased.2⟩
  | updated r stored version hupdate hkey hstored =>
    obtain ⟨status, heq⟩ := hmerged hupdate hstored
    rw [heq]
    exact Or.inl ⟨_, some (toString version), status, rfl⟩
  | deleted stored hdelete => rw [hrequest] at hdelete; cases hdelete
  | created r version uid hcreate => rw [hrequest] at hcreate; cases hcreate
  | reported r stored version hstatus => rw [hrequest] at hstatus; cases hstatus
  | marked stored version clock hdelete => rw [hrequest] at hdelete; cases hdelete

/-- Of its own object a pass changes finalizers, version and status, and it takes the object away
only with the last finalizer. -/
theorem object_of_pass {res : Except Failure PassEnd} (hraw : s.find? c.kind key = some raw)
    (h : Runs Server.world (c.pass settings key) s calls res t) :
    c.IsKept raw (t.find? c.kind key) := by
  have hsame : c.IsKept raw (s.find? c.kind key) :=
    Or.inl ⟨_, _, raw.content, by rw [hraw, ← raw.eq_restated]⟩
  cases isPassRun_of_pass h with
  | idle _ hidle => exact hidle ▸ hsame
  | settle raw' _ _ _ hraw' hstays _ _ _ hsettle =>
    obtain rfl := Option.some.inj (hraw.symm.trans hraw')
    obtain ⟨finalizers, version, status, -, hheld⟩ := holdsObject_of_settle hraw hstays hsettle
    exact Or.inl ⟨finalizers, version, status, hheld⟩
  | teardown raw' _ _ _ hraw' _ hfinalizer _ _ hteardown =>
    obtain rfl := Option.some.inj (hraw.symm.trans hraw')
    rw [teardown_eq] at hteardown
    rcases hteardown.of_bind with ⟨e, -, hrelease⟩ | ⟨front, back, _, u, -, hrelease, hremove⟩
    · rw [(find?_object_releaseAll hrelease).2]
      exact hsame
    · rw [← (find?_object_releaseAll hrelease).2] at hsame
      refine (hremove.keeps (fun v => c.IsKept raw (v.find? c.kind key)) hsame
        fun p hp hserved hbefore => isKept_of_removal hserved hfinalizer ?_ hbefore).2
      rcases runs_removeFinalizer hremove with rfl | ⟨p', rfl, hrequest, -⟩
      · cases hp
      · rw [List.mem_singleton.1 hp, hrequest]

end Component

end GatewayOperator
