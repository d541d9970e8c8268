import GatewayOperator.Proofs.Reconcile.Target
import GatewayOperator.Reconcile.Pass

/-!
# The two components

Gateways and controllers have passes of one form. A `Component` names what differs between them, and
`pass_eq` shows the form: a pass reads its object, then tears it down if it is being deleted, and
settles it if its namespace is active. Everything that is proved of passes is proved from `pass_eq`,
for both kinds at once.

`converge_eq` and `install_eq` write the body of a pass as lists of targets.
-/

namespace GatewayOperator

open StoreProgram

/-- The kinds of desired states. -/
inductive Component where
  | gateway
  | controller
  deriving DecidableEq, Repr

namespace Component

/-- The kind of the component's objects. -/
abbrev kind : Component → Kind
  | .gateway => .gateway
  | .controller => .controller

/-- The finalizer that holds back the deletion of the component's objects. -/
def finalizer : Component → String
  | .gateway => gatewayFinalizer
  | .controller => controllerFinalizer

/-- Whether the binding of the namespace is released together with the one of the cluster. -/
def releasesRoleBinding : Component → Bool
  | .gateway => false
  | .controller => true

/-- An object with its settings filled in. -/
def withDefaults : (c : Component) → Resource c.kind → Resource c.kind
  | .gateway, g => g.gatewayWithDefaults
  | .controller, r => r.controllerWithDefaults

/-- The settings that both kinds share. -/
def common : (c : Component) → Resource c.kind → CommonSettings
  | .gateway, g => g.content.spec.common
  | .controller, r => r.content.spec.common

/-- The service account of an object, its settings filled in. -/
def account (c : Component) (raw : Resource c.kind) : String :=
  (c.common (c.withDefaults raw)).serviceAccountName raw.metadata.anyName

/-- One pass of the component's object at a key. -/
def pass : (c : Component) → PassSettings → Key → StoreProgram PassEnd
  | .gateway => gatewayPass
  | .controller => controllerPass

/-- What is installed before anything else: a controller's definitions. -/
def install : Component → PassSettings → StoreProgram Unit
  | .gateway, _ => pure ()
  | .controller, settings => installDefinitions settings

/-- Everything that belongs to an object whose settings are filled in. -/
def converge : (c : Component) → PassSettings → Resource c.kind → StoreProgram Unit
  | .gateway => convergeGateway
  | .controller => convergeController

/-! ## The form of a pass -/

/-- Take a service account out of the bindings that are named after it. -/
def release (c : Component) (account ns : String) : StoreProgram Unit := do
  releaseClusterBinding account ns
  if c.releasesRoleBinding then releaseRoleBinding account ns else pure ()

/-- What a pass does to an object that is being deleted and carries the finalizer. -/
def teardown (c : Component) (raw : Resource c.kind) : StoreProgram Unit := do
  c.release (c.account raw) raw.metadata.nsOrEmpty
  releasePrevious raw (c.account raw) raw.metadata.nsOrEmpty c.releasesRoleBinding
  removeFinalizer raw c.finalizer

/-- What a pass does to an object in an active namespace. -/
def settle (c : Component) (settings : PassSettings) (raw : Resource c.kind) :
    StoreProgram Unit := do
  let stored ← addFinalizer raw c.finalizer
  c.install settings
  releasePrevious (stored.getD raw) (c.account raw) raw.metadata.nsOrEmpty c.releasesRoleBinding
  c.converge settings (c.withDefaults raw)
  recordStatus (stored.getD raw) (c.account raw)

/-- What a pass does to an object that is being deleted. -/
def finish (c : Component) (raw : Resource c.kind) : StoreProgram PassEnd := do
  if raw.metadata.hasFinalizer c.finalizer then
    c.teardown raw
  pure .finalized

/-- What a pass does to an object that is to stay. -/
def proceed (c : Component) (settings : PassSettings) (raw : Resource c.kind) :
    StoreProgram PassEnd := do
  if !(← namespaceActive raw.metadata.nsOrEmpty) then pure .namespaceInactive
  else
    c.settle settings raw
    pure .converged

/-- What a pass does with what it found at its key. -/
def handle (c : Component) (settings : PassSettings) :
    Option (Resource c.kind) → StoreProgram PassEnd
  | none => pure .notFound
  | some raw => if raw.metadata.isBeingDeleted then c.finish raw else c.proceed settings raw

/-- The one form of both passes. -/
theorem pass_eq (c : Component) (settings : PassSettings) (key : Key) :
    c.pass settings key = get c.kind key >>= c.handle settings := by
  cases c with
  | gateway =>
    refine congrArg (Program.bind (get .gateway key)) (funext fun found => ?_)
    cases found with
    | none => rfl
    | some raw =>
      simp only [handle, finish, proceed, teardown, settle, release, releasesRoleBinding, install,
        Program.bind_eq, Program.bind_assoc, Program.pure_bind, Bool.false_eq_true, if_false]
      rfl
  | controller =>
    refine congrArg (Program.bind (get .controller key)) (funext fun found => ?_)
    cases found with
    | none => rfl
    | some raw =>
      simp only [handle, finish, proceed, teardown, settle, release, releasesRoleBinding, install,
        Program.bind_eq, Program.bind_assoc, if_true]
      rfl

/-- The account that was bound last is released if it is another one. -/
theorem releasePrevious_eq (c : Component) (raw : Resource c.kind) (account ns : String) :
    releasePrevious raw account ns c.releasesRoleBinding =
      match raw.boundAccount? with
      | none => pure ()
      | some before => if before = account then pure () else c.release before ns := rfl

/-! ## Targets -/

/-- The service account of a component and the objects that grant it its access. -/
def identityTargets {k : Kind} (owner : Resource k) (s : CommonSettings) (component : String)
    (rules : List PolicyRule) : List Target :=
  let account := s.serviceAccountName owner.metadata.anyName
  let access := compileAccess owner account component rules
  if s.serviceAccountEnabled then
    .present (compileServiceAccount owner account component s.serviceAccountAnnotations) ::
      (if s.rbacEnabled then
        [.settled access.role, .settled access.roleBinding, .settled access.clusterRole,
          .settled access.clusterRoleBinding]
      else [])
  else []

/-- The autoscaler that a component asks for. -/
def autoscaler? {k : Kind} (owner : Resource k) (s : CommonSettings) (component : String) :
    Option (Resource (.autoscaler .v2)) :=
  match s.autoScaling with
  | some a =>
    if a.enable then some (compileAutoscaler owner owner.metadata.anyName component a) else none
  | none => none

/-- The autoscaler in the served version, or its absence. -/
def scalingTarget {k : Kind} (version : AutoscalingVersion) (owner : Resource k)
    (s : CommonSettings) (component : String) : Target :=
  match autoscaler? owner s component, version with
  | none, version =>
    .absent (.autoscaler version) (.inNamespace owner.metadata.nsOrEmpty owner.metadata.anyName)
  | some a, .v2 => .settled a
  | some a, .v2beta2 => .settled (toV2beta2 a)
  | some a, .v2beta1 => .settled (toV2beta1 a)

/-- The definitions that are installed first. -/
def definitionTargets : Component → PassSettings → Except Failure (List Target)
  | .gateway, _ => .ok []
  | .controller, settings => (settings.definitions.getD (.ok [])).map fun ds => ds.map .settled

/-- Everything that is compiled from a gateway, in the order of the pass. -/
def gatewayTargets (settings : PassSettings) (g : Gateway)
    (bootstrap : Option (Resource .configMap)) : List Target :=
  identityTargets g g.content.spec.common gatewayComponent gatewayRules ++
    .settled (GatewayCompile.meshConfiguration g) :: (bootstrap.toList.map .settled ++
      [.settled (GatewayCompile.deployment g), .settled (GatewayCompile.service g),
        scalingTarget settings.version g g.content.spec.common gatewayComponent])

/-- Everything that is compiled from a controller, in the order of the pass. -/
def controllerTargets (settings : PassSettings) (r : Controller) : List Target :=
  identityTargets r r.content.spec.common controllerComponent controllerRules ++
    [.settled (ControllerCompile.deployment r), .settled (ControllerCompile.service r),
      scalingTarget settings.version r r.content.spec.common controllerComponent]

/-- Everything that is compiled from an object whose settings are filled in, if it can be
compiled. -/
def targets : (c : Component) → PassSettings → Resource c.kind → Except Failure (List Target)
  | .gateway, settings, g => (GatewayCompile.bootstrap g).map (gatewayTargets settings g)
  | .controller, settings, r => .ok (controllerTargets settings r)

/-- What a pass works on: everything that is compiled, or where that fails, what comes before the
failure. -/
def reached : (c : Component) → PassSettings → Resource c.kind → List Target
  | .gateway, settings, g =>
    match GatewayCompile.bootstrap g with
    | .ok bootstrap => gatewayTargets settings g bootstrap
    | .error _ =>
      identityTargets g g.content.spec.common gatewayComponent gatewayRules ++
        [.settled (GatewayCompile.meshConfiguration g)]
  | .controller, settings, r => controllerTargets settings r

/-- What can be compiled is reached. -/
theorem reached_of_targets {c : Component} {settings : PassSettings} {r : Resource c.kind}
    {xs : List Target} (h : c.targets settings r = .ok xs) : c.reached settings r = xs := by
  cases c with
  | gateway =>
    have htargets : (GatewayCompile.bootstrap r).map (gatewayTargets settings r) = .ok xs := h
    cases hb : GatewayCompile.bootstrap r with
    | error e =>
      rw [hb] at htargets
      cases htargets
    | ok bootstrap =>
      rw [hb] at htargets
      simp only [reached, hb]
      exact Except.ok.inj htargets
  | controller => exact Except.ok.inj h

theorem ensureIdentity_eq {k : Kind} (owner : Resource k) (s : CommonSettings) (component : String)
    (rules : List PolicyRule) :
    ensureIdentity owner s component rules =
      Target.workAll (identityTargets owner s component rules) := by
  unfold ensureIdentity identityTargets
  cases s.serviceAccountEnabled with
  | false => rfl
  | true =>
    cases s.rbacEnabled <;>
      simp only [Target.workAll, Target.work, Program.bind_eq, Program.bind_assoc,
        Program.pure_bind, Bool.not_true, Bool.not_false, Bool.false_eq_true, if_false, if_true]

theorem ensureScaling_eq {k : Kind} (version : AutoscalingVersion) (owner : Resource k)
    (s : CommonSettings) (component : String) :
    ensureScaling version owner s component = (scalingTarget version owner s component).work := by
  show (ensureAutoscaler version _ (autoscaler? owner s component)).bind (fun _ => pure ()) = _
  unfold ensureAutoscaler scalingTarget
  cases autoscaler? owner s component with
  | none =>
    simp only [Target.work, Program.bind_eq, Program.bind_assoc, Program.pure_bind]
    exact Program.bind_unit _
  | some a =>
    cases version <;>
      simp only [Target.work, Program.bind_eq, Program.bind_assoc, Program.pure_bind]

theorem ensureDefinitions_eq (ds : List (Resource .definition)) :
    ((ensureDefinitions ds).bind fun _ => pure ()) = Target.workAll (ds.map .settled) := by
  induction ds with
  | nil => rfl
  | cons d ds ih =>
    simp only [List.map_cons, Target.workAll, Target.work, ensureDefinitions, Program.bind_eq,
      Program.bind_assoc, Program.pure_bind, ← ih]

/-- The installation works on the definitions, if they could be read. -/
theorem install_eq (c : Component) (settings : PassSettings) :
    c.install settings =
      (StoreProgram.ofExcept (c.definitionTargets settings)).bind Target.workAll := by
  cases c with
  | gateway => rfl
  | controller =>
    obtain ⟨version, definitions⟩ := settings
    cases definitions with
    | none => rfl
    | some definitions =>
      cases definitions with
      | error e => rfl
      | ok ds => exact ensureDefinitions_eq ds

theorem convergeGateway_eq (settings : PassSettings) (g : Gateway) :
    convergeGateway settings g =
      (Target.workAll (gateway.reached settings g)).bind fun _ =>
        StoreProgram.ofExcept ((GatewayCompile.bootstrap g).map fun _ => ()) := by
  unfold convergeGateway reached gatewayTargets
  dsimp only
  cases GatewayCompile.bootstrap g with
  | error e =>
    -- the mesh configuration comes before the bootstrap and is written all the same
    rw [Target.workAll_append, ensureIdentity_eq]
    simp only [Target.workAll_cons, Target.workAll_nil, Target.work_settled, Program.bind_eq,
      Program.bind_assoc, Program.pure_bind]
    rfl
  | ok bootstrap =>
    refine Eq.trans ?_ (Program.bind_unit _).symm
    dsimp only
    rw [Target.workAll_append, ensureIdentity_eq, ensureScaling_eq]
    cases bootstrap with
    | none =>
      simp only [Option.toList_none, List.map_nil, List.nil_append, Target.workAll_cons,
        Target.workAll_nil, Target.work_settled, Program.bind_eq, Program.bind_assoc,
        Program.pure_bind, Program.bind_unit]
      rfl
    | some m =>
      simp only [Option.toList_some, List.map_cons, List.map_nil, List.cons_append, List.nil_append,
        Target.workAll_cons, Target.workAll_nil, Target.work_settled, Program.bind_eq,
        Program.bind_assoc, Program.pure_bind, Program.bind_unit]
      rfl

theorem convergeController_eq (settings : PassSettings) (r : Controller) :
    convergeController settings r = Target.workAll (controllerTargets settings r) := by
  unfold convergeController controllerTargets
  dsimp only
  rw [Target.workAll_append, ensureIdentity_eq, ensureScaling_eq]
  simp only [Target.workAll_cons, Target.workAll_nil, Target.work_settled, Program.bind_eq,
    Program.bind_assoc, Program.pure_bind, Program.bind_unit]

/-- A gateway is compiled together with its bootstrap. -/
theorem exists_of_gatewayTargets {settings : PassSettings} {g : Gateway} {xs : List Target}
    (h : Component.gateway.targets settings g = .ok xs) :
    ∃ bootstrap, GatewayCompile.bootstrap g = .ok bootstrap ∧
      xs = gatewayTargets settings g bootstrap := by
  have htargets : (GatewayCompile.bootstrap g).map (gatewayTargets settings g) = .ok xs := h
  cases hb : GatewayCompile.bootstrap g with
  | error e =>
    rw [hb] at htargets
    cases htargets
  | ok bootstrap =>
    rw [hb] at htargets
    cases htargets
    exact ⟨bootstrap, rfl, rfl⟩

/-- The body of a pass works on what it reaches, and fails there if not everything could be
compiled. -/
theorem converge_eq (c : Component) (settings : PassSettings) (r : Resource c.kind) :
    c.converge settings r =
      (Target.workAll (c.reached settings r)).bind fun _ =>
        StoreProgram.ofExcept ((c.targets settings r).map fun _ => ()) := by
  cases c with
  | gateway =>
    refine (convergeGateway_eq settings r).trans ?_
    simp only [targets]
    cases GatewayCompile.bootstrap r <;> rfl
  | controller =>
    exact (convergeController_eq settings r).trans (Program.bind_unit _).symm

/-- The body of a pass works on the compiled objects, if they could be compiled. -/
theorem converge_of_targets {c : Component} {settings : PassSettings} {r : Resource c.kind}
    {xs : List Target} (h : c.targets settings r = .ok xs) :
    c.converge settings r = Target.workAll xs := by
  rw [converge_eq, reached_of_targets h, h]
  exact Program.bind_unit _

/-- What cannot be compiled does not converge. -/
theorem targets_of_converge_ok {c : Component} {settings : PassSettings} {r : Resource c.kind}
    {s t : Server} (h : (c.converge settings r).run Server.world s = (.ok (), t)) :
    ∃ xs, c.targets settings r = .ok xs := by
  rw [converge_eq] at h
  obtain ⟨_, u, -, hend⟩ := Program.run_bind_ok.1 h
  cases htargets : c.targets settings r with
  | ok xs => exact ⟨xs, rfl⟩
  | error e =>
    rw [htargets] at hend
    cases hend

/-! ## Places of targets -/

/-- An autoscaler that is asked for is compiled. -/
theorem exists_of_autoscaler? {k : Kind} {owner : Resource k} {common : CommonSettings}
    {component : String}
    {a : Resource (.autoscaler .v2)} (h : autoscaler? owner common component = some a) :
    ∃ scaling, a = compileAutoscaler owner owner.metadata.anyName component scaling := by
  unfold autoscaler? at h
  split at h
  · rename_i scaling _
    split at h
    · exact ⟨scaling, (Option.some.inj h).symm⟩
    · cases h
  · cases h

theorem kind_scalingTarget {k : Kind} (version : AutoscalingVersion) (owner : Resource k)
    (s : CommonSettings) (component : String) :
    (scalingTarget version owner s component).kind = .autoscaler version := by
  unfold scalingTarget
  cases autoscaler? owner s component with
  | none => rfl
  | some a => cases version <;> rfl

/-- The bootstrap of a gateway is in a map of its own name. -/
theorem metadata_of_bootstrap {g : Gateway} {m : Resource .configMap}
    (h : GatewayCompile.bootstrap g = .ok (some m)) :
    m.metadata = ownedMetadata g bootstrapConfigMap (standardLabels g gatewayComponent) := by
  unfold GatewayCompile.bootstrap at h
  split at h
  · cases h
  split at h
  · cases h
  split at h
  · cases h
  · cases h
    rfl

theorem key_of_bootstrap {g : Gateway} {m : Resource .configMap}
    (h : GatewayCompile.bootstrap g = .ok (some m)) :
    m.key = ⟨g.metadata.ns, bootstrapConfigMap⟩ := by
  unfold Resource.key
  rw [metadata_of_bootstrap h]
  rfl

theorem gatewayTargets_apart (settings : PassSettings) (g : Gateway)
    {bootstrap : Option (Resource .configMap)} (h : GatewayCompile.bootstrap g = .ok bootstrap) :
    (gatewayTargets settings g bootstrap).Pairwise Target.Apart := by
  have hscaling := kind_scalingTarget settings.version g g.content.spec.common gatewayComponent
  -- the two maps are the only targets of one kind
  have hmaps : ∀ m, bootstrap = some m → (GatewayCompile.meshConfiguration g).key ≠ m.key := by
    rintro m rfl hkey
    rw [key_of_bootstrap h] at hkey
    have hname : meshConfigMap = bootstrapConfigMap := congrArg Key.name hkey
    exact absurd hname (by decide)
  unfold gatewayTargets identityTargets
  -- all other targets differ in kind, whichever of them there are
  cases g.content.spec.common.serviceAccountEnabled <;> cases g.content.spec.common.rbacEnabled <;>
    cases bootstrap <;>
    simp [Target.Apart, hscaling, hmaps]

theorem controllerTargets_apart (settings : PassSettings) (r : Controller) :
    (controllerTargets settings r).Pairwise Target.Apart := by
  have hscaling := kind_scalingTarget settings.version r r.content.spec.common controllerComponent
  unfold controllerTargets identityTargets
  cases r.content.spec.common.serviceAccountEnabled <;> cases r.content.spec.common.rbacEnabled <;>
    simp [Target.Apart, hscaling]

/-! ## What is compiled -/

/-- What every compiled target satisfies. -/
structure IsCompiled (x : Target) : Prop where
  dependent : x.kind.isDependent = true
  /-- definitions are read and not compiled -/
  notDefinition : x.kind ≠ .definition
  placed : x.HasPlace
  ports : x.HasUniquePorts

/-- What may be among the targets of an identity. -/
theorem of_mem_identityTargets {k : Kind} {owner : Resource k} {s : CommonSettings}
    {component : String} {rules : List PolicyRule} {x : Target}
    (h : x ∈ identityTargets owner s component rules) :
    let account := s.serviceAccountName owner.metadata.anyName
    let access := compileAccess owner account component rules
    x = .present (compileServiceAccount owner account component s.serviceAccountAnnotations) ∨
      x = .settled access.role ∨ x = .settled access.roleBinding ∨ x = .settled access.clusterRole ∨
      x = .settled access.clusterRoleBinding := by
  unfold identityTargets at h
  dsimp only at h
  split at h
  · split at h
    · simpa using h
    · exact Or.inl (by simpa using h)
  · cases h

/-- Without a service account there is no identity. -/
theorem enabled_of_identityTargets {k : Kind} {owner : Resource k} {s : CommonSettings}
    {component : String} {rules : List PolicyRule} {x : Target}
    (h : x ∈ identityTargets owner s component rules) : s.serviceAccountEnabled = true := by
  unfold identityTargets at h
  dsimp only at h
  split at h
  · assumption
  · cases h

theorem isCompiled_identity {k : Kind} (owner : Resource k) (s : CommonSettings)
    (component : String) (rules : List PolicyRule) :
    ∀ x ∈ identityTargets owner s component rules, IsCompiled x := by
  intro x hx
  rcases of_mem_identityTargets hx with rfl | rfl | rfl | rfl | rfl
  · exact ⟨rfl, by simp, Or.inl rfl, trivial⟩
  · exact ⟨rfl, by simp, Or.inl rfl, trivial⟩
  · exact ⟨rfl, by simp, Or.inl rfl, trivial⟩
  · exact ⟨rfl, by simp, Or.inr rfl, trivial⟩
  · exact ⟨rfl, by simp, Or.inr rfl, trivial⟩

theorem isCompiled_scaling {k : Kind} (version : AutoscalingVersion) (owner : Resource k)
    (s : CommonSettings) (component : String) :
    IsCompiled (scalingTarget version owner s component) := by
  unfold scalingTarget
  cases autoscaler? owner s component with
  | none => exact ⟨rfl, by simp, Or.inl rfl, trivial⟩
  | some a => cases version <;> exact ⟨rfl, by simp, Or.inl rfl, trivial⟩

/-- Every Service is compiled with unique port names. -/
theorem isCompiled_exposure {k : Kind} (owner : Resource k) (e : Exposure) :
    IsCompiled (.settled (e.compile owner)) := by
  refine ⟨rfl, by simp, Or.inl rfl, ?_⟩
  intro ports hports
  cases hports
  exact uniqueNames_mergePorts (uniqueNames_mergePorts List.Pairwise.nil)

/-- The service account of a component's object and the objects that grant it its access. -/
def identity : (c : Component) → Resource c.kind → List Target
  | .gateway, g => identityTargets g g.content.spec.common gatewayComponent gatewayRules
  | .controller, r => identityTargets r r.content.spec.common controllerComponent controllerRules

/-- What a pass works on belongs to the identity or binds nobody. -/
theorem of_mem_reached {c : Component} {settings : PassSettings} {r : Resource c.kind} {x : Target}
    (hx : x ∈ c.reached settings r) :
    x ∈ c.identity r ∨
      IsCompiled x ∧ x.kind ≠ .roleBinding ∧ x.kind ≠ .clusterRoleBinding := by
  have hscaling {k : Kind} (owner : Resource k) (s : CommonSettings) (component : String) :
      IsCompiled (scalingTarget settings.version owner s component) ∧
        (scalingTarget settings.version owner s component).kind ≠ .roleBinding ∧
        (scalingTarget settings.version owner s component).kind ≠ .clusterRoleBinding := by
    refine ⟨isCompiled_scaling _ _ _ _, ?_, ?_⟩ <;> rw [kind_scalingTarget] <;> simp
  have hmap (m : Resource .configMap) : IsCompiled (.settled m) :=
    ⟨rfl, by simp, Or.inl rfl, trivial⟩
  cases c with
  | gateway =>
    simp only [reached] at hx
    cases hb : GatewayCompile.bootstrap r with
    | ok bootstrap =>
      simp only [hb, gatewayTargets, List.mem_append, List.mem_cons, List.mem_map,
        List.not_mem_nil, or_false] at hx
      rcases hx with hx | rfl | ⟨m, -, rfl⟩ | rfl | rfl | rfl
      · exact Or.inl hx
      · exact Or.inr ⟨hmap _, by simp, by simp⟩
      · exact Or.inr ⟨hmap _, by simp, by simp⟩
      · exact Or.inr ⟨⟨rfl, by simp, Or.inl rfl, trivial⟩, by simp, by simp⟩
      · exact Or.inr ⟨isCompiled_exposure _ _, by simp, by simp⟩
      · exact Or.inr (hscaling _ _ _)
    | error e =>
      simp only [hb, List.mem_append, List.mem_cons, List.not_mem_nil, or_false] at hx
      rcases hx with hx | rfl
      · exact Or.inl hx
      · exact Or.inr ⟨hmap _, by simp, by simp⟩
  | controller =>
    simp only [reached, controllerTargets, List.mem_append, List.mem_cons, List.not_mem_nil,
      or_false] at hx
    rcases hx with hx | rfl | rfl | rfl
    · exact Or.inl hx
    · exact Or.inr ⟨⟨rfl, by simp, Or.inl rfl, trivial⟩, by simp, by simp⟩
    · exact Or.inr ⟨isCompiled_exposure _ _, by simp, by simp⟩
    · exact Or.inr (hscaling _ _ _)

theorem isCompiled_of_reached {c : Component} {settings : PassSettings} {r : Resource c.kind} :
    ∀ x ∈ c.reached settings r, IsCompiled x := by
  intro x hx
  rcases of_mem_reached hx with hidentity | ⟨hcompiled, -, -⟩
  · cases c with
    | gateway => exact isCompiled_identity _ _ _ _ x hidentity
    | controller => exact isCompiled_identity _ _ _ _ x hidentity
  · exact hcompiled

theorem isCompiled_of_targets {c : Component} {settings : PassSettings} {r : Resource c.kind}
    {xs : List Target} (h : c.targets settings r = .ok xs) : ∀ x ∈ xs, IsCompiled x :=
  reached_of_targets h ▸ isCompiled_of_reached

/-- What a pass works on is at different places. -/
theorem reached_apart (c : Component) (settings : PassSettings) (r : Resource c.kind) :
    (c.reached settings r).Pairwise Target.Apart := by
  cases c with
  | gateway =>
    cases hb : GatewayCompile.bootstrap r with
    | ok bootstrap =>
      simp only [reached, hb]
      exact gatewayTargets_apart settings r hb
    | error e =>
      simp only [reached, hb, identityTargets]
      -- the one map and the identity differ in kind
      cases r.content.spec.common.serviceAccountEnabled <;>
        cases r.content.spec.common.rbacEnabled <;> simp [Target.Apart]
  | controller => exact controllerTargets_apart settings r

theorem targets_apart {c : Component} {settings : PassSettings} {r : Resource c.kind}
    {xs : List Target} (h : c.targets settings r = .ok xs) : xs.Pairwise Target.Apart :=
  reached_of_targets h ▸ reached_apart c settings r

end Component

end GatewayOperator
