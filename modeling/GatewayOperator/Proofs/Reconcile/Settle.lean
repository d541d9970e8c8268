import GatewayOperator.Proofs.Reconcile.Object

/-!
# What a converged pass leaves

A pass that converges goes through five stages: it adds its finalizer, installs definitions,
releases the account that was bound before, works on everything that is compiled and records the
status. No stage touches the places of another one, so what each of them left is still there at the
end: `converged_of_pass` says it for every condition that a step of the pass establishes at its
place.
-/

namespace GatewayOperator

open StoreProgram

/-! ## Namespaces -/

/-- The phase that a namespace reports. -/
def Resource.phase? (n : Resource .namespaceKind) : Option String :=
  n.content.status.bind fun status => status.textAt? "phase"

/-- Whether a namespace is there and not terminating. -/
def Server.isActive (s : Server) (ns : String) : Bool :=
  match s.find? .namespaceKind (.inCluster ns) with
  | none => false
  | some n => decide (n.phase? ≠ some "Terminating")

theorem run_namespaceActive (ns : String) (s : Server) :
    (namespaceActive ns).run Server.world s = (.ok (s.isActive ns), s) := by
  unfold namespaceActive Server.isActive
  rw [run_get_bind]
  cases s.find? .namespaceKind (.inCluster ns) with
  | none => rfl
  | some n => rfl

namespace Component

variable {c : Component} {settings : PassSettings} {raw : Resource c.kind} {s t : Server}

/-! ## Stages -/

/-- A pass that converges settles its object, which is not being deleted, in an active namespace. -/
theorem settle_of_pass {key : Key}
    (h : (c.pass settings key).run Server.world s = (.ok .converged, t)) :
    ∃ raw, s.find? c.kind key = some raw ∧ raw.metadata.isBeingDeleted = false ∧
      s.isActive raw.metadata.nsOrEmpty = true ∧
      (c.settle settings raw).run Server.world s = (.ok (), t) := by
  rw [pass_eq, run_get_bind] at h
  cases hfind : s.find? c.kind key with
  | none =>
    rw [hfind] at h
    cases h
  | some raw =>
    rw [hfind] at h
    simp only [handle] at h
    split at h
    · -- a pass of an object that is being deleted ends otherwise
      unfold finish at h
      split at h
      · obtain ⟨_, u, _, hend⟩ := Program.run_bind_ok.1 h
        cases hend
      · cases h
    · rename_i hstays
      unfold proceed at h
      rw [Program.bind_eq, Program.run_bind_of_ok (run_namespaceActive _ s)] at h
      split at h
      · cases h
      · rename_i hactive
        obtain ⟨_, u, hsettle, hend⟩ := Program.run_bind_ok.1 h
        cases hend
        exact ⟨raw, rfl, by simpa using hstays, by simpa using hactive, hsettle⟩

/-- On an object in an active namespace, a pass that settles it converges. -/
theorem pass_of_settle {key : Key} (hraw : s.find? c.kind key = some raw)
    (hstays : raw.metadata.isBeingDeleted = false)
    (hactive : s.isActive raw.metadata.nsOrEmpty = true)
    (h : (c.settle settings raw).run Server.world s = (.ok (), t)) :
    (c.pass settings key).run Server.world s = (.ok .converged, t) := by
  rw [pass_eq, run_get_bind, hraw]
  simp only [handle, hstays, Bool.false_eq_true, if_false]
  unfold proceed
  rw [Program.bind_eq, Program.run_bind_of_ok (run_namespaceActive _ s), hactive]
  exact Program.run_bind_of_ok h

/-- The stages of a pass that settles its object. -/
structure Stages (c : Component) (settings : PassSettings) (raw : Resource c.kind)
    (s t : Server) where
  /-- the object with its finalizer, if it was written -/
  stored : Option (Resource c.kind)
  definitions : List Target
  compiled : List Target
  added : Server
  installed : Server
  released : Server
  worked : Server
  run_add : (addFinalizer raw c.finalizer).run Server.world s = (.ok stored, added)
  read : c.definitionTargets settings = .ok definitions
  run_install : (Target.workAll definitions).run Server.world added = (.ok (), installed)
  run_release : (Binding.releaseAll raw.metadata.nsOrEmpty
    (c.previousReleases (stored.getD raw) (c.account raw))).run Server.world installed =
      (.ok (), released)
  compile : c.targets settings (c.withDefaults raw) = .ok compiled
  run_work : (Target.workAll compiled).run Server.world released = (.ok (), worked)
  run_record :
    (recordStatus (stored.getD raw) (c.account raw)).run Server.world worked = (.ok (), t)

/-- A pass that settles its object goes through every stage. -/
theorem stages_of_settle (h : (c.settle settings raw).run Server.world s = (.ok (), t)) :
    Nonempty (Stages c settings raw s t) := by
  obtain ⟨stored, added, hadd, h⟩ := Program.run_bind_ok.1 h
  obtain ⟨_, installed, hinstall, h⟩ := Program.run_bind_ok.1 h
  obtain ⟨_, released, hrelease, h⟩ := Program.run_bind_ok.1 h
  obtain ⟨_, worked, hwork, hrecord⟩ := Program.run_bind_ok.1 h
  rw [install_eq] at hinstall
  obtain ⟨ds, u, hread, hinstall⟩ := Program.run_bind_ok.1 hinstall
  obtain ⟨hds, rfl⟩ := Prod.mk.inj hread
  obtain ⟨xs, hxs⟩ := targets_of_converge_ok hwork
  rw [converge_of_targets hxs] at hwork
  rw [releasePrevious_eq_releaseAll] at hrelease
  exact ⟨⟨stored, ds, xs, added, installed, released, worked, hadd, hds, hinstall, hrelease, hxs,
    hwork, hrecord⟩⟩

/-- A pass that gets through every stage settles its object. -/
theorem Stages.settle (stages : Stages c settings raw s t) :
    (c.settle settings raw).run Server.world s = (.ok (), t) := by
  have hinstall :
      (c.install settings).run Server.world stages.added = (.ok (), stages.installed) := by
    rw [install_eq, stages.read]
    exact stages.run_install
  have hrelease := stages.run_release
  rw [← releasePrevious_eq_releaseAll] at hrelease
  have hwork := stages.run_work
  rw [← converge_of_targets stages.compile] at hwork
  unfold Component.settle
  refine (Program.run_bind_of_ok stages.run_add).trans ?_
  refine (Program.run_bind_of_ok hinstall).trans ?_
  refine (Program.run_bind_of_ok hrelease).trans ?_
  exact (Program.run_bind_of_ok hwork).trans stages.run_record

/-! ## Places of the stages -/

theorem asks_addFinalizer {k : Kind} (r : Resource k) (finalizer : String) :
    (addFinalizer r finalizer).Asks (StoreRequest.isAbout k r.key) := by
  unfold addFinalizer
  split
  · trivial
  · exact ⟨⟨rfl, rfl⟩, fun a => by cases a <;> trivial⟩

theorem asks_removeFinalizer {k : Kind} (r : Resource k) (finalizer : String) :
    (removeFinalizer r finalizer).Asks (StoreRequest.isAbout k r.key) := by
  unfold removeFinalizer
  split
  · exact ⟨⟨rfl, rfl⟩, fun a => by cases a <;> trivial⟩
  · trivial

theorem asks_recordStatus {k : Kind} (r : Resource k) (account : String) :
    (recordStatus r account).Asks (StoreRequest.isAbout k r.key) := by
  unfold recordStatus
  dsimp only
  split
  · trivial
  · exact ⟨⟨rfl, rfl⟩, fun a => by cases a <;> trivial⟩

/-- Releases leave every other place as it is, whichever of their calls fail. -/
theorem find?_runs_releaseAll {ns : String} {ps : List (Binding × String)} {j : Kind} {other : Key}
    {calls : List StoreCall} {res : Except Failure Unit}
    (hplace : ∀ p ∈ ps, ¬ (p.1.kind = j ∧ p.1.key p.2 ns = other))
    (h : Program.Runs Server.world (Binding.releaseAll ns ps) s calls res t) :
    t.find? j other = s.find? j other := by
  refine (find?_runs h ?_).2
  rintro q hq ⟨hkind, hkey⟩
  obtain ⟨p, hp, hkind', hkey'⟩ := (Binding.runs_releaseAll h).place q hq
  exact hplace p hp ⟨hkind'.symm.trans hkind, hkey'.symm.trans hkey⟩

theorem find?_releaseAll {ns : String} {ps : List (Binding × String)} {j : Kind} {other : Key}
    (h : ∀ p ∈ ps, ¬ (p.1.kind = j ∧ p.1.key p.2 ns = other)) (s : Server) :
    ((Binding.releaseAll ns ps).run Server.world s).2.find? j other = s.find? j other := by
  obtain ⟨calls, hruns⟩ := Program.runs_run Server.world (Binding.releaseAll ns ps) s
  exact find?_runs_releaseAll h hruns

/-- Releases of the account that was bound before are about another account. -/
theorem ne_of_mem_previousReleases {account : String} {p : Binding × String}
    (h : p ∈ c.previousReleases raw account) : p.2 ≠ account := by
  unfold previousReleases at h
  split at h
  · cases h
  · split at h
    · cases h
    · rename_i hne
      obtain ⟨b, -, rfl⟩ := List.mem_map.1 h
      exact hne

/-- The definitions that a pass installs are those of its settings, and a gateway has none. -/
theorem definitionTargets_eq {ds : List Target} (h : c.definitionTargets settings = .ok ds) :
    ∃ defs : List (Resource .definition), ds = defs.map .settled ∧
      (defs = [] ∨ c = .controller ∧ settings.definitions = some (.ok defs)) := by
  cases c with
  | gateway =>
    cases h
    exact ⟨[], rfl, Or.inl rfl⟩
  | controller =>
    have hmap : (settings.definitions.getD (.ok [])).map (fun ds => ds.map Target.settled) =
        .ok ds := h
    cases hread : settings.definitions with
    | none =>
      rw [hread] at hmap
      cases hmap
      exact ⟨[], rfl, Or.inl rfl⟩
    | some read =>
      rw [hread] at hmap
      cases read with
      | error e => cases hmap
      | ok defs =>
        cases hmap
        exact ⟨defs, rfl, Or.inr ⟨rfl, rfl⟩⟩

/-- Definitions are settled. -/
theorem settled_of_definitionTargets {ds : List Target}
    (h : c.definitionTargets settings = .ok ds) :
    ∀ x ∈ ds, ∃ d : Resource .definition, x = .settled d := by
  obtain ⟨defs, rfl, -⟩ := definitionTargets_eq h
  intro x hx
  obtain ⟨d, -, rfl⟩ := List.mem_map.1 hx
  exact ⟨d, rfl⟩

theorem kind_of_definitionTargets {ds : List Target} (h : c.definitionTargets settings = .ok ds) :
    ∀ x ∈ ds, x.kind = .definition ∧ x.HasUniquePorts := by
  intro x hx
  obtain ⟨d, rfl⟩ := settled_of_definitionTargets h x hx
  exact ⟨rfl, trivial⟩

/-- What a pass of an object works on: the definitions that it installs, and what is compiled, or
where that fails, what comes before the failure. -/
def IsTargetOf (c : Component) (settings : PassSettings) (raw : Resource c.kind)
    (x : Target) : Prop :=
  (∃ ds, c.definitionTargets settings = .ok ds ∧ x ∈ ds) ∨
    x ∈ c.reached settings (c.withDefaults raw)

section IsTargetOf

variable {x : Target}

theorem isTargetOf_of_targets {xs : List Target}
    (h : c.targets settings (c.withDefaults raw) = .ok xs)
    (hx : x ∈ xs) : c.IsTargetOf settings raw x :=
  Or.inr (reached_of_targets h ▸ hx)

theorem isTargetOf_restated (finalizers : Option (List String)) (version : Option String)
    (status : c.kind.Content) :
    c.IsTargetOf settings (raw.restated finalizers version status) x ↔
      c.IsTargetOf settings raw x := by
  unfold IsTargetOf
  rw [reached_restated]

theorem IsTargetOf.isDependent (h : c.IsTargetOf settings raw x) : x.kind.isDependent = true := by
  rcases h with ⟨ds, hds, hx⟩ | hx
  · rw [(kind_of_definitionTargets hds x hx).1]
    rfl
  · exact (isCompiled_of_reached x hx).dependent

theorem IsTargetOf.ports (h : c.IsTargetOf settings raw x) : x.HasUniquePorts := by
  rcases h with ⟨ds, hds, hx⟩ | hx
  · exact (kind_of_definitionTargets hds x hx).2
  · exact (isCompiled_of_reached x hx).ports

end IsTargetOf

/-- What is compiled for a binding: it is named after the account and has the account as its only
subject. -/
structure IsBindingOf (b : Binding) (account ns : String) (d : Resource b.kind) : Prop where
  key : d.key = b.key account ns
  subjects : b.subjects d = [Subject.serviceAccount account ns]

theorem binding_of_identityTargets {k : Kind} {owner : Resource k} {s : CommonSettings}
    {component : String} {rules : List PolicyRule} {ns : String} (hns : owner.metadata.ns = some ns)
    (b : Binding) {x : Target} (hx : x ∈ identityTargets owner s component rules)
    (hkind : x.kind = b.kind) :
    ∃ d, x = .settled d ∧ IsBindingOf b (s.serviceAccountName owner.metadata.anyName) ns d := by
  have hempty : owner.metadata.nsOrEmpty = ns := Metadata.nsOrEmpty_of_ns hns
  rcases of_mem_identityTargets hx with rfl | rfl | rfl | rfl | rfl <;> cases b <;> cases hkind
  · refine ⟨_, rfl, ?_, ?_⟩
    · show (⟨owner.metadata.ns, _⟩ : Key) = _
      rw [hns]
      rfl
    · show [Subject.serviceAccount _ owner.metadata.nsOrEmpty] = _
      rw [hempty]
  · refine ⟨_, rfl, rfl, ?_⟩
    show [Subject.serviceAccount _ owner.metadata.nsOrEmpty] = _
    rw [hempty]

/-- The only bindings that are compiled from an object are those of its account. -/
theorem binding_of_reached {r : Resource c.kind} {ns : String} (hns : r.metadata.ns = some ns)
    (b : Binding) {x : Target} (hx : x ∈ c.reached settings r) (hkind : x.kind = b.kind) :
    ∃ d, x = .settled d ∧
      IsBindingOf b ((c.common r).serviceAccountName r.metadata.anyName) ns d := by
  rcases of_mem_reached hx with hidentity | ⟨-, hrole, hcluster⟩
  · cases c with
    | gateway => exact binding_of_identityTargets hns b hidentity hkind
    | controller => exact binding_of_identityTargets hns b hidentity hkind
  · cases b with
    | cluster => exact absurd hkind hcluster
    | role => exact absurd hkind hrole

/-- The bindings that are released before the work on compiled objects are at other places: what is
compiled binds the current account. -/
theorem ne_place_of_mem_previousReleases {ns : String} (hns : raw.metadata.ns = some ns)
    {r : Resource c.kind} {x : Target} (hx : x ∈ c.reached settings (c.withDefaults raw)) :
    ∀ p ∈ c.previousReleases r (c.account raw),
      ¬ (p.1.kind = x.kind ∧ p.1.key p.2 raw.metadata.nsOrEmpty = x.key) := by
  rintro p hp ⟨hkind, hkey⟩
  obtain ⟨d, rfl, hd⟩ := binding_of_reached
    (by rw [metadata_withDefaults]; exact hns) p.1 hx hkind.symm
  rw [Target.key_settled, hd.key, Metadata.nsOrEmpty_of_ns hns, metadata_withDefaults] at hkey
  exact ne_of_mem_previousReleases hp (Binding.eq_of_place rfl hkey).2

/-! ## Frames -/

theorem isDependent_kind_eq_false : c.kind.isDependent = false := by cases c <;> rfl

theorem ne_kind_of_isDependent {k : Kind} (h : k.isDependent = true) : k ≠ c.kind := by
  rintro rfl
  cases isDependent_kind_eq_false.symm.trans h

theorem kind_ne_binding (b : Binding) : b.kind ≠ c.kind := by
  cases b <;> cases c <;> simp

/-- Neither the steps on definitions and compiled objects nor releases touch a component's
object. -/
theorem find?_between {ns : String} {ds xs : List Target} {ps : List (Binding × String)}
    {s₁ s₂ s₃ s₄ : Server} {key : Key} (hds : c.definitionTargets settings = .ok ds)
    (hxs : c.targets settings (c.withDefaults raw) = .ok xs)
    (hinstall : (Target.workAll ds).run Server.world s₁ = (.ok (), s₂))
    (hrelease : (Binding.releaseAll ns ps).run Server.world s₂ = (.ok (), s₃))
    (hwork : (Target.workAll xs).run Server.world s₃ = (.ok (), s₄)) :
    s₄.find? c.kind key = s₁.find? c.kind key := by
  have hcompiled := isCompiled_of_targets hxs
  have hdefinition := kind_of_definitionTargets hds
  -- from the last stage back to the first
  have h₄ : ((Target.workAll xs).run Server.world s₃).2.find? c.kind key = s₃.find? c.kind key :=
    Target.find?_workAll
      (fun x hx hp => ne_kind_of_isDependent (hcompiled x hx).dependent hp.1.symm) s₃
  have h₃ : ((Binding.releaseAll ns ps).run Server.world s₂).2.find? c.kind key =
      s₂.find? c.kind key :=
    find?_releaseAll (fun p _ hp => kind_ne_binding p.1 hp.1) s₂
  have h₂ : ((Target.workAll ds).run Server.world s₁).2.find? c.kind key = s₁.find? c.kind key :=
    Target.find?_workAll (fun x hx hp => ne_kind_of_isDependent (k := .definition) rfl
      ((hdefinition x hx).1.symm.trans hp.1.symm)) s₁
  rw [hwork] at h₄
  rw [hrelease] at h₃
  rw [hinstall] at h₂
  exact h₄.trans (h₃.trans h₂)

namespace Stages

variable (stages : Stages c settings raw s t) {j : Kind} {other : Key}

theorem find?_added (hj : j ≠ c.kind) : stages.added.find? j other = s.find? j other :=
  find?_of_about (asks_addFinalizer raw c.finalizer) stages.run_add fun hplace => hj hplace.1

theorem find?_installed (hj : j ≠ .definition) :
    stages.installed.find? j other = stages.added.find? j other := by
  have hdefinition := kind_of_definitionTargets stages.read
  have hframe : ((Target.workAll stages.definitions).run Server.world stages.added).2.find? j
      other = stages.added.find? j other :=
    Target.find?_workAll (fun x hx hother => hj (hother.1.trans (hdefinition x hx).1)) stages.added
  rwa [stages.run_install] at hframe

theorem find?_released
    (hj : ∀ p ∈ c.previousReleases (stages.stored.getD raw) (c.account raw),
      ¬ (p.1.kind = j ∧ p.1.key p.2 raw.metadata.nsOrEmpty = other)) :
    stages.released.find? j other = stages.installed.find? j other := by
  have hframe := find?_releaseAll hj stages.installed
  rwa [stages.run_release] at hframe

theorem find?_worked (hj : ∀ x ∈ stages.compiled, ¬ (j = x.kind ∧ other = x.key)) :
    stages.worked.find? j other = stages.released.find? j other := by
  have hframe := Target.find?_workAll hj stages.released
  rwa [stages.run_work] at hframe

theorem find?_recorded (hj : j ≠ c.kind) : t.find? j other = stages.worked.find? j other :=
  find?_of_about (asks_recordStatus _ _) stages.run_record fun hplace => hj hplace.1

end Stages

/-! ## The end of a pass -/

/-- What a pass leaves that converged: its object carries the finalizer and reports the pass, and a
condition holds of everything that the pass installed or compiled. -/
structure Converged (c : Component) (settings : PassSettings) (key : Key)
    (Q : Target → Server → Prop) (raw : Resource c.kind) (t : Server) : Prop where
  active : t.isActive raw.metadata.nsOrEmpty = true
  object : ∃ finalizers version status,
    t.find? c.kind key = some (raw.restated finalizers version status) ∧
      (raw.restated finalizers version status).metadata.hasFinalizer c.finalizer = true ∧
      (raw.restated finalizers version status).reported = some (.deployedWith (c.account raw))
  /-- definitions of one name undo each other -/
  installed : ∃ ds, c.definitionTargets settings = .ok ds ∧
    (ds.Pairwise Target.Apart → ∀ x ∈ ds, Q x t)
  compiled : ∃ xs, c.targets settings (c.withDefaults raw) = .ok xs ∧ ∀ x ∈ xs, Q x t

namespace Stages

variable (stages : Stages c settings raw s t) {key : Key}

/-- A place that is neither the object's nor a binding's is touched by the two lists of steps
only. -/
theorem find?_elsewhere {j : Kind} {other : Key} (hj : j ≠ c.kind)
    (hbinding : ∀ b : Binding, b.kind ≠ j) (hdefinition : j ≠ .definition)
    (hcompiled : ∀ x ∈ stages.compiled, ¬ (j = x.kind ∧ other = x.key)) :
    t.find? j other = s.find? j other := by
  rw [stages.find?_recorded hj, stages.find?_worked hcompiled,
    stages.find?_released fun p _ hp => hbinding p.1 hp.1, stages.find?_installed hdefinition,
    stages.find?_added hj]

/-- No stage between the first and the last touches the object. -/
theorem find?_object : stages.worked.find? c.kind key = stages.added.find? c.kind key :=
  find?_between stages.read stages.compile stages.run_install stages.run_release stages.run_work

/-- The object at the end of a pass. -/
theorem object (stages : Stages c settings raw s t) (hraw : s.find? c.kind key = some raw)
    (hstays : raw.metadata.isBeingDeleted = false) :
    ∃ finalizers version status,
      t.find? c.kind key = some (raw.restated finalizers version status) ∧
        (raw.restated finalizers version status).metadata.hasFinalizer c.finalizer = true ∧
        (raw.restated finalizers version status).reported =
          some (.deployedWith (c.account raw)) := by
  obtain ⟨hadded, hfinalizer, finalizers, version, hstored⟩ :=
    addFinalizer_ok hraw hstays stages.run_add
  have hrecord := stages.run_record
  -- the status is recorded on the object as it was read before, so that must still be the stored
  -- one
  rw [← stages.find?_object, hstored] at hadded
  rw [hstored] at hfinalizer hrecord
  obtain ⟨version', status, hfind, hreported⟩ := recordStatus_ok hadded hrecord
  rw [Resource.restated_restated] at hfind hreported
  exact ⟨finalizers, version', status, hfind, hfinalizer, hreported⟩

/-- What is compiled is not yet touched when the work on it begins. -/
theorem find?_compiled {ns : String} (hns : raw.metadata.ns = some ns) {x : Target}
    (hx : x ∈ stages.compiled) : stages.released.find? x.kind x.key = s.find? x.kind x.key := by
  have hcompiled := isCompiled_of_targets stages.compile x hx
  rw [stages.find?_released, stages.find?_installed hcompiled.notDefinition,
    stages.find?_added (ne_kind_of_isDependent hcompiled.dependent)]
  exact ne_place_of_mem_previousReleases hns (reached_of_targets stages.compile ▸ hx)

/-- Whether a namespace is active does not change in a pass. -/
theorem isActive_eq (stages : Stages c settings raw s t) (place : String) :
    t.isActive place = s.isActive place := by
  have hframe : t.find? .namespaceKind (.inCluster place) =
      s.find? .namespaceKind (.inCluster place) := by
    refine stages.find?_elsewhere ?_ ?_ (by simp) ?_
    · cases c <;> simp
    · intro b
      cases b <;> simp
    · rintro x hx ⟨hkind, -⟩
      have hdependent := (isCompiled_of_targets stages.compile x hx).dependent
      rw [← hkind] at hdependent
      cases hdependent
  unfold Server.isActive
  rw [hframe]

variable {P Q : Target → Server → Prop}

/-- What the installation establishes is there at the end: no later stage is about definitions. -/
theorem holds_definitions (hP : Target.Local P) (hQ : Target.Local Q)
    (hstep : ∀ x s t, P x s → x.work.run Server.world s = (.ok (), t) → Q x t)
    (hs : ∀ x, c.IsTargetOf settings raw x → P x s)
    (hapart : stages.definitions.Pairwise Target.Apart) : ∀ x ∈ stages.definitions, Q x t := by
  have hdefinition := kind_of_definitionTargets stages.read
  have hdependent : ∀ x ∈ stages.definitions, x.kind.isDependent = true := by
    intro x hx
    rw [(hdefinition x hx).1]
    rfl
  intro x hx
  have hinstalled : Q x stages.installed := by
    refine Target.workAll_ok hP hQ hstep hapart (fun y hy => ?_) stages.run_install x hx
    have hframe : stages.added.find? y.kind y.key = s.find? y.kind y.key :=
      stages.find?_added (ne_kind_of_isDependent (hdependent y hy))
    exact hP y s _ hframe.symm (hs y (Or.inl ⟨_, stages.read, hy⟩))
  have hframe : t.find? x.kind x.key = stages.installed.find? x.kind x.key := by
    have hnot (b : Binding) : b.kind ≠ x.kind := by
      rw [(hdefinition x hx).1]
      cases b <;> simp
    rw [stages.find?_recorded (ne_kind_of_isDependent (hdependent x hx)), stages.find?_worked,
      stages.find?_released fun p _ hp => hnot p.1 hp.1]
    rintro y hy ⟨hyx, -⟩
    exact (isCompiled_of_targets stages.compile y hy).notDefinition
      (hyx.symm.trans (hdefinition x hx).1)
  exact hQ x stages.installed t hframe.symm hinstalled

/-- What the work on compiled objects establishes is there at the end: only the status comes after
it. -/
theorem holds_compiled {ns : String} (hns : raw.metadata.ns = some ns) (hP : Target.Local P)
    (hQ : Target.Local Q)
    (hstep : ∀ x s t, P x s → x.work.run Server.world s = (.ok (), t) → Q x t)
    (hs : ∀ x, c.IsTargetOf settings raw x → P x s) : ∀ x ∈ stages.compiled, Q x t := by
  have hcompiled := isCompiled_of_targets stages.compile
  intro x hx
  have hworked : Q x stages.worked := by
    refine Target.workAll_ok hP hQ hstep (targets_apart stages.compile) (fun y hy => ?_)
      stages.run_work x hx
    exact hP y s _ (stages.find?_compiled hns hy).symm
      (hs y (isTargetOf_of_targets stages.compile hy))
  have hframe : t.find? x.kind x.key = stages.worked.find? x.kind x.key :=
    stages.find?_recorded (ne_kind_of_isDependent (hcompiled x hx).dependent)
  exact hQ x stages.worked t hframe.symm hworked

end Stages

/-- Whatever the steps of a pass establish at their places is there when the pass has converged. -/
theorem converged_of_pass {ns name : String} {P Q : Target → Server → Prop}
    (hP : Target.Local P) (hQ : Target.Local Q)
    (hstep : ∀ x s t, P x s → x.work.run Server.world s = (.ok (), t) → Q x t)
    (hs : ∀ raw, s.find? c.kind (.inNamespace ns name) = some raw →
      ∀ x, c.IsTargetOf settings raw x → P x s)
    (h : (c.pass settings (.inNamespace ns name)).run Server.world s = (.ok .converged, t)) :
    ∃ raw, s.find? c.kind (.inNamespace ns name) = some raw ∧
      raw.metadata.isBeingDeleted = false ∧
      c.Converged settings (.inNamespace ns name) Q raw t := by
  obtain ⟨raw, hraw, hstays, hactive, hsettle⟩ := settle_of_pass h
  obtain ⟨stages⟩ := stages_of_settle hsettle
  have hns : raw.metadata.ns = some ns := Server.ns_of_find? hraw
  refine ⟨raw, hraw, hstays, ?_, stages.object hraw hstays, ?_, ?_⟩
  · rw [stages.isActive_eq]
    exact hactive
  · exact ⟨stages.definitions, stages.read, stages.holds_definitions hP hQ hstep (hs raw hraw)⟩
  · exact ⟨stages.compiled, stages.compile, stages.holds_compiled hns hP hQ hstep (hs raw hraw)⟩

end Component

end GatewayOperator
