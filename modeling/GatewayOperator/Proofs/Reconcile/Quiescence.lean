import GatewayOperator.Proofs.Reconcile.Settle

/-!
# Quiescence

A pass that converged has nothing left to do: run again at once, it converges and writes nothing
(`pass_quiescent`). It needs places at which nothing is being deleted or held back by finalizers,
and definitions of different names. `pass_converges` says when a pass does converge.
-/

namespace GatewayOperator

open StoreProgram

/-! ## Quiet targets -/

namespace Target

/-- A target that wants nothing more. -/
def IsQuiet : Target → Server → Prop
  | @present k r, s => (s.find? k r.key).isSome = true
  | .settled d, s => s.Settled d
  | .absent k key, s => s.find? k key = none

/-- A target at whose place nothing is being deleted or held back by finalizers. -/
structure IsFree (x : Target) (s : Server) : Prop where
  ports : x.HasUniquePorts
  stays : ∀ r, s.find? x.kind x.key = some r → r.metadata.isBeingDeleted = false
  unheld : ∀ r, s.find? x.kind x.key = some r → r.metadata.hasFinalizers = false

theorem local_isQuiet : Local IsQuiet := by
  intro x s t hplace hs
  cases x with
  | @present k r =>
    have heq : s.find? k r.key = t.find? k r.key := hplace
    have hthere : (s.find? k r.key).isSome = true := hs
    show (t.find? k r.key).isSome = true
    rwa [← heq]
  | settled d =>
    obtain ⟨r, hr, hsame⟩ := hs
    exact ⟨r, hplace ▸ hr, hsame⟩
  | absent k key =>
    have heq : s.find? k key = t.find? k key := hplace
    have hnone : s.find? k key = none := hs
    show t.find? k key = none
    rwa [← heq]

theorem local_isFree : Local IsFree := by
  intro x s t hplace hs
  refine ⟨hs.ports, fun r hr => hs.stays r ?_, fun r hr => hs.unheld r ?_⟩
  · rw [hplace, hr]
  · rw [hplace, hr]

/-- A step that succeeds leaves its target quiet. -/
theorem isQuiet_of_work (x : Target) (s t : Server) (hs : x.IsFree s)
    (h : x.work.run Server.world s = (.ok (), t)) : x.IsQuiet t := by
  cases x with
  | present r =>
    obtain ⟨o, u, hrun, hend⟩ := Program.run_bind_ok.1 h
    cases hend
    exact createIfAbsent_ok hrun
  | settled d =>
    obtain ⟨o, u, hrun, hend⟩ := Program.run_bind_ok.1 h
    cases hend
    exact convergeTo_ok hs.stays hs.ports hrun
  | absent k key =>
    have hfind := Server.find?_delete s k key
    have ht : (s.delete k key).2 = t := congrArg Prod.snd h
    rw [ht] at hfind
    show t.find? k key = none
    rw [hfind]
    cases hs' : s.find? k key with
    | none => rfl
    | some r =>
      have hunheld : r.metadata.hasFinalizers = false := hs.unheld r hs'
      simp [hunheld]

/-- On a quiet target a step does nothing. -/
theorem work_quiet {x : Target} {s : Server} (h : x.IsQuiet s) :
    x.work.run Server.world s = (.ok (), s) := by
  cases x with
  | present r => exact Program.run_bind_of_ok (createIfAbsent_present h)
  | settled d => exact Program.run_bind_of_ok (convergeTo_settled h)
  | absent k key =>
    show s.delete k key = (.ok (), s)
    have hnone : s.find? k key = none := h
    unfold Server.delete
    rw [hnone]

end Target

/-! ## The second pass -/

/-- Definitions of different names. -/
def PassSettings.HasDistinctDefinitions (settings : PassSettings) : Prop :=
  ∀ ds, settings.definitions = some (.ok ds) → ds.Pairwise fun d e => d.key ≠ e.key

namespace Component

variable {c : Component} {settings : PassSettings} {s t : Server}

/-- What a pass works on is free where nothing is being deleted or held back. -/
theorem IsTargetOf.isFree {raw : Resource c.kind} {x : Target} (hx : c.IsTargetOf settings raw x)
    (h : ∀ r, s.find? x.kind x.key = some r →
      r.metadata.isBeingDeleted = false ∧ r.metadata.hasFinalizers = false) : x.IsFree s :=
  ⟨hx.ports, fun r hr => (h r hr).1, fun r hr => (h r hr).2⟩

theorem apart_of_definitionTargets
    (h : c = .controller → settings.HasDistinctDefinitions) {ds : List Target}
    (hds : c.definitionTargets settings = .ok ds) : ds.Pairwise Target.Apart := by
  obtain ⟨defs, rfl, rfl | ⟨hcontroller, hread⟩⟩ := definitionTargets_eq hds
  · exact List.Pairwise.nil
  · rw [List.pairwise_map]
    exact (h hcontroller defs hread).imp fun hne hp => hne hp.2

/-- After a pass that converged, with definitions that are quiet, only the work on what is compiled
is left to the next one. -/
theorem run_pass_of_converged {key : Key} {Q : Target → Server → Prop} {raw : Resource c.kind}
    {ds : List Target} (hstays : raw.metadata.isBeingDeleted = false)
    (h : c.Converged settings key Q raw t) (hds : c.definitionTargets settings = .ok ds)
    (hquiet : ∀ x ∈ ds, x.IsQuiet t) :
    ∃ xs, c.targets settings (c.withDefaults raw) = .ok xs ∧
      (c.pass settings key).run Server.world t =
        ((Target.workAll xs).bind fun _ => pure .converged).run Server.world t := by
  obtain ⟨finalizers, version, status, hfind, hfinalizer, hreported⟩ := h.object
  obtain ⟨xs, hxs, -⟩ := h.compiled
  refine ⟨xs, hxs, ?_⟩
  have hinstall : (c.install settings).run Server.world t = (.ok (), t) := by
    rw [install_eq, hds]
    exact Target.workAll_quiet fun x hx => Target.work_quiet (hquiet x hx)
  have hrelease : (releasePrevious (raw.restated finalizers version status)
      (c.account (raw.restated finalizers version status)) raw.metadata.nsOrEmpty
      c.releasesRoleBinding).run Server.world t = (.ok (), t) := by
    -- the account that was bound last is the current one
    have hnone :
        c.previousReleases (raw.restated finalizers version status) (c.account raw) = [] := by
      unfold previousReleases
      rw [boundAccount?_of_reported hreported]
      exact if_pos rfl
    rw [releasePrevious_eq_releaseAll, account_restated, hnone]
    rfl
  have hwork : c.converge settings (c.withDefaults (raw.restated finalizers version status)) =
      Target.workAll xs := converge_of_targets (by rw [targets_restated, hxs])
  have hsettle : (c.settle settings (raw.restated finalizers version status)).run Server.world t =
      (Target.workAll xs).run Server.world t := by
    unfold settle
    rw [addFinalizer_present hfinalizer]
    refine (Program.run_bind_of_ok (a := none) rfl).trans ?_
    refine (Program.run_bind_of_ok hinstall).trans ?_
    refine (Program.run_bind_of_ok hrelease).trans ?_
    rw [hwork, Option.getD_none, account_restated, recordStatus_reported hreported]
    exact congrArg (fun p => Program.run Server.world p t) (Program.bind_unit _)
  have hstays' : (raw.restated finalizers version status).metadata.isBeingDeleted = false := hstays
  have hactive : t.isActive (raw.restated finalizers version status).metadata.nsOrEmpty = true :=
    h.active
  rw [pass_eq, run_get_bind, hfind]
  simp only [handle, hstays', Bool.false_eq_true, if_false]
  unfold proceed
  rw [Program.bind_eq, Program.run_bind_of_ok (run_namespaceActive _ t), hactive]
  show ((c.settle settings _).bind fun _ => pure PassEnd.converged).run Server.world t = _
  rw [Program.run_bind, Program.run_bind, hsettle]

/-- Where everything is quiet, a pass converges and does nothing. -/
theorem pass_of_quiet {key : Key} {raw : Resource c.kind}
    (hstays : raw.metadata.isBeingDeleted = false)
    (hdefs : c = .controller → settings.HasDistinctDefinitions)
    (h : c.Converged settings key Target.IsQuiet raw t) :
    (c.pass settings key).run Server.world t = (.ok .converged, t) := by
  obtain ⟨ds, hds, hinstalled⟩ := h.installed
  obtain ⟨xs, hxs, hrun⟩ := run_pass_of_converged hstays h hds
    (hinstalled (apart_of_definitionTargets hdefs hds))
  obtain ⟨xs', hxs', hquiet⟩ := h.compiled
  cases hxs.symm.trans hxs'
  rw [hrun]
  exact Program.run_bind_of_ok (Target.workAll_quiet fun x hx => Target.work_quiet (hquiet x hx))

/-! ## Progress -/

/-- In a store that refuses nothing, a pass converges on every object that can be compiled, is not
being deleted and lives in an active namespace. -/
theorem pass_converges {key : Key} {raw : Resource c.kind} {ds xs : List Target}
    (hrejects : s.rejected = []) (hraw : s.find? c.kind key = some raw)
    (hstays : raw.metadata.isBeingDeleted = false)
    (hactive : s.isActive raw.metadata.nsOrEmpty = true)
    (hds : c.definitionTargets settings = .ok ds) (hplaces : ∀ x ∈ ds, x.HasPlace)
    (hxs : c.targets settings (c.withDefaults raw) = .ok xs) :
    ∃ t, (c.pass settings key).run Server.world s = (.ok .converged, t) := by
  obtain ⟨stored, s₁, hadd⟩ := addFinalizer_succeeds c.finalizer
    (by simp [Server.rejects, hrejects]) hraw
  -- what the store refuses is the same for every stage
  have h₁ := (rejected_of_run hadd).trans hrejects
  obtain ⟨s₂, hinstall⟩ := Target.workAll_succeeds h₁ hplaces
  have h₂ := (rejected_of_run hinstall).trans h₁
  obtain ⟨s₃, hrelease⟩ := Binding.releaseAll_succeeds raw.metadata.nsOrEmpty
    (c.previousReleases (stored.getD raw) (c.account raw)) h₂
  obtain ⟨s₄, hwork⟩ := Target.workAll_succeeds ((rejected_of_run hrelease).trans h₂) fun x hx =>
    (isCompiled_of_targets hxs x hx).placed
  obtain ⟨hobject, -, -⟩ := addFinalizer_ok hraw hstays hadd
  rw [← find?_between hds hxs hinstall hrelease hwork] at hobject
  obtain ⟨t, hrecord⟩ := recordStatus_succeeds (c.account raw) hobject
  refine ⟨t, pass_of_settle hraw hstays hactive ?_⟩
  exact Stages.settle ⟨stored, ds, xs, s₁, s₂, s₃, s₄, hadd, hds, hinstall, hrelease, hxs, hwork,
    hrecord⟩

/-! ## Quiescence -/

/-- A pass that converged, run again at once, converges and leaves the store as it is: objects,
version and the list of writes. At the places that it worked on nothing was being deleted or held
back. -/
theorem pass_quiescent (c : Component) (settings : PassSettings) (ns name : String) (s t : Server)
    (hdefs : c = .controller → settings.HasDistinctDefinitions)
    (hfree : ∀ (raw : Resource c.kind) (x : Target) (r : Resource x.kind),
      s.find? c.kind (.inNamespace ns name) = some raw → c.IsTargetOf settings raw x →
      s.find? x.kind x.key = some r →
        r.metadata.isBeingDeleted = false ∧ r.metadata.hasFinalizers = false)
    (h : (c.pass settings (.inNamespace ns name)).run Server.world s = (.ok .converged, t)) :
    (c.pass settings (.inNamespace ns name)).run Server.world t = (.ok .converged, t) := by
  obtain ⟨raw, hraw, hstays, hconverged⟩ :=
    converged_of_pass Target.local_isFree Target.local_isQuiet Target.isQuiet_of_work
      (fun raw hraw x hx => hx.isFree fun r hr => hfree raw x r hraw hx hr) h
  exact pass_of_quiet hstays hdefs hconverged

/-- A controller as a user applies it. -/
def appliedController : Controller where
  metadata :=
    { name := some "higress", ns := some "higress-system", uid := some "uid-2",
      resourceVersion := some "2" }
  content := { spec := {} }

/-- A store with a namespace and a controller for which no pass ran. -/
def freshStore : Server where
  objects := [⟨.namespaceKind, { name := some "higress-system" }, {}⟩,
    ⟨.controller, appliedController⟩]
  version := 2

/-- A store of a namespace and a controller holds no dependents. -/
theorem freshStore_unheld (k : Kind) (key : Key) (r : Resource k)
    (hdependent : k.isDependent = true) (hfind : freshStore.find? k key = some r) :
    r.metadata.isBeingDeleted = false ∧ r.metadata.hasFinalizers = false := by
  have hmem := Server.mem_of_find? hfind
  simp only [freshStore, List.mem_cons, List.not_mem_nil, or_false] at hmem
  rcases hmem with hmem | hmem <;> cases hmem <;> cases hdependent

/-- A definition of a name. -/
def namedDefinition (name : String) : Resource .definition where
  metadata := { name := some name }
  content := {}

/-- Settings with two definitions to install. -/
def installingSettings : PassSettings where
  definitions := some (.ok [namedDefinition "ingresses", namedDefinition "plugins"])

theorem hasDistinctDefinitions_installingSettings :
    installingSettings.HasDistinctDefinitions := by
  intro ds hds
  cases hds
  decide

theorem pass_quiescent_freshStore :
    ∃ t, (controller.pass installingSettings (.inNamespace "higress-system" "higress")).run
        Server.world freshStore = (.ok .converged, t) ∧
      (controller.pass installingSettings (.inNamespace "higress-system" "higress")).run
        Server.world t = (.ok .converged, t) := by
  have hplaces : ∀ x ∈ [Target.settled (namedDefinition "ingresses"),
      .settled (namedDefinition "plugins")], x.HasPlace := by
    intro x hx
    simp only [List.mem_cons, List.not_mem_nil, or_false] at hx
    rcases hx with rfl | rfl <;> exact Or.inr rfl
  obtain ⟨t, hfirst⟩ : ∃ t,
      (controller.pass installingSettings (.inNamespace "higress-system" "higress")).run
        Server.world freshStore = (.ok .converged, t) :=
    pass_converges rfl rfl rfl rfl rfl hplaces rfl
  exact ⟨t, hfirst, pass_quiescent .controller installingSettings "higress-system" "higress"
    freshStore t (fun _ => hasDistinctDefinitions_installingSettings)
    (fun _ _ r _ hx hr => freshStore_unheld _ _ r hx.isDependent hr) hfirst⟩

end Component

end GatewayOperator
