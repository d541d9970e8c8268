import GatewayOperator.Proofs.Reconcile.Settle

/-!
# When a pass writes

Finalizer, deletion and namespace decide what a pass may write. `pass_gated` says it of every run of
a pass, whichever of its calls fail:

* nothing is written without an object or in a namespace that is not active,
* the finalizer goes on the object before anything else is written,
* while the object is being deleted, bindings lose subjects of its accounts, and at last the object
  its finalizer,
* the finalizer goes only after everything that was asked before succeeded, and no binding of the
  accounts grants them anything then.
-/

namespace GatewayOperator

open StoreProgram
open Program (Runs asks_bind asks_mono)

namespace Component

/-- The request that puts a component's finalizer on its object. -/
def addition (c : Component) (raw : Resource c.kind) : StoreRequest :=
  .update c.kind (raw.withMetadata fun m => m.addFinalizer c.finalizer)

/-- The request that takes a component's finalizer off its object. -/
def removal (c : Component) (raw : Resource c.kind) : StoreRequest :=
  .update c.kind (raw.withMetadata fun m => m.removeFinalizer c.finalizer)

/-- The accounts that a pass releases: the current one and the one that was bound last. -/
def HasAccount (c : Component) (raw : Resource c.kind) (account : String) : Prop :=
  account = c.account raw ∨ raw.boundAccount? = some account

variable {c : Component} {settings : PassSettings} {raw : Resource c.kind} {s t : Server}
  {calls : List StoreCall}

theorem mem_releases {account : String} {p : Binding × String} :
    p ∈ c.releases account ↔ p.1 ∈ c.bindings ∧ p.2 = account := by
  unfold releases
  rw [List.mem_map]
  constructor
  · rintro ⟨b, hb, rfl⟩
    exact ⟨hb, rfl⟩
  · rintro ⟨hb, rfl⟩
    exact ⟨p.1, hb, rfl⟩

theorem mem_teardownReleases {p : Binding × String} :
    p ∈ c.teardownReleases raw ↔ p.1 ∈ c.bindings ∧ c.HasAccount raw p.2 := by
  unfold teardownReleases previousReleases HasAccount
  rw [List.mem_append, mem_releases]
  cases hbound : raw.boundAccount? with
  | none => simp
  | some before =>
    dsimp only
    split
    · -- the current account was bound last, and is released once
      rename_i heq
      subst heq
      simp only [List.not_mem_nil, or_false, Option.some.injEq]
      constructor
      · exact fun h => ⟨h.1, Or.inl h.2⟩
      · rintro ⟨hb, heq | heq⟩
        · exact ⟨hb, heq⟩
        · exact ⟨hb, heq.symm⟩
    · rw [mem_releases]
      simp only [Option.some.injEq]
      constructor
      · rintro (⟨hb, heq⟩ | ⟨hb, heq⟩)
        · exact ⟨hb, Or.inl heq⟩
        · exact ⟨hb, Or.inr heq.symm⟩
      · rintro ⟨hb, heq | heq⟩
        · exact Or.inl ⟨hb, heq⟩
        · exact Or.inr ⟨hb, heq.symm⟩

/-! ## Requests about the object -/

/-- A program that is told whether the namespace is active asks for it first. -/
theorem runs_namespaceActive_bind {α : Type} {ns : String} {f : Bool → StoreProgram α}
    {res : Except Failure α} (h : Runs Server.world (namespaceActive ns >>= f) s calls res t) :
    ∃ (q : StoreCall) (rest : List StoreCall), calls = q :: rest ∧
      q.request = .get .namespaceKind (.inCluster ns) ∧
      ((∃ e, res = .error e ∧ rest = [] ∧ t = s) ∨
        Runs Server.world (f (s.isActive ns)) s rest res t) := by
  unfold namespaceActive at h
  rw [Program.bind_eq, Program.bind_eq, Program.bind_assoc] at h
  obtain ⟨q, rest, rfl, hrequest, -, -, hend⟩ := runs_get_bind h
  refine ⟨q, rest, rfl, hrequest, ?_⟩
  rcases hend with hfail | ⟨-, hrest⟩
  · exact Or.inl hfail
  · refine Or.inr ?_
    unfold Server.isActive
    cases hfind : s.find? .namespaceKind (.inCluster ns) with
    | none =>
      rw [hfind] at hrest
      exact hrest
    | some n =>
      rw [hfind] at hrest
      exact hrest

/-! ## Teardown -/

theorem runs_removeFinalizer {res : Except Failure Unit}
    (h : Runs Server.world (removeFinalizer raw c.finalizer) s calls res t) :
    calls = [] ∨ ∃ q, calls = [q] ∧ q.request = c.removal raw ∧ q.before = s := by
  unfold removeFinalizer at h
  split at h
  · exact Or.inr (runs_update_pure h)
  · exact Or.inl (Program.runs_done_iff.1 h).1

/-- A pass of an object that is being deleted tears it down if it carries the finalizer, or does
nothing. -/
theorem teardown_of_finish {res : Except Failure PassEnd}
    (h : Runs Server.world (c.finish raw) s calls res t) :
    raw.metadata.hasFinalizer c.finalizer = false ∧ calls = [] ∧ t = s ∧ res = .ok .finalized ∨
      raw.metadata.hasFinalizer c.finalizer = true ∧ ∃ res',
        Runs Server.world (c.teardown raw) s calls res' t ∧ res = res'.map fun _ => .finalized := by
  unfold finish at h
  cases hfinalizer : raw.metadata.hasFinalizer c.finalizer with
  | true =>
    rw [hfinalizer, if_pos rfl] at h
    refine Or.inr ⟨rfl, ?_⟩
    rcases h.of_bind with ⟨e, rfl, hteardown⟩ | ⟨front, back, _, u, rfl, hteardown, hend⟩
    · exact ⟨.error e, hteardown, rfl⟩
    · obtain ⟨rfl, rfl, rfl⟩ := Program.runs_done_iff.1 hend
      rw [List.append_nil]
      exact ⟨.ok (), hteardown, rfl⟩
  | false =>
    rw [hfinalizer, if_neg Bool.false_ne_true] at h
    obtain ⟨rfl, rfl, rfl⟩ := Program.runs_done_iff.1 h
    exact Or.inl ⟨rfl, rfl, rfl, rfl⟩

/-- What a pass does between its two writes to its object. -/
def between (c : Component) (settings : PassSettings) (raw : Resource c.kind)
    (stored : Option (Resource c.kind)) : StoreProgram Unit := do
  c.install settings
  releasePrevious (stored.getD raw) (c.account raw) raw.metadata.nsOrEmpty c.releasesRoleBinding
  c.converge settings (c.withDefaults raw)

theorem settle_eq (c : Component) (settings : PassSettings) (raw : Resource c.kind) :
    c.settle settings raw = addFinalizer raw c.finalizer >>= fun stored =>
      (c.between settings raw stored).bind fun _ =>
        recordStatus (stored.getD raw) (c.account raw) := by
  simp only [settle, between, Program.bind_eq, Program.bind_assoc]

/-- The installation asks about definitions only. -/
theorem asks_install_definition :
    (c.install settings).Asks fun q : StoreRequest => q.kind = .definition := by
  rw [install_eq]
  cases hds : c.definitionTargets settings with
  | error e => trivial
  | ok ds =>
    refine asks_mono ?_ (Target.asks_workAll ds)
    rintro q ⟨x, hx, hkind, -⟩
    rw [hkind, (kind_of_definitionTargets hds x hx).1]

/-- The definitions are none of the objects that passes run on. -/
theorem asks_install : (c.install settings).Asks fun q : StoreRequest => q.kind ≠ c.kind := by
  refine asks_mono (fun q hq => ?_) asks_install_definition
  rw [hq]
  exact ne_kind_of_isDependent rfl

theorem asks_converge_elsewhere (r : Resource c.kind) :
    (c.converge settings r).Asks fun q : StoreRequest => q.kind ≠ c.kind := by
  rw [converge_eq]
  refine asks_bind (asks_mono ?_ (Target.asks_workAll _)) fun _ => asks_ofExcept _
  rintro q ⟨x, hx, hkind, -⟩
  rw [hkind]
  exact ne_kind_of_isDependent (isCompiled_of_reached x hx).dependent

theorem asks_releasePrevious (raw : Resource c.kind) (account ns : String) :
    (releasePrevious raw account ns c.releasesRoleBinding).Asks
      fun q : StoreRequest => q.kind ≠ c.kind := by
  rw [releasePrevious_eq_releaseAll]
  refine asks_mono ?_ (Binding.asks_releaseAll _ _)
  rintro q ⟨b, hkind⟩
  rw [hkind]
  exact kind_ne_binding b

/-- Nothing between the two writes is about the object. -/
theorem asks_between (stored : Option (Resource c.kind)) :
    (c.between settings raw stored).Asks fun q : StoreRequest => q.kind ≠ c.kind :=
  asks_bind asks_install fun _ =>
    asks_bind (asks_releasePrevious _ _ _) fun _ => asks_converge_elsewhere _

/-- A call while the stored object carries its finalizer, which leaves the object's metadata
alone. -/
structure IsHeld (c : Component) (key : Key) (q : StoreCall) : Prop where
  held : ∃ r, q.before.find? c.kind key = some r ∧ r.metadata.hasFinalizer c.finalizer = true
  elsewhere : q.request.kind = c.kind → ∃ r, q.request = .updateStatus c.kind r

theorem runs_addFinalizer {key : Key} {res : Except Failure (Option (Resource c.kind))}
    (hraw : s.find? c.kind key = some raw) (hstays : raw.metadata.isBeingDeleted = false)
    (h : Runs Server.world (addFinalizer raw c.finalizer) s calls res t) :
    (∀ q ∈ calls, q.request = c.addition raw ∧ q.before = s) ∧
      ∀ stored, res = .ok stored → t.find? c.kind key = some (stored.getD raw) ∧
        (stored.getD raw).metadata.hasFinalizer c.finalizer = true ∧
        ∃ finalizers version, stored.getD raw = raw.restated finalizers version raw.content := by
  by_cases hpresent : raw.metadata.hasFinalizer c.finalizer = true
  · rw [addFinalizer_present hpresent] at h
    obtain ⟨rfl, rfl, rfl⟩ := Program.runs_done_iff.1 h
    refine ⟨by simp, ?_⟩
    intro stored hok
    cases hok
    exact ⟨hraw, hpresent, _, _, raw.eq_restated⟩
  · rw [addFinalizer_missing hpresent] at h
    obtain ⟨q, rest, rfl, hrequest, hbefore, -, hend⟩ := runs_update_bind h
    rcases hend with ⟨e, rfl, rfl, rfl⟩ | ⟨r, hupdate, -, hrest⟩
    · refine ⟨by simpa using ⟨hrequest, hbefore⟩, ?_⟩
      intro stored hok
      cases hok
    · obtain ⟨rfl, rfl, rfl⟩ := Program.runs_done_iff.1 hrest
      refine ⟨by simpa using ⟨hrequest, hbefore⟩, ?_⟩
      intro stored hok
      cases hok
      exact update_addFinalizer_ok hraw hstays hupdate

theorem runs_recordStatus {r : Resource c.kind} {account : String} {res : Except Failure Unit}
    (h : Runs Server.world (recordStatus r account) s calls res t) :
    ∀ q ∈ calls, q.before = s ∧ ∃ r', q.request = .updateStatus c.kind r' := by
  by_cases hreported : r.reported = some (.deployedWith account)
  · rw [recordStatus_reported hreported] at h
    obtain ⟨rfl, -, -⟩ := Program.runs_done_iff.1 h
    simp
  · rw [recordStatus_missing hreported] at h
    obtain ⟨q, rfl, hrequest, hbefore⟩ := runs_updateStatus_pure h
    simp [hrequest, hbefore]

theorem runs_between {key : Key} {r : Resource c.kind} {stored : Option (Resource c.kind)}
    {res : Except Failure Unit} (hr : s.find? c.kind key = some r)
    (hfinalizer : r.metadata.hasFinalizer c.finalizer = true)
    (h : Runs Server.world (c.between settings raw stored) s calls res t) :
    (∀ q ∈ calls, c.IsHeld key q) ∧ t.find? c.kind key = some r := by
  have hasks := h.asks (asks_between stored)
  obtain ⟨hbefore, hafter⟩ : (∀ q ∈ calls, q.before.find? c.kind key = s.find? c.kind key) ∧
      t.find? c.kind key = s.find? c.kind key := find?_runs h fun q hq hplace => hasks q hq hplace.1
  refine ⟨fun q hq => ⟨⟨r, (hbefore q hq).trans hr, hfinalizer⟩, ?_⟩, hafter.trans hr⟩
  intro hkind
  exact absurd hkind (hasks q hq)

/-- The calls of a pass that settles its object: first its finalizer, and when it is there, the
rest. -/
theorem runs_settle {key : Key} {res : Except Failure Unit}
    (hraw : s.find? c.kind key = some raw) (hstays : raw.metadata.isBeingDeleted = false)
    (h : Runs Server.world (c.settle settings raw) s calls res t) :
    ∃ front back, calls = front ++ back ∧
      (∀ q ∈ front, q.request = c.addition raw ∧ q.before = s) ∧ ∀ q ∈ back, c.IsHeld key q := by
  rw [settle_eq] at h
  rcases h.of_bind with ⟨e, -, hadd⟩ | ⟨front, back, stored, u, rfl, hadd, hrest⟩
  · exact ⟨calls, [], by simp, (runs_addFinalizer hraw hstays hadd).1, by simp⟩
  · -- from here on the stored object carries the finalizer, and no stage takes it away
    obtain ⟨hfront, hadded⟩ := runs_addFinalizer hraw hstays hadd
    obtain ⟨hfind, hfinalizer, -⟩ := hadded stored rfl
    refine ⟨front, back, rfl, hfront, ?_⟩
    rcases hrest.of_bind with ⟨e, -, hmid⟩ | ⟨mid, last, _, v, rfl, hmid, hrecord⟩
    · exact (runs_between hfind hfinalizer hmid).1
    · obtain ⟨hheld, hv⟩ := runs_between hfind hfinalizer hmid
      have hlast := runs_recordStatus hrecord
      intro q hq
      rcases List.mem_append.1 hq with hq | hq
      · exact hheld q hq
      · exact ⟨⟨stored.getD raw, by rw [(hlast q hq).1, hv], hfinalizer⟩, fun _ => (hlast q hq).2⟩

/-- A pass of an object that is to stay asks for its namespace, and settles it if that is active. -/
theorem settle_of_proceed {res : Except Failure PassEnd}
    (h : Runs Server.world (c.proceed settings raw) s calls res t) :
    ∃ q rest, calls = q :: rest ∧
      q.request = .get .namespaceKind (.inCluster raw.metadata.nsOrEmpty) ∧
      (rest = [] ∧ t = s ∧ (res = .ok .namespaceInactive ∨ ∃ e, res = .error e) ∨
        s.isActive raw.metadata.nsOrEmpty = true ∧
          ∃ res', Runs Server.world (c.settle settings raw) s rest res' t ∧
            res = res'.map fun _ => .converged) := by
  unfold proceed at h
  obtain ⟨q, rest, rfl, hrequest, hend⟩ := runs_namespaceActive_bind h
  refine ⟨q, rest, rfl, hrequest, ?_⟩
  rcases hend with ⟨e, rfl, rfl, rfl⟩ | hrest
  · exact Or.inl ⟨rfl, rfl, Or.inr ⟨e, rfl⟩⟩
  · cases hactive : s.isActive raw.metadata.nsOrEmpty with
    | false =>
      rw [hactive] at hrest
      obtain ⟨rfl, rfl, rfl⟩ := Program.runs_done_iff.1 hrest
      exact Or.inl ⟨rfl, rfl, Or.inl rfl⟩
    | true =>
      rw [hactive] at hrest
      refine Or.inr ⟨rfl, ?_⟩
      rcases hrest.of_bind with ⟨e, rfl, hsettle⟩ | ⟨front, back, _, u, rfl, hsettle, hdone⟩
      · exact ⟨.error e, hsettle, rfl⟩
      · obtain ⟨rfl, rfl, rfl⟩ := Program.runs_done_iff.1 hdone
        rw [List.append_nil]
        exact ⟨.ok (), hsettle, rfl⟩

end Component

end GatewayOperator
