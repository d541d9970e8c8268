import GatewayOperator.Proofs.Reconcile.Release

/-!
# The object of a pass

A pass changes its own object in three respects: finalizers, version and status. `Resource.restated`
is an object that differs from another one in these only. What a component compiles from an object
does not depend on them (`targets_restated`), and neither does the service account
(`account_restated`). `addFinalizer_ok` and `recordStatus_ok` say what the two steps leave that
write the object.
-/

namespace GatewayOperator

open StoreProgram

namespace Resource

variable {k : Kind}

/-- An object with other finalizers, another version and the status of another content. -/
def restated (raw : Resource k) (finalizers : Option (List String)) (version : Option String)
    (status : k.Content) : Resource k where
  metadata := { raw.metadata with finalizers := finalizers, resourceVersion := version }
  content := contentWithStatusOf k raw.content status

theorem eq_restated (raw : Resource k) :
    raw = raw.restated raw.metadata.finalizers raw.metadata.resourceVersion raw.content := by
  unfold restated
  rw [contentWithStatusOf_self]

theorem withMetadata_finalizers (raw : Resource k) (finalizers : Option (List String)) :
    (raw.withMetadata fun m => { m with finalizers := finalizers }) =
      raw.restated finalizers raw.metadata.resourceVersion raw.content := by
  unfold restated
  rw [contentWithStatusOf_self]
  rfl

theorem restated_restated (raw : Resource k) (finalizers finalizers' : Option (List String))
    (version version' : Option String) (status status' : k.Content) :
    (raw.restated finalizers version status).restated finalizers' version' status' =
      raw.restated finalizers' version' status' := by
  unfold restated
  rw [contentWithStatusOf_twice]

end Resource

/-- The status that a converged pass reports. -/
def ComponentStatus.deployedWith (account : String) : ComponentStatus where
  deployed := true
  serviceAccountName := some account

namespace Component

variable {c : Component}

theorem common_restated (raw : Resource c.kind) (finalizers : Option (List String))
    (version : Option String) (status : c.kind.Content) :
    c.common (c.withDefaults (raw.restated finalizers version status)) =
      c.common (c.withDefaults raw) := by
  cases c <;> rfl

/-- The service account of an object depends on its specification. -/
@[simp] theorem account_restated (raw : Resource c.kind) (finalizers : Option (List String))
    (version : Option String) (status : c.kind.Content) :
    c.account (raw.restated finalizers version status) = c.account raw := by
  cases c <;> rfl

theorem metadata_withDefaults (raw : Resource c.kind) :
    (c.withDefaults raw).metadata = raw.metadata := by
  cases c <;> rfl

/-- What is compiled from an object depends on its identity and its specification. -/
@[simp] theorem targets_restated (settings : PassSettings) (raw : Resource c.kind)
    (finalizers : Option (List String)) (version : Option String) (status : c.kind.Content) :
    c.targets settings (c.withDefaults (raw.restated finalizers version status)) =
      c.targets settings (c.withDefaults raw) := by
  cases c <;> rfl

@[simp] theorem reached_restated (settings : PassSettings) (raw : Resource c.kind)
    (finalizers : Option (List String)) (version : Option String) (status : c.kind.Content) :
    c.reached settings (c.withDefaults (raw.restated finalizers version status)) =
      c.reached settings (c.withDefaults raw) := by
  cases c <;> rfl

theorem reported_withStatusOf (stored raw : Resource c.kind) :
    (stored.withStatusOf raw).reported = raw.reported := by
  cases c <;> rfl

theorem reported_withReported (raw : Resource c.kind) (status : ComponentStatus) :
    Resource.reported { raw with content := c.kind.withReported raw.content status } =
      some status := by
  cases c <;> rfl

/-- An object that reports a converged pass was bound to the account of that pass. -/
theorem boundAccount?_of_reported {r : Resource c.kind} {account : String}
    (h : r.reported = some (.deployedWith account)) : r.boundAccount? = some account := by
  unfold Resource.boundAccount?
  rw [h]
  rfl

end Component

/-! ## The finalizer -/

section Finalizer

variable {k : Kind} {raw : Resource k} {finalizer : String}

theorem addFinalizer_present (h : raw.metadata.hasFinalizer finalizer = true) :
    addFinalizer raw finalizer = pure none := if_pos h

theorem addFinalizer_missing (h : ¬ raw.metadata.hasFinalizer finalizer = true) :
    addFinalizer raw finalizer =
      StoreProgram.update (raw.withMetadata fun m => m.addFinalizer finalizer) >>= fun stored =>
        pure (some stored) := if_neg h

theorem hasFinalizer_addFinalizer (m : Metadata) (finalizer : String) :
    (m.addFinalizer finalizer).hasFinalizer finalizer = true := by
  simp [Metadata.addFinalizer, Metadata.hasFinalizer]

/-- What an update with the finalizer stores where the object is as it was read. -/
theorem update_addFinalizer_ok {s t : Server} {stored : Resource k} {key : Key}
    (hraw : s.find? k key = some raw) (hstays : raw.metadata.isBeingDeleted = false)
    (h : s.update (raw.withMetadata fun m => m.addFinalizer finalizer) = (.ok stored, t)) :
    t.find? k key = some stored ∧ stored.metadata.hasFinalizer finalizer = true ∧
      ∃ finalizers version, stored = raw.restated finalizers version raw.content := by
  have hkey := Server.key_of_find? hraw
  change (raw.withMetadata fun m => m.addFinalizer finalizer).key = key at hkey
  obtain ⟨rfl, hfind⟩ := Server.update_staying_ok hraw hkey rfl hstays h
  exact ⟨hfind, hasFinalizer_addFinalizer raw.metadata finalizer, _, _, rfl⟩

/-- After a step that adds a finalizer, the object is there and carries it. -/
theorem addFinalizer_ok {s t : Server} {stored : Option (Resource k)} {key : Key}
    (hraw : s.find? k key = some raw) (hstays : raw.metadata.isBeingDeleted = false)
    (h : (addFinalizer raw finalizer).run Server.world s = (.ok stored, t)) :
    t.find? k key = some (stored.getD raw) ∧
      (stored.getD raw).metadata.hasFinalizer finalizer = true ∧
      ∃ finalizers version, stored.getD raw = raw.restated finalizers version raw.content := by
  by_cases hpresent : raw.metadata.hasFinalizer finalizer = true
  · rw [addFinalizer_present hpresent] at h
    cases h
    exact ⟨hraw, hpresent, _, _, raw.eq_restated⟩
  · rw [addFinalizer_missing hpresent] at h
    obtain ⟨r, u, hupdate, hpure⟩ := Program.run_bind_ok.1 h
    cases hpure
    exact update_addFinalizer_ok hraw hstays hupdate

/-- Where the object is as it was read, a finalizer is added to it. -/
theorem addFinalizer_succeeds (finalizer : String) {s : Server} {key : Key}
    (hrejects : s.rejects k = false) (hraw : s.find? k key = some raw) :
    ∃ stored t, (addFinalizer raw finalizer).run Server.world s = (.ok stored, t) := by
  by_cases hpresent : raw.metadata.hasFinalizer finalizer = true
  · rw [addFinalizer_present hpresent]
    exact ⟨none, s, rfl⟩
  · rw [addFinalizer_missing hpresent]
    have hkey := Server.key_of_find? hraw
    have hfresh : Server.isStale
        (raw.withMetadata fun m => m.addFinalizer finalizer) raw = false := by
      simp [Server.isStale, Resource.withMetadata, Metadata.addFinalizer]
    obtain ⟨r, t, hupdate⟩ := Server.update_succeeds (r := raw.withMetadata fun m =>
      m.addFinalizer finalizer) hrejects (by exact hkey ▸ hraw) hfresh
    exact ⟨some r, t, Program.run_bind_of_ok hupdate⟩

end Finalizer

/-! ## The status -/

namespace Component

variable {c : Component} {raw : Resource c.kind} {account : String}

theorem recordStatus_reported (h : raw.reported = some (.deployedWith account)) :
    recordStatus raw account = pure () := if_pos h

theorem recordStatus_missing (h : ¬ raw.reported = some (.deployedWith account)) :
    recordStatus raw account =
      StoreProgram.updateStatus { raw with
        content := c.kind.withReported raw.content (.deployedWith account) } >>= fun _ => pure () :=
  if_neg h

/-- A recorded status is what the object reports, and nothing else of the object changes but its
version. -/
theorem recordStatus_ok {s t : Server} {key : Key} (hraw : s.find? c.kind key = some raw)
    (h : (recordStatus raw account).run Server.world s = (.ok (), t)) :
    ∃ version status, t.find? c.kind key =
        some (raw.restated raw.metadata.finalizers version status) ∧
      (raw.restated raw.metadata.finalizers version status).reported =
      some (.deployedWith account) := by
  by_cases hreported : raw.reported = some (.deployedWith account)
  · rw [recordStatus_reported hreported] at h
    cases h
    have heq := raw.eq_restated
    exact ⟨raw.metadata.resourceVersion, raw.content, heq ▸ hraw, heq ▸ hreported⟩
  · rw [recordStatus_missing hreported] at h
    obtain ⟨r, u, hupdate, hpure⟩ := Program.run_bind_ok.1 h
    cases hpure
    obtain ⟨stored, hstored, rfl, hfind⟩ := Server.updateStatus_ok hupdate
    -- the store keeps its own object and takes over the status only
    have hkey : raw.key = key := Server.key_of_find? hraw
    change s.find? c.kind raw.key = _ at hstored
    change t.find? c.kind raw.key = _ at hfind
    rw [hkey, hraw] at hstored
    cases hstored
    rw [hkey] at hfind
    refine ⟨_, _, hfind, ?_⟩
    exact (reported_withStatusOf raw _).trans (reported_withReported raw (.deployedWith account))

/-- Where the object is as it was read, its status is recorded. -/
theorem recordStatus_succeeds (account : String) {s : Server} {key : Key}
    (hraw : s.find? c.kind key = some raw) :
    ∃ t, (recordStatus raw account).run Server.world s = (.ok (), t) := by
  by_cases hreported : raw.reported = some (.deployedWith account)
  · rw [recordStatus_reported hreported]
    exact ⟨s, rfl⟩
  · rw [recordStatus_missing hreported]
    have hkey := Server.key_of_find? hraw
    let reported : Resource c.kind :=
      { raw with content := c.kind.withReported raw.content (.deployedWith account) }
    have hfresh : Server.isStale reported raw = false := by simp [reported, Server.isStale]
    have hstored : s.find? c.kind reported.key = some raw := hkey ▸ hraw
    obtain ⟨r, t, hupdate⟩ := Server.updateStatus_succeeds hstored hfresh
    exact ⟨t, Program.run_bind_of_ok hupdate⟩

end Component

end GatewayOperator
