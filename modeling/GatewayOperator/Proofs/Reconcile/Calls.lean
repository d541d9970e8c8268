import GatewayOperator.Proofs.Reconcile.Gating

/-!
# The calls of a pass

What a pass may do, whichever of its calls fail. It reads its object and the namespace of the
object, and then it stops, tears the object down or settles it (`isPassRun_of_pass`). Every call but
the reads is one of those that `IsPassCall` lists (`calls_of_pass`). A property that all calls of a
pass have is proved by these cases.
-/

namespace GatewayOperator

open StoreProgram
open Program (Runs)

/-! ## Calls of lists of steps -/

theorem Binding.makes_releaseAll {ns : String} {ps : List (Binding × String)} {q : StoreCall}
    (h : (Binding.releaseAll ns ps).Makes Server.world q) :
    ∃ p ∈ ps, (p.1.release p.2 ns).Makes Server.world q := by
  induction ps with
  | nil => exact absurd h Program.not_makes_done
  | cons p ps ih =>
    rcases h.of_bind with h | ⟨_, h⟩
    · exact ⟨p, List.mem_cons_self, h⟩
    · obtain ⟨p', hp', hmakes⟩ := ih h
      exact ⟨p', List.mem_cons_of_mem _ hp', hmakes⟩

theorem Target.makes_workAll {xs : List Target} {q : StoreCall}
    (h : (Target.workAll xs).Makes Server.world q) : ∃ x ∈ xs, x.work.Makes Server.world q := by
  induction xs with
  | nil => exact absurd h Program.not_makes_done
  | cons x xs ih =>
    rcases h.of_bind with h | ⟨_, h⟩
    · exact ⟨x, List.mem_cons_self, h⟩
    · obtain ⟨y, hy, hmakes⟩ := ih h
      exact ⟨y, List.mem_cons_of_mem _ hy, hmakes⟩

namespace Component

variable {c : Component} {settings : PassSettings} {raw : Resource c.kind} {s t : Server}
  {calls : List StoreCall} {key : Key}

theorem makes_install {q : StoreCall} (h : (c.install settings).Makes Server.world q) :
    ∃ ds, c.definitionTargets settings = .ok ds ∧ ∃ x ∈ ds, x.work.Makes Server.world q := by
  rw [install_eq] at h
  cases hds : c.definitionTargets settings with
  | error e =>
    rw [hds] at h
    exact absurd h Program.not_makes_done
  | ok ds =>
    rw [hds] at h
    exact ⟨ds, rfl, Target.makes_workAll h⟩

theorem makes_converge {owner : Resource c.kind} {q : StoreCall}
    (h : (c.converge settings owner).Makes Server.world q) :
    ∃ x ∈ c.reached settings owner, x.work.Makes Server.world q := by
  rw [converge_eq] at h
  rcases h.of_bind with h | ⟨_, h⟩
  · exact Target.makes_workAll h
  · exact absurd h Program.not_makes_done

/-! ## Accounts that are given up -/

/-- A pass of an object gives up a service account: it tears the object down while the account is
its current or recorded one, or it settles the object under another account than the recorded
one. -/
def GivesUp (c : Component) (raw : Resource c.kind) (account : String) : Prop :=
  if raw.metadata.isBeingDeleted then
    raw.metadata.hasFinalizer c.finalizer = true ∧ c.HasAccount raw account
  else raw.boundAccount? = some account ∧ account ≠ c.account raw

/-- The bindings that a pass releases before it works on compiled objects are those of the account
it gives up. -/
theorem mem_previousReleases {r : Resource c.kind} {current : String} {p : Binding × String} :
    p ∈ c.previousReleases r current ↔
      p.1 ∈ c.bindings ∧ r.boundAccount? = some p.2 ∧ p.2 ≠ current := by
  unfold previousReleases
  cases hbound : r.boundAccount? with
  | none => simp
  | some before =>
    dsimp only
    split
    · rename_i heq
      subst heq
      simp only [List.not_mem_nil, Option.some.injEq, false_iff]
      rintro ⟨-, rfl, hne⟩
      exact hne rfl
    · rename_i hne
      rw [mem_releases, Option.some.injEq]
      constructor
      · rintro ⟨hb, rfl⟩
        exact ⟨hb, rfl, hne⟩
      · rintro ⟨hb, rfl, -⟩
        exact ⟨hb, rfl⟩

theorem boundAccount?_restated (raw : Resource c.kind) (finalizers : Option (List String))
    (version : Option String) :
    (raw.restated finalizers version raw.content).boundAccount? = raw.boundAccount? := by
  cases c <;> rfl

/-- Finalizers and version have no part in what an object that is to stay gives up. -/
theorem givesUp_restated (hstays : raw.metadata.isBeingDeleted = false)
    (finalizers : Option (List String)) (version : Option String) {account : String} :
    c.GivesUp (raw.restated finalizers version raw.content) account ↔ c.GivesUp raw account := by
  have hstays' :
      (raw.restated finalizers version raw.content).metadata.isBeingDeleted = false := hstays
  unfold GivesUp
  rw [hstays, hstays', if_neg Bool.false_ne_true, if_neg Bool.false_ne_true, boundAccount?_restated,
    account_restated]

theorem GivesUp.hasAccount {account : String} (h : c.GivesUp raw account) :
    c.HasAccount raw account := by
  unfold GivesUp at h
  split at h
  · exact h.2
  · exact Or.inr h.1

/-! ## Calls -/

/-- The calls that a pass may make for the object that it read, besides reading the object's
namespace. -/
inductive IsPassCall (c : Component) (settings : PassSettings) (key : Key) (raw : Resource c.kind)
    (q : StoreCall) : Prop where
  /-- the finalizer is put on an object that is to stay -/
  | adds : raw.metadata.isBeingDeleted = false → q.before.find? c.kind key = some raw →
      q.request = c.addition raw → IsPassCall c settings key raw q
  /-- a definition is installed -/
  | installs (ds : List Target) (x : Target) : c.definitionTargets settings = .ok ds → x ∈ ds →
      x.work.Makes Server.world q → IsPassCall c settings key raw q
  /-- an account is released, while the object is there that gives it up -/
  | releases (b : Binding) (account : String) (r : Resource c.kind) : b ∈ c.bindings →
      q.before.find? c.kind key = some r → c.GivesUp r account → c.GivesUp raw account →
      (b.release account raw.metadata.nsOrEmpty).Makes Server.world q →
      IsPassCall c settings key raw q
  /-- a compiled object is worked on -/
  | works (x : Target) : x ∈ c.reached settings (c.withDefaults raw) → x.work.Makes Server.world q →
      IsPassCall c settings key raw q
  /-- a status is reported -/
  | reports (r : Resource c.kind) : r.key = raw.key → q.request = .updateStatus c.kind r →
      IsPassCall c settings key raw q
  /-- the finalizer is taken off an object that is being deleted -/
  | removes : raw.metadata.isBeingDeleted = true → q.before.find? c.kind key = some raw →
      q.request = c.removal raw → IsPassCall c settings key raw q

/-- A call that is neither about the object nor about a definition releases an account or works on a
compiled object. -/
theorem IsPassCall.releases_or_works {q : StoreCall} (h : c.IsPassCall settings key raw q)
    (hobject : q.request.kind ≠ c.kind) (hdefinition : q.request.kind ≠ .definition) :
    (∃ b ∈ c.bindings, ∃ account, c.GivesUp raw account ∧
        (∃ r, q.before.find? c.kind key = some r ∧ c.GivesUp r account) ∧
        (b.release account raw.metadata.nsOrEmpty).Makes Server.world q) ∨
      ∃ x ∈ c.reached settings (c.withDefaults raw), x.work.Makes Server.world q := by
  cases h with
  | adds _ _ hrequest => exact absurd (congrArg StoreRequest.kind hrequest) hobject
  | installs ds x hds hx hmakes =>
    refine absurd ?_ hdefinition
    rw [(hmakes.asks x.asks_work).1, (kind_of_definitionTargets hds x hx).1]
  | releases b account r hb hr hgives hgives' hmakes =>
    exact Or.inl ⟨b, hb, account, hgives', ⟨r, hr, hgives⟩, hmakes⟩
  | works x hx hmakes => exact Or.inr ⟨x, hx, hmakes⟩
  | reports r _ hrequest => exact absurd (congrArg StoreRequest.kind hrequest) hobject
  | removes _ _ hrequest => exact absurd (congrArg StoreRequest.kind hrequest) hobject

/-- If it is not about a binding either, it works on a compiled object of its kind. -/
theorem IsPassCall.exists_works {q : StoreCall} (h : c.IsPassCall settings key raw q)
    (hobject : q.request.kind ≠ c.kind) (hdefinition : q.request.kind ≠ .definition)
    (hbinding : ∀ b : Binding, q.request.kind ≠ b.kind) :
    ∃ x ∈ c.reached settings (c.withDefaults raw), x.kind = q.request.kind ∧
      x.work.Makes Server.world q := by
  rcases h.releases_or_works hobject hdefinition with
    ⟨b, -, account, -, -, hmakes⟩ | ⟨x, hx, hmakes⟩
  · exact absurd (hmakes.asks (b.asks_release account _)) (hbinding b)
  · exact ⟨x, hx, (hmakes.asks x.asks_work).1.symm, hmakes⟩

/-- Releases leave the object as it is. -/
theorem find?_object_releaseAll {ns : String} {ps : List (Binding × String)}
    {res : Except Failure Unit} (h : Runs Server.world (Binding.releaseAll ns ps) s calls res t) :
    (∀ q ∈ calls, q.before.find? c.kind key = s.find? c.kind key) ∧
      t.find? c.kind key = s.find? c.kind key := by
  refine find?_runs h fun q hq habout => ?_
  obtain ⟨b, hb⟩ := h.asks (Binding.asks_releaseAll _ _) q hq
  exact kind_ne_binding b (hb.symm.trans habout.1)

/-- Releases of accounts that an object gives up, while the object is there. -/
theorem calls_of_releaseAll {r : Resource c.kind} {ps : List (Binding × String)}
    {res : Except Failure Unit} (hr : s.find? c.kind key = some r)
    (hps : ∀ p ∈ ps, p.1 ∈ c.bindings ∧ c.GivesUp r p.2 ∧ c.GivesUp raw p.2)
    (h : Runs Server.world (Binding.releaseAll raw.metadata.nsOrEmpty ps) s calls res t) :
    ∀ q ∈ calls, c.IsPassCall settings key raw q := by
  intro q hq
  obtain ⟨p, hp, hmakes⟩ := Binding.makes_releaseAll (h.makes hq)
  obtain ⟨hb, hgives, hgives'⟩ := hps p hp
  exact .releases p.1 p.2 r hb (((find?_object_releaseAll h).1 q hq).trans hr) hgives hgives' hmakes

/-- What comes between the two writes to the object, which is there with a finalizer. -/
theorem calls_of_between {stored : Option (Resource c.kind)} {finalizers : Option (List String)}
    {version : Option String} {res : Except Failure Unit}
    (hstays : raw.metadata.isBeingDeleted = false)
    (hs : s.find? c.kind key = some (stored.getD raw))
    (hstored : stored.getD raw = raw.restated finalizers version raw.content)
    (h : Runs Server.world (c.between settings raw stored) s calls res t) :
    ∀ q ∈ calls, c.IsPassCall settings key raw q := by
  have hgives : ∀ p ∈ c.previousReleases (stored.getD raw) (c.account raw),
      p.1 ∈ c.bindings ∧ c.GivesUp (stored.getD raw) p.2 ∧ c.GivesUp raw p.2 := by
    intro p hp
    obtain ⟨hb, hbound, hne⟩ := mem_previousReleases.1 hp
    have hgives : c.GivesUp raw p.2 := by
      rw [hstored, boundAccount?_restated] at hbound
      unfold GivesUp
      rw [hstays, if_neg (by simp)]
      exact ⟨hbound, hne⟩
    refine ⟨hb, ?_, hgives⟩
    rw [hstored]
    exact (givesUp_restated hstays finalizers version).2 hgives
  have hinstalls {front : List StoreCall} {res : Except Failure Unit} {u : Server}
      (h : Runs Server.world (c.install settings) s front res u) :
      ∀ q ∈ front, c.IsPassCall settings key raw q := by
    intro q hq
    obtain ⟨ds, hds, x, hx, hmakes⟩ := makes_install (h.makes hq)
    exact .installs ds x hds hx hmakes
  rcases h.of_bind with ⟨e, -, hinstall⟩ | ⟨front, back, _, u, rfl, hinstall, hrest⟩
  · exact hinstalls hinstall
  refine List.forall_mem_append.2 ⟨hinstalls hinstall, ?_⟩
  -- the installation leaves the object as it is
  have hu : u.find? c.kind key = some (stored.getD raw) :=
    (find?_runs hinstall fun q hq habout => hinstall.asks asks_install q hq habout.1).2.trans hs
  rw [releasePrevious_eq_releaseAll] at hrest
  rcases hrest.of_bind with ⟨e, -, hrelease⟩ | ⟨mid, last, _, v, rfl, hrelease, hconverge⟩
  · exact calls_of_releaseAll hu hgives hrelease
  · refine List.forall_mem_append.2 ⟨calls_of_releaseAll hu hgives hrelease, fun q hq => ?_⟩
    obtain ⟨x, hx, hmakes⟩ := makes_converge (hconverge.makes hq)
    exact .works x hx hmakes

theorem calls_of_settle {res : Except Failure Unit} (hraw : s.find? c.kind key = some raw)
    (hstays : raw.metadata.isBeingDeleted = false)
    (h : Runs Server.world (c.settle settings raw) s calls res t) :
    ∀ q ∈ calls, c.IsPassCall settings key raw q := by
  have hadds {front : List StoreCall} {res : Except Failure (Option (Resource c.kind))} {u : Server}
      (h : Runs Server.world (addFinalizer raw c.finalizer) s front res u) :
      ∀ q ∈ front, c.IsPassCall settings key raw q := by
    intro q hq
    obtain ⟨hrequest, hbefore⟩ := (runs_addFinalizer hraw hstays h).1 q hq
    exact .adds hstays (hbefore ▸ hraw) hrequest
  rw [settle_eq] at h
  rcases h.of_bind with ⟨e, -, hadd⟩ | ⟨front, back, stored, u, rfl, hadd, hrest⟩
  · exact hadds hadd
  refine List.forall_mem_append.2 ⟨hadds hadd, ?_⟩
  obtain ⟨hu, -, finalizers, version, hstored⟩ := (runs_addFinalizer hraw hstays hadd).2 stored rfl
  rcases hrest.of_bind with ⟨e, -, hmid⟩ | ⟨mid, last, _, v, rfl, hmid, hrecord⟩
  · exact calls_of_between hstays hu hstored hmid
  · refine List.forall_mem_append.2 ⟨calls_of_between hstays hu hstored hmid, fun q hq => ?_⟩
    obtain ⟨-, r, hrequest⟩ := runs_recordStatus hrecord q hq
    obtain ⟨-, hkey⟩ := hrecord.asks (asks_recordStatus _ _) q hq
    rw [hrequest, hstored] at hkey
    exact .reports r hkey hrequest

/-- A teardown of an object with the finalizer. -/
theorem calls_of_teardown {res : Except Failure Unit} (hraw : s.find? c.kind key = some raw)
    (hdeleted : raw.metadata.isBeingDeleted = true)
    (hfinalizer : raw.metadata.hasFinalizer c.finalizer = true)
    (h : Runs Server.world (c.teardown raw) s calls res t) :
    ∀ q ∈ calls, c.IsPassCall settings key raw q := by
  -- the object that is there is the one that was read
  have hgives : ∀ p ∈ c.teardownReleases raw, p.1 ∈ c.bindings ∧ c.GivesUp raw p.2 ∧
      c.GivesUp raw p.2 := by
    intro p hp
    obtain ⟨hb, haccount⟩ := mem_teardownReleases.1 hp
    have hgives : c.GivesUp raw p.2 := by
      unfold GivesUp
      rw [hdeleted, if_pos rfl]
      exact ⟨hfinalizer, haccount⟩
    exact ⟨hb, hgives, hgives⟩
  rw [teardown_eq] at h
  rcases h.of_bind with ⟨e, -, hrelease⟩ | ⟨front, back, _, u, rfl, hrelease, hremove⟩
  · exact calls_of_releaseAll hraw hgives hrelease
  refine List.forall_mem_append.2 ⟨calls_of_releaseAll hraw hgives hrelease, ?_⟩
  rcases runs_removeFinalizer hremove with rfl | ⟨q, rfl, hrequest, hbefore⟩
  · simp
  · -- the releases leave the object as it is
    have hu : u.find? c.kind key = some raw := (find?_object_releaseAll hrelease).2.trans hraw
    simpa using IsPassCall.removes hdeleted (hbefore ▸ hu) hrequest

/-! ## Passes -/

/-- What a run of a pass does: it reads, and then it stops, tears its object down or settles it. -/
inductive IsPassRun (c : Component) (settings : PassSettings) (key : Key) (s : Server)
    (calls : List StoreCall) (res : Except Failure PassEnd) (t : Server) : Prop where
  | idle : (∀ q ∈ calls, ∃ k place, q.request = .get k place) → t = s → res ≠ .ok .converged →
      (res = .ok .finalized → ∃ raw, s.find? c.kind key = some raw ∧
        raw.metadata.isBeingDeleted = true ∧ raw.metadata.hasFinalizer c.finalizer = false) →
      IsPassRun c settings key s calls res t
  | teardown (raw : Resource c.kind) (res' : Except Failure Unit) (reads rest : List StoreCall) :
      s.find? c.kind key = some raw → raw.metadata.isBeingDeleted = true →
      raw.metadata.hasFinalizer c.finalizer = true → calls = reads ++ rest →
      (∀ q ∈ reads, ∃ k place, q.request = .get k place) →
      Runs Server.world (c.teardown raw) s rest res' t → res = res'.map (fun _ => .finalized) →
      IsPassRun c settings key s calls res t
  | settle (raw : Resource c.kind) (res' : Except Failure Unit) (reads rest : List StoreCall) :
      s.find? c.kind key = some raw → raw.metadata.isBeingDeleted = false →
      s.isActive raw.metadata.nsOrEmpty = true → calls = reads ++ rest →
      (∀ q ∈ reads, ∃ k place, q.request = .get k place) →
      Runs Server.world (c.settle settings raw) s rest res' t →
      res = res'.map (fun _ => .converged) →
      IsPassRun c settings key s calls res t

theorem isPassRun_of_pass {res : Except Failure PassEnd}
    (h : Runs Server.world (c.pass settings key) s calls res t) :
    c.IsPassRun settings key s calls res t := by
  rw [pass_eq] at h
  obtain ⟨q, rest, rfl, hrequest, -, -, hend⟩ := runs_get_bind h
  have hreads : ∀ p ∈ [q], ∃ k place, p.request = .get k place :=
    List.forall_mem_singleton.2 ⟨_, _, hrequest⟩
  rcases hend with ⟨e, rfl, rfl, rfl⟩ | ⟨-, hrest⟩
  · exact .idle hreads rfl (by simp) (by simp)
  cases hraw : s.find? c.kind key with
  | none =>
    rw [hraw] at hrest
    obtain ⟨rfl, rfl, rfl⟩ := Program.runs_done_iff.1 hrest
    exact .idle hreads rfl (by simp) (by simp)
  | some raw =>
    rw [hraw] at hrest
    cases hdeleted : raw.metadata.isBeingDeleted with
    | true =>
      simp only [handle, hdeleted, if_true] at hrest
      rcases teardown_of_finish hrest with
        ⟨hnone, rfl, rfl, rfl⟩ | ⟨hfinalizer, res', hteardown, rfl⟩
      · exact .idle hreads rfl (by simp) fun _ => ⟨raw, hraw, hdeleted, hnone⟩
      · exact .teardown raw res' [q] rest hraw hdeleted hfinalizer rfl hreads hteardown rfl
    | false =>
      simp only [handle, hdeleted, Bool.false_eq_true, if_false] at hrest
      obtain ⟨p, back, rfl, hget, hend⟩ := settle_of_proceed hrest
      have hreads : ∀ x ∈ [q, p], ∃ k place, x.request = .get k place :=
        List.forall_mem_cons.2 ⟨⟨_, _, hrequest⟩, List.forall_mem_singleton.2 ⟨_, _, hget⟩⟩
      rcases hend with ⟨rfl, rfl, rfl | ⟨e, rfl⟩⟩ | ⟨hactive, res', hsettle, rfl⟩
      · exact .idle hreads rfl (by simp) (by simp)
      · exact .idle hreads rfl (by simp) (by simp)
      · exact .settle raw res' [q, p] back hraw hdeleted hactive rfl hreads hsettle rfl

/-- Whichever of them fail, the calls of a pass are reads, and calls for the object that it read. -/
theorem calls_of_pass {res : Except Failure PassEnd}
    (h : Runs Server.world (c.pass settings key) s calls res t) :
    ∀ q ∈ calls, (∃ k place, q.request = .get k place) ∨
      ∃ raw, s.find? c.kind key = some raw ∧ c.IsPassCall settings key raw q := by
  intro q hq
  cases isPassRun_of_pass h with
  | idle hreads => exact Or.inl (hreads q hq)
  | teardown raw res' reads rest hraw hdeleted hfinalizer hcalls hreads hteardown =>
    rcases List.mem_append.1 (hcalls ▸ hq) with hq | hq
    · exact Or.inl (hreads q hq)
    · exact Or.inr ⟨raw, hraw, calls_of_teardown hraw hdeleted hfinalizer hteardown q hq⟩
  | settle raw res' reads rest hraw hstays _ hcalls hreads hsettle =>
    rcases List.mem_append.1 (hcalls ▸ hq) with hq | hq
    · exact Or.inl (hreads q hq)
    · exact Or.inr ⟨raw, hraw, calls_of_settle hraw hstays hsettle q hq⟩

/-- A pass converges only if it settles its object, which is to stay. -/
theorem settle_of_converged (hraw : s.find? c.kind key = some raw)
    (h : Runs Server.world (c.pass settings key) s calls (.ok .converged) t) :
    raw.metadata.isBeingDeleted = false ∧ ∃ reads rest, calls = reads ++ rest ∧
      Runs Server.world (c.settle settings raw) s rest (.ok ()) t := by
  cases isPassRun_of_pass h with
  | idle _ _ hother => exact absurd rfl hother
  | teardown raw' res' _ _ _ _ _ _ _ _ hres => cases res' <;> cases hres
  | settle raw' res' reads rest hraw' hstays _ hcalls _ hsettle hres =>
    obtain rfl := Option.some.inj (hraw.symm.trans hraw')
    cases res' with
    | error e => cases hres
    | ok _ => exact ⟨hstays, reads, rest, hcalls, hsettle⟩

/-- A pass finalizes only an object that is being deleted, and tears it down if it carries the
finalizer. -/
theorem teardown_of_finalized (hraw : s.find? c.kind key = some raw)
    (h : Runs Server.world (c.pass settings key) s calls (.ok .finalized) t) :
    raw.metadata.isBeingDeleted = true ∧ (raw.metadata.hasFinalizer c.finalizer = true →
      ∃ reads rest, calls = reads ++ rest ∧
        Runs Server.world (c.teardown raw) s rest (.ok ()) t) := by
  cases isPassRun_of_pass h with
  | idle _ _ _ hnone =>
    obtain ⟨raw', hraw', hdeleted, hnone⟩ := hnone rfl
    obtain rfl := Option.some.inj (hraw.symm.trans hraw')
    exact ⟨hdeleted, fun hfinalizer => by cases hfinalizer.symm.trans hnone⟩
  | settle raw' res' _ _ _ _ _ _ _ _ hres => cases res' <;> cases hres
  | teardown raw' res' reads rest hraw' hdeleted _ hcalls _ hteardown hres =>
    obtain rfl := Option.some.inj (hraw.symm.trans hraw')
    cases res' with
    | error e => cases hres
    | ok _ => exact ⟨hdeleted, fun _ => ⟨reads, rest, hcalls, hteardown⟩⟩

end Component

end GatewayOperator
