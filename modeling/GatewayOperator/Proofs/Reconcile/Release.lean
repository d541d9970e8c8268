import GatewayOperator.Proofs.Reconcile.Component
import GatewayOperator.Proofs.Store.Call

/-!
# Released bindings

Two kinds of bindings are named after a service account: one of the cluster, one of its namespace.
`Binding` names them, and `Binding.release` is the one program that takes an account out of either.
In every run of it, also with failing calls (`runs_release`),

* it asks about the one binding only,
* what it writes is that binding as it is stored, without the account's subjects,
* if it succeeds, all of its calls did, and the binding does not grant anything to the account any
  more.
-/

namespace GatewayOperator

open Program (Runs asks_bind asks_mono)

/-- The bindings that are named after a service account. -/
inductive Binding where
  /-- the binding of the whole cluster -/
  | cluster
  /-- the binding of the account's namespace -/
  | role
  deriving DecidableEq, Repr

namespace Binding

/-- The kind of the binding. -/
abbrev kind : Binding → Kind
  | .cluster => .clusterRoleBinding
  | .role => .roleBinding

/-- Where the binding of an account is. -/
def key : Binding → (account ns : String) → Key
  | .cluster, account, _ => .inCluster account
  | .role, account, ns => .inNamespace ns account

def content : (b : Binding) → Resource b.kind → BindingContent
  | .cluster, r => r.content
  | .role, r => r.content

def withContent : (b : Binding) → Resource b.kind → BindingContent → Resource b.kind
  | .cluster, r, content => { r with content := content }
  | .role, r, content => { r with content := content }

/-- Whom the binding grants its role. -/
def subjects (b : Binding) (r : Resource b.kind) : List Subject := (b.content r).subjects.getD []

/-- The binding without the subjects of an account, the others in their order. -/
def pruned (b : Binding) (r : Resource b.kind) (account ns : String) : Resource b.kind :=
  b.withContent r { b.content r with subjects := some (Subject.prune (b.subjects r) account ns) }

/-- Whether an account is among the subjects of the binding that is named after it. -/
def Grants (b : Binding) (s : Server) (account ns : String) : Prop :=
  ∃ r, s.find? b.kind (b.key account ns) = some r ∧
    ∃ x ∈ b.subjects r, x.isAccount account ns = true

/-- Take an account out of the binding that is named after it. -/
def release : Binding → (account ns : String) → StoreProgram Unit
  | .cluster => releaseClusterBinding
  | .role => releaseRoleBinding

theorem released?_eq (content : BindingContent) (account ns : String) :
    released? content account ns =
      if (content.subjects.getD []).any (fun x => x.isAccount account ns) then
        some { content with
          subjects := some (Subject.prune (content.subjects.getD []) account ns) }
      else none := rfl

/-- What is done with a binding that was found. -/
def handle (b : Binding) (account ns : String) : Option (Resource b.kind) → StoreProgram Unit
  | none => pure ()
  | some r =>
    if (b.subjects r).any (fun x => x.isAccount account ns) then
      StoreProgram.update (b.pruned r account ns) >>= fun _ => pure ()
    else pure ()

/-- The form of both programs. -/
theorem release_eq (b : Binding) (account ns : String) :
    b.release account ns =
      StoreProgram.get b.kind (b.key account ns) >>= b.handle account ns := by
  cases b <;>
  · refine congrArg (Program.bind (StoreProgram.get _ _)) (funext fun found => ?_)
    cases found with
    | none => rfl
    | some r =>
      dsimp only
      rw [released?_eq]
      by_cases hany : ((r.content.subjects.getD []).any fun x => x.isAccount account ns) = true
      · rw [if_pos hany]
        exact (if_pos hany).symm
      · rw [if_neg hany]
        exact (if_neg hany).symm

/-! ## Pruned bindings -/

@[simp] theorem key_pruned (b : Binding) (r : Resource b.kind) (account ns : String) :
    (b.pruned r account ns).key = r.key := by
  cases b <;> rfl

@[simp] theorem metadata_pruned (b : Binding) (r : Resource b.kind) (account ns : String) :
    (b.pruned r account ns).metadata = r.metadata := by
  cases b <;> rfl

@[simp] theorem subjects_pruned (b : Binding) (r : Resource b.kind) (account ns : String) :
    b.subjects (b.pruned r account ns) = Subject.prune (b.subjects r) account ns := by
  cases b <;> rfl

theorem subjects_withVersion (b : Binding) (r : Resource b.kind) (version : Nat) :
    b.subjects (Server.withVersion r version) = b.subjects r := by
  cases b <;> rfl

theorem subjects_merged (b : Binding) (r stored : Resource b.kind) :
    b.subjects (Server.merged r stored) = b.subjects r := by
  cases b <;> rfl

/-- A pruned list of subjects does not hold the account any more. -/
theorem isAccount_of_mem_prune {subjects : List Subject} {account ns : String} {x : Subject}
    (h : x ∈ Subject.prune subjects account ns) : x.isAccount account ns = false := by
  have hkept := (List.mem_filter.1 h).2
  simpa using hkept

/-- After an update with the pruned binding, the binding grants nothing to the account. -/
theorem not_grants_of_update {b : Binding} {s t : Server} {r r' : Resource b.kind}
    {account ns : String} (hr : r.key = b.key account ns)
    (h : s.update (b.pruned r account ns) = (.ok r', t)) : ¬ b.Grants t account ns := by
  obtain ⟨stored, -, hplace⟩ := Server.update_ok h
  rw [key_pruned, hr] at hplace
  rintro ⟨x, hx, y, hy, hgrants⟩
  split at hplace
  · rw [hplace] at hx
    cases hx
  · obtain ⟨rfl, hfind⟩ := hplace
    rw [hfind] at hx
    cases hx
    rw [subjects_withVersion, subjects_merged, subjects_pruned] at hy
    rw [isAccount_of_mem_prune hy] at hgrants
    cases hgrants

/-- A call that takes an account out of its stored binding. -/
def IsPrune (b : Binding) (account ns : String) (c : StoreCall) : Prop :=
  ∃ r, c.before.find? b.kind (b.key account ns) = some r ∧
    c.request = .update b.kind (b.pruned r account ns)

/-- What the calls of a release are and what its success means. -/
structure IsRelease (b : Binding) (account ns : String) (calls : List StoreCall)
    (res : Except Failure Unit) (t : Server) : Prop where
  /-- it asks about the one binding -/
  place : ∀ c ∈ calls, StoreRequest.isAbout b.kind (b.key account ns) c.request
  /-- it writes nothing but the pruned binding -/
  prunes : ∀ c ∈ calls, c.request.isWrite = true → b.IsPrune account ns c
  succeeded : res = .ok () → ∀ c ∈ calls, StoreCall.Succeeded c
  released : res = .ok () → ¬ b.Grants t account ns

/-- The rest of a release, once the binding was read. -/
theorem runs_handle {b : Binding} {account ns : String} {s t : Server} {calls : List StoreCall}
    {res : Except Failure Unit}
    (h : Runs Server.world (b.handle account ns (s.find? b.kind (b.key account ns))) s
      calls res t) :
    b.IsRelease account ns calls res t := by
  cases hfind : s.find? b.kind (b.key account ns) with
  | none =>
    rw [hfind] at h
    obtain ⟨rfl, rfl, rfl⟩ := Program.runs_done_iff.1 h
    refine ⟨by simp, by simp, by simp, ?_⟩
    rintro - ⟨r, hr, -⟩
    rw [hfind] at hr
    cases hr
  | some r =>
    rw [hfind] at h
    have hkey := Server.key_of_find? hfind
    simp only [handle] at h
    split at h
    · -- the account is among the subjects, so the binding is written
      obtain ⟨c, rest, rfl, hrequest, hbefore, -, hend⟩ := runs_update_bind h
      have hplace : StoreRequest.isAbout b.kind (b.key account ns) c.request := by
        rw [hrequest]
        exact ⟨rfl, (key_pruned b r account ns).trans hkey⟩
      have hprune : b.IsPrune account ns c := ⟨r, by rw [hbefore]; exact hfind, hrequest⟩
      rcases hend with ⟨e, rfl, rfl, rfl⟩ | ⟨stored, hupdate, hsucceeded, hrest⟩
      · refine ⟨by simpa using hplace, by simpa using fun _ => hprune, ?_, ?_⟩
        · intro hok
          cases hok
        · intro hok
          cases hok
      · obtain ⟨rfl, rfl, rfl⟩ := Program.runs_done_iff.1 hrest
        exact ⟨by simpa using hplace, by simpa using fun _ => hprune, by simpa using hsucceeded,
          fun _ => not_grants_of_update hkey hupdate⟩
    · -- it is not, so nothing is to be released
      rename_i hany
      obtain ⟨rfl, rfl, rfl⟩ := Program.runs_done_iff.1 h
      refine ⟨by simp, by simp, by simp, ?_⟩
      rintro - ⟨r', hr', x, hx, hgrants⟩
      rw [hfind] at hr'
      cases hr'
      exact hany (List.any_eq_true.2 ⟨x, hx, hgrants⟩)

/-- Every run of a release reads the binding and writes it pruned, or fails. -/
theorem runs_release {b : Binding} {account ns : String} {s t : Server} {calls : List StoreCall}
    {res : Except Failure Unit}
    (h : Runs Server.world (b.release account ns) s calls res t) :
    b.IsRelease account ns calls res t := by
  rw [release_eq] at h
  obtain ⟨c, rest, rfl, hrequest, hbefore, hafter, hend⟩ := runs_get_bind h
  have hplace : StoreRequest.isAbout b.kind (b.key account ns) c.request := by
    rw [hrequest]
    exact ⟨rfl, rfl⟩
  have hread : ¬ c.request.isWrite = true := by simp [hrequest, StoreRequest.isWrite]
  rcases hend with ⟨e, rfl, rfl, rfl⟩ | ⟨hsucceeded, hrest⟩
  · refine ⟨by simpa using hplace, by simpa using fun hw => absurd hw hread, ?_, ?_⟩
    · intro hok
      cases hok
    · intro hok
      cases hok
  · have hhandle := runs_handle hrest
    refine ⟨?_, ?_, ?_, hhandle.released⟩
    · exact List.forall_mem_cons.2 ⟨hplace, hhandle.place⟩
    · exact List.forall_mem_cons.2 ⟨fun hw => absurd hw hread, hhandle.prunes⟩
    · exact fun hok => List.forall_mem_cons.2 ⟨hsucceeded, hhandle.succeeded hok⟩

/-- In a store that refuses no bindings, a release succeeds. -/
theorem release_succeeds {b : Binding} (account ns : String) {s : Server}
    (hrejects : s.rejects b.kind = false) :
    ∃ t, (b.release account ns).run Server.world s = (.ok (), t) := by
  rw [release_eq, run_get_bind]
  cases hfind : s.find? b.kind (b.key account ns) with
  | none => exact ⟨s, rfl⟩
  | some r =>
    have hkey := Server.key_of_find? hfind
    simp only [handle]
    split
    · have hfresh : Server.isStale (b.pruned r account ns) r = false := by
        simp [Server.isStale]
      obtain ⟨r', t, hupdate⟩ := Server.update_succeeds hrejects
        (by rw [key_pruned, hkey]; exact hfind) hfresh
      exact ⟨t, Program.run_bind_of_ok hupdate⟩
    · exact ⟨s, rfl⟩

/-- A release leaves every other place as it is. -/
theorem find?_run_release {b : Binding} {account ns : String} {j : Kind} {other : Key}
    (hplace : ¬ (b.kind = j ∧ b.key account ns = other)) (s : Server) :
    ((b.release account ns).run Server.world s).2.find? j other = s.find? j other := by
  obtain ⟨calls, hruns⟩ := Program.runs_run Server.world (b.release account ns) s
  refine (find?_runs hruns fun q hq habout => hplace ?_).2
  obtain ⟨hkind, hkey⟩ := (runs_release hruns).place q hq
  exact ⟨hkind.symm.trans habout.1, hkey.symm.trans habout.2⟩

/-! ## Several bindings -/

/-- Bindings are told apart by their places. -/
theorem eq_of_place {b d : Binding} {account other ns : String} (hkind : b.kind = d.kind)
    (hkey : b.key account ns = d.key other ns) : b = d ∧ account = other := by
  cases b <;> cases d
  · exact ⟨rfl, congrArg Key.name hkey⟩
  · cases hkind
  · cases hkind
  · exact ⟨rfl, congrArg Key.name hkey⟩

/-- What a binding grants is read off its place. -/
theorem grants_congr {b : Binding} {s t : Server} {account ns : String}
    (h : t.find? b.kind (b.key account ns) = s.find? b.kind (b.key account ns)) :
    b.Grants t account ns ↔ b.Grants s account ns := by
  unfold Grants
  rw [h]

/-- Take accounts out of bindings, one after the other. -/
def releaseAll (ns : String) : List (Binding × String) → StoreProgram Unit
  | [] => pure ()
  | p :: rest => do
    p.1.release p.2 ns
    releaseAll ns rest

theorem releaseAll_append (ns : String) (ps qs : List (Binding × String)) :
    releaseAll ns (ps ++ qs) = (releaseAll ns ps).bind fun _ => releaseAll ns qs := by
  induction ps with
  | nil => rfl
  | cons p ps ih =>
    show (p.1.release p.2 ns).bind (fun _ => releaseAll ns (ps ++ qs)) = _
    rw [ih]
    exact (Program.bind_assoc _ _ _).symm

/-- What the calls of several releases are and what their success means. -/
structure AreReleases (ns : String) (ps : List (Binding × String)) (calls : List StoreCall)
    (res : Except Failure Unit) (t : Server) : Prop where
  /-- they ask about these bindings -/
  place : ∀ c ∈ calls, ∃ p ∈ ps, StoreRequest.isAbout p.1.kind (p.1.key p.2 ns) c.request
  /-- they write nothing but these bindings, pruned -/
  prunes : ∀ c ∈ calls, c.request.isWrite = true → ∃ p ∈ ps, p.1.IsPrune p.2 ns c
  succeeded : res = .ok () → ∀ c ∈ calls, StoreCall.Succeeded c
  released : res = .ok () → ∀ p ∈ ps, ¬ p.1.Grants t p.2 ns

/-- Every run of several releases writes the bindings pruned, one after the other, or fails. -/
theorem runs_releaseAll {ns : String} {ps : List (Binding × String)} {s t : Server}
    {calls : List StoreCall} {res : Except Failure Unit}
    (h : Runs Server.world (releaseAll ns ps) s calls res t) : AreReleases ns ps calls res t := by
  induction ps generalizing s calls with
  | nil =>
    obtain ⟨rfl, rfl, rfl⟩ := Program.runs_done_iff.1 h
    exact ⟨by simp, by simp, by simp, by simp⟩
  | cons p ps ih =>
    -- a release that fails is the last one
    rcases h.of_bind with ⟨e, rfl, hfirst⟩ | ⟨front, back, _, u, rfl, hfirst, hrest⟩
    · have hhead := runs_release hfirst
      refine ⟨?_, ?_, ?_, ?_⟩
      · exact fun c hc => ⟨p, List.mem_cons_self, hhead.place c hc⟩
      · exact fun c hc hw => ⟨p, List.mem_cons_self, hhead.prunes c hc hw⟩
      · intro hok
        cases hok
      · intro hok
        cases hok
    · have hhead := runs_release hfirst
      have htail := ih hrest
      refine ⟨?_, ?_, ?_, ?_⟩
      · intro c hc
        rcases List.mem_append.1 hc with hc | hc
        · exact ⟨p, List.mem_cons_self, hhead.place c hc⟩
        · obtain ⟨q, hq, hplace⟩ := htail.place c hc
          exact ⟨q, List.mem_cons_of_mem _ hq, hplace⟩
      · intro c hc hw
        rcases List.mem_append.1 hc with hc | hc
        · exact ⟨p, List.mem_cons_self, hhead.prunes c hc hw⟩
        · obtain ⟨q, hq, hprune⟩ := htail.prunes c hc hw
          exact ⟨q, List.mem_cons_of_mem _ hq, hprune⟩
      · intro hok c hc
        rcases List.mem_append.1 hc with hc | hc
        · exact hhead.succeeded rfl c hc
        · exact htail.succeeded hok c hc
      · intro hok q hq
        rcases List.mem_cons.1 hq with rfl | hq
        · by_cases hagain : q ∈ ps
          · exact htail.released hok q hagain
          · -- the later releases are about other bindings
            have hframe := (find?_runs hrest (by
              rintro c hc ⟨hkind, hkey⟩
              obtain ⟨r, hr, hkind', hkey'⟩ := htail.place c hc
              obtain ⟨hb, ha⟩ := eq_of_place (hkind.symm.trans hkind') (hkey.symm.trans hkey')
              have heq : q = r := Prod.ext hb ha
              exact hagain (heq ▸ hr))).2
            rw [grants_congr hframe]
            exact hhead.released rfl
        · exact htail.released hok q hq

/-- A release asks about bindings of its kind, whatever it is answered. -/
theorem asks_release (b : Binding) (account ns : String) :
    (b.release account ns).Asks fun q : StoreRequest => q.kind = b.kind := by
  rw [release_eq]
  refine asks_bind (asks_get rfl) ?_
  intro found
  cases found with
  | none => trivial
  | some r =>
    unfold handle
    dsimp only
    split
    · exact ⟨rfl, fun a => by cases a <;> trivial⟩
    · trivial

theorem asks_releaseAll (ns : String) (ps : List (Binding × String)) :
    (releaseAll ns ps).Asks fun q : StoreRequest => ∃ b : Binding, q.kind = b.kind := by
  induction ps with
  | nil => trivial
  | cons p ps ih =>
    exact asks_bind (asks_mono (fun q hq => ⟨p.1, hq⟩) (asks_release p.1 p.2 ns)) fun _ => ih

/-- In a store that refuses nothing, all releases succeed. -/
theorem releaseAll_succeeds (ns : String) (ps : List (Binding × String)) {s : Server}
    (hrejects : s.rejected = []) :
    ∃ t, (releaseAll ns ps).run Server.world s = (.ok (), t) := by
  induction ps generalizing s with
  | nil => exact ⟨s, rfl⟩
  | cons p ps ih =>
    have haccepts : s.rejects p.1.kind = false := by simp [Server.rejects, hrejects]
    obtain ⟨u, hfirst⟩ := release_succeeds p.2 ns haccepts
    obtain ⟨t, hrest⟩ := ih ((rejected_of_run hfirst).trans hrejects)
    exact ⟨t, (Program.run_bind_of_ok hfirst).trans hrest⟩

end Binding

/-! ## The releases of a pass -/

namespace Component

/-- The bindings from which a component's accounts are released. -/
def bindings : Component → List Binding
  | .gateway => [.cluster]
  | .controller => [.cluster, .role]

/-- The releases of an account. -/
def releases (c : Component) (account : String) : List (Binding × String) :=
  c.bindings.map fun b => (b, account)

/-- The releases of the account that was bound last, if it is another one. -/
def previousReleases (c : Component) (raw : Resource c.kind) (account : String) :
    List (Binding × String) :=
  match raw.boundAccount? with
  | none => []
  | some before => if before = account then [] else c.releases before

theorem release_eq_releaseAll (c : Component) (account ns : String) :
    c.release account ns = Binding.releaseAll ns (c.releases account) := by
  cases c with
  | gateway => rfl
  | controller =>
    show _ = (releaseClusterBinding account ns).bind fun _ =>
      (releaseRoleBinding account ns).bind fun _ => pure ()
    rw [Program.bind_unit]
    rfl

theorem releasePrevious_eq_releaseAll (c : Component) (raw : Resource c.kind)
    (account ns : String) :
    releasePrevious raw account ns c.releasesRoleBinding =
      Binding.releaseAll ns (c.previousReleases raw account) := by
  rw [releasePrevious_eq]
  unfold previousReleases
  cases raw.boundAccount? with
  | none => rfl
  | some before =>
    dsimp only
    split
    · rfl
    · exact release_eq_releaseAll c before ns

/-- The releases of a teardown: of the current account and of the one that was bound last. -/
def teardownReleases (c : Component) (raw : Resource c.kind) : List (Binding × String) :=
  c.releases (c.account raw) ++ c.previousReleases raw (c.account raw)

theorem teardown_eq (c : Component) (raw : Resource c.kind) :
    c.teardown raw =
      (Binding.releaseAll raw.metadata.nsOrEmpty (c.teardownReleases raw)).bind fun _ =>
        removeFinalizer raw c.finalizer := by
  unfold teardown teardownReleases
  rw [release_eq_releaseAll, releasePrevious_eq_releaseAll, Binding.releaseAll_append]
  exact (Program.bind_assoc _ _ _).symm

end Component

end GatewayOperator
