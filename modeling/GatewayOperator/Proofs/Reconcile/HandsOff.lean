import GatewayOperator.Proofs.Reconcile.Footprint
import GatewayOperator.Proofs.Settings.Defaulting

/-!
# Without access rules

An object may ask for a service account without access rules, or for none at all. Its passes then
work on no role and on no binding, with one exception: they take an account that the object gives up
out of the bindings that are named after it, whoever keeps these. `life_handsOff` says so of
everything that passes ask for over the life of an object, whichever of their calls fail and
whatever others do to the store meanwhile.

The exception is real: `disabled_still_releases` is a binding of a user that loses a subject by the
deletion of an object without access rules, and one that does so by a renaming.
-/

namespace GatewayOperator

open StoreProgram
open Program (Runs)

/-- The kinds of objects that give accounts their access. -/
def Kind.isAccess : Kind → Bool
  | .role | .roleBinding | .clusterRole | .clusterRoleBinding => true
  | _ => false

/-! ## Releases that have an effect -/

namespace Binding

/-- A call that takes an account out of the binding that is named after it and grants it
something. -/
def Withdraws (b : Binding) (account ns : String) (q : StoreCall) : Prop :=
  b.IsPrune account ns q ∧ b.Grants q.before account ns

/-- Every write of a release takes the account out of its binding. -/
theorem withdraws_release (b : Binding) (account ns : String) :
    (b.release account ns).EveryCall Server.world
      fun q => q.request.isWrite = true → b.Withdraws account ns q := by
  intro s calls res t h q hq hwrite
  refine ⟨(runs_release h).prunes q hq hwrite, ?_⟩
  rw [release_eq] at h
  obtain ⟨p, rest, rfl, hrequest, -, -, hend⟩ := runs_get_bind h
  rcases List.mem_cons.1 hq with rfl | hq
  · rw [hrequest] at hwrite
    cases hwrite
  rcases hend with ⟨e, -, rfl, -⟩ | ⟨-, hrest⟩
  · cases hq
  cases hfind : s.find? b.kind (b.key account ns) with
  | none =>
    rw [hfind] at hrest
    rw [(Program.runs_done_iff.1 hrest).1] at hq
    cases hq
  | some r =>
    rw [hfind] at hrest
    simp only [handle] at hrest
    split at hrest
    · -- the account is among the subjects, so the one call is made in the store that was read
      rename_i hany
      obtain ⟨p', rest, rfl, -, hbefore, -, hend⟩ := runs_update_bind hrest
      have hlast : rest = [] := by
        rcases hend with ⟨e, -, rfl, -⟩ | ⟨stored, -, -, hdone⟩
        · rfl
        · exact (Program.runs_done_iff.1 hdone).1
      subst hlast
      rw [List.mem_singleton.1 hq, hbefore]
      exact ⟨r, hfind, List.any_eq_true.1 hany⟩
    · rw [(Program.runs_done_iff.1 hrest).1] at hq
      cases hq

end Binding

namespace Component

variable {c : Component} {settings : PassSettings} {raw : Resource c.kind} {s t : Server}
  {calls : List StoreCall} {key : Key} {ns name : String}

/-! ## What is compiled without access rules -/

/-- An object that asks for no access rules, or for no service account. -/
def DisablesAccess (c : Component) (raw : Resource c.kind) : Prop :=
  (∃ r, (c.common raw).rbac = some r ∧ r.enable = false) ∨
    ∃ a, (c.common raw).serviceAccount = some a ∧ a.enable = false

/-- The settings that both kinds share are filled in alike. -/
theorem defaulted_common (raw : Resource c.kind) :
    ∃ account replicas, (c.common raw).Defaulted account replicas
      (c.common (c.withDefaults raw)) := by
  cases c with
  | gateway => exact ⟨_, _, (raw.content.spec.defaulted_withDefaults raw.metadata.nsOrEmpty).common⟩
  | controller => exact ⟨_, _, raw.content.spec.defaulted_withDefaults.common⟩

/-- What is disabled stays so when the other settings are filled in. -/
theorem disabled_withDefaults (h : c.DisablesAccess raw) :
    (c.common (c.withDefaults raw)).serviceAccountEnabled = false ∨
      (c.common (c.withDefaults raw)).rbacEnabled = false := by
  obtain ⟨account, replicas, hfilled⟩ := c.defaulted_common raw
  rcases h with ⟨r, hr, hdisabled⟩ | ⟨a, ha, hdisabled⟩
  · right
    have hkept : (c.common (c.withDefaults raw)).rbac = some r :=
      (hfilled.rbac.kept (by simp [hr])).trans hr
    simp only [CommonSettings.rbacEnabled, hkept, hdisabled]
  · left
    have hkept : (c.common (c.withDefaults raw)).serviceAccount = some a :=
      (hfilled.serviceAccount.kept (by simp [ha])).trans ha
    simp only [CommonSettings.serviceAccountEnabled, hkept, hdisabled]

theorem isAccess_of_identityTargets {k : Kind} {owner : Resource k} {common : CommonSettings}
    {component : String} {rules : List PolicyRule} {x : Target}
    (hx : x ∈ identityTargets owner common component rules) (haccess : x.kind.isAccess = true) :
    common.serviceAccountEnabled = true ∧ common.rbacEnabled = true := by
  have haccount := enabled_of_identityTargets hx
  unfold identityTargets at hx
  rw [if_pos haccount] at hx
  split at hx
  · rename_i hrbac
    exact ⟨haccount, hrbac⟩
  · rw [List.mem_singleton.1 hx] at haccess
    cases haccess

/-- A pass works on roles and bindings only where they are asked for. -/
theorem isAccess_of_reached {r : Resource c.kind} {x : Target} (hns : r.metadata.ns = some ns)
    (hx : x ∈ c.reached settings r) (haccess : x.kind.isAccess = true) :
    (c.common r).serviceAccountEnabled = true ∧ (c.common r).rbacEnabled = true := by
  rcases isWorkload_of_reached hns hx with hx | hx
  · cases c <;> exact isAccess_of_identityTargets hx haccess
  · -- what runs a component gives no access
    generalize x.kind = k at hx haccess
    generalize x.key = place at hx
    cases hx <;> cases haccess

/-! ## What a pass without access rules asks for -/

/-- A call that writes no role and no binding, or takes an account that the object gives up out of
its binding. -/
def IsHandsOff (c : Component) (ns name : String) (q : StoreCall) : Prop :=
  q.request.isWrite = true → q.request.kind.isAccess = true →
    ∃ raw, q.before.find? c.kind (.inNamespace ns name) = some raw ∧
      ∃ b ∈ c.bindings, ∃ account, c.GivesUp raw account ∧ b.Withdraws account ns q

theorem isAccess_kind : c.kind.isAccess = false := by cases c <;> rfl

/-- The calls of a pass for an object without access rules. -/
theorem IsPassCall.isHandsOff {q : StoreCall}
    (h : c.IsPassCall settings (.inNamespace ns name) raw q)
    (hns : raw.metadata.ns = some ns) (hdisabled : c.DisablesAccess raw) :
    c.IsHandsOff ns name q := by
  intro hwrite haccess
  have hkind {k : Kind} (hk : k.isAccess = false) : q.request.kind ≠ k := by
    rintro rfl
    cases hk.symm.trans haccess
  rcases h.releases_or_works (hkind isAccess_kind) (hkind rfl) with
    ⟨b, hb, account, -, ⟨r, hr, hgives⟩, hmakes⟩ | ⟨x, hx, hmakes⟩
  · rw [Metadata.nsOrEmpty_of_ns hns] at hmakes
    exact ⟨r, hr, b, hb, account, hgives, (b.withdraws_release account ns).of_makes hmakes hwrite⟩
  · -- without access rules no role and no binding is compiled
    have hx' : x.kind.isAccess = true := (hmakes.asks x.asks_work).1 ▸ haccess
    obtain ⟨haccount, hrbac⟩ :=
      isAccess_of_reached (by rw [metadata_withDefaults]; exact hns) hx hx'
    rcases disabled_withDefaults hdisabled with hoff | hoff
    · cases haccount.symm.trans hoff
    · cases hrbac.symm.trans hoff

/-- A pass of an object without access rules keeps its hands off roles and bindings, but for
accounts that the object gives up. -/
theorem handsOff_of_pass {res : Except Failure PassEnd}
    (hdisabled : ∀ raw, s.find? c.kind (.inNamespace ns name) = some raw → c.DisablesAccess raw)
    (h : Runs Server.world (c.pass settings (.inNamespace ns name)) s calls res t) :
    ∀ q ∈ calls, c.IsHandsOff ns name q := by
  intro q hq
  rcases calls_of_pass h q hq with ⟨k, place, hread⟩ | ⟨raw, hraw, hcall⟩
  · intro hwrite
    rw [hread] at hwrite
    cases hwrite
  · exact hcall.isHandsOff (Server.ns_of_find? hraw) (hdisabled raw hraw)

/-! ## The life of an object -/

/-- What becomes of a store with an object that asks for no access rules whenever it is passed: the
calls of its passes, and the store they lead to. Between the passes anybody may ask for anything. -/
inductive LifeWithoutAccess (c : Component) (ns name : String) (s : Server) :
    List StoreCall → Server → Prop where
  | start : LifeWithoutAccess c ns name s [] s
  /-- a pass, whichever of its calls fail -/
  | pass (calls : List StoreCall) (t : Server) (settings : PassSettings) (new : List StoreCall)
      (res : Except Failure PassEnd) (u : Server) : LifeWithoutAccess c ns name s calls t →
      (∀ raw, t.find? c.kind (.inNamespace ns name) = some raw → c.DisablesAccess raw) →
      Runs Server.world (c.pass settings (.inNamespace ns name)) t new res u →
      LifeWithoutAccess c ns name s (calls ++ new) u
  /-- an edit, a deletion or any other request by somebody else -/
  | request (calls : List StoreCall) (t : Server) (q : StoreRequest) :
      LifeWithoutAccess c ns name s calls t →
      LifeWithoutAccess c ns name s calls (Server.world q t).2

/-- Over the life of an object without access rules, its passes write no role and no cluster role,
create and delete no binding, and update one only to take out the account after which it is named,
when the account is among its subjects and the object gives it up. -/
theorem life_handsOff (c : Component) (ns name : String) (s t : Server) (calls : List StoreCall)
    (h : c.LifeWithoutAccess ns name s calls t) : ∀ q ∈ calls, c.IsHandsOff ns name q := by
  induction h with
  | start => simp
  | pass calls t settings new res u _ hdisabled hruns ih =>
    exact List.forall_mem_append.2 ⟨ih, handsOff_of_pass hdisabled hruns⟩
  | request calls t q _ ih => exact ih

/-! A user keeps the binding of an account. One gateway without access rules that has the account is
being deleted, and one that had it is renamed. -/

/-- A gateway that asks for a service account, but for no access rules. -/
def gatewayWithoutAccess (name account : String) (finalizers : Option (List String))
    (deletion : Option String) (recorded : Option String) : Gateway where
  metadata :=
    { name := some name, ns := some "ns", finalizers := finalizers, deletionTimestamp := deletion }
  content :=
    { spec := { common :=
        { rbac := some { enable := false }
          serviceAccount := some { enable := true, name := account } } }
      status := recorded.map .deployedWith }

/-- The gateway that is being deleted. -/
def withdrawnGateway : Gateway :=
  gatewayWithoutAccess "east" "higress-gateway" (some [gatewayFinalizer])
    (some "1970-01-01T00:00:00Z") none

/-- The gateway that is renamed. -/
def movedGateway : Gateway :=
  gatewayWithoutAccess "west" "edge" (some [gatewayFinalizer]) none (some "higress-gateway")

def keptStore : Server where
  objects := [⟨.namespaceKind, { name := some "ns" }, {}⟩, ⟨.gateway, withdrawnGateway⟩,
    ⟨.gateway, movedGateway⟩, ⟨.clusterRoleBinding, bindingOf "higress-gateway"⟩]

theorem life_handsOff_keptStore :
    ∃ calls t, gateway.LifeWithoutAccess "ns" "east" keptStore calls t ∧
      (∀ q ∈ calls, gateway.IsHandsOff "ns" "east" q) ∧ sharedSubjects t = some [] := by
  obtain ⟨calls, hcalls⟩ := Program.runs_run Server.world
    (gateway.pass {} (.inNamespace "ns" "east")) keptStore
  have heast : keptStore.find? .gateway (.inNamespace "ns" "east") = some withdrawnGateway := rfl
  have hdisabled : ∀ raw, keptStore.find? .gateway (.inNamespace "ns" "east") = some raw →
      gateway.DisablesAccess raw := by
    intro raw hraw
    obtain rfl := Option.some.inj (heast.symm.trans hraw)
    exact Or.inl ⟨_, rfl, rfl⟩
  have hlife : gateway.LifeWithoutAccess "ns" "east" keptStore ([] ++ calls) _ :=
    .pass [] keptStore {} calls _ _ .start hdisabled hcalls
  exact ⟨_, _, hlife, life_handsOff gateway "ns" "east" keptStore _ _ hlife, rfl⟩

/-- Both gateways ask for no access rules, and the binding of the user is written by the passes of
either. -/
theorem disabled_still_releases :
    (gateway.DisablesAccess withdrawnGateway ∧ gateway.DisablesAccess movedGateway) ∧
      sharedSubjects keptStore = some [.serviceAccount "higress-gateway" "ns"] ∧
      ((passOf "east" keptStore).1.toOption = some .finalized ∧
        ⟨"ClusterRoleBinding", .inCluster "higress-gateway", .update⟩ ∈
          (passOf "east" keptStore).2.writes ∧
        sharedSubjects (passOf "east" keptStore).2 = some []) ∧
      (passOf "west" keptStore).1.toOption = some .converged ∧
      ⟨"ClusterRoleBinding", .inCluster "higress-gateway", .update⟩ ∈
        (passOf "west" keptStore).2.writes ∧
      sharedSubjects (passOf "west" keptStore).2 = some [] := by
  refine ⟨⟨Or.inl ⟨_, rfl, rfl⟩, Or.inl ⟨_, rfl, rfl⟩⟩, ?_⟩
  decide +kernel

end Component

end GatewayOperator
