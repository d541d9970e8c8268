import GatewayOperator.Proofs.Reconcile.Rename

/-!
# Neighbours

Several objects of a namespace may use one service account, and then one subject of the cluster's
binding stands for all of them. `pass_spares_neighbour` says when a pass of one object takes a
subject away that another one needs: it does so exactly if it gives up the account that both use
(`Component.GivesUp`). A neighbour of another account is safe, whatever the object is renamed to and
whether or not it is being deleted.

`teardown_takes_shared_grant` is such a loss: of two gateways with default settings, the one that is
torn down takes the account out of the binding that the other one needs.
-/

namespace GatewayOperator

open StoreProgram
open Program (Runs)

/-! ## A subject in the binding of an account -/

/-- A subject is in the cluster's binding of an account, and nothing is about to take the binding
away. -/
def Server.HoldsSubject (s : Server) (account : String) (x : Subject) : Prop :=
  ∃ r, s.find? .clusterRoleBinding (.inCluster account) = some r ∧ Server.isReleased r = false ∧
    x ∈ Binding.cluster.subjects r

section

variable {account : String} {x : Subject} {α : Type}

theorem holdsSubject_congr {s t : Server}
    (h : t.find? .clusterRoleBinding (.inCluster account) =
      s.find? .clusterRoleBinding (.inCluster account)) (hs : s.HoldsSubject account x) :
    t.HoldsSubject account x := by
  unfold Server.HoldsSubject at hs ⊢
  rwa [h]

/-- A call that lays something over the binding keeps the subjects. -/
theorem holdsSubject_of_overlay {c : StoreCall} {live d : Resource .clusterRoleBinding}
    (hserved : c.IsServed Server.world)
    (hlive : c.before.find? .clusterRoleBinding (.inCluster account) = some live)
    (hheld : Server.isReleased live = false) (hx : x ∈ Binding.cluster.subjects live)
    (hrequest : c.request = .update .clusterRoleBinding (live.overlay d)) :
    c.after.HoldsSubject account x := by
  have hmerged : Server.merged (live.overlay d) live = live.overlay d :=
    (Server.merged_of_mark (deletionTimestamp_overlay live d)).trans
      (Resource.withStatusOf_overlay live d)
  -- so the update keeps a binding, that of the overlay
  have hstays : Server.isReleased (live.overlay d) = false :=
    (isReleased_overlay live d).trans hheld
  have hleaves := StoreCall.leaves_of_isServed hserved .clusterRoleBinding (.inCluster account)
  unfold Server.HoldsSubject
  generalize c.after.find? .clusterRoleBinding (.inCluster account) = found at hleaves
  cases hleaves with
  | same => exact ⟨live, hlive, hheld, hx⟩
  | released r stored hupdate hkey hstored hreleased =>
    rw [hrequest] at hupdate
    obtain rfl := StoreRequest.eq_of_update hupdate
    rw [hlive] at hstored
    cases hstored
    rw [hmerged, hstays] at hreleased
    cases hreleased
  | updated r stored version hupdate hkey hstored =>
    rw [hrequest] at hupdate
    obtain rfl := StoreRequest.eq_of_update hupdate
    rw [hlive] at hstored
    cases hstored
    rw [hmerged]
    exact ⟨_, rfl, hstays, mem_foldl_addMissing Subject.isSameAs hx⟩
  | deleted stored hdelete => rw [hrequest] at hdelete; cases hdelete
  | created r version uid hcreate => rw [hrequest] at hcreate; cases hcreate
  | reported r stored version hstatus => rw [hrequest] at hstatus; cases hstatus
  | marked stored version clock hdelete => rw [hrequest] at hdelete; cases hdelete

/-- A call of a convergence of the binding keeps the subjects. -/
theorem holdsSubject_of_isConvergence {c : StoreCall} {d : Resource .clusterRoleBinding}
    (hserved : c.IsServed Server.world) (h : IsConvergence d c)
    (hkey : c.request.key = .inCluster account)
    (hbefore : c.before.HoldsSubject account x) : c.after.HoldsSubject account x := by
  cases h with
  | reads hread => rwa [StoreCall.after_of_read hserved hread]
  | amends live hlive hrequest =>
    obtain ⟨stored, hstored, hheld, hx⟩ := hbefore
    have hplace : d.key = .inCluster account := by
      rw [hrequest] at hkey
      exact ((Resource.key_overlay live d).trans (Server.key_of_find? hlive)).symm.trans hkey
    rw [hplace, hstored] at hlive
    obtain rfl := Option.some.inj hlive
    exact holdsSubject_of_overlay hserved hstored hheld hx hrequest
  | creates _ hrequest =>
    obtain ⟨stored, hstored, hheld, hx⟩ := hbefore
    exact ⟨stored, StoreCall.find?_of_create hserved hrequest hstored, hheld, hx⟩

end

namespace Component

variable {c : Component} {settings : PassSettings} {raw : Resource c.kind} {s t : Server}
  {calls : List StoreCall} {ns account : String} {x : Subject} {key : Key}

/-! ## Accounts that are kept -/

/-- A call of a pass keeps the subjects of every account that its object does not give up. -/
theorem IsPassCall.holdsSubject {q : StoreCall} (h : c.IsPassCall settings key raw q)
    (hserved : q.IsServed Server.world) (hns : raw.metadata.ns = some ns)
    (hkept : ¬ c.GivesUp raw account)
    (hbefore : q.before.HoldsSubject account x) : q.after.HoldsSubject account x := by
  by_cases habout : q.request.isAbout .clusterRoleBinding (.inCluster account)
  case neg => exact holdsSubject_congr (StoreCall.find?_of_isServed hserved habout) hbefore
  obtain ⟨hkind, hkey⟩ := habout
  rcases h.releases_or_works (hkind ▸ kind_ne_clusterRoleBinding.symm) (by simp [hkind]) with
    ⟨b, -, other, hgives, -, s', calls', res', t', hruns, hq⟩ |
    ⟨y, hy, s', calls', res', t', hruns, hq⟩
  · -- the binding of another account is released
    obtain ⟨hkind', hkey'⟩ := (Binding.runs_release hruns).place q hq
    have hcluster : b.kind = Binding.cluster.kind := hkind'.symm.trans hkind
    have hplace : b.key other raw.metadata.nsOrEmpty =
        Binding.cluster.key account raw.metadata.nsOrEmpty := hkey'.symm.trans hkey
    obtain ⟨-, rfl⟩ := Binding.eq_of_place hcluster hplace
    exact absurd hgives hkept
  · -- the binding is compiled and laid over the one that is there
    have hy' : y.kind = .clusterRoleBinding := (hruns.asks y.asks_work q hq).1.symm.trans hkind
    obtain ⟨d, rfl, -⟩ :=
      binding_of_reached (by rw [metadata_withDefaults]; exact hns) .cluster hy hy'
    have hrepair := Target.isRepair_work d _ _ _ _ hruns q hq
    exact holdsSubject_of_isConvergence hserved hrepair.converges hkey hbefore

/-- A pass keeps the subjects of every account that its object does not give up. -/
theorem holdsSubject_of_pass {name : String} {res : Except Failure PassEnd}
    (hraw : s.find? c.kind (.inNamespace ns name) = some raw) (hkept : ¬ c.GivesUp raw account)
    (h : Runs Server.world (c.pass settings (.inNamespace ns name)) s calls res t)
    (hs : s.HoldsSubject account x) : t.HoldsSubject account x := by
  refine (h.keeps (fun u => u.HoldsSubject account x) hs fun q hq hserved hbefore => ?_).2
  rcases calls_of_pass h q hq with ⟨k, place, hread⟩ | ⟨raw', hraw', hcall⟩
  · rwa [StoreCall.after_of_read hserved (by rw [hread]; rfl)]
  · obtain rfl := Option.some.inj (hraw.symm.trans hraw')
    exact hcall.holdsSubject hserved (Server.ns_of_find? hraw) hkept hbefore

/-! ## Accounts that are given up -/

/-- The work on compiled objects leaves the bindings of other accounts than the current one as they
are. -/
theorem find?_of_converge {res : Except Failure Unit} (hns : raw.metadata.ns = some ns)
    (hne : account ≠ c.account raw)
    (h : Runs Server.world (c.converge settings (c.withDefaults raw)) s calls res t) :
    t.find? .clusterRoleBinding (.inCluster account) =
      s.find? .clusterRoleBinding (.inCluster account) := by
  rw [converge_eq] at h
  have hasks := h.asks (Program.asks_bind (Target.asks_workAll _) fun _ => asks_ofExcept _)
  refine (find?_runs h fun q hq habout => ?_).2
  obtain ⟨y, hy, hkind, hkey⟩ := hasks q hq
  -- a compiled binding is that of the current account
  obtain ⟨d, rfl, hd⟩ := binding_of_reached (by rw [metadata_withDefaults]; exact hns) .cluster hy
    (hkind.symm.trans habout.1)
  have hplace : d.key = .inCluster account := hkey.symm.trans habout.2
  rw [hd.key, metadata_withDefaults] at hplace
  exact hne (congrArg Key.name hplace).symm

/-- A pass that settles its object under another account than the recorded one takes the recorded
one out of its binding. -/
theorem not_grants_of_settle (hns : raw.metadata.ns = some ns)
    (hraw : s.find? c.kind key = some raw) (hstays : raw.metadata.isBeingDeleted = false)
    (hbound : raw.boundAccount? = some account) (hne : account ≠ c.account raw)
    (h : Runs Server.world (c.settle settings raw) s calls (.ok ()) t) :
    ¬ Binding.cluster.Grants t account ns := by
  have hempty : raw.metadata.nsOrEmpty = ns := Metadata.nsOrEmpty_of_ns hns
  rw [settle_eq] at h
  obtain ⟨_, _, stored, u, -, hadd, hrest⟩ := h.of_bind_ok
  obtain ⟨_, _, _, v, -, hbetween, hrecord⟩ := hrest.of_bind_ok
  obtain ⟨_, _, _, u₁, -, -, hbetween⟩ := hbetween.of_bind_ok
  obtain ⟨_, _, _, u₂, -, hrelease, hconverge⟩ := hbetween.of_bind_ok
  -- the account is released, and what comes after it is about the current one
  have hreleased : ¬ Binding.cluster.Grants u₂ account ns := by
    obtain ⟨-, -, finalizers, version, hstored⟩ := (runs_addFinalizer hraw hstays hadd).2 stored rfl
    rw [releasePrevious_eq_releaseAll, hempty] at hrelease
    refine (Binding.runs_releaseAll hrelease).released rfl (.cluster, account) ?_
    rw [mem_previousReleases, hstored, boundAccount?_restated]
    exact ⟨by cases c <;> simp [bindings], hbound, hne⟩
  have hconverged : v.find? .clusterRoleBinding (.inCluster account) =
      u₂.find? .clusterRoleBinding (.inCluster account) := find?_of_converge hns hne hconverge
  have hrecorded : t.find? .clusterRoleBinding (.inCluster account) =
      v.find? .clusterRoleBinding (.inCluster account) :=
    find?_binding_of_about (asks_recordStatus _ _) hrecord _
  rwa [Binding.grants_congr (hrecorded.trans hconverged)]

/-- A teardown that succeeds takes the current and the recorded account out of their bindings. -/
theorem not_grants_of_teardown (hns : raw.metadata.ns = some ns)
    (haccount : c.HasAccount raw account)
    (h : Runs Server.world (c.teardown raw) s calls (.ok ()) t) :
    ¬ Binding.cluster.Grants t account ns := by
  rw [teardown_eq, Metadata.nsOrEmpty_of_ns hns] at h
  obtain ⟨_, _, _, u, -, hrelease, hremove⟩ := h.of_bind_ok
  have hreleased : ¬ Binding.cluster.Grants u account ns :=
    (Binding.runs_releaseAll hrelease).released rfl (.cluster, account)
      (mem_teardownReleases.2 ⟨by cases c <;> simp [bindings], haccount⟩)
  have hremoved : t.find? .clusterRoleBinding (.inCluster account) =
      u.find? .clusterRoleBinding (.inCluster account) :=
    find?_binding_of_about (asks_removeFinalizer raw c.finalizer) hremove _
  rwa [Binding.grants_congr hremoved]

/-- A pass that succeeds takes the account that its object gives up out of its binding. -/
theorem not_grants_of_pass {name : String} {res : Except Failure PassEnd}
    (hraw : s.find? c.kind (.inNamespace ns name) = some raw) (hgives : c.GivesUp raw account)
    (hres : res = .ok .converged ∨ res = .ok .finalized)
    (h : Runs Server.world (c.pass settings (.inNamespace ns name)) s calls res t) :
    ¬ Binding.cluster.Grants t account ns := by
  have hns : raw.metadata.ns = some ns := Server.ns_of_find? hraw
  unfold GivesUp at hgives
  rcases hres with rfl | rfl
  · obtain ⟨hstays, _, rest, -, hsettle⟩ := settle_of_converged hraw h
    rw [hstays, if_neg Bool.false_ne_true] at hgives
    exact not_grants_of_settle hns hraw hstays hgives.1 hgives.2 hsettle
  · obtain ⟨hdeleted, htorndown⟩ := teardown_of_finalized hraw h
    rw [hdeleted, if_pos rfl] at hgives
    obtain ⟨_, rest, -, hteardown⟩ := htorndown hgives.1
    exact not_grants_of_teardown hns hgives.2 hteardown

/-- One of the things that happen around an account: a pass that does not give it up, or a request
about anything but its binding. -/
inductive Spares (ns account : String) (s : Server) : Server → Prop where
  /-- a pass of any object of the namespace that does not give the account up, whichever of its
  calls fail -/
  | pass (c : Component) (settings : PassSettings) (name : String) (raw : Resource c.kind)
      (calls : List StoreCall) (res : Except Failure PassEnd) (t : Server) :
      s.find? c.kind (.inNamespace ns name) = some raw → ¬ c.GivesUp raw account →
      Runs Server.world (c.pass settings (.inNamespace ns name)) s calls res t →
      Spares ns account s t
  /-- a request of anybody -/
  | request (q : StoreRequest) : ¬ q.isAbout .clusterRoleBinding (.inCluster account) →
      Spares ns account s (Server.world q s).2

/-- However many objects share a namespace, an account that none of them gives up keeps its
subjects. -/
theorem holdsSubject_of_spares (h : Relation.ReflTransGen (Spares ns account) s t)
    (hs : s.HoldsSubject account x) : t.HoldsSubject account x := by
  induction h with
  | refl => exact hs
  | tail _ hstep ih =>
    cases hstep with
    | pass c settings name raw calls res t hraw hkept hruns =>
      exact holdsSubject_of_pass hraw hkept hruns ih
    | request q hq =>
      refine holdsSubject_congr (Server.find?_world q _ fun hplace => hq ?_) ih
      exact ⟨hplace.1.symm, hplace.2.symm⟩

/-- What a pass of one object does to the subject that another object of its namespace needs: it
leaves it where it is, unless it gives up the account of the other one. Then it takes the subject
away. -/
theorem pass_spares_neighbour (c₁ c₂ : Component) (settings : PassSettings)
    (ns name₁ name₂ : String)
    (s t : Server) (raw₁ : Resource c₁.kind) (raw₂ : Resource c₂.kind) (calls : List StoreCall)
    (res : Except Failure PassEnd)
    (h₁ : s.find? c₁.kind (.inNamespace ns name₁) = some raw₁)
    (h₂ : s.find? c₂.kind (.inNamespace ns name₂) = some raw₂)
    (h : Runs Server.world (c₁.pass settings (.inNamespace ns name₁)) s calls res t) :
    (¬ c₁.GivesUp raw₁ (c₂.account raw₂) →
        ∀ x, s.HoldsSubject (c₂.account raw₂) x → t.HoldsSubject (c₂.account raw₂) x) ∧
      (c₁.GivesUp raw₁ (c₂.account raw₂) → res = .ok .converged ∨ res = .ok .finalized →
        ¬ Binding.cluster.Grants t (c₂.account raw₂) raw₂.metadata.nsOrEmpty) := by
  constructor
  · intro hkept x hx
    exact holdsSubject_of_pass h₁ hkept h hx
  · intro hgives hres
    rw [Metadata.nsOrEmpty_of_ns (Server.ns_of_find? h₂)]
    exact not_grants_of_pass h₁ hgives hres h

/-! A gateway with default settings is being deleted. Beside it, one gateway has default settings
too, and one has an account of its own. -/

/-- A gateway without settings of its own, but for those of its service account. -/
def gatewayNamed (name : String) (account : Option ServiceAccountSettings) : Gateway where
  metadata := { name := some name, ns := some "ns" }
  content := { spec := { common := { serviceAccount := account } } }

/-- A gateway with default settings that is being deleted. -/
def leavingGateway : Gateway :=
  (gatewayNamed "east" none).withMetadata fun m =>
    { m with
      finalizers := some [gatewayFinalizer],
      deletionTimestamp := some "1970-01-01T00:00:00Z" }

/-- The cluster's binding of a service account of `ns`. -/
def bindingOf (account : String) : Resource .clusterRoleBinding where
  metadata := { name := some account }
  content :=
    { roleRef := roleRefTo .clusterRole account, subjects := some [.serviceAccount account "ns"] }

def neighbourStore : Server where
  objects := [⟨.gateway, leavingGateway⟩, ⟨.gateway, gatewayNamed "west" none⟩,
    ⟨.gateway, gatewayNamed "north" (some { enable := true, name := "edge" })⟩,
    ⟨.clusterRoleBinding, bindingOf "higress-gateway"⟩, ⟨.clusterRoleBinding, bindingOf "edge"⟩]

/-- The account of the one gateway is gone with the pass. That of the other one is there as long as
nobody gives it up. -/
theorem pass_spares_neighbour_neighbourStore :
    ∃ t, (gateway.pass {} (.inNamespace "ns" "east")).run Server.world neighbourStore =
        (.ok .finalized, t) ∧
      t.HoldsSubject "edge" (.serviceAccount "edge" "ns") ∧
      (∀ u, Relation.ReflTransGen (Spares "ns" "edge") t u →
        u.HoldsSubject "edge" (.serviceAccount "edge" "ns")) ∧
      ¬ Binding.cluster.Grants t "higress-gateway" "ns" := by
  have hend : ((gateway.pass {} (.inNamespace "ns" "east")).run Server.world neighbourStore).1 =
      .ok .finalized := rfl
  obtain ⟨calls, hcalls⟩ := Program.runs_run Server.world
    (gateway.pass {} (.inNamespace "ns" "east")) neighbourStore
  have heast : neighbourStore.find? .gateway (.inNamespace "ns" "east") = some leavingGateway := rfl
  have hedge : ¬ gateway.GivesUp leavingGateway "edge" := by
    rintro ⟨-, haccount | hrecorded⟩
    · exact absurd haccount (by decide)
    · cases hrecorded
  have hshared : gateway.GivesUp leavingGateway "higress-gateway" := ⟨rfl, Or.inl rfl⟩
  have hnorth := (pass_spares_neighbour gateway gateway {} "ns" "east" "north" neighbourStore _
    leavingGateway (gatewayNamed "north" (some { enable := true, name := "edge" })) calls _ heast
    rfl hcalls).1 hedge _ ⟨bindingOf "edge", rfl, rfl, List.mem_singleton.2 rfl⟩
  have hwest := (pass_spares_neighbour gateway gateway {} "ns" "east" "west" neighbourStore _
    leavingGateway (gatewayNamed "west" none) calls _ heast rfl hcalls).2 hshared (Or.inr hend)
  exact ⟨_, Prod.ext hend rfl, hnorth,
    fun _ hspared => holdsSubject_of_spares hspared hnorth, hwest⟩

/-! Two gateways with default settings converge, and one of them is deleted. -/

/-- A pass of a gateway of `ns`. -/
def passOf (name : String) (s : Server) : Except Failure PassEnd × Server :=
  (gateway.pass {} (.inNamespace "ns" name)).run Server.world s

def twinStore : Server :=
  let s : Server := (({} : Server).insert (k := .namespaceKind) ⟨{ name := some "ns" }, {}⟩).2
  let s := (s.insert (k := .gateway) (gatewayNamed "east" none)).2
  (s.insert (k := .gateway) (gatewayNamed "west" none)).2

/-- The store after both gateways converged. -/
def sharedStore : Server := (passOf "west" (passOf "east" twinStore).2).2

/-- The store after one of them was deleted. -/
def halvedStore : Server := (sharedStore.delete .gateway (.inNamespace "ns" "east")).2

/-- The subjects of the cluster's binding of the account that both gateways use. -/
def sharedSubjects (s : Server) : Option (List Subject) :=
  (s.find? .clusterRoleBinding (.inCluster "higress-gateway")).map fun r =>
    Binding.cluster.subjects r

/-- The gateway that is not deleted needs its account as before and loses it. -/
theorem teardown_takes_shared_grant :
    (∀ name ∈ ["east", "west"],
        (gateway.common (gateway.withDefaults (gatewayNamed name none))).serviceAccountEnabled =
          true ∧
        (gateway.common (gateway.withDefaults (gatewayNamed name none))).rbacEnabled = true) ∧
      (passOf "east" twinStore).1.toOption = some .converged ∧
      (passOf "west" (passOf "east" twinStore).2).1.toOption = some .converged ∧
      (passOf "east" halvedStore).1.toOption = some .finalized ∧
      ((passOf "east" halvedStore).2.find? .gateway (.inNamespace "ns" "west")).map
        (fun r => (r.metadata.isBeingDeleted, r.content.spec, gateway.account r)) =
        some (false, (gatewayNamed "west" none).content.spec, "higress-gateway") ∧
      sharedSubjects halvedStore = some [.serviceAccount "higress-gateway" "ns"] ∧
      sharedSubjects (passOf "east" halvedStore).2 = some [] := by
  decide +kernel

end Component

end GatewayOperator
