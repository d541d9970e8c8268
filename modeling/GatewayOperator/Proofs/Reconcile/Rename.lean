import GatewayOperator.Proofs.Reconcile.Privilege

/-!
# Renamed accounts

When a pass has let its object go, nothing of the object stays bound if and only if every account
that was bound before is the current or the recorded one (`privilege_released_iff`). That is not
always so: a pass may bind an account and fail before it records it, and then the account may be
renamed (`privilege_released_iff_leftStore`).

`Careful` users rename an account only if it is recorded or not bound. Under them every bound
account is the current or the recorded one, after every pass, edit and deletion
(`covered_of_happens`), and so the condition is met.
-/

namespace GatewayOperator

open StoreProgram
open Program (Runs asks_mono)

namespace Component

variable {c : Component} {settings : PassSettings} {raw : Resource c.kind} {s t : Server}
  {calls : List StoreCall} {ns name : String} {key : Key}

/-! ## Careful edits -/

/-- The rule of users who rename an account only if it is recorded or not bound. -/
def Careful (c : Component) (ns : String) : Server → Resource c.kind → Resource c.kind → Prop :=
  fun s raw r => c.account r = c.account raw ∨ raw.boundAccount? = some (c.account raw) ∨
    ¬ Binding.cluster.Grants s (c.account raw) ns

/-- Every account that is bound is the current one of the object or the one that it records. -/
def Covered (c : Component) (key : Key) (ns : String) (s : Server) : Prop :=
  ∀ raw, s.find? c.kind key = some raw →
    ∀ account, Binding.cluster.Grants s account ns → c.HasAccount raw account

theorem grants_of_find? {account : String}
    (h : ∀ place, t.find? .clusterRoleBinding place = s.find? .clusterRoleBinding place) :
    Binding.cluster.Grants t account ns ↔ Binding.cluster.Grants s account ns :=
  Binding.grants_congr (h _)

/-- While a pass works, its object is as it was found, and accounts are bound that it has. -/
structure Working (c : Component) (key : Key) (ns : String) (raw : Resource c.kind) (u : Server) :
    Prop where
  object : c.HoldsObject key raw (· = raw.content) u
  covers : ∀ account, Binding.cluster.Grants u account ns → c.HasAccount raw account

theorem Working.covered {u : Server} (h : c.Working key ns raw u) : c.Covered key ns u := by
  obtain ⟨finalizers, version, status, rfl, hfind⟩ := h.object
  intro r hr account hgrants
  rw [hfind] at hr
  cases hr
  unfold HasAccount
  rw [account_restated, boundAccount?_restated]
  exact h.covers account hgrants

theorem Working.of_find {u : Server} (hraw : u.find? c.kind key = some raw)
    (hcovered : c.Covered key ns u) : c.Working key ns raw u :=
  ⟨⟨_, _, raw.content, rfl, raw.eq_restated ▸ hraw⟩, hcovered raw hraw⟩

theorem working_of_addFinalizer {res : Except Failure (Option (Resource c.kind))}
    (hraw : s.find? c.kind key = some raw) (hstays : raw.metadata.isBeingDeleted = false)
    (hs : c.Working key ns raw s)
    (h : Runs Server.world (addFinalizer raw c.finalizer) s calls res t) :
    c.Working key ns raw t := by
  have hfront := (runs_addFinalizer hraw hstays h).1
  constructor
  · exact (h.keeps (c.HoldsObject key raw (· = raw.content)) hs.object fun q hq hserved hbefore =>
      holdsObject_of_isServed hserved hraw hstays rfl (fun _ => Or.inr (hfront q hq)) hbefore).2
  · intro account hgrants
    have hframe := find?_binding_of_about (asks_addFinalizer raw c.finalizer) h
    exact hs.covers account ((grants_of_find? hframe).1 hgrants)

/-- Calls that leave the object alone and bind the object's account keep what holds while a pass
works. -/
theorem working_of_elsewhere {α : Type} {p : StoreProgram α} {res : Except Failure α}
    (hasks : p.Asks fun q : StoreRequest => q.kind ≠ c.kind)
    (honly : ∀ q ∈ calls, BindsOnly (· = c.account raw) ns q)
    (hs : c.Working key ns raw s) (h : Runs Server.world p s calls res t) :
    c.Working key ns raw t := by
  obtain ⟨finalizers, version, status, hstatus, hfind⟩ := hs.object
  constructor
  · have hframe : t.find? c.kind key = s.find? c.kind key :=
      (find?_runs h fun q hq hplace => h.asks hasks q hq hplace.1).2
    exact ⟨finalizers, version, status, hstatus, hframe.trans hfind⟩
  · refine (h.keeps (fun u => ∀ account, Binding.cluster.Grants u account ns →
      c.HasAccount raw account) hs.covers fun q hq hserved hbefore account hgrants => ?_).2
    rcases grants_of_isServed hserved (honly q hq) hgrants with hgrants | haccount
    · exact hbefore account hgrants
    · exact Or.inl haccount

/-- When a pass has done everything but record its status, it has released every other account. -/
theorem bound_of_between {stored : Option (Resource c.kind)}
    (hns : raw.metadata.ns = some ns)
    (hstored : (stored.getD raw).boundAccount? = raw.boundAccount?)
    (hs : c.Working key ns raw s) (honly : ∀ q ∈ calls, BindsOnly (· = c.account raw) ns q)
    (h : Runs Server.world (c.between settings raw stored) s calls (.ok ()) t) :
    ∀ account, Binding.cluster.Grants t account ns → account = c.account raw := by
  have hempty : raw.metadata.nsOrEmpty = ns := Metadata.nsOrEmpty_of_ns hns
  obtain ⟨_, _, _, u, rfl, hinstall, h⟩ := h.of_bind_ok
  obtain ⟨_, _, _, v, rfl, hrelease, hconverge⟩ := h.of_bind_ok
  simp only [List.forall_mem_append] at honly
  obtain ⟨hfirst, hmid, hlast⟩ := honly
  have hu := working_of_elsewhere asks_install hfirst hs hinstall
  rw [hempty] at hrelease
  have hv := working_of_elsewhere (asks_releasePrevious _ _ _) hmid hu hrelease
  rw [releasePrevious_eq_releaseAll] at hrelease
  have hreleased := (Binding.runs_releaseAll hrelease).released rfl
  -- what the pass released was the only other account
  have hbound : ∀ account, Binding.cluster.Grants v account ns → account = c.account raw := by
    intro account hgrants
    rcases hv.covers account hgrants with haccount | hrecorded
    · exact haccount
    · by_cases haccount : account = c.account raw
      · exact haccount
      · refine absurd hgrants (hreleased (.cluster, account) ?_)
        unfold previousReleases
        rw [hstored, hrecorded]
        dsimp only
        rw [if_neg haccount, mem_releases]
        exact ⟨by cases c <;> simp [bindings], rfl⟩
  refine (hconverge.keeps (fun u => ∀ account, Binding.cluster.Grants u account ns →
    account = c.account raw) hbound fun q hq hserved hbefore account hgrants => ?_).2
  rcases grants_of_isServed hserved (hlast q hq) hgrants with
    hgrants | haccount
  · exact hbefore account hgrants
  · exact haccount

/-- A pass that settles its object keeps it covered. -/
theorem covered_of_settle {res : Except Failure Unit} (hns : raw.metadata.ns = some ns)
    (hraw : s.find? c.kind key = some raw) (hstays : raw.metadata.isBeingDeleted = false)
    (hs : c.Covered key ns s) (h : Runs Server.world (c.settle settings raw) s calls res t) :
    c.Covered key ns t := by
  have hworking := Working.of_find hraw hs
  have honly : ∀ q ∈ calls, BindsOnly (· = c.account raw) ns q :=
    fun q hq => (calls_of_settle hraw hstays h q hq).bindsOnly hns
  rw [settle_eq] at h
  rcases h.of_bind with ⟨e, -, hadd⟩ | ⟨front, back, stored, u, rfl, hadd, hrest⟩
  · exact (working_of_addFinalizer hraw hstays hworking hadd).covered
  have hu := working_of_addFinalizer hraw hstays hworking hadd
  obtain ⟨hfind, -, finalizers, version, hstored⟩ :=
    (runs_addFinalizer hraw hstays hadd).2 stored rfl
  -- a pass that fails before it records its status leaves the old one, which still names what was
  -- bound
  obtain ⟨-, honly⟩ := List.forall_mem_append.1 honly
  rcases hrest.of_bind with ⟨e, -, hmid⟩ | ⟨mid, last, _, v, rfl, hmid, hrecord⟩
  · exact (working_of_elsewhere (asks_between stored) honly hu hmid).covered
  obtain ⟨honly, -⟩ := List.forall_mem_append.1 honly
  have hbound : ∀ account, Binding.cluster.Grants t account ns → account = c.account raw := by
    intro account hgrants
    have hframe := find?_binding_of_about (asks_recordStatus _ _) hrecord
    exact bound_of_between hns (by rw [hstored, boundAccount?_restated]) hu honly hmid account
      ((grants_of_find? hframe).1 hgrants)
  have hv := working_of_elsewhere (asks_between stored) honly hu hmid
  have hobject : c.HoldsObject key raw (fun _ => True) t := by
    obtain ⟨finalizers, version, status, -, hfind⟩ := hv.object
    refine (hrecord.keeps (c.HoldsObject key raw fun _ => True)
      ⟨finalizers, version, status, trivial, hfind⟩ fun q hq hserved hbefore =>
        holdsObject_of_isServed hserved hraw hstays trivial (fun _ => ?_) hbefore).2
    obtain ⟨r, hstatus⟩ := (runs_recordStatus hrecord q hq).2
    exact Or.inl ⟨r, hstatus, trivial⟩
  intro r hr account hgrants
  obtain ⟨_, _, _, -, hfind⟩ := hobject
  rw [hr] at hfind
  cases hfind
  refine Or.inl ?_
  rw [account_restated]
  exact hbound account hgrants

theorem account_updated (r stored : Resource c.kind) (version : Nat) :
    c.account (Server.withVersion (Server.merged r stored) version) = c.account r := by
  cases c <;> rfl

theorem boundAccount?_updated (r stored : Resource c.kind) (version : Nat) :
    (Server.withVersion (Server.merged r stored) version).boundAccount? = stored.boundAccount? := by
  cases c <;> rfl

theorem hasAccount_marked (stored : Resource c.kind) (version : Nat) (clock account : String) :
    c.HasAccount ((Server.withVersion stored version).withMetadata fun m =>
      { m with deletionTimestamp := some clock }) account ↔ c.HasAccount stored account := by
  cases c <;> rfl

/-- An update of the object or its deletion keeps it covered if the new object has every bound
account. -/
theorem covered_of_leaves {q : StoreRequest}
    (hleaves : Server.Leaves s q c.kind key (t.find? c.kind key))
    (hframe : ∀ place, t.find? .clusterRoleBinding place = s.find? .clusterRoleBinding place)
    (hs : c.Covered key ns s)
    (hrequest : (∃ r, q = .update c.kind r ∧ ∀ raw, s.find? c.kind key = some raw →
        ∀ account, Binding.cluster.Grants s account ns →
          account = c.account r ∨ raw.boundAccount? = some account) ∨
      q = .delete c.kind key) : c.Covered key ns t := by
  intro found hfound account hgrants
  rw [hfound] at hleaves
  have hgranted := (grants_of_find? hframe).1 hgrants
  -- the object that is found now is the old one, the updated one or the marked one
  generalize hsome : some found = left at hleaves
  cases hleaves with
  | same => exact hs found hsome.symm account hgranted
  | released => cases hsome
  | deleted => cases hsome
  | created r version uid hcreate =>
    rcases hrequest with ⟨r', hupdate, -⟩ | hdelete
    · rw [hcreate] at hupdate
      cases hupdate
    · rw [hcreate] at hdelete
      cases hdelete
  | updated r stored version hupdate hkey hstored =>
    cases hsome
    rcases hrequest with ⟨r', hupdate', hcovers⟩ | hdelete
    · rw [hupdate] at hupdate'
      obtain rfl := StoreRequest.eq_of_update hupdate'
      unfold HasAccount
      rw [account_updated, boundAccount?_updated]
      exact hcovers stored hstored account hgranted
    · rw [hupdate] at hdelete
      cases hdelete
  | reported r stored version hstatus =>
    rcases hrequest with ⟨r', hupdate, -⟩ | hdelete
    · rw [hstatus] at hupdate
      cases hupdate
    · rw [hstatus] at hdelete
      cases hdelete
  | marked stored version clock hdelete hstored =>
    cases hsome
    exact (hasAccount_marked stored version clock account).2 (hs stored hstored account hgranted)

theorem covered_of_removeFinalizer {res : Except Failure Unit}
    (hraw : s.find? c.kind key = some raw) (hs : c.Covered key ns s)
    (h : Runs Server.world (removeFinalizer raw c.finalizer) s calls res t) :
    c.Covered key ns t := by
  refine (h.keeps (c.Covered key ns) hs fun q hq hserved hbefore => ?_).2
  have habout := h.asks (asks_removeFinalizer raw c.finalizer) q hq
  rcases runs_removeFinalizer h with rfl | ⟨q', rfl, hrequest, hstart⟩
  · cases hq
  · obtain rfl := List.mem_singleton.1 hq
    refine covered_of_leaves (StoreCall.leaves_of_isServed hserved c.kind key) (fun place => ?_)
      hbefore (Or.inl ⟨_, hrequest, fun stored hstored account hgrants => ?_⟩)
    · exact StoreCall.find?_of_isServed hserved fun hplace =>
        kind_ne_clusterRoleBinding (habout.1.symm.trans hplace.1)
    · rw [hstart, hraw] at hstored
      cases hstored
      have haccount : c.account (raw.withMetadata fun m => m.removeFinalizer c.finalizer) =
          c.account raw := by
        cases c <;> rfl
      rw [haccount]
      exact hs raw hraw account (hstart ▸ hgrants)

theorem covered_of_teardown {res : Except Failure Unit} (hns : raw.metadata.nsOrEmpty = ns)
    (hraw : s.find? c.kind key = some raw) (hs : c.Covered key ns s)
    (h : Runs Server.world (c.teardown raw) s calls res t) : c.Covered key ns t := by
  have hrelease {calls : List StoreCall} {res : Except Failure Unit} {u : Server}
      (h : Runs Server.world (Binding.releaseAll ns (c.teardownReleases raw)) s calls res u) :
      c.Covered key ns u := by
    have honly := bindsOnly_releaseAll (· = c.account raw) ns _ _ _ _ _ h
    refine (working_of_elsewhere ?_ honly (Working.of_find hraw hs) h).covered
    refine asks_mono ?_ (Binding.asks_releaseAll _ _)
    rintro q ⟨b, hb⟩ hkind
    exact kind_ne_binding b (hb.symm.trans hkind)
  rw [teardown_eq, hns] at h
  rcases h.of_bind with ⟨e, -, hfail⟩ | ⟨front, back, _, u, -, hall, hremove⟩
  · exact hrelease hfail
  · exact covered_of_removeFinalizer ((find?_object_releaseAll hall).2.trans hraw) (hrelease hall)
      hremove

/-- A pass keeps its object covered, whichever of its calls fail. -/
theorem covered_of_pass {res : Except Failure PassEnd}
    (hs : c.Covered (.inNamespace ns name) ns s)
    (h : Runs Server.world (c.pass settings (.inNamespace ns name)) s calls res t) :
    c.Covered (.inNamespace ns name) ns t := by
  cases isPassRun_of_pass h with
  | idle _ hsame => exact hsame ▸ hs
  | teardown raw _ _ _ hraw _ _ _ _ hteardown =>
    exact covered_of_teardown (Metadata.nsOrEmpty_of_ns (Server.ns_of_find? hraw)) hraw hs hteardown
  | settle raw _ _ _ hraw hstays _ _ _ hsettle =>
    exact covered_of_settle (Server.ns_of_find? hraw) hraw hstays hs hsettle

/-- Whatever happens by careful users, the object stays covered. -/
theorem covered_of_happens (hs : c.Covered (.inNamespace ns name) ns s)
    (h : c.Happens (.inNamespace ns name) (c.Careful ns) s t) :
    c.Covered (.inNamespace ns name) ns t := by
  cases h with
  | pass settings calls res _ hruns => exact covered_of_pass hs hruns
  | edit raw r hraw hmeta hmay =>
    refine covered_of_leaves (Server.leaves_world s (.update c.kind r) c.kind _)
      (find?_binding_world (.update c.kind r) s rfl) hs
      (Or.inl ⟨r, rfl, fun stored hstored account hgrants => ?_⟩)
    rw [hraw] at hstored
    cases hstored
    rcases hs raw hraw account hgrants with rfl | hrecorded
    · -- the old account is bound, so the edit keeps it or it is recorded
      rcases hmay with hsame | hrecorded | hunbound
      · exact Or.inl hsame.symm
      · exact Or.inr hrecorded
      · exact absurd hgrants hunbound
    · exact Or.inr hrecorded
  | delete =>
    exact covered_of_leaves (Server.leaves_world s (.delete c.kind _) c.kind _)
      (find?_binding_world (.delete c.kind _) s rfl) hs (Or.inr rfl)

theorem covered_of_history (hs : c.Covered (.inNamespace ns name) ns s)
    (h : c.History (.inNamespace ns name) (c.Careful ns) s t) :
    c.Covered (.inNamespace ns name) ns t := by
  induction h with
  | refl => exact hs
  | tail _ hlast ih => exact covered_of_happens ih hlast

/-- Where nothing was bound at first, careful users keep the object covered. -/
theorem covered_of_careful {s₀ : Server} (hclean : ∀ place x, ¬ s₀.Binds ns place x)
    (h : c.History (.inNamespace ns name) (c.Careful ns) s₀ s) :
    c.Covered (.inNamespace ns name) ns s := by
  refine covered_of_history (fun raw _ account hgrants => ?_) h
  obtain ⟨x, hx, -⟩ := grants_iff_binds.1 hgrants
  exact absurd hx (hclean _ x)

/-! ## The end of a history -/

/-- Over every history, when a pass has let its object go, no binding of the cluster has a service
account of the object's namespace among its subjects if and only if every account that was bound
before the pass is the current one or the one that was recorded. Edits by careful users see to
that. -/
theorem privilege_released_iff (c : Component) (settings : PassSettings) (ns name : String)
    (s₀ s t : Server) (raw : Resource c.kind) (calls : List StoreCall)
    (res : Except Failure PassEnd) (hclean : ∀ place x, ¬ s₀.Binds ns place x)
    (hhistory : c.History (.inNamespace ns name) c.AnyEdit s₀ s)
    (hraw : s.find? c.kind (.inNamespace ns name) = some raw)
    (hpass : Runs Server.world (c.pass settings (.inNamespace ns name)) s calls res t)
    (hgone : t.find? c.kind (.inNamespace ns name) = none) :
    ((∀ place x, ¬ t.Binds ns place x) ↔
        ∀ account, Binding.cluster.Grants s account ns → c.HasAccount raw account) ∧
      (c.History (.inNamespace ns name) (c.Careful ns) s₀ s →
        ∀ account, Binding.cluster.Grants s account ns → c.HasAccount raw account) := by
  have hown : s.BindsOwn ns :=
    bindsOwn_of_history (fun place x hx => absurd hx (hclean place x)) hhistory
  have hns : raw.metadata.ns = some ns := Server.ns_of_find? hraw
  have hempty : raw.metadata.nsOrEmpty = ns := Metadata.nsOrEmpty_of_ns hns
  refine ⟨⟨fun hnone account hgrants => ?_, not_binds_of_gone hempty hown hraw hgone hpass⟩,
    fun hcareful => covered_of_careful hclean hcareful raw hraw⟩
  by_cases haccount : c.HasAccount raw account
  · exact haccount
  · -- the last pass would leave its binding as it is
    obtain ⟨x, hx, -⟩ := grants_iff_binds.1
      ((binds_of_gone hempty hraw hgone hpass haccount).2 hgrants)
    exact absurd hx (hnone _ x)

/-! A pass binds the account of a gateway and fails, before it records the account. Then the gateway
is renamed and deleted. -/

/-- A gateway that wants tracing and has no bootstrap for it. -/
def tracedGateway : Gateway where
  metadata :=
    { name := some "gw", ns := some "ns", uid := some "uid-2", resourceVersion := some "2" }
  content := { spec := { skywalking := some { enable := true } } }

def tracedStore : Server where
  objects := [⟨.namespaceKind, { name := some "ns" }, {}⟩, ⟨.gateway, tracedGateway⟩]
  version := 2

/-- The store after a pass that bound the account and missed the bootstrap. -/
def boundStore : Server :=
  ((gateway.pass {} (.inNamespace "ns" "gw")).run Server.world tracedStore).2

/-- The gateway as that pass left it. -/
def boundGateway : Gateway :=
  tracedGateway.restated (some [gatewayFinalizer]) (some "3") tracedGateway.content

/-- The gateway with another account and without tracing. -/
def renamedGateway : Gateway where
  metadata := boundGateway.metadata
  content := { spec := { common := { serviceAccount := some { enable := true, name := "edge" } } } }

/-- The store after the gateway was renamed and deleted. -/
def markedStore : Server :=
  ((boundStore.update renamedGateway).2.delete .gateway (.inNamespace "ns" "gw")).2

/-- The store after the last pass. -/
def leftStore : Server :=
  ((gateway.pass {} (.inNamespace "ns" "gw")).run Server.world markedStore).2

theorem history_markedStore :
    gateway.History (.inNamespace "ns" "gw") gateway.AnyEdit tracedStore markedStore := by
  obtain ⟨calls, hcalls⟩ := Program.runs_run Server.world
    (gateway.pass {} (.inNamespace "ns" "gw")) tracedStore
  refine .tail (.tail (.single (.pass {} calls _ _ hcalls)) ?_) .delete
  exact .edit (c := .gateway) boundGateway renamedGateway rfl rfl trivial

theorem privilege_released_iff_leftStore :
    ∃ raw calls res,
      gateway.History (.inNamespace "ns" "gw") gateway.AnyEdit tracedStore markedStore ∧
      markedStore.find? .gateway (.inNamespace "ns" "gw") = some raw ∧
      Runs Server.world (gateway.pass {} (.inNamespace "ns" "gw")) markedStore calls res leftStore ∧
      leftStore.find? .gateway (.inNamespace "ns" "gw") = none ∧
      ¬ ∀ place x, ¬ leftStore.Binds "ns" place x := by
  have hclean : ∀ place x, ¬ tracedStore.Binds "ns" place x := by
    rintro place x ⟨r, hr, -⟩
    have hmem := Server.mem_of_find? hr
    simp only [tracedStore, List.mem_cons, List.not_mem_nil, or_false] at hmem
    rcases hmem with hmem | hmem <;> cases hmem
  obtain ⟨raw, hraw, haccount, hrecorded⟩ : ∃ raw, markedStore.find? .gateway
      (.inNamespace "ns" "gw") = some raw ∧ gateway.account raw = "edge" ∧
      raw.boundAccount? = none := ⟨_, rfl, rfl, rfl⟩
  obtain ⟨calls, hcalls⟩ := Program.runs_run Server.world
    (gateway.pass {} (.inNamespace "ns" "gw")) markedStore
  refine ⟨raw, calls, _, history_markedStore, hraw, hcalls, rfl, fun hnone => ?_⟩
  have hall := (privilege_released_iff gateway {} "ns" "gw" tracedStore markedStore leftStore raw
    calls _ hclean history_markedStore hraw hcalls rfl).1.1 hnone
  have hgrants : Binding.cluster.Grants markedStore "higress-gateway" "ns" :=
    ⟨_, rfl, .serviceAccount "higress-gateway" "ns", List.mem_singleton.2 rfl, rfl⟩
  rcases hall "higress-gateway" hgrants with heq | heq
  · rw [haccount] at heq
    exact absurd heq (by decide)
  · rw [hrecorded] at heq
    cases heq

end Component

end GatewayOperator
