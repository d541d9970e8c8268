import GatewayOperator.Proofs.Reconcile.Calls
import Mathlib.Logic.Relation

/-!
# Privileges over the life of an object

Bindings of the cluster outlive the object whose service account they name. `Happens` is what may
become of a store that holds one such object: passes of which any call may fail, edits by its user,
its deletion. Over every history of these service accounts of the object's namespace are bound under
their own names only (`bindsOwn_of_history`).

A pass that lets the object go releases the current account and the recorded one. It leaves every
other binding as it was (`binds_of_gone`), so none stays behind if there is no other
(`not_binds_of_gone`).
-/

namespace GatewayOperator

open StoreProgram
open Program (Runs everyCall_bind everyCall_done everyCall_of_asks)

/-! ## Bound accounts -/

namespace Server

/-- Whether a subject of a cluster's binding is a service account of a namespace. -/
def Binds (s : Server) (ns : String) (place : Key) (x : Subject) : Prop :=
  ∃ r, s.find? .clusterRoleBinding place = some r ∧ x ∈ Binding.cluster.subjects r ∧
    x.kind = "ServiceAccount" ∧ x.ns = some ns

/-- Service accounts of a namespace are bound under their own names only. -/
def BindsOwn (s : Server) (ns : String) : Prop :=
  ∀ place x, s.Binds ns place x → place = .inCluster x.name

end Server

/-- An account is granted something if it is bound under its own name. -/
theorem grants_iff_binds {s : Server} {account ns : String} :
    Binding.cluster.Grants s account ns ↔
      ∃ x, s.Binds ns (.inCluster account) x ∧ x.name = account := by
  constructor
  · rintro ⟨r, hr, x, hx, haccount⟩
    simp only [Subject.isAccount, Bool.and_eq_true, beq_iff_eq] at haccount
    exact ⟨x, ⟨r, hr, hx, haccount.1.1, haccount.2⟩, haccount.1.2⟩
  · rintro ⟨x, ⟨r, hr, hx, hkind, hns⟩, hname⟩
    exact ⟨r, hr, x, hx, by simp [Subject.isAccount, hkind, hns, hname]⟩

/-- A call that binds no service accounts of a namespace but some, under their own names. -/
def BindsOnly (accounts : String → Prop) (ns : String) (c : StoreCall) : Prop :=
  ∀ r : Resource .clusterRoleBinding,
    c.request = .create .clusterRoleBinding r ∨ c.request = .update .clusterRoleBinding r →
    ∀ x ∈ Binding.cluster.subjects r, x.kind = "ServiceAccount" → x.ns = some ns →
      c.before.Binds ns r.key x ∨ r.key = .inCluster x.name ∧ accounts x.name

section

variable {accounts : String → Prop} {ns : String} {c : StoreCall}

/-- What is bound after a call was bound before, or the call binds it. -/
theorem binds_of_isServed (hserved : c.IsServed Server.world) (h : BindsOnly accounts ns c)
    {place : Key} {x : Subject} (hx : c.after.Binds ns place x) :
    c.before.Binds ns place x ∨ place = .inCluster x.name ∧ accounts x.name := by
  obtain ⟨r, hr, hmem, hkind, hns⟩ := hx
  -- only creations and updates bring subjects; all others leave those of the stored binding
  have hleaves := StoreCall.leaves_of_isServed hserved .clusterRoleBinding place
  generalize c.after.find? .clusterRoleBinding place = found at hr hleaves
  cases hleaves with
  | same => exact Or.inl ⟨r, hr, hmem, hkind, hns⟩
  | released => cases hr
  | deleted => cases hr
  | created written version uid hrequest hkey =>
    cases hr
    exact hkey ▸ h written (Or.inl hrequest) x hmem hkind hns
  | updated written stored version hrequest hkey hstored =>
    cases hr
    exact hkey ▸ h written (Or.inr hrequest) x hmem hkind hns
  | reported written stored version hrequest hkey hstored =>
    cases hr
    exact Or.inl ⟨stored, hstored, hmem, hkind, hns⟩
  | marked stored version clock hrequest hstored =>
    cases hr
    exact Or.inl ⟨stored, hstored, hmem, hkind, hns⟩

theorem bindsOwn_of_isServed (hserved : c.IsServed Server.world) (h : BindsOnly accounts ns c)
    (hown : c.before.BindsOwn ns) : c.after.BindsOwn ns := by
  intro place x hx
  rcases binds_of_isServed hserved h hx with hx | ⟨hplace, -⟩
  · exact hown place x hx
  · exact hplace

theorem grants_of_isServed (hserved : c.IsServed Server.world) (h : BindsOnly accounts ns c)
    {other : String} (hgrants : Binding.cluster.Grants c.after other ns) :
    Binding.cluster.Grants c.before other ns ∨ accounts other := by
  obtain ⟨x, hx, rfl⟩ := grants_iff_binds.1 hgrants
  rcases binds_of_isServed hserved h hx with hx | ⟨-, haccount⟩
  · exact Or.inl (grants_iff_binds.2 ⟨x, hx, rfl⟩)
  · exact Or.inr haccount

/-! ## What the calls of a pass bind -/

theorem bindsOnly_of_kind (h : c.request.kind ≠ .clusterRoleBinding) :
    BindsOnly accounts ns c := by
  rintro r (hrequest | hrequest)
  · exact absurd (congrArg StoreRequest.kind hrequest) h
  · exact absurd (congrArg StoreRequest.kind hrequest) h

/-- A release binds nobody. -/
theorem bindsOnly_release (accounts : String → Prop) (b : Binding) (account ns : String) :
    (b.release account ns).EveryCall Server.world (BindsOnly accounts ns) := by
  intro s calls res t h c hc r hrequest x hx hkind hns
  have hwrite : c.request.isWrite = true := by
    rcases hrequest with hrequest | hrequest <;> rw [hrequest] <;> rfl
  obtain ⟨stored, hstored, hprune⟩ := (Binding.runs_release h).prunes c hc hwrite
  -- a pruned binding holds no other subjects than the stored one
  rw [hprune] at hrequest
  rcases hrequest with hrequest | hrequest
  · cases hrequest
  · cases b with
    | role => cases congrArg StoreRequest.kind hrequest
    | cluster =>
      have heq := StoreRequest.eq_of_update hrequest
      subst heq
      rw [Binding.subjects_pruned] at hx
      refine Or.inl ⟨stored, ?_, (List.mem_filter.1 hx).1, hkind, hns⟩
      rw [Binding.key_pruned, Server.key_of_find? hstored]
      exact hstored

theorem bindsOnly_releaseAll (accounts : String → Prop) (ns : String)
    (ps : List (Binding × String)) :
    (Binding.releaseAll ns ps).EveryCall Server.world (BindsOnly accounts ns) := by
  intro s calls res t h q hq
  obtain ⟨p, -, hmakes⟩ := Binding.makes_releaseAll (h.makes hq)
  exact (bindsOnly_release accounts p.1 p.2 ns).of_makes hmakes

/-- The subjects of a binding that another one was laid over. -/
theorem mem_subjects_overlay {live d : Resource .clusterRoleBinding} {x : Subject}
    (h : x ∈ Binding.cluster.subjects (live.overlay d)) :
    x ∈ Binding.cluster.subjects live ∨ x ∈ Binding.cluster.subjects d :=
  mem_of_mem_foldl_addMissing Subject.isSameAs h

/-- A convergence towards the binding of an account binds this account. -/
theorem bindsOnly_convergeTo {account : String} {d : Resource .clusterRoleBinding}
    (hd : Component.IsBindingOf .cluster account ns d) :
    (convergeTo d).EveryCall Server.world (BindsOnly (· = account) ns) := by
  intro s calls res t h c hc r hrequest x hx hkind hns
  have hwrite : c.request.isWrite = true := by
    rcases hrequest with hrequest | hrequest <;> rw [hrequest] <;> rfl
  obtain ⟨live, hlive, hoverlay⟩ := isOverlayWith_convergeTo d s calls res t h c hc hwrite
  have hr : r = live.overlay d := by
    rcases hrequest with hrequest | hrequest <;> rw [hrequest] at hoverlay <;>
      rcases hoverlay with hoverlay | hoverlay
    · cases hoverlay
    · injection hoverlay
    · injection hoverlay
    · cases hoverlay
  subst hr
  -- the subject stood in the live binding, or it is the one that was compiled
  rcases mem_subjects_overlay hx with hx | hx
  · rcases hlive with hlive | rfl
    · refine Or.inl ⟨live, ?_, hx, hkind, hns⟩
      rw [Resource.key_overlay, Server.key_of_find? hlive]
      exact hlive
    · cases hx
  · rw [hd.subjects, List.mem_singleton] at hx
    subst hx
    refine Or.inr ⟨?_, rfl⟩
    rw [Resource.key_overlay]
    rcases hlive with hlive | rfl
    · rw [Server.key_of_find? hlive]
      exact hd.key
    · rw [hd.key]
      rfl

/-- The step of a target binds the one account whose binding it may be. -/
theorem bindsOnly_work {account : String} {x : Target}
    (h : x.kind = .clusterRoleBinding → ∃ d : Resource Binding.cluster.kind,
      x = .settled d ∧ Component.IsBindingOf .cluster account ns d) :
    x.work.EveryCall Server.world (BindsOnly (· = account) ns) := by
  by_cases hkind : x.kind = .clusterRoleBinding
  · obtain ⟨d, rfl, hd⟩ := h hkind
    exact everyCall_bind (bindsOnly_convergeTo hd) fun _ => everyCall_done _
  · exact everyCall_of_asks (Target.asks_work x) fun c hc =>
      bindsOnly_of_kind fun hcluster => hkind (hc.1.symm.trans hcluster)

end

namespace Component

variable {c : Component} {settings : PassSettings} {raw : Resource c.kind} {s t : Server}
  {calls : List StoreCall} {ns : String} {key : Key}

theorem kind_ne_clusterRoleBinding : c.kind ≠ .clusterRoleBinding := by
  cases c <;> simp

/-- Calls about the object leave every binding as it is. -/
theorem find?_binding_of_about {α : Type} {p : StoreProgram α} {res : Except Failure α}
    {other : Key} (hp : p.Asks (StoreRequest.isAbout c.kind other))
    (h : Runs Server.world p s calls res t) (place : Key) :
    t.find? .clusterRoleBinding place = s.find? .clusterRoleBinding place :=
  find?_runs_of_about hp h fun hplace => kind_ne_clusterRoleBinding hplace.1.symm

/-- A pass of an object binds its account. -/
theorem IsPassCall.bindsOnly {q : StoreCall} (h : c.IsPassCall settings key raw q)
    (hns : raw.metadata.ns = some ns) : BindsOnly (· = c.account raw) ns q := by
  by_cases hkind : q.request.kind = .clusterRoleBinding
  case neg => exact bindsOnly_of_kind hkind
  rcases h.releases_or_works (hkind ▸ kind_ne_clusterRoleBinding.symm) (by simp [hkind]) with
    ⟨b, -, account, -, -, hmakes⟩ | ⟨x, hx, hmakes⟩
  · rw [Metadata.nsOrEmpty_of_ns hns] at hmakes
    exact (bindsOnly_release _ b account ns).of_makes hmakes
  · refine (bindsOnly_work fun hkind => ?_).of_makes hmakes
    have hbinding := binding_of_reached (by rw [metadata_withDefaults]; exact hns) .cluster hx hkind
    rw [metadata_withDefaults] at hbinding
    exact hbinding

theorem bindsOnly_of_pass {name : String} {res : Except Failure PassEnd}
    (h : Runs Server.world (c.pass settings (.inNamespace ns name)) s calls res t) :
    ∀ q ∈ calls, BindsOnly (fun account => ∃ raw, s.find? c.kind (.inNamespace ns name) = some raw ∧
      account = c.account raw) ns q := by
  intro q hq
  rcases calls_of_pass h q hq with ⟨k, place, hrequest⟩ | ⟨raw, hraw, hcall⟩
  · rintro r (hcreate | hupdate)
    · cases hrequest.symm.trans hcreate
    · cases hrequest.symm.trans hupdate
  · intro r hwrite x hx hkind hns
    rcases hcall.bindsOnly (Server.ns_of_find? hraw) r hwrite x hx hkind hns with
      hbefore | ⟨hplace, haccount⟩
    · exact Or.inl hbefore
    · exact Or.inr ⟨hplace, raw, hraw, haccount⟩

/-! ## Histories -/

/-- What may happen to a store that holds one object of a component, if its user keeps to a rule. -/
inductive Happens (c : Component) (key : Key)
    (mayEdit : Server → Resource c.kind → Resource c.kind → Prop) (s : Server) : Server → Prop where
  /-- a pass of the object, whichever of its calls fail -/
  | pass (settings : PassSettings) (calls : List StoreCall) (res : Except Failure PassEnd)
      (t : Server) : Runs Server.world (c.pass settings key) s calls res t →
        Happens c key mayEdit s t
  /-- an edit of its specification -/
  | edit (raw r : Resource c.kind) : s.find? c.kind key = some raw → r.metadata = raw.metadata →
      mayEdit s raw r → Happens c key mayEdit s (s.update r).2
  /-- its deletion -/
  | delete : Happens c key mayEdit s (s.delete c.kind key).2

/-- What may become of a store that holds one object of a component. -/
def History (c : Component) (key : Key)
    (mayEdit : Server → Resource c.kind → Resource c.kind → Prop) : Server → Server → Prop :=
  Relation.ReflTransGen (c.Happens key mayEdit)

/-- The rule of users who edit what they like. -/
def AnyEdit (c : Component) : Server → Resource c.kind → Resource c.kind → Prop := fun _ _ _ => True

variable {mayEdit : Server → Resource c.kind → Resource c.kind → Prop} {name : String}

theorem find?_binding_world (q : StoreRequest) (s : Server) (h : q.kind = c.kind) (place : Key) :
    (Server.world q s).2.find? .clusterRoleBinding place = s.find? .clusterRoleBinding place :=
  Server.find?_world q s fun hp => kind_ne_clusterRoleBinding (h.symm.trans hp.1.symm)

theorem binds_congr {place : Key} {x : Subject}
    (h : t.find? .clusterRoleBinding place = s.find? .clusterRoleBinding place) :
    t.Binds ns place x ↔ s.Binds ns place x := by
  unfold Server.Binds
  rw [h]

/-- Whatever happens, service accounts are bound under their own names only. -/
theorem bindsOwn_of_happens (hown : s.BindsOwn ns)
    (h : c.Happens (.inNamespace ns name) mayEdit s t) : t.BindsOwn ns := by
  cases h with
  | pass settings calls res _ hruns =>
    have honly := bindsOnly_of_pass hruns
    exact (hruns.keeps (fun u => u.BindsOwn ns) hown fun q hq hserved hbefore =>
      bindsOwn_of_isServed hserved (honly q hq) hbefore).2
  | edit raw r hraw hmeta hmay =>
    intro place x hx
    exact hown place x ((binds_congr (find?_binding_world (.update c.kind r) s rfl place)).1 hx)
  | delete =>
    intro place x hx
    exact hown place x ((binds_congr (find?_binding_world (.delete c.kind _) s rfl place)).1 hx)

theorem bindsOwn_of_history (hown : s.BindsOwn ns)
    (h : c.History (.inNamespace ns name) mayEdit s t) : t.BindsOwn ns := by
  induction h with
  | refl => exact hown
  | tail _ hlast ih => exact bindsOwn_of_happens ih hlast

/-! ## The last pass -/

/-- The object of a pass as the pass found it, but for finalizers, version and a status that
satisfies a condition. -/
def HoldsObject (c : Component) (key : Key) (raw : Resource c.kind) (P : c.kind.Content → Prop)
    (u : Server) : Prop :=
  ∃ finalizers version status, P status ∧
    u.find? c.kind key = some (raw.restated finalizers version status)

/-- A call that adds the finalizer to the object or reports a status leaves the object but for
these. -/
theorem holdsObject_of_isServed {P : c.kind.Content → Prop} {q : StoreCall}
    (hserved : q.IsServed Server.world) (hraw : s.find? c.kind key = some raw)
    (hstays : raw.metadata.isBeingDeleted = false) (hP : P raw.content)
    (hrequest : q.request.kind = c.kind → (∃ r, q.request = .updateStatus c.kind r ∧ P r.content) ∨
      q.request = c.addition raw ∧ q.before = s)
    (hbefore : c.HoldsObject key raw P q.before) : c.HoldsObject key raw P q.after := by
  -- an update of the object is the one that adds the finalizer
  have hadd {r stored : Resource c.kind} (hupdate : q.request = .update c.kind r)
      (hstored : q.before.find? c.kind key = some stored) :
      r = (raw.withMetadata fun m => m.addFinalizer c.finalizer) ∧ stored = raw := by
    rcases hrequest (congrArg StoreRequest.kind hupdate) with ⟨r', hstatus, -⟩ | ⟨hadd, heq⟩
    · rw [hupdate] at hstatus
      cases hstatus
    · rw [hupdate] at hadd
      rw [heq, hraw] at hstored
      exact ⟨StoreRequest.eq_of_update hadd, (Option.some.inj hstored).symm⟩
  -- nothing but that and a status is written to the object
  have hnot {x : StoreRequest} (hx : q.request = x) (hkind : x.kind = c.kind)
      (hstatus : ∀ r, x ≠ .updateStatus c.kind r)
      (hupdate : ∀ r, x ≠ .update c.kind r) : False := by
    rw [hx] at hrequest
    rcases hrequest hkind with ⟨r, heq, -⟩ | ⟨heq, -⟩
    · exact hstatus r heq
    · exact hupdate _ heq
  have hmerged : Server.merged (raw.withMetadata fun m => m.addFinalizer c.finalizer) raw =
      (raw.withMetadata fun m => m.addFinalizer c.finalizer).withStatusOf raw :=
    Server.merged_of_mark rfl
  have hleaves := StoreCall.leaves_of_isServed hserved c.kind key
  unfold HoldsObject
  generalize q.after.find? c.kind key = found at hleaves
  cases hleaves with
  | same => exact hbefore
  | released r stored hupdate hkey hstored hreleased =>
    obtain ⟨rfl, rfl⟩ := hadd hupdate hstored
    have hkept := Server.isReleased_merged
      (r := stored.withMetadata fun m => m.addFinalizer c.finalizer) rfl hstays
    cases hkept.symm.trans hreleased
  | deleted stored hdelete => exact (hnot hdelete rfl (by simp) (by simp)).elim
  | created r version uid hcreate => exact (hnot hcreate rfl (by simp) (by simp)).elim
  | updated r stored version hupdate hkey hstored =>
    obtain ⟨rfl, rfl⟩ := hadd hupdate hstored
    rw [hmerged]
    exact ⟨_, _, stored.content, hP, rfl⟩
  | reported r stored version hstatus hkey hstored =>
    obtain ⟨finalizers, old, status, -, hold⟩ := hbefore
    rw [hold] at hstored
    cases hstored
    rcases hrequest (congrArg StoreRequest.kind hstatus) with ⟨r', heq, hr'⟩ | ⟨hadd, -⟩
    · rw [hstatus] at heq
      obtain rfl : r = r' := by injection heq
      refine ⟨finalizers, some (toString version), r.content, hr', congrArg some ?_⟩
      exact raw.restated_restated finalizers finalizers old
        (some (toString version)) status r.content
    · rw [hstatus] at hadd
      cases hadd
  | marked stored version clock hdelete => exact (hnot hdelete rfl (by simp) (by simp)).elim

/-- A pass that settles an object does not let it go. -/
theorem holdsObject_of_settle {res : Except Failure Unit}
    (hraw : s.find? c.kind key = some raw) (hstays : raw.metadata.isBeingDeleted = false)
    (h : Runs Server.world (c.settle settings raw) s calls res t) :
    c.HoldsObject key raw (fun _ => True) t := by
  obtain ⟨front, back, rfl, hfront, hback⟩ := runs_settle hraw hstays h
  have hfirst : c.HoldsObject key raw (fun _ => True) s :=
    ⟨_, _, raw.content, trivial, raw.eq_restated ▸ hraw⟩
  refine (h.keeps (c.HoldsObject key raw fun _ => True) hfirst fun p hp hserved hbefore =>
    holdsObject_of_isServed hserved hraw hstays trivial (fun hkind => ?_) hbefore).2
  rcases List.mem_append.1 hp with hp | hp
  · exact Or.inr (hfront p hp)
  · obtain ⟨r, hstatus⟩ := (hback p hp).elsewhere hkind
    exact Or.inl ⟨r, hstatus, trivial⟩

/-- A pass that lets its object go has released its accounts, and changes no binding afterwards. -/
theorem released_of_gone {res : Except Failure PassEnd} (hraw : s.find? c.kind key = some raw)
    (hgone : t.find? c.kind key = none)
    (h : Runs Server.world (c.pass settings key) s calls res t) :
    ∃ front u, Runs Server.world
        (Binding.releaseAll raw.metadata.nsOrEmpty (c.teardownReleases raw)) s front (.ok ()) u ∧
      ∀ place, t.find? .clusterRoleBinding place = u.find? .clusterRoleBinding place := by
  -- only the end of a teardown takes the object away, so the pass came that far
  have hthere (ht : t.find? c.kind key = s.find? c.kind key) : False := by
    rw [hgone, hraw] at ht
    cases ht
  cases isPassRun_of_pass h with
  | idle _ hsame => exact (hthere (by rw [hsame])).elim
  | settle raw' _ _ _ hraw' hstays _ _ _ hsettle =>
    obtain ⟨_, _, _, -, hstill⟩ := holdsObject_of_settle hraw' hstays hsettle
    cases hgone.symm.trans hstill
  | teardown raw' _ _ _ hraw' _ _ _ _ hteardown =>
    obtain rfl := Option.some.inj (hraw.symm.trans hraw')
    rw [teardown_eq] at hteardown
    rcases hteardown.of_bind with ⟨e, -, hrelease⟩ | ⟨front, back, _, u, -, hrelease, hremove⟩
    · exact (hthere (find?_object_releaseAll hrelease).2).elim
    · exact ⟨front, u, hrelease,
        find?_binding_of_about (asks_removeFinalizer raw c.finalizer) hremove⟩

/-- A pass that lets its object go leaves the binding of an account as it was that the object does
not have. -/
theorem binds_of_gone {res : Except Failure PassEnd} {account : String}
    (hns : raw.metadata.nsOrEmpty = ns) (hraw : s.find? c.kind key = some raw)
    (hgone : t.find? c.kind key = none)
    (hpass : Runs Server.world (c.pass settings key) s calls res t)
    (haccount : ¬ c.HasAccount raw account) :
    Binding.cluster.Grants t account ns ↔ Binding.cluster.Grants s account ns := by
  obtain ⟨front, u, hrelease, hframe⟩ := released_of_gone hraw hgone hpass
  rw [hns] at hrelease
  have hplace : u.find? .clusterRoleBinding (.inCluster account) =
      s.find? .clusterRoleBinding (.inCluster account) := by
    refine (find?_runs hrelease ?_).2
    rintro q hq ⟨hkind, hkey⟩
    -- a release of this binding would be one of the account
    obtain ⟨⟨b, other⟩, hp, hkind', hkey'⟩ := (Binding.runs_releaseAll hrelease).place q hq
    have hcluster : b.kind = Binding.cluster.kind := hkind'.symm.trans hkind
    have haccount' : b.key other ns = Binding.cluster.key account ns := hkey'.symm.trans hkey
    obtain ⟨-, rfl⟩ := Binding.eq_of_place hcluster haccount'
    exact haccount (mem_teardownReleases.1 hp).2
  exact Binding.grants_congr ((hframe _).trans hplace)

/-- Where all bound accounts are the object's, a pass that lets it go leaves none bound. -/
theorem not_binds_of_gone {res : Except Failure PassEnd} (hns : raw.metadata.nsOrEmpty = ns)
    (hown : s.BindsOwn ns) (hraw : s.find? c.kind key = some raw)
    (hgone : t.find? c.kind key = none)
    (hpass : Runs Server.world (c.pass settings key) s calls res t)
    (hall : ∀ account, Binding.cluster.Grants s account ns → c.HasAccount raw account)
    (place : Key) (x : Subject) : ¬ t.Binds ns place x := by
  intro hx
  obtain ⟨front, u, hrelease, hframe⟩ := released_of_gone hraw hgone hpass
  rw [hns] at hrelease
  have hu : u.Binds ns place x := (binds_congr (hframe place)).1 hx
  -- releases bind nobody, so it was bound before
  have hs : s.Binds ns place x :=
    (hrelease.keeps (fun v => v.Binds ns place x → s.Binds ns place x) id
      fun q hq hserved hbefore hafter => hbefore <| by
        have honly := bindsOnly_releaseAll (fun _ => False) ns _ _ _ _ _ hrelease q hq
        rcases binds_of_isServed hserved honly hafter with hx | ⟨-, hfalse⟩
        · exact hx
        · exact hfalse.elim).2 hu
  obtain rfl := hown place x hs
  have haccount : c.HasAccount raw x.name := hall x.name (grants_iff_binds.2 ⟨x, hs, rfl⟩)
  have hcluster : Binding.cluster ∈ c.bindings := by cases c <;> simp [bindings]
  exact (Binding.runs_releaseAll hrelease).released rfl (.cluster, x.name)
    (mem_teardownReleases.2 ⟨hcluster, haccount⟩) (grants_iff_binds.2 ⟨x, hu, rfl⟩)

end Component

end GatewayOperator
