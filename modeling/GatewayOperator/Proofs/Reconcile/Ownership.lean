import GatewayOperator.Proofs.Overlay.Owners
import GatewayOperator.Proofs.Reconcile.Shared
import GatewayOperator.Proofs.Store.Ledger

/-!
# Owners in the course of passes

Who owns what is in a store, and how passes change it. `KeepsOwners` lists what a request of a pass
may be, and `Becomes` what it may make of a place (`becomes_of_step`): a fresh object has only
eligible owners, an object that is written over keeps its owners and gets only eligible ones, and of
everything that is not compiled only finalizers, version and status change. From this one case
distinction follow

* the invariant `IsOwned` (`IsOwned.step`): nobody else than those who are eligible owns anything,
  and owners that claim to manage an object have different uids,
* and that owners stay (`HasOwner.step`), but for those of autoscalers, which are deleted now and
  then.

`sparesOwners_of_pass` says that every call of a pass is such a request, also in a run with failing
calls, if the owners of everything that it works on are eligible.
-/

namespace GatewayOperator

open OwnerReference (AreApart Extends)
open Program (Runs everyCall_bind everyCall_done everyCall_of_asks)

/-! ## Requests -/

/-- A request that leaves the owners of everything to those who are eligible. -/
inductive KeepsOwners (eligible : Kind → Key → OwnerReference → Prop) (s : Server) :
    StoreRequest → Prop
  | reads (k : Kind) (key : Key) : KeepsOwners eligible s (.get k key)
  | creates {k : Kind} (r : Resource k) : k.isDependent = true →
      r.metadata.isBeingDeleted = false → r.metadata.hasFinalizers = false →
      (k = .serviceAccount → r.metadata.owners.length ≤ 1) →
      Extends (eligible k r.key) [] r.metadata.owners → KeepsOwners eligible s (.create k r)
  | amends {k : Kind} (stored r : Resource k) : k.isDependent = true → k ≠ .serviceAccount →
      s.find? k r.key = some stored →
      r.metadata.deletionTimestamp = stored.metadata.deletionTimestamp →
      r.metadata.finalizers = stored.metadata.finalizers →
      Extends (eligible k r.key) stored.metadata.owners r.metadata.owners →
      KeepsOwners eligible s (.update k r)
  | restates {k : Kind} (stored : Resource k) (finalizers : Option (List String))
      (version : Option String) : k.isDependent = false → s.find? k stored.key = some stored →
      KeepsOwners eligible s (.update k (stored.restated finalizers version stored.content))
  | reports {k : Kind} (r : Resource k) : k.isDependent = false →
      KeepsOwners eligible s (.updateStatus k r)
  | retires (version : AutoscalingVersion) (key : Key) :
      KeepsOwners eligible s (.delete (.autoscaler version) key)

/-- What such a request may make of a place. -/
inductive Becomes (eligible : Kind → Key → OwnerReference → Prop) (s : Server) (k : Kind)
    (key : Key) : Option (Resource k) → Prop
  | same : Becomes eligible s k key (s.find? k key)
  | fresh (r : Resource k) : k.isDependent = true → s.find? k key = none →
      r.metadata.isBeingDeleted = false → r.metadata.hasFinalizers = false →
      (k = .serviceAccount → r.metadata.owners.length ≤ 1) →
      Extends (eligible k key) [] r.metadata.owners → Becomes eligible s k key (some r)
  | amended (stored r : Resource k) : k.isDependent = true → k ≠ .serviceAccount →
      s.find? k key = some stored →
      r.metadata.isBeingDeleted = stored.metadata.isBeingDeleted →
      r.metadata.hasFinalizers = stored.metadata.hasFinalizers →
      Extends (eligible k key) stored.metadata.owners r.metadata.owners →
      Becomes eligible s k key (some r)
  | restated (stored : Resource k) (finalizers : Option (List String)) (version : Option String)
      (status : k.Content) : k.isDependent = false → s.find? k key = some stored →
      Becomes eligible s k key (some (stored.restated finalizers version status))
  | released : k.isDependent = false → Becomes eligible s k key none
  | retired (version : AutoscalingVersion) : k = .autoscaler version → Becomes eligible s k key none

section

variable {eligible : Kind → Key → OwnerReference → Prop} {s s₀ t : Server} {q : StoreRequest}

theorem hasFinalizers_congr {m n : Metadata} (h : m.finalizers = n.finalizers) :
    m.hasFinalizers = n.hasFinalizers := by
  unfold Metadata.hasFinalizers
  rw [h]

/-- What an update stores that changes finalizers only. -/
theorem withVersion_merged_restated {k : Kind} (stored : Resource k)
    (finalizers : Option (List String)) (version : Option String) (n : Nat) :
    Server.withVersion
        (Server.merged (stored.restated finalizers version stored.content) stored) n =
      stored.restated finalizers (some (toString n)) stored.content := by
  have hmark : (stored.restated finalizers version stored.content).metadata.deletionTimestamp =
      stored.metadata.deletionTimestamp := rfl
  rw [Server.merged_of_mark hmark]
  unfold Server.withVersion Resource.withMetadata Resource.withStatusOf Resource.restated
  dsimp only
  rw [Resource.contentWithStatusOf_twice]

theorem becomes_of_step (hunheld : s.IsUnheld) (hkeeps : KeepsOwners eligible s q)
    (hstep : Server.Step s q t) (k : Kind) (key : Key) :
    Becomes eligible s k key (t.find? k key) := by
  by_cases hplace : k = q.kind ∧ key = q.key
  · obtain ⟨rfl, rfl⟩ := hplace
    cases hkeeps with
    | reads k key =>
      cases hstep with
      | idle => exact .same
    | creates r hdependent hmark hfree haccount hextends =>
      cases hstep with
      | idle => exact .same
      | created habsent hstores =>
        exact hstores.here ▸ .fresh _ hdependent habsent hmark hfree haccount hextends
    | amends stored r hdependent hnot hstored hmark hfinalizers hextends =>
      have hstays := (hunheld _ _ stored hdependent hstored).1
      cases hstep with
      | idle => exact .same
      | updated hfind _ hstores =>
        cases hstored.symm.trans hfind
        rw [Server.merged_of_mark hmark] at hstores
        exact hstores.here ▸ .amended stored _ hdependent hnot hstored
          (congrArg Option.isSome hmark) (hasFinalizers_congr hfinalizers) hextends
      | released hfind hreleased =>
        -- nothing that is compiled is being deleted
        cases hstored.symm.trans hfind
        cases (Server.isReleased_merged hmark hstays).symm.trans hreleased
    | restates stored finalizers version hdependent hstored =>
      cases hstep with
      | idle => exact .same
      | updated hfind _ hstores =>
        cases hstored.symm.trans hfind
        rw [withVersion_merged_restated] at hstores
        exact hstores.here ▸ .restated stored _ _ _ hdependent hstored
      | released _ _ hremoves => exact hremoves.here ▸ .released hdependent
    | reports r hdependent =>
      cases hstep with
      | idle => exact .same
      | reported hfind hstores =>
        exact hstores.here ▸ .restated _ _
          (some (toString (s.version + 1))) r.content hdependent hfind
    | retires version key =>
      cases hstep with
      | idle => exact .same
      | marked hfind hheld _ =>
        -- nor does it have finalizers
        cases (hunheld _ _ _ rfl hfind).2.symm.trans hheld
      | deleted _ _ hremoves => exact hremoves.here ▸ .retired version rfl
  · rw [hstep.elsewhere hplace]
    exact .same

/-! ## The invariant -/

/-- An object that is owned by those who are eligible. What is compiled is not held back, and
everything else is as it was at first, but for finalizers, version and status. -/
structure Resource.IsOwned (eligible : Kind → Key → OwnerReference → Prop) (s₀ : Server) {k : Kind}
    (key : Key) (r : Resource k) : Prop where
  owners : ∀ o ∈ r.metadata.owners, eligible k key o
  apart : AreApart r.metadata.owners
  /-- service accounts are not written over -/
  account : k = .serviceAccount → r.metadata.owners.length ≤ 1
  unheld : k.isDependent = true →
    r.metadata.isBeingDeleted = false ∧ r.metadata.hasFinalizers = false
  standing : k.isDependent = false → ∃ r₀ finalizers version status, s₀.find? k key = some r₀ ∧
    r = r₀.restated finalizers version status

/-- A server of which every object is owned by those who are eligible. -/
def Server.IsOwned (s : Server) (eligible : Kind → Key → OwnerReference → Prop) (s₀ : Server) :
    Prop :=
  ∀ (k : Kind) (key : Key) (r : Resource k), s.find? k key = some r → r.IsOwned eligible s₀ key

theorem Server.IsOwned.isUnheld (h : s.IsOwned eligible s₀) : s.IsUnheld :=
  fun k key r hdependent hr => (h k key r hr).unheld hdependent

theorem isOwned_of_becomes {k : Kind} {key : Key} {found : Option (Resource k)}
    (h : s.IsOwned eligible s₀) (hbecomes : Becomes eligible s k key found) {r : Resource k}
    (hr : found = some r) : r.IsOwned eligible s₀ key := by
  cases hbecomes with
  | same => exact h k key r hr
  | fresh r' hdependent _ hmark hfree haccount hextends =>
    cases hr
    exact ⟨fun o ho => (hextends.added o ho).resolve_left List.not_mem_nil,
      hextends.apart List.Pairwise.nil, haccount, fun _ => ⟨hmark, hfree⟩,
      fun hnot => absurd (hdependent.symm.trans hnot) (by simp)⟩
  | amended stored r' hdependent hnot hstored hmark hfree hextends =>
    cases hr
    have hbefore := h k key stored hstored
    obtain ⟨hunmarked, hunheld⟩ := hbefore.unheld hdependent
    exact ⟨fun o ho => (hextends.added o ho).elim (hbefore.owners o) id,
      hextends.apart hbefore.apart, fun haccount => absurd haccount hnot,
      fun _ => ⟨hmark.trans hunmarked, hfree.trans hunheld⟩,
      fun hnot => absurd (hdependent.symm.trans hnot) (by simp)⟩
  | restated stored finalizers version status hdependent hstored =>
    cases hr
    have hbefore := h k key stored hstored
    refine ⟨hbefore.owners, hbefore.apart, hbefore.account,
      fun hnot => absurd (hdependent.symm.trans hnot) (by simp), fun _ => ?_⟩
    obtain ⟨r₀, _, _, _, hr₀, rfl⟩ := hbefore.standing hdependent
    exact ⟨r₀, _, _, _, hr₀, r₀.restated_restated _ _ _ _ _ _⟩
  | released => cases hr
  | retired => cases hr

/-- The invariant is kept by every request that leaves owners to those who are eligible. -/
theorem Server.IsOwned.step (h : s.IsOwned eligible s₀) (hkeeps : KeepsOwners eligible s q)
    (hstep : Server.Step s q t) : t.IsOwned eligible s₀ :=
  fun k key _ hr => isOwned_of_becomes h (becomes_of_step h.isUnheld hkeeps hstep k key) hr

/-! ## Owners stay -/

/-- Whether an object is there that has an owner with a uid. -/
def Server.HasOwner (s : Server) (k : Kind) (key : Key) (uid : String) : Prop :=
  ∃ r, s.find? k key = some r ∧ ∃ o ∈ r.metadata.owners, o.uid = uid

/-- Owners of what is compiled stay, unless it is an autoscaler. -/
theorem Server.HasOwner.step {k : Kind} {key : Key} {uid : String} (h : s.HasOwner k key uid)
    (hdependent : k.isDependent = true) (hnot : ∀ version, k ≠ .autoscaler version)
    (hunheld : s.IsUnheld) (hkeeps : KeepsOwners eligible s q) (hstep : Server.Step s q t) :
    t.HasOwner k key uid := by
  obtain ⟨stored, hstored, o, ho, huid⟩ := h
  have hbecomes := becomes_of_step hunheld hkeeps hstep k key
  unfold HasOwner
  generalize t.find? k key = found at hbecomes
  cases hbecomes with
  | same => exact ⟨stored, hstored, o, ho, huid⟩
  | fresh _ _ habsent => cases habsent.symm.trans hstored
  | amended stored' r _ _ hstored' _ _ hextends =>
    cases hstored.symm.trans hstored'
    exact ⟨r, rfl, o, hextends.kept o ho, huid⟩
  | restated stored' _ _ _ hother => cases hdependent.symm.trans hother
  | released hother => cases hdependent.symm.trans hother
  | retired version hretired => exact absurd hretired (hnot version)

/-! ## Calls -/

/-- A call that leaves the owners of everything to those who are eligible. -/
def SparesOwners (eligible : Kind → Key → OwnerReference → Prop) (c : StoreCall) : Prop :=
  KeepsOwners eligible c.before c.request

theorem sparesOwners_of_read {c : StoreCall} (h : c.request.isWrite = false) :
    SparesOwners eligible c := by
  obtain ⟨q, a, s, t⟩ := c
  cases q with
  | get k key => exact .reads k key
  | create | update | updateStatus | delete => cases h

/-- A call does what its request may do, also if it fails. -/
theorem StoreCall.step_of_isServed {c : StoreCall} (h : c.IsServed Server.world) :
    Server.Step c.before c.request c.after := by
  have hworld := Server.step_world c.before c.request
  rcases h with heq | ⟨e, -, heq | heq⟩
  · rwa [← heq] at hworld
  · rw [heq]
    exact .idle _
  · rwa [← heq] at hworld

/-- Runs of such calls keep the invariant, and the owners of what is compiled. -/
theorem isOwned_of_runs {α : Type} {p : StoreProgram α} {calls : List StoreCall}
    {res : Except Failure α} (h : Runs Server.world p s calls res t)
    (hcalls : ∀ c ∈ calls, SparesOwners eligible c) (hs : s.IsOwned eligible s₀) :
    t.IsOwned eligible s₀ ∧ ∀ k key uid, k.isDependent = true →
      (∀ version, k ≠ .autoscaler version) →
      s.HasOwner k key uid → t.HasOwner k key uid := by
  refine (h.keeps (fun u => u.IsOwned eligible s₀ ∧ ∀ k key uid, k.isDependent = true →
    (∀ version, k ≠ .autoscaler version) → s.HasOwner k key uid → u.HasOwner k key uid)
    ⟨hs, fun _ _ _ _ _ howner => howner⟩ fun c hc hserved hbefore => ?_).2
  have hstep := StoreCall.step_of_isServed hserved
  obtain ⟨howned, howners⟩ := hbefore
  refine ⟨howned.step (hcalls c hc) hstep, fun k key uid hdependent hnot howner => ?_⟩
  exact (howners k key uid hdependent hnot howner).step hdependent hnot howned.isUnheld
    (hcalls c hc) hstep

/-! ## Targets -/

/-- A target whose owners are eligible. -/
inductive Target.IsOwned (eligible : Kind → Key → OwnerReference → Prop) : Target → Prop
  | present {k : Kind} (r : Resource k) : k.isDependent = true →
      r.metadata.isBeingDeleted = false → r.metadata.hasFinalizers = false →
      (k = .serviceAccount → r.metadata.owners.length ≤ 1) →
      Extends (eligible k r.key) [] r.metadata.owners → IsOwned eligible (.present r)
  | settled {k : Kind} (d : Resource k) : k.isDependent = true → k ≠ .serviceAccount →
      (∀ o ∈ d.metadata.owners, eligible k d.key o) → IsOwned eligible (.settled d)
  | absent (version : AutoscalingVersion) (key : Key) :
      IsOwned eligible (.absent (.autoscaler version) key)

theorem sparesOwners_of_isConvergence {k : Kind} {d : Resource k} {c : StoreCall}
    (hdependent : k.isDependent = true) (hnot : k ≠ .serviceAccount)
    (howners : ∀ o ∈ d.metadata.owners, eligible k d.key o) (h : IsConvergence d c) :
    SparesOwners eligible c := by
  unfold SparesOwners
  cases h with
  | reads hread => exact sparesOwners_of_read hread
  | amends live hlive hrequest =>
    have hkey : (live.overlay d).key = d.key :=
      (Resource.key_overlay live d).trans (Server.key_of_find? hlive)
    rw [hrequest]
    refine .amends live _ hdependent hnot (hkey ▸ hlive) (deletionTimestamp_overlay live d)
      (finalizers_overlay live d) ?_
    rw [hkey]
    exact live.extends_overlay howners
  | creates hkey hrequest =>
    -- a fresh object has no metadata but its key
    have hfresh : (Resource.empty k d.key).metadata.deletionTimestamp = none ∧
        (Resource.empty k d.key).metadata.finalizers = none ∧
        (Resource.empty k d.key).metadata.owners = [] := by
      unfold Resource.empty
      split <;> exact ⟨rfl, rfl, rfl⟩
    obtain ⟨hmark, hfree, hnone⟩ := hfresh
    have hextends := (Resource.empty k d.key).extends_overlay howners
    rw [hnone] at hextends
    rw [hrequest]
    refine .creates _ hdependent ?_ ?_ (fun haccount => absurd haccount hnot) ?_
    · rw [Metadata.isBeingDeleted, deletionTimestamp_overlay, hmark]
      rfl
    · rw [Metadata.hasFinalizers, finalizers_overlay, hfree]
      rfl
    · rwa [Resource.key_overlay, hkey]

/-- The step of a target whose owners are eligible brings no other owners. -/
theorem sparesOwners_of_work {x : Target} (hx : x.IsOwned eligible) :
    x.work.EveryCall Server.world (SparesOwners eligible) := by
  cases hx with
  | present r hdependent hmark hfree haccount hextends =>
    have hasks : (createIfAbsent r).Asks
        fun q : StoreRequest => q = .get _ r.key ∨ q = .create _ r :=
      asks_createIfAbsent_of (Or.inl rfl) (Or.inr rfl)
    refine everyCall_bind (everyCall_of_asks hasks fun c hc => ?_) fun _ => everyCall_done _
    unfold SparesOwners
    rcases hc with hread | hcreate
    · exact sparesOwners_of_read (by rw [hread]; rfl)
    · rw [hcreate]
      exact .creates r hdependent hmark hfree haccount hextends
  | settled d hdependent hnot howners =>
    intro s calls res t h c hc
    exact sparesOwners_of_isConvergence hdependent hnot howners
      (Target.isRepair_work d s calls res t h c hc).converges
  | absent version key =>
    have hasks : (StoreProgram.delete (.autoscaler version) key).Asks
        fun q : StoreRequest => q = .delete (.autoscaler version) key :=
      ⟨rfl, fun a => by cases a <;> trivial⟩
    refine everyCall_of_asks hasks fun c hc => ?_
    unfold SparesOwners
    rw [hc]
    exact .retires version key

/-- A release changes no metadata. -/
theorem sparesOwners_of_release (b : Binding) (account ns : String) :
    (b.release account ns).EveryCall Server.world (SparesOwners eligible) := by
  intro s calls res t h c hc
  cases hwrite : c.request.isWrite with
  | false => exact sparesOwners_of_read hwrite
  | true =>
    obtain ⟨r, hr, hrequest⟩ := (Binding.runs_release h).prunes c hc hwrite
    have hkey : (b.pruned r account ns).key = b.key account ns :=
      (b.key_pruned r account ns).trans (Server.key_of_find? hr)
    have hmeta := b.metadata_pruned r account ns
    unfold SparesOwners
    rw [hrequest]
    refine .amends r _ (by cases b <;> rfl) (by cases b <;> simp) (hkey ▸ hr) ?_ ?_ ?_
    · rw [hmeta]
    · rw [hmeta]
    · rw [hmeta]
      exact .refl _

end

/-! ## Passes -/

namespace Component

variable {eligible : Kind → Key → OwnerReference → Prop} {c : Component} {settings : PassSettings}
  {raw : Resource c.kind} {s t : Server} {calls : List StoreCall} {key : Key}

/-- The object with other finalizers. -/
theorem sparesOwners_of_finalizers {q : StoreCall} {finalizers : Option (List String)}
    (hraw : q.before.find? c.kind key = some raw)
    (hrequest : q.request =
      .update c.kind (raw.withMetadata fun m => { m with finalizers := finalizers })) :
    SparesOwners eligible q := by
  unfold SparesOwners
  rw [hrequest, Resource.withMetadata_finalizers]
  exact .restates raw _ _ isDependent_kind_eq_false (Server.key_of_find? hraw ▸ hraw)

/-- Whether a pass works on nothing but targets whose owners are eligible. -/
structure IsOwnedPass (eligible : Kind → Key → OwnerReference → Prop) (c : Component)
    (settings : PassSettings) (raw : Resource c.kind) : Prop where
  definitions : ∀ ds, c.definitionTargets settings = .ok ds → ∀ x ∈ ds, x.IsOwned eligible
  compiled : ∀ x ∈ c.reached settings (c.withDefaults raw), x.IsOwned eligible

/-- A call of a pass brings no other owners than the targets of the pass have. -/
theorem IsPassCall.sparesOwners {q : StoreCall} (h : c.IsPassCall settings key raw q)
    (hpass : IsOwnedPass eligible c settings raw) : SparesOwners eligible q := by
  cases h with
  | adds _ hraw hrequest => exact sparesOwners_of_finalizers hraw hrequest
  | installs ds x hds hx hmakes =>
    exact (sparesOwners_of_work (hpass.definitions ds hds x hx)).of_makes hmakes
  | releases b account r _ _ _ _ hmakes =>
      exact (sparesOwners_of_release b account _).of_makes hmakes
  | works x hx hmakes => exact (sparesOwners_of_work (hpass.compiled x hx)).of_makes hmakes
  | reports r _ hrequest =>
    unfold SparesOwners
    rw [hrequest]
    exact .reports r isDependent_kind_eq_false
  | removes _ hraw hrequest => exact sparesOwners_of_finalizers hraw hrequest

/-- A pass brings no other owners than its targets have. -/
theorem sparesOwners_of_pass {res : Except Failure PassEnd}
    (hpass : ∀ raw, s.find? c.kind key = some raw → IsOwnedPass eligible c settings raw)
    (h : Runs Server.world (c.pass settings key) s calls res t) :
    ∀ q ∈ calls, SparesOwners eligible q := by
  intro q hq
  rcases calls_of_pass h q hq with ⟨k, place, hread⟩ | ⟨raw, hraw, hcall⟩
  · exact sparesOwners_of_read (by rw [hread]; rfl)
  · exact hcall.sparesOwners (hpass raw hraw)

end Component

end GatewayOperator
