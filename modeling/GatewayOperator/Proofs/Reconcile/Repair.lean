import GatewayOperator.Proofs.Reconcile.Drift
import GatewayOperator.Proofs.Reconcile.Footprint
import GatewayOperator.Proofs.Reconcile.Ownership
import GatewayOperator.Proofs.Reconcile.Workload

/-!
# Repairs of a Deployment

A pass writes Deployments only to repair the one that is compiled from its object
(`onlyRepairs_of_pass`), so

* where that is settled, no call writes a Deployment (`sparesDeployments_of_settled`),
* every other one stays as it is, and all of them stay intact (`OnlyRepairs.keeps_or_overlays`,
  `OnlyRepairs.isIntact`),
* what is written records the compiled body (`records_of_pass`),
* and a pass that converges leaves the compiled Deployment settled, whichever of its calls failed
  (`settled_of_pass`).
-/

namespace GatewayOperator

open StoreProgram
open Program (Runs)

/-! ## Calls -/

section Calls

variable {k : Kind} {d : Resource k} {c : StoreCall}

/-- A call that writes objects of a kind only to repair one. -/
def OnlyRepairs (d : Resource k) (c : StoreCall) : Prop := c.request.kind = k → IsRepair d c

/-- Such a call does nothing where the object is settled. -/
theorem OnlyRepairs.find?_of_settled (h : OnlyRepairs d c) (hserved : c.IsServed Server.world)
    (hsettled : c.before.Settled d) (place : Key) :
    c.after.find? k place = c.before.find? k place := by
  by_cases hkind : c.request.kind = k
  · cases hwrite : c.request.isWrite with
    | true => exact absurd hsettled ((h hkind).unsettled hwrite)
    | false => rw [StoreCall.after_of_read hserved hwrite]
  · exact StoreCall.find?_of_isServed hserved fun habout => hkind habout.1

/-- Elsewhere it overlays what stood at the place of the object, if nothing lets that go. -/
theorem OnlyRepairs.keeps_or_overlays (h : OnlyRepairs d c) (hserved : c.IsServed Server.world)
    (hheld : ∀ r, c.before.find? k d.key = some r → Server.isReleased r = false) (place : Key) :
    c.after.find? k place = c.before.find? k place ∨
      ∃ version uid, c.after.find? k place =
        some (((c.before.standing k place).overlay d).issued version uid) := by
  by_cases habout : StoreRequest.isAbout k place c.request
  case neg => exact Or.inl (StoreCall.find?_of_isServed hserved habout)
  have hstep := StoreCall.step_of_isServed hserved
  have hconverges := (h habout.1).converges
  obtain ⟨-, hplace⟩ := habout
  obtain ⟨q, a, u, v⟩ := c
  dsimp only at *
  cases hconverges with
  | reads hread => exact Or.inl (by rw [show v = u from StoreCall.after_of_read hserved hread])
  | amends live hlive hrequest =>
    obtain rfl : q = .update k (live.overlay d) := hrequest
    obtain rfl : (live.overlay d).key = place := hplace
    have hkey : (live.overlay d).key = d.key :=
      (Resource.key_overlay live d).trans (Server.key_of_find? hlive)
    have hmerged : Server.merged (live.overlay d) live = live.overlay d := by
      rw [Server.merged_of_mark (deletionTimestamp_overlay live d), Resource.withStatusOf_overlay]
    cases hstep with
    | idle => exact Or.inl rfl
    | updated hfind _ hstores =>
      rw [hkey] at hfind
      obtain rfl := Option.some.inj (hlive.symm.trans hfind)
      rw [hmerged, Server.withVersion_eq_issued] at hstores
      have hstood : u.standing k (live.overlay d).key = live := by
        rw [hkey]
        exact Server.standing_of_found hlive
      rw [hstood]
      exact Or.inr ⟨_, _, hstores.here⟩
    | released hfind hreleased _ =>
      rw [hkey] at hfind
      obtain rfl := Option.some.inj (hlive.symm.trans hfind)
      rw [hmerged, isReleased_overlay, hheld _ hlive] at hreleased
      cases hreleased
  | creates hkey hrequest =>
    obtain rfl : q = .create k ((Resource.empty k d.key).overlay d) := hrequest
    obtain rfl : ((Resource.empty k d.key).overlay d).key = place := hplace
    cases hstep with
    | idle => exact Or.inl rfl
    | created habsent hstores =>
      have hstood : u.standing k ((Resource.empty k d.key).overlay d).key = .empty k d.key := by
        rw [Server.standing_of_missing habsent, Resource.key_overlay, hkey]
      rw [hstood]
      exact Or.inr ⟨_, _, hstores.here⟩

/-- So it stays settled. -/
theorem OnlyRepairs.settled (h : OnlyRepairs d c) (hserved : c.IsServed Server.world)
    (hsettled : c.before.Settled d) : c.after.Settled d := by
  have hkept := h.find?_of_settled hserved hsettled d.key
  rwa [Server.Settled, hkept]

end Calls

/-! ## Deployments that stay -/

namespace Resource

/-- A Deployment that an update does not let go, and whose body is an object without a replica
count. -/
structure IsIntact (r : Resource .deployment) : Prop where
  held : Server.isReleased r = false
  rendered : Kind.IsRendered .deployment r.content

variable {live d r : Resource .deployment}

theorem isIntact_empty (key : Key) : (empty .deployment key).IsIntact := ⟨rfl, _, rfl, rfl⟩

theorem IsIntact.issued (h : r.IsIntact) (version uid : Option String) :
    (r.issued version uid).IsIntact := ⟨h.held, h.rendered⟩

theorem IsIntact.overlay (h : live.IsIntact) (hd : Kind.IsRendered .deployment d.content) :
    (live.overlay d).IsIntact := by
  refine ⟨(isReleased_overlay live d).trans h.held, ?_⟩
  rw [overlay_of_isWhole .deployment]
  split
  · exact hd
  · exact h.rendered

end Resource

namespace Server

variable {s t : Server}

/-- A store whose Deployments are all intact. -/
def IsIntact (s : Server) : Prop :=
  ∀ (place : Key) (r : Resource .deployment), s.find? .deployment place = some r → r.IsIntact

theorem IsIntact.congr (h : s.IsIntact)
    (hsame : ∀ place, t.find? .deployment place = s.find? .deployment place) : t.IsIntact :=
  fun place r hr => h place r ((hsame place).symm.trans hr)

theorem IsIntact.standing (h : s.IsIntact) (place : Key) :
    (s.standing .deployment place).IsIntact := by
  cases hfind : s.find? .deployment place with
  | none => exact standing_of_missing hfind ▸ Resource.isIntact_empty place
  | some r => exact standing_of_found hfind ▸ h place r hfind

end Server

section Repairs

variable {d x : Resource .deployment} {c : StoreCall}

/-- Repairs of a Deployment keep all of them intact. -/
theorem OnlyRepairs.isIntact (h : OnlyRepairs d c) (hserved : c.IsServed Server.world)
    (hd : Kind.IsRendered .deployment d.content) (hs : c.before.IsIntact) : c.after.IsIntact := by
  intro place r hr
  rcases h.keeps_or_overlays hserved (fun x hx => (hs _ x hx).held) place with
    hsame | ⟨version, uid, hleft⟩
  · exact hs place r (hsame.symm.trans hr)
  · obtain rfl := Option.some.inj (hleft.symm.trans hr)
    exact ((hs.standing place).overlay hd).issued version uid

/-- A Deployment that a convergence writes records the body that was rendered. -/
theorem records_of_isConvergence (h : IsConvergence d c)
    (hx : c.request = .create .deployment x ∨ c.request = .update .deployment x) : x.Records d := by
  cases h with
  | reads hread => rcases hx with hx | hx <;> rw [hx] at hread <;> cases hread
  | amends live _ hrequest =>
    rcases hx with hx | hx
    · cases hx.symm.trans hrequest
    · rw [StoreRequest.eq_of_update (hx.symm.trans hrequest)]
      exact Resource.records_overlay .deployment live d
  | creates _ hrequest =>
    rcases hx with hx | hx
    · cases hx.symm.trans hrequest
      exact Resource.records_overlay .deployment _ d
    · cases hx.symm.trans hrequest

variable {α : Type} {p : StoreProgram α} {s t : Server} {calls : List StoreCall}
    {res : Except Failure α}

theorem isIntact_of_runs (h : Runs Server.world p s calls res t)
    (honly : ∀ c ∈ calls, OnlyRepairs d c)
    (hd : Kind.IsRendered .deployment d.content) (hs : s.IsIntact) : t.IsIntact :=
  (h.keeps Server.IsIntact hs fun c hc hserved => (honly c hc).isIntact hserved hd).2

/-- Where a Deployment is settled, repairs write nothing, and it stays settled. -/
theorem settled_of_repairs (h : Runs Server.world p s calls res t)
    (honly : ∀ c ∈ calls, OnlyRepairs d c)
    (hs : s.Settled d) : (∀ c ∈ calls, c.before.Settled d) ∧ t.Settled d :=
  h.keeps (fun u => u.Settled d) hs fun c hc hserved => (honly c hc).settled hserved

end Repairs

/-! ## Passes -/

namespace Component

variable {c : Component} {settings : PassSettings} {raw : Resource c.kind} {s t : Server}
  {calls : List StoreCall} {key : Key}

/-- The only Deployment that a pass works on is the compiled one. -/
theorem deployment_of_reached {owner : Resource c.kind} {x : Target}
    (hx : x ∈ c.reached settings owner)
    (hkind : x.kind = .deployment) : x = .settled (c.deployment owner) := by
  have hidentity {k : Kind} {r : Resource k} {common : CommonSettings} {component : String}
      {rules : List PolicyRule} (hx : x ∈ identityTargets r common component rules) : False := by
    rcases of_mem_identityTargets hx with rfl | rfl | rfl | rfl | rfl <;> cases hkind
  have hscaling {k : Kind} {r : Resource k} {common : CommonSettings} {component : String}
      (hx : x = scalingTarget settings.version r common component) : False := by
    rw [hx, kind_scalingTarget] at hkind
    cases hkind
  cases c with
  | gateway =>
    simp only [reached] at hx
    cases hb : GatewayCompile.bootstrap owner with
    | ok bootstrap =>
      simp only [hb, gatewayTargets, List.mem_append, List.mem_cons, List.mem_map, List.not_mem_nil,
        or_false] at hx
      rcases hx with hx | rfl | ⟨m, -, rfl⟩ | rfl | rfl | hx
      · exact (hidentity hx).elim
      · cases hkind
      · cases hkind
      · rfl
      · cases hkind
      · exact (hscaling hx).elim
    | error e =>
      simp only [hb, List.mem_append, List.mem_cons, List.not_mem_nil, or_false] at hx
      rcases hx with hx | rfl
      · exact (hidentity hx).elim
      · cases hkind
  | controller =>
    simp only [reached, controllerTargets, List.mem_append, List.mem_cons, List.not_mem_nil,
      or_false] at hx
    rcases hx with hx | rfl | rfl | hx
    · exact (hidentity hx).elim
    · rfl
    · cases hkind
    · exact (hscaling hx).elim

/-- A call of a pass for its object writes Deployments only to repair the one that is compiled from
it. -/
theorem IsPassCall.onlyRepairs {q : StoreCall} (h : c.IsPassCall settings key raw q) :
    OnlyRepairs (c.deployment (c.withDefaults raw)) q := by
  intro hkind
  obtain ⟨x, hx, hx', hmakes⟩ :=
    h.exists_works (hkind ▸ ne_kind_of_isDependent rfl) (by simp [hkind])
    fun b => by cases b <;> simp [hkind]
  rw [deployment_of_reached hx (hx'.trans hkind)] at hmakes
  exact (Target.isRepair_work _).of_makes hmakes

/-- A pass writes Deployments only to repair the one that is compiled from its object. -/
theorem onlyRepairs_of_pass {res : Except Failure PassEnd}
    (h : Runs Server.world (c.pass settings key) s calls res t) :
    ∀ q ∈ calls, OnlyRepairs (c.deployment (c.withDefaults (s.standing c.kind key))) q := by
  intro q hq
  rcases calls_of_pass h q hq with ⟨k, place, hread⟩ | ⟨raw, hraw, hcall⟩
  · exact fun _ => isRepair_of_get hread
  · rw [Server.standing_of_found hraw]
    exact hcall.onlyRepairs

/-- Calls of which none writes a Deployment. -/
def SparesDeployments (calls : List StoreCall) : Prop :=
  ∀ q ∈ calls, q.request.kind = .deployment → q.request.isWrite = false

/-- A Deployment that a pass writes records the compiled body. -/
theorem records_of_pass {res : Except Failure PassEnd} (hraw : s.find? c.kind key = some raw)
    (h : Runs Server.world (c.pass settings key) s calls res t) {q : StoreCall} (hq : q ∈ calls)
    {x : Resource .deployment}
    (hx : q.request = .create .deployment x ∨ q.request = .update .deployment x) :
    x.Records (c.deployment (c.withDefaults raw)) := by
  have hkind : q.request.kind = .deployment := by
    rcases hx with hx | hx <;> rw [hx] <;> rfl
  have hrepair := onlyRepairs_of_pass h q hq hkind
  rw [Server.standing_of_found hraw] at hrepair
  exact records_of_isConvergence hrepair.converges hx

/-- A pass of an object whose Deployment is settled writes no Deployment. -/
theorem sparesDeployments_of_settled {res : Except Failure PassEnd}
    (hsettled : s.Settled (c.deployment (c.withDefaults (s.standing c.kind key))))
    (h : Runs Server.world (c.pass settings key) s calls res t) : SparesDeployments calls := by
  have honly := onlyRepairs_of_pass h
  have hbefore := (settled_of_repairs h honly hsettled).1
  intro q hq hkind
  cases hwrite : q.request.isWrite with
  | false => rfl
  | true => exact absurd (hbefore q hq) ((honly q hq hkind).unsettled hwrite)

/-! ### Converged passes -/

/-- A convergence that succeeds settles an intact Deployment, also if calls failed. -/
theorem settled_of_work {d : Resource .deployment} (hs : s.IsIntact)
    (h : Runs Server.world (Target.settled d).work s calls (.ok ()) t) : t.Settled d := by
  obtain ⟨_, _, o, u, -, hconverge, hdone⟩ := h.of_bind_ok
  obtain ⟨-, -, rfl⟩ := Program.runs_done_iff.1 hdone
  exact settled_of_runs trivial (fun r hr => (hs _ r hr).held) hconverge

theorem settled_of_workAll {d : Resource .deployment} {xs : List Target}
    (hd : Kind.IsRendered .deployment d.content) (hmem : Target.settled d ∈ xs) (hs : s.IsIntact)
    (honly : ∀ q ∈ calls, OnlyRepairs d q)
    (h : Runs Server.world (Target.workAll xs) s calls (.ok ()) t) :
    t.Settled d := by
  induction xs generalizing s calls with
  | nil => cases hmem
  | cons x xs ih =>
    obtain ⟨front, back, _, u, rfl, hfirst, hrest⟩ := h.of_bind_ok
    obtain ⟨hfront, hback⟩ := List.forall_mem_append.1 honly
    rcases List.mem_cons.1 hmem with rfl | hmem
    · -- what comes later leaves it settled
      exact (settled_of_repairs hrest hback (settled_of_work hs hfirst)).2
    · exact ih hmem (isIntact_of_runs hfirst hfront hd hs) hback hrest

theorem settled_of_converge {owner : Resource c.kind} (hs : s.IsIntact)
    (honly : ∀ q ∈ calls, OnlyRepairs (c.deployment owner) q)
    (h : Runs Server.world (c.converge settings owner) s calls (.ok ()) t) :
    t.Settled (c.deployment owner) := by
  cases hxs : c.targets settings owner with
  | ok xs =>
    have hmem : Target.settled (c.deployment owner) ∈ xs := by
      obtain ⟨ms, -, rfl⟩ := targets_eq hxs
      simp
    rw [converge_of_targets hxs] at h
    exact settled_of_workAll (isCompiledFor_deployment owner).content hmem hs honly h
  | error e =>
    -- what cannot be compiled does not converge
    rw [converge_eq, hxs] at h
    obtain ⟨_, _, _, u, -, -, hdone⟩ := h.of_bind_ok
    cases (Program.runs_done_iff.1 hdone).2.1

theorem settled_of_settle (hs : s.IsIntact)
    (honly : ∀ q ∈ calls, OnlyRepairs (c.deployment (c.withDefaults raw)) q)
    (h : Runs Server.world (c.settle settings raw) s calls (.ok ()) t) :
    t.Settled (c.deployment (c.withDefaults raw)) := by
  have hd : Kind.IsRendered .deployment (c.deployment (c.withDefaults raw)).content :=
    (isCompiledFor_deployment _).content
  rw [settle_eq] at h
  obtain ⟨_, _, stored, u₁, rfl, hadd, h⟩ := h.of_bind_ok
  obtain ⟨_, _, _, u₄, rfl, hbetween, hrecord⟩ := h.of_bind_ok
  obtain ⟨_, _, _, u₂, rfl, hinstall, hbetween⟩ := hbetween.of_bind_ok
  obtain ⟨_, _, _, u₃, rfl, hrelease, hconverge⟩ := hbetween.of_bind_ok
  simp only [List.forall_mem_append] at honly
  obtain ⟨hadding, ⟨hinstalling, hreleasing, hconverging⟩, hrecording⟩ := honly
  -- what comes before leaves all Deployments intact, what comes after leaves the compiled one
  -- settled
  have h₁ : u₁.IsIntact := isIntact_of_runs hadd hadding hd hs
  have h₂ : u₂.IsIntact := isIntact_of_runs hinstall hinstalling hd h₁
  have h₃ : u₃.IsIntact := isIntact_of_runs hrelease hreleasing hd h₂
  exact (settled_of_repairs hrecord hrecording (settled_of_converge h₃ hconverging hconverge)).2

/-- A pass that converges, whichever of its calls failed, leaves the compiled Deployment settled. -/
theorem settled_of_pass (hs : s.IsIntact) (hraw : s.find? c.kind key = some raw)
    (h : Runs Server.world (c.pass settings key) s calls (.ok .converged) t) :
    t.Settled (c.deployment (c.withDefaults raw)) := by
  obtain ⟨hstays, reads, rest, -, hsettle⟩ := settle_of_converged hraw h
  exact settled_of_settle hs
    (fun q hq => (calls_of_settle hraw hstays hsettle q hq).onlyRepairs) hsettle

/-- After a converged pass the Deployment is settled for the next one as well. -/
theorem settled_again (hs : s.IsIntact) (hraw : s.find? c.kind key = some raw)
    (h : Runs Server.world (c.pass settings key) s calls (.ok .converged) t) :
    c.deployment (c.withDefaults (t.standing c.kind key)) = c.deployment (c.withDefaults raw) ∧
      t.Settled (c.deployment (c.withDefaults raw)) := by
  refine ⟨?_, settled_of_pass hs hraw h⟩
  rcases object_of_pass hraw h with ⟨finalizers, version, status, hkept⟩ | ⟨-, hdeleted, -⟩
  · rw [Server.standing_of_found hkept, deployment_restated]
  · cases (settle_of_converged hraw h).1.symm.trans hdeleted

end Component

end GatewayOperator
