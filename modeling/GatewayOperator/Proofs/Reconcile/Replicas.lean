import GatewayOperator.Proofs.Reconcile.Privilege
import GatewayOperator.Proofs.Reconcile.Repair

/-!
# Replica counts

The replica count of a Deployment has two owners: the settings of a gateway or controller, and an
autoscaler that writes it to the live object. `ScaledHistory` is what becomes of a store in which
both are at work, and `counts_shared` says how they share the counts:

* while settings leave the count to others, no pass changes one (`kept`), and other counts alone
  make no pass write (`unmoved`, `rests`),
* a count that is set is there after every pass that converges (`converged`),
* and no count has a part in the fingerprint that passes record (`converged`, `printed`).

A history starts with Deployments that are intact. Whatever is read is, unless an update would let
it go (`Resource.isIntact_of_read`).
-/

namespace GatewayOperator

open StoreProgram
open Program (Runs)

/-! ## Counts -/

namespace Resource

/-- The replica count of a Deployment. -/
def replicas (r : Resource .deployment) : Option Int32 := (r.content.spec.getD {}).replicas

/-- A Deployment with another replica count. -/
def rescaled (r : Resource .deployment) (n : Option Int32) : Resource .deployment :=
  { r with
    content := { r.content with spec := some { (r.content.spec.getD {}) with replicas := n } } }

variable {live d r : Resource .deployment}

/-- An overlay leaves the count that is desired, or else the live one. -/
theorem replicas_overlay : (live.overlay d).replicas = (d.replicas <|> live.replicas) := by
  rw [overlay_of_isWhole .deployment]
  split <;> rfl

/-- A Deployment that was read is intact, if an update does not let it go. -/
theorem isIntact_of_read {j : Json} (hread : r.content = Kind.contentOf .deployment j)
    (hheld : Server.isReleased r = false) : r.IsIntact :=
  ⟨hheld, hread ▸ Kind.isRendered_contentOf .deployment j⟩

theorem IsIntact.rescaled (h : r.IsIntact) (n : Option Int32) : (r.rescaled n).IsIntact :=
  ⟨h.held, h.rendered⟩

/-- Where no count is desired, a settled Deployment may have any. -/
theorem overlay_rescaled (hd : d.metadata.RendersNoRecord)
    (hdesired : Kind.IsRendered .deployment d.content) (hcount : d.replicas = none)
    (hlive : Kind.IsRendered .deployment r.content) (h : (r.overlay d).sameAs r = true)
    (n : Option Int32) :
    (r.rescaled n).overlay d = r.rescaled n := by
  have hcompletes := completes_of_sameAs .deployment hlive hdesired h
  refine overlay_eq_self_of_completes .deployment (records_of_settled .deployment h)
    (sameMarks_of_settled .deployment h)
    ⟨rfl, rfl, rfl⟩ hd hcompletes ?_
  have hnone : (d.content.spec.getD {}).replicas = none := hcount
  simp [Kind.recounted, rescaled, hnone]

end Resource

namespace Server

/-- Every Deployment of a store is also in another one, with the same count. -/
def KeepsCounts (s t : Server) : Prop :=
  ∀ (place : Key) (r : Resource .deployment), s.find? .deployment place = some r →
    ∃ r', t.find? .deployment place = some r' ∧ r'.replicas = r.replicas

variable {s t u : Server}

theorem KeepsCounts.refl (s : Server) : s.KeepsCounts s := fun _ r hr => ⟨r, hr, rfl⟩

theorem KeepsCounts.trans (h : s.KeepsCounts t) (h' : t.KeepsCounts u) : s.KeepsCounts u := by
  intro place r hr
  obtain ⟨r', hr', hcount⟩ := h place r hr
  obtain ⟨r'', hr'', hcount'⟩ := h' place r' hr'
  exact ⟨r'', hr'', hcount'.trans hcount⟩

end Server

/-- Repairs keep all counts where none is desired. -/
theorem OnlyRepairs.keepsCounts {d : Resource .deployment} {c : StoreCall} (h : OnlyRepairs d c)
    (hserved : c.IsServed Server.world) (hcount : d.replicas = none) (hs : c.before.IsIntact) :
    c.before.KeepsCounts c.after := by
  intro place r hr
  rcases h.keeps_or_overlays hserved (fun x hx => (hs _ x hx).held) place with
    hsame | ⟨version, uid, hleft⟩
  · exact ⟨r, hsame.trans hr, rfl⟩
  · rw [Server.standing_of_found hr] at hleft
    refine ⟨_, hleft, ?_⟩
    show (r.overlay d).replicas = r.replicas
    rw [Resource.replicas_overlay, hcount]
    rfl

/-! ## Other counts -/

namespace Server

/-- Somebody gives a live Deployment another replica count. -/
inductive Rescales (s : Server) : Server → Prop where
  | scaled (place : Key) (r : Resource .deployment) (n : Option Int32) :
      s.find? .deployment place = some r → Rescales s (s.update (r.rescaled n)).2

/-- And does so again and again. -/
def Rescaled : Server → Server → Prop := Relation.ReflTransGen Rescales

end Server

/-- An update of a Deployment's count changes nothing else, if it is not refused. -/
theorem find?_rescaled {s : Server} (hs : s.IsIntact) {place : Key} {r : Resource .deployment}
    (hr : s.find? .deployment place = some r) (n : Option Int32) (other : Key) :
    (s.update (r.rescaled n)).2.find? .deployment other = s.find? .deployment other ∨
      other = place ∧ ∃ version uid,
        (s.update (r.rescaled n)).2.find? .deployment other =
        some ((r.rescaled n).issued version uid) := by
  have hplace : r.key = place := Server.key_of_find? hr
  have hkey : (r.rescaled n).key = place := hplace
  have hmerged : Server.merged (r.rescaled n) r = r.rescaled n := Server.merged_of_mark rfl
  have hstep := Server.step_world s (.update .deployment (r.rescaled n))
  rw [Server.world_update] at hstep
  generalize (s.update (r.rescaled n)).2 = t at hstep
  cases hstep with
  | idle => exact Or.inl rfl
  | updated hstored _ hstores =>
    rw [hkey] at hstored hstores
    obtain rfl := Option.some.inj (hr.symm.trans hstored)
    rw [hmerged, Server.withVersion_eq_issued] at hstores
    by_cases hother : other = place
    · exact Or.inr ⟨hother, _, _, hother ▸ hstores.here⟩
    · exact Or.inl (hstores.elsewhere _ _ fun hplace => hother hplace.2)
  | released hstored hreleased _ =>
    rw [hkey] at hstored
    obtain rfl := Option.some.inj (hr.symm.trans hstored)
    rw [hmerged] at hreleased
    cases ((hs place r hr).rescaled n).held.symm.trans hreleased

namespace Server

variable {s t : Server}

theorem Rescales.isIntact (h : s.Rescales t) (hs : s.IsIntact) : t.IsIntact := by
  obtain ⟨place, r, n, hr⟩ := h
  intro other x hx
  rcases find?_rescaled hs hr n other with hsame | ⟨-, version, uid, hstored⟩
  · exact hs other x (hsame.symm.trans hx)
  · obtain rfl := Option.some.inj (hstored.symm.trans hx)
    exact ((hs place r hr).rescaled n).issued version uid

/-- Where no count is desired, another count leaves a settled Deployment settled. -/
theorem Rescales.settled (h : s.Rescales t) (hs : s.IsIntact) {d : Resource .deployment}
    (hd : d.metadata.RendersNoRecord) (hdesired : Kind.IsRendered .deployment d.content)
    (hcount : d.replicas = none) (hsettled : s.Settled d) : t.Settled d := by
  obtain ⟨place, r, n, hr⟩ := h
  obtain ⟨live, hlive, hsame⟩ := hsettled
  rcases find?_rescaled hs hr n d.key with hkept | ⟨rfl, version, uid, hstored⟩
  · exact ⟨live, hkept.trans hlive, hsame⟩
  · obtain rfl := Option.some.inj (hlive.symm.trans hr)
    refine ⟨_, hstored, ?_⟩
    rw [Resource.overlay_issued,
      Resource.overlay_rescaled hd hdesired hcount (hs _ _ hr).rendered hsame]
    exact Resource.sameAs_self _

theorem Rescales.standing (h : s.Rescales t) {k : Kind} (hk : k ≠ .deployment) (key : Key) :
    t.standing k key = s.standing k key := by
  obtain ⟨place, r, n, -⟩ := h
  have hframe : (s.update (r.rescaled n)).2.find? k key = s.find? k key :=
    find?_world (.update .deployment (r.rescaled n)) s fun hplace => hk hplace.1
  unfold Server.standing
  rw [hframe]

end Server

/-! ## Histories -/

namespace Component

variable {c : Component} {s t : Server} {key : Key}

/-- What may become of a store that holds one object of a component: passes, edits and the deletion
of the object, and other replica counts for live Deployments. -/
inductive Scales (c : Component) (key : Key) (s : Server) : Server → Prop where
  | happens {t : Server} : c.Happens key c.AnyEdit s t → Scales c key s t
  | rescales {t : Server} : s.Rescales t → Scales c key s t

/-- What may become of it in the long run. -/
def ScaledHistory (c : Component) (key : Key) : Server → Server → Prop :=
  Relation.ReflTransGen (c.Scales key)

/-- Whatever happens, Deployments stay intact. -/
theorem isIntact_of_scales (hs : s.IsIntact) (h : c.Scales key s t) : t.IsIntact := by
  have helsewhere (q : StoreRequest) (hq : q.kind = c.kind) : (Server.world q s).2.IsIntact :=
    hs.congr fun _ => Server.find?_world q s fun hplace =>
      ne_kind_of_isDependent rfl (hplace.1.trans hq)
  cases h with
  | rescales h => exact h.isIntact hs
  | happens h =>
    cases h with
    | edit raw r => exact helsewhere (.update c.kind r) rfl
    | delete => exact helsewhere (.delete c.kind key) rfl
    | pass settings calls res _ hruns =>
      exact (hruns.keeps Server.IsIntact hs fun q hq hserved =>
        (onlyRepairs_of_pass hruns q hq).isIntact hserved (isCompiledFor_deployment _).content).2

theorem isIntact_of_history (hs : s.IsIntact) (h : c.ScaledHistory key s t) : t.IsIntact := by
  induction h with
  | refl => exact hs
  | tail _ hlast ih => exact isIntact_of_scales ih hlast

/-! ## Counts over a history -/

variable {settings : PassSettings} {raw : Resource c.kind} {calls : List StoreCall} {u : Server}

/-- An object that asks for another replica count and another autoscaler. -/
def withCounts : (c : Component) → Resource c.kind → Option Int32 → Option AutoscalingSettings →
    Resource c.kind
  | .gateway, g, n, a => { g with content := { g.content with spec := { g.content.spec with
      common := { g.content.spec.common with replicas := n, autoScaling := a } } } }
  | .controller, r, n, a => { r with content := { r.content with spec := { r.content.spec with
      common := { r.content.spec.common with replicas := n, autoScaling := a } } } }

/-- The count that is compiled. -/
theorem replicas_deployment (owner : Resource c.kind) :
    (c.deployment owner).replicas =
      if (c.common owner).autoscalingEnabled then none else (c.common owner).replicas := by
  cases c <;> rfl

theorem rendersNoRecord_deployment (owner : Resource c.kind) :
    (c.deployment owner).metadata.RendersNoRecord := by
  intro name _
  cases c <;> rfl

/-- The body of the compiled Deployment does not depend on any count. -/
theorem body_withCounts (raw : Resource c.kind) (n : Option Int32)
    (a : Option AutoscalingSettings) :
    Kind.body .deployment (c.deployment (c.withDefaults (c.withCounts raw n a))).content =
      Kind.body .deployment (c.deployment (c.withDefaults raw)).content := by
  cases c <;> rfl

/-- Where no count is compiled, a pass keeps those of all Deployments. -/
theorem keepsCounts_of_pass {res : Except Failure PassEnd} (hs : s.IsIntact)
    (hraw : s.find? c.kind key = some raw)
    (hcount : (c.deployment (c.withDefaults raw)).replicas = none)
    (h : Runs Server.world (c.pass settings key) s calls res t) : s.KeepsCounts t := by
  have honly := onlyRepairs_of_pass h
  rw [Server.standing_of_found hraw] at honly
  refine ((h.keeps (fun u => u.IsIntact ∧ s.KeepsCounts u) ⟨hs, .refl s⟩
    fun q hq hserved hbefore => ?_).2).2
  obtain ⟨hintact, hkeeps⟩ := hbefore
  exact ⟨(honly q hq).isIntact hserved (isCompiledFor_deployment _).content hintact,
    hkeeps.trans ((honly q hq).keepsCounts hserved hcount hintact)⟩

/-- Where no count is compiled, other counts leave everything as settled as it is. -/
theorem settled_of_rescaled {owner : Resource c.kind} (hs : s.IsIntact) (h : s.Rescaled t)
    (hcount : (c.deployment owner).replicas = none) (hsettled : s.Settled (c.deployment owner)) :
    t.IsIntact ∧ t.Settled (c.deployment owner) ∧
      t.standing c.kind key = s.standing c.kind key := by
  induction h with
  | refl => exact ⟨hs, hsettled, rfl⟩
  | tail _ hlast ih =>
    obtain ⟨hintact, hsettled, hobject⟩ := ih
    exact ⟨hlast.isIntact hintact, hlast.settled hintact (rendersNoRecord_deployment _)
      (isCompiledFor_deployment _).content hcount hsettled,
      (hlast.standing (ne_kind_of_isDependent rfl).symm key).trans hobject⟩

/-- So they make no pass write a settled Deployment. -/
theorem sparesDeployments_of_rescaled {res : Except Failure PassEnd} (hs : s.IsIntact)
    (hcount : (c.deployment (c.withDefaults (s.standing c.kind key))).replicas = none)
    (hsettled : s.Settled (c.deployment (c.withDefaults (s.standing c.kind key))))
    (hscaled : s.Rescaled u)
    (h : Runs Server.world (c.pass settings key) u calls res t) : SparesDeployments calls := by
  obtain ⟨-, hstill, hobject⟩ := settled_of_rescaled hs hscaled hcount hsettled
  refine sparesDeployments_of_settled ?_ h
  rwa [hobject]

/-- Whether an object leaves the number of its replicas to others: an autoscaler is enabled, or no
count is set. -/
def LeavesCount (c : Component) (raw : Resource c.kind) : Prop :=
  (c.common (c.withDefaults raw)).autoscalingEnabled = true ∨
    (c.common (c.withDefaults raw)).replicas = none

theorem LeavesCount.replicas_eq_none (h : c.LeavesCount raw) :
    (c.deployment (c.withDefaults raw)).replicas = none := by
  rw [replicas_deployment]
  rcases h with henabled | hnone
  · rw [if_pos henabled]
  · rw [hnone, ite_self]

/-- Where the count is left to others, other counts make no pass after a converged one write a
Deployment. -/
theorem sparesDeployments_after_pass {settings' : PassSettings} {calls' : List StoreCall}
    {v : Server} {res : Except Failure PassEnd} (hs : s.IsIntact)
    (hraw : s.find? c.kind key = some raw) (hleaves : c.LeavesCount raw)
    (h : Runs Server.world (c.pass settings key) s calls (.ok .converged) t)
    (hscaled : t.Rescaled u) (h' : Runs Server.world (c.pass settings' key) u calls' res v) :
    SparesDeployments calls' := by
  obtain ⟨hsame, hsettled⟩ := settled_again hs hraw h
  have ht : t.IsIntact := isIntact_of_scales hs (.happens (.pass settings calls _ t h))
  refine sparesDeployments_of_rescaled ht ?_ ?_ hscaled h'
  · rw [hsame]
    exact hleaves.replicas_eq_none
  · rwa [hsame]

/-- After a converged pass the Deployment has the count that is compiled, and records the compiled
body. -/
theorem left_of_converged (hs : s.IsIntact) (hraw : s.find? c.kind key = some raw)
    (h : Runs Server.world (c.pass settings key) s calls (.ok .converged) t) :
    ∃ r, t.find? .deployment (c.deployment (c.withDefaults raw)).key = some r ∧
      (∀ n, (c.deployment (c.withDefaults raw)).replicas = some n → r.replicas = some n) ∧
      r.Records (c.deployment (c.withDefaults raw)) := by
  obtain ⟨r, hr, hsame⟩ := settled_of_pass hs hraw h
  have ht : t.IsIntact := isIntact_of_scales hs (.happens (.pass settings calls _ t h))
  have hd : Kind.IsRendered .deployment (c.deployment (c.withDefaults raw)).content :=
    (isCompiledFor_deployment _).content
  have hshows := (Resource.shows_overlay r hd).of_sameAs (by simp) (by simp) hsame
  exact ⟨r, hr, fun n hn => Kind.replicas_of_holds (ht _ r hr).rendered hd hshows.content hn,
    records_of_settled .deployment hsame⟩

/-- What the passes of an object make of replica counts in a store. -/
structure SharesCounts (c : Component) (key : Key) (raw : Resource c.kind) (s : Server) : Prop where
  /-- while the count is left to others, every Deployment keeps it, however a pass ends -/
  kept : c.LeavesCount raw → ∀ settings calls res t,
    Runs Server.world (c.pass settings key) s calls res t → s.KeepsCounts t
  /-- and other counts are no reason to write one: neither where nothing else is to be done -/
  unmoved : c.LeavesCount raw → s.Settled (c.deployment (c.withDefaults raw)) → ∀ u, s.Rescaled u →
    ∀ settings calls res t, Runs Server.world (c.pass settings key) u calls res t →
      SparesDeployments calls
  /-- nor after a pass that converged -/
  rests : c.LeavesCount raw → ∀ settings calls t,
    Runs Server.world (c.pass settings key) s calls (.ok .converged) t → ∀ u, t.Rescaled u →
    ∀ settings' calls' res v, Runs Server.world (c.pass settings' key) u calls' res v →
      SparesDeployments calls'
  /-- after every pass that converges a count that is set is there, unless an autoscaler is enabled,
  and the recorded fingerprint is one that no count has a part in -/
  converged : ∀ settings calls t,
    Runs Server.world (c.pass settings key) s calls (.ok .converged) t →
    ∃ r, t.find? .deployment (c.deployment (c.withDefaults raw)).key = some r ∧
      ((c.common (c.withDefaults raw)).autoscalingEnabled = false → ∀ n,
        (c.common (c.withDefaults raw)).replicas = some n → r.replicas = some n) ∧
      ∀ n a, r.metadata.fingerprint? = some (fingerprint
        (Kind.body .deployment (c.deployment (c.withDefaults (c.withCounts raw n a))).content))
  /-- every pass records the same on what it writes -/
  printed : ∀ settings calls res t, Runs Server.world (c.pass settings key) s calls res t →
    ∀ q ∈ calls, ∀ x, q.request = .create .deployment x ∨ q.request = .update .deployment x → ∀ n a,
      x.metadata.fingerprint? = some (fingerprint
        (Kind.body .deployment (c.deployment (c.withDefaults (c.withCounts raw n a))).content))

/-- Over every history, settings and autoscalers share the replica counts of Deployments. -/
theorem counts_shared (c : Component) (key : Key) (s₀ s : Server) (raw : Resource c.kind)
    (hstart : s₀.IsIntact) (hhistory : c.ScaledHistory key s₀ s)
    (hraw : s.find? c.kind key = some raw) :
    c.SharesCounts key raw s := by
  have hs : s.IsIntact := isIntact_of_history hstart hhistory
  constructor
  case kept =>
    intro hleaves settings calls res t hruns
    exact keepsCounts_of_pass hs hraw hleaves.replicas_eq_none hruns
  case unmoved =>
    intro hleaves hsettled u hscaled settings calls res t hruns
    rw [← Server.standing_of_found hraw] at hleaves hsettled
    exact sparesDeployments_of_rescaled hs hleaves.replicas_eq_none hsettled hscaled hruns
  case rests =>
    intro hleaves settings calls t hruns u hscaled settings' calls' res v hruns'
    exact sparesDeployments_after_pass hs hraw hleaves hruns hscaled hruns'
  case converged =>
    intro settings calls t hruns
    obtain ⟨r, hr, hcount, hrecords⟩ := left_of_converged hs hraw hruns
    refine ⟨r, hr, fun hdisabled n hn => hcount n ?_, fun n a => ?_⟩
    · rw [replicas_deployment, hdisabled, hn]
      rfl
    · rw [body_withCounts]
      exact hrecords.print
  case printed =>
    intro settings calls res t hruns q hq x hx n a
    rw [body_withCounts]
    exact (records_of_pass hraw hruns hq hx).print

/-! An autoscaler gives seven replicas to the Deployment of a gateway that asks for two, and then a
pass writes the Deployment's body. -/

/-- A gateway that asks for two replicas and an autoscaler. -/
def autoscaledGateway : Gateway :=
  { appliedGateway with content := { spec := { common :=
      { replicas := some 2, autoScaling := some { enable := true, maxReplicas := 9 } } } } }

/-- Its Deployment as it is read, without a body. -/
def bareDeployment : Resource .deployment where
  metadata :=
    { name := some "edge", ns := some "higress-system", uid := some "uid-3",
      resourceVersion := some "3" }
  content := Kind.contentOf .deployment (.obj [("spec", .obj [("replicas", .int 1)])])

def autoscaledStore : Server where
  objects := [⟨.namespaceKind, { name := some "higress-system" }, {}⟩,
    ⟨.gateway, autoscaledGateway⟩, ⟨.deployment, bareDeployment⟩]
  version := 3

/-- The store after the autoscaler. -/
def scaledStore : Server := (autoscaledStore.update (bareDeployment.rescaled (some 7))).2

theorem isIntact_autoscaledStore : autoscaledStore.IsIntact := by
  intro place r hr
  have hmem := Server.mem_of_find? hr
  simp only [autoscaledStore, List.mem_cons, List.not_mem_nil, or_false] at hmem
  rcases hmem with hmem | hmem | hmem <;> cases hmem
  exact Resource.isIntact_of_read rfl rfl

theorem counts_shared_scaledStore : ∃ calls t r,
    gateway.ScaledHistory (.inNamespace "higress-system" "edge") autoscaledStore scaledStore ∧
    Runs Server.world (gateway.pass {} (.inNamespace "higress-system" "edge")) scaledStore calls
      (.ok .converged) t ∧
    t.find? .deployment (.inNamespace "higress-system" "edge") = some r ∧ r.replicas = some 7 ∧
    Kind.body .deployment r.content ≠ Kind.body .deployment bareDeployment.content := by
  have hhistory :
      gateway.ScaledHistory (.inNamespace "higress-system" "edge") autoscaledStore scaledStore :=
    .single (.rescales (.scaled (.inNamespace "higress-system" "edge") bareDeployment (some 7) rfl))
  obtain ⟨calls, hcalls⟩ := Program.runs_run Server.world
    (gateway.pass {} (.inNamespace "higress-system" "edge")) scaledStore
  have hend :
      ((gateway.pass {} (.inNamespace "higress-system" "edge")).run Server.world scaledStore).1 =
        .ok .converged := rfl
  rw [hend] at hcalls
  have hscaled :
      (scaledStore.find? .deployment (.inNamespace "higress-system" "edge")).map (·.replicas) =
        some (some 7) := by decide +kernel
  obtain ⟨before, hbefore, hcount⟩ := Option.map_eq_some_iff.1 hscaled
  have hleaves : gateway.LeavesCount autoscaledGateway := Or.inl rfl
  have hshares := counts_shared gateway _ autoscaledStore scaledStore autoscaledGateway
    isIntact_autoscaledStore hhistory rfl
  obtain ⟨r, hr, hkept⟩ := hshares.kept hleaves {} calls _ _ hcalls _ before hbefore
  have hbody : ((((gateway.pass {} (.inNamespace "higress-system" "edge")).run Server.world
      scaledStore).2.find? .deployment (.inNamespace "higress-system" "edge")).map fun x =>
        decide (Kind.body .deployment x.content = Kind.body .deployment bareDeployment.content)) =
      some false := by decide +kernel
  rw [hr, Option.map_some] at hbody
  exact ⟨calls, _, r, hhistory, hcalls, hr, hkept.trans hcount,
    of_decide_eq_false (Option.some.inj hbody)⟩

end Component

end GatewayOperator
