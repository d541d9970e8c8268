import GatewayOperator.Proofs.Overlay.Body
import GatewayOperator.Proofs.Reconcile.Converge

/-!
# Convergence after convergence

What a convergence does to an object that an earlier one left and that others have edited since:

* `rests_after_convergence`: to an object that nobody edited, nothing at all,
* `replaced_after_change`: a body that changed since is there as a whole, and nothing is left of the
  earlier one,
* `repaired_after_drift`: a live body that completes the desired one stays, every other one is
  replaced.

The last two are about Deployments and autoscalers, whose bodies are recorded by a fingerprint. What
they rest on is that every convergence leaves a record of the body that it rendered
(`records_of_run`).
-/

namespace GatewayOperator

variable {k : Kind}

/-! ## Runs -/

/-- Whatever a convergence comes to satisfies `P`, and unless the store refuses its writes it comes
to something. -/
structure AfterConvergence (d : Resource k) (s : Server) (P : Outcome → Server → Prop) : Prop where
  succeeds : s.rejects k = false → ∃ o t, (convergeTo d).run Server.world s = (.ok o, t)
  holds : ∀ o t, (convergeTo d).run Server.world s = (.ok o, t) → P o t

namespace Server

/-- What stood at a place, or a fresh object, has become what stands there now, or it was being
deleted and is gone. -/
def Turned (s t : Server) (key : Key) (how : Resource k → Resource k → Prop) : Prop :=
  (∃ r, t.find? k key = some r ∧ how (s.standing k key) r) ∨
    t.find? k key = none ∧ ∃ r, s.find? k key = some r ∧ r.metadata.isBeingDeleted = true

/-- Somebody edited an object and left the operator's records on it alone. -/
structure Edited (s t : Server) (key : Key) (live edited : Resource k) : Prop where
  before : s.find? k key = some live
  after : t.find? k key = some edited
  records : edited.metadata.SameRecords live.metadata

end Server

/-- Deployments and autoscalers live in namespaces, so nothing but a refusal keeps a convergence
from succeeding. -/
theorem AfterConvergence.of_isWhole (hk : k.IsWhole) {d : Resource k} {s : Server}
    {P : Outcome → Server → Prop}
    (h : ∀ o t, (convergeTo d).run Server.world s = (.ok o, t) → P o t) :
    AfterConvergence d s P := by
  have hplace : k.hasPlace d.key := by cases hk <;> exact Or.inl rfl
  exact ⟨fun hs => convergeTo_succeeds hs hplace, h⟩

/-- A convergence turns what stood there into its overlay, unless that is written alike. -/
theorem turned_of_run {d : Resource k} {s t : Server} {o : Outcome}
    {how : Resource k → Resource k → Prop}
    (h : (convergeTo d).run Server.world s = (.ok o, t))
    (hwrites : ∀ version uid, how (s.standing k d.key)
      (((s.standing k d.key).overlay d).issued version uid))
    (hkeeps : ∀ r, s.find? k d.key = some r → (r.overlay d).sameAs r = true → how r r) :
    s.Turned t d.key how := by
  rcases convergeTo_left h with ⟨r, hr, hover⟩ | ⟨hgone, r, hr, hreleased⟩
  · refine Or.inl ⟨r, hr, ?_⟩
    rcases hover with ⟨hfound, hsame⟩ | ⟨version, uid, rfl⟩
    · rw [Server.standing_of_found hfound]
      exact hkeeps r hfound hsame
    · exact hwrites version uid
  · exact Or.inr ⟨hgone, r, hr, Server.isBeingDeleted_of_isReleased hreleased⟩

theorem Server.Turned.mono {s t : Server} {key : Key} {how how' : Resource k → Resource k → Prop}
    (h : s.Turned t key how) (hmono : ∀ before after, how before after → how' before after) :
    s.Turned t key how' := by
  rcases h with ⟨r, hr, hhow⟩ | hgone
  · exact Or.inl ⟨r, hr, hmono _ r hhow⟩
  · exact Or.inr hgone

/-- What stood there and is not being deleted has become something. -/
theorem Server.Turned.of_found {s t : Server} {key : Key} {r : Resource k}
    {how : Resource k → Resource k → Prop} (h : s.Turned t key how)
    (hfound : s.find? k key = some r)
    (hmark : r.metadata.isBeingDeleted = false) : ∃ x, t.find? k key = some x ∧ how r x := by
  rcases h with ⟨x, hx, hhow⟩ | ⟨-, y, hy, hdeleted⟩
  · rw [Server.standing_of_found hfound] at hhow
    exact ⟨x, hx, hhow⟩
  · rw [hfound] at hy
    cases hy
    rw [hmark] at hdeleted
    cases hdeleted

/-- An object of a kind with a body that is written like its overlay has the overlay's marks. -/
theorem sameMarks_of_settled (hk : k.IsWhole) {r d : Resource k}
    (h : (r.overlay d).sameAs r = true) :
    (r.overlay d).SameMarks r :=
  Resource.sameMarks_of_sameAs (by rintro rfl; cases hk) (by rintro rfl; cases hk) h

/-- And the record of the overlay. -/
theorem records_of_settled (hk : k.IsWhole) {r d : Resource k} (h : (r.overlay d).sameAs r = true) :
    r.Records d := by
  have hmarks := sameMarks_of_settled hk h
  exact (Resource.records_overlay hk r d).of_sameRecords fun _ _ => by rw [hmarks.annotations]

/-- What a convergence leaves at its place is written like its overlay. -/
theorem sameAs_of_run (hk : k.IsWhole) {d live : Resource k} {s t : Server} {o : Outcome}
    (h : (convergeTo d).run Server.world s = (.ok o, t)) (hlive : t.find? k d.key = some live) :
    (live.overlay d).sameAs live = true := by
  have hports : Resource.HasUniquePorts k d.content := by cases hk <;> trivial
  rcases convergeTo_left h with hover | ⟨hgone, -⟩
  · obtain ⟨r, hr, hsame⟩ := hover.settled hports
    rw [hlive] at hr
    cases hr
    exact hsame
  · rw [hlive] at hgone
    cases hgone

/-- A convergence leaves the record of the body that it rendered, whatever stood there before. -/
theorem records_of_run (hk : k.IsWhole) {d live : Resource k} {s t : Server} {o : Outcome}
    (h : (convergeTo d).run Server.world s = (.ok o, t)) (hlive : t.find? k d.key = some live) :
    live.Records d := records_of_settled hk (sameAs_of_run hk h hlive)

/-! ## Objects that nobody edited -/

/-- An overlay is done after one time, whatever stands on the live object and in the desired
metadata; so a convergence after one that succeeded finds nothing to do. -/
theorem rests_after_convergence (k : Kind) (d : Resource k)
    (hports : Resource.HasUniquePorts k d.content) :
    (∀ live : Resource k, (live.overlay d).overlay d = live.overlay d) ∧
      ∀ (s t : Server) (o : Outcome),
        (∀ r, s.find? k d.key = some r → r.metadata.isBeingDeleted = false) →
        (convergeTo d).run Server.world s = (.ok o, t) →
        (convergeTo d).run Server.world t = (.ok .unchanged, t) := by
  refine ⟨fun live => Resource.overlay_overlay live d hports, fun s t o hlive h => ?_⟩
  exact convergeTo_settled (convergeTo_ok hlive hports h)

/-! A Service that names the operator's records itself, over a live one whose records somebody
spoilt. -/

def recordingService : Resource .service where
  metadata :=
    { name := some "edge", ns := some "ns",
      annotations := some ((Dict.ofList [("note", "first")]).insert fingerprintAnnotation "none") }
  content :=
    { spec := some
        { ports := some [.tcp "http" 80 8080, .tcp "https" 443 8443, { port := 15020 }] } }

def spoiltService : Resource .service where
  metadata :=
    { name := some "edge", ns := some "ns",
      annotations := some ((Dict.ofList [("note", "last")]).insert ownedKeysAnnotation "[[],") }
  content :=
    { spec := some
        { ports := some [{ ServicePort.tcp "http" 80 80 with nodePort := some 30080 }] } }

theorem rests_after_convergence_spoiltService :
    ∃ o t,
      (convergeTo recordingService).run Server.world { objects := [⟨.service, spoiltService⟩] } =
        (.ok o, t) ∧
      (convergeTo recordingService).run Server.world t = (.ok .unchanged, t) := by
  have hports : Resource.HasUniquePorts .service recordingService.content := by
    intro ports hports
    obtain rfl : [.tcp "http" 80 8080, .tcp "https" 443 8443, { port := 15020 }] = ports :=
      Option.some.inj hports
    unfold UniqueNames
    decide
  obtain ⟨o, t, h⟩ := convergeTo_succeeds (d := recordingService)
    (s := { objects := [⟨.service, spoiltService⟩] }) rfl (Or.inl rfl)
  refine ⟨o, t, h, (rests_after_convergence .service recordingService hports).2 _ t o ?_ h⟩
  intro r hr
  obtain rfl : spoiltService = r := Option.some.inj hr
  rfl

/-! ## Bodies that changed -/

/-- Where every object that stands there records another body, a convergence replaces the body. -/
theorem turned_of_changed (hk : k.IsWhole) {d e : Resource k} {s t : Server} {o : Outcome}
    (h : (convergeTo e).run Server.world s = (.ok o, t)) (he : e.metadata.RendersNoRecord)
    (hchanged : fingerprint (k.body d.content) ≠ fingerprint (k.body e.content))
    (hrecords : ∀ r, s.find? k e.key = some r → r.Records d) :
    s.Turned t e.key fun before after => before.Rewritten after e := by
  refine turned_of_run h (fun version uid => ?_) fun r hr hsame => ?_
  · refine Resource.Rewritten.issued ?_ version uid
    cases hfind : s.find? k e.key with
    | none =>
      rw [Server.standing_of_missing hfind]
      exact Resource.rewritten_of_empty hk e.key he
    | some r =>
      rw [Server.standing_of_found hfind]
      exact Resource.rewritten_of_changed hk (hrecords r hfind) he hchanged
  · -- what is written like its overlay has the fingerprint of the overlay
    have hprint := (Resource.records_overlay hk r e).print
    rw [(sameMarks_of_settled hk hsame).sameRecords.fingerprint?, (hrecords r hr).print] at hprint
    exact absurd (Option.some.inj hprint) hchanged

/-- Nothing of an earlier body survives a convergence to another one, and the way back is as
complete. -/
theorem replaced_after_change (hk : k.IsWhole) (d₁ d₂ : Resource k) (hkey : d₂.key = d₁.key)
    (h₁ : d₁.metadata.RendersNoRecord) (h₂ : d₂.metadata.RendersNoRecord)
    (hdiffer : (k.body d₁.content).compact ≠ (k.body d₂.content).compact)
    (hcollide : ¬ Collide (k.body d₁.content) (k.body d₂.content)) (s : Server) :
    AfterConvergence d₁ s fun _ t => ∀ (t' : Server) (live edited : Resource k),
      t.Edited t' d₁.key live edited →
        AfterConvergence d₂ t' fun _ u =>
          t'.Turned u d₁.key (fun before after => before.Rewritten after d₂) ∧
          AfterConvergence d₁ u fun _ v =>
            u.Turned v d₁.key fun before after => before.Rewritten after d₁ := by
  have hchanged : fingerprint (k.body d₁.content) ≠ fingerprint (k.body d₂.content) :=
    fun heq => hcollide ⟨hdiffer, heq⟩
  refine .of_isWhole hk fun o t ht t' live edited hedit => .of_isWhole hk fun o' u hu => ⟨?_, ?_⟩
  · have hrecords : edited.Records d₁ :=
      (records_of_run hk ht hedit.before).of_sameRecords hedit.records
    rw [← hkey]
    refine turned_of_changed hk hu h₂ hchanged fun r hr => ?_
    rw [hkey, hedit.after] at hr
    cases hr
    exact hrecords
  · refine .of_isWhole hk fun o'' v hv => turned_of_changed hk hv h₁ hchanged.symm fun r hr => ?_
    exact records_of_run hk hu (by rwa [hkey])

/-! A Deployment that is desired with a field and then without it, and that somebody scaled in
between. -/

/-- A Deployment with a body. -/
def deploymentOf (fields : Json.Fields) : Resource .deployment where
  metadata := { name := some "edge", ns := some "ns" }
  content := { spec := some { shape := .obj fields } }

def pausedDeployment : Resource .deployment := deploymentOf [("paused", .bool true)]

def resumedDeployment : Resource .deployment := deploymentOf []

/-- A live Deployment after somebody gave it three replicas and a body. -/
def Resource.editedTo (live : Resource .deployment) (fields : Json.Fields) : Resource .deployment :=
  { live with content := { spec := some { replicas := some 3, shape := .obj fields } } }

/-- The store after that. -/
def Server.editedTo (t : Server) (live : Resource .deployment) (fields : Json.Fields) : Server :=
  t.put (.inNamespace "ns" "edge") (live.editedTo fields)

/-- Where nothing was, a convergence leaves a Deployment that can be edited. -/
theorem edited_of_run {t : Server} {o : Outcome}
    (h : (convergeTo pausedDeployment).run Server.world {} = (.ok o, t)) :
    t.rejects .deployment = false ∧ ∃ live, live.metadata.deletionTimestamp = none ∧
      ∀ fields,
        t.Edited (t.editedTo live fields) pausedDeployment.key live (live.editedTo fields) := by
  obtain ⟨live, hlive, -⟩ := convergeTo_overlaid (fun r hr => by cases hr) h
  refine ⟨rejects_of_run h .deployment, live, deletionTimestamp_of_run h hlive,
    fun fields => ⟨hlive, ?_, fun _ _ => rfl⟩⟩
  have hkey := Server.key_of_find? hlive
  exact Server.find?_put_self t hkey

/-- The field goes and comes back, and the number of replicas stays as somebody set it. -/
theorem replaced_after_change_pausedDeployment :
    ∃ o t live o' u r o'' v r',
      (convergeTo pausedDeployment).run Server.world {} = (.ok o, t) ∧
      (convergeTo resumedDeployment).run Server.world (t.editedTo live [("paused", .bool true)]) =
        (.ok o', u) ∧
      u.find? .deployment pausedDeployment.key = some r ∧
      r.content = { spec := some { replicas := some 3, shape := .obj [] } } ∧
      (convergeTo pausedDeployment).run Server.world u = (.ok o'', v) ∧
      v.find? .deployment pausedDeployment.key = some r' ∧
      r'.content =
        { spec := some { replicas := some 3, shape := .obj [("paused", .bool true)] } } := by
  have hcollide : ¬ Collide (Kind.body .deployment pausedDeployment.content)
      (Kind.body .deployment resumedDeployment.content) := by
    rintro ⟨-, heq⟩
    revert heq
    decide +kernel
  have h := replaced_after_change .deployment pausedDeployment resumedDeployment rfl
    (fun _ _ => rfl) (fun _ _ => rfl) (by decide +kernel) hcollide {}
  obtain ⟨o, t, ht⟩ := h.succeeds rfl
  obtain ⟨haccepts, live, hmark, hedit⟩ := edited_of_run ht
  have hedit := hedit [("paused", .bool true)]
  have hnext := h.holds o t ht _ live _ hedit
  obtain ⟨o', u, hu⟩ := hnext.succeeds haccepts
  obtain ⟨hturned, hback⟩ := hnext.holds o' u hu
  obtain ⟨r, hr, hcontent, -⟩ := hturned.of_found hedit.after (congrArg Option.isSome hmark)
  have hkept : r.metadata.deletionTimestamp = none := by
    have hstood := congrArg (fun x => x.metadata.deletionTimestamp)
      (Server.standing_of_found hedit.after)
    exact (deletionTimestamp_of_run hu hr).trans (hstood.trans hmark)
  obtain ⟨o'', v, hv⟩ := hback.succeeds ((rejects_of_run hu .deployment).trans haccepts)
  obtain ⟨r', hr', hcontent', -⟩ :=
    (hback.holds o'' v hv).of_found hr (congrArg Option.isSome hkept)
  rw [hcontent] at hcontent'
  exact ⟨o, t, live, o', u, r, o'', v, r', ht, hu, hr, hcontent, hv, hr', hcontent'⟩

/-! ## Bodies that others edited -/

theorem turned_of_drifted (hk : k.IsWhole) {d edited : Resource k} {s t : Server} {o : Outcome}
    (h : (convergeTo d).run Server.world s = (.ok o, t)) (hedited : s.find? k d.key = some edited)
    (hd : k.IsRendered d.content) (hlive : k.IsRendered edited.content)
    (hdrifted : ¬ (k.body edited.content).Completes (k.body d.content)) :
    s.Turned t d.key fun before after => before.Rewritten after d := by
  refine turned_of_run h (fun version uid => ?_) fun r hr hsame => ?_
  · rw [Server.standing_of_found hedited]
    exact (Resource.rewritten_of_drifted hk hdrifted).issued version uid
  · rw [hedited] at hr
    cases hr
    exact absurd (Resource.completes_of_sameAs hk hlive hd hsame) hdrifted

theorem turned_of_completes (hk : k.IsWhole) {d edited : Resource k} {s t : Server} {o : Outcome}
    (h : (convergeTo d).run Server.world s = (.ok o, t)) (hedited : s.find? k d.key = some edited)
    (hrecords : edited.Records d) (hd : d.metadata.RendersNoRecord)
    (hcompletes : (k.body edited.content).Completes (k.body d.content)) :
    s.Turned t d.key fun before after => before.KeepsBody after d := by
  refine turned_of_run h (fun version uid => Or.inr ?_) fun r hr hsame => Or.inl rfl
  rw [Server.standing_of_found hedited, Resource.overlay_of_completes hk hrecords hd hcompletes]
  rfl

/-- Where only the body was edited and the edit completes the desired body, a convergence finds
nothing to do. -/
theorem unchanged_of_completes (hk : k.IsWhole) {d live edited : Resource k} {s t t' : Server}
    {o : Outcome} (h : (convergeTo d).run Server.world s = (.ok o, t))
    (hedit : t.Edited t' d.key live edited) (hd : d.metadata.RendersNoRecord)
    (hmarks : edited.SameMarks live)
    (hcompletes : (k.body edited.content).Completes (k.body d.content))
    (hcount : k.recounted edited.content d.content = edited.content) :
    (convergeTo d).run Server.world t' = (.ok .unchanged, t') := by
  have hself : edited.overlay d = edited :=
    Resource.overlay_eq_self_of_completes hk (records_of_run hk h hedit.before)
      (sameMarks_of_settled hk (sameAs_of_run hk h hedit.before)) hmarks hd hcompletes hcount
  refine convergeTo_settled ⟨edited, hedit.after, ?_⟩
  rw [hself]
  exact Resource.sameAs_self edited

/-- Containment tells what a server filled in from what somebody changed. So a body that completes
the desired one stays as it is, and every other one is replaced. That a Deployment's body is an
object without a replica count holds of whatever is read (`Kind.isRendered_contentOf`). -/
theorem repaired_after_drift :
    Json.DetectsDrift Json.contains ∧
    ∀ {k : Kind}, k.IsWhole → ∀ (d : Resource k) (s : Server),
      d.metadata.RendersNoRecord → k.IsRendered d.content →
      AfterConvergence d s fun _ t => ∀ (t' : Server) (live edited : Resource k),
        t.Edited t' d.key live edited → k.IsRendered edited.content →
        AfterConvergence d t' fun o u =>
          ((k.body edited.content).Completes (k.body d.content) →
            t'.Turned u d.key (fun before after => before.KeepsBody after d) ∧
            (edited.SameMarks live → k.recounted edited.content d.content = edited.content →
              o = .unchanged ∧ u = t')) ∧
          (¬ (k.body edited.content).Completes (k.body d.content) →
            t'.Turned u d.key fun before after => before.Rewritten after d) := by
  refine ⟨Json.detectsDrift_contains, fun hk d s hrecord hd => ?_⟩
  refine .of_isWhole hk fun o t ht t' live edited hedit hlive => ?_
  refine .of_isWhole hk fun o' u hu => ⟨?_, ?_⟩
  · intro hcompletes
    have hrecords : edited.Records d :=
      (records_of_run hk ht hedit.before).of_sameRecords hedit.records
    refine ⟨turned_of_completes hk hu hedit.after hrecords hrecord hcompletes, ?_⟩
    intro hmarks hcount
    rw [unchanged_of_completes hk ht hedit hrecord hmarks hcompletes hcount] at hu
    cases hu
    exact ⟨rfl, rfl⟩
  · exact fun hdrifted => turned_of_drifted hk hu hedit.after hd hlive hdrifted

/-- A field that a server filled in stays, and a field that was taken away comes back. -/
theorem repaired_after_drift_pausedDeployment :
    ∃ o t live, (convergeTo pausedDeployment).run Server.world {} = (.ok o, t) ∧
      (convergeTo pausedDeployment).run Server.world
          (t.editedTo live [("paused", .bool true), ("minReadySeconds", .int 0)]) =
        (.ok .unchanged, t.editedTo live [("paused", .bool true), ("minReadySeconds", .int 0)]) ∧
      ∃ o' u r, (convergeTo pausedDeployment).run Server.world
          (t.editedTo live [("minReadySeconds", .int 0)]) = (.ok o', u) ∧
        u.find? .deployment pausedDeployment.key = some r ∧
        r.content =
          { spec := some { replicas := some 3, shape := .obj [("paused", .bool true)] } } := by
  have h := repaired_after_drift.2 .deployment pausedDeployment {} (fun _ _ => rfl) ⟨_, rfl, rfl⟩
  obtain ⟨o, t, ht⟩ := h.succeeds rfl
  obtain ⟨haccepts, live, hmark, hedit⟩ := edited_of_run ht
  refine ⟨o, t, live, ht, ?_, ?_⟩
  · have hedit := hedit [("paused", .bool true), ("minReadySeconds", .int 0)]
    have hnext := h.holds o t ht _ live _ hedit ⟨_, rfl, rfl⟩
    have hcompletes : (Json.obj [("paused", .bool true), ("minReadySeconds", .int 0)]).Completes
        (.obj [("paused", .bool true)]) := (Json.contains_iff_completes _ _).1 (by decide +kernel)
    obtain ⟨o', u, hu⟩ := hnext.succeeds haccepts
    obtain ⟨rfl, rfl⟩ := ((hnext.holds o' u hu).1 hcompletes).2 ⟨rfl, rfl, rfl⟩ rfl
    exact hu
  · have hedit := hedit [("minReadySeconds", .int 0)]
    have hnext := h.holds o t ht _ live _ hedit ⟨_, rfl, rfl⟩
    have hdrifted : ¬ (Json.obj [("minReadySeconds", .int 0)]).Completes
        (.obj [("paused", .bool true)]) := by
      rw [← Json.contains_iff_completes]
      decide +kernel
    obtain ⟨o', u, hu⟩ := hnext.succeeds haccepts
    obtain ⟨r, hr, hcontent, -⟩ := ((hnext.holds o' u hu).2 hdrifted).of_found hedit.after
      (congrArg Option.isSome hmark)
    exact ⟨o', u, r, hu, hr, hcontent⟩

end GatewayOperator
