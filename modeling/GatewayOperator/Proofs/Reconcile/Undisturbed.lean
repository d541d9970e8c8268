import GatewayOperator.Proofs.Overlay.Turns
import GatewayOperator.Proofs.Reconcile.DesiredState

/-!
# Quiet targets beside other passes

What is quiet need not stay so when the pass of another object comes: the two may work at one place.
`Withstands` says when a target stays quiet through the work on another one, either because it is
elsewhere or because the other overlay leaves nothing to do. A step that a quiet target withstands
leaves it quiet (`isQuiet_of_withstood`), and a release does if it is about somebody else's subjects
(`settled_of_release`).

`Stages.keeps` lifts such facts from steps to passes: a condition on dependents that every step and
every release keeps is kept by a pass that converges. The first of them is that nothing is being
deleted or held back (`Stages.isUnheld`).
-/

namespace GatewayOperator

open StoreProgram

/-! ## Steps -/

/-- No dependent is being deleted or held back by finalizers. -/
def Server.IsUnheld (s : Server) : Prop :=
  ∀ (k : Kind) (key : Key) (r : Resource k), k.isDependent = true → s.find? k key = some r →
    r.metadata.isBeingDeleted = false ∧ r.metadata.hasFinalizers = false

/-- Deletion and finalizers are the store's and other people's. -/
theorem unheld_overlay_issued {k : Kind} {live d : Resource k} {version uid : Option String}
    (h : live.metadata.isBeingDeleted = false ∧ live.metadata.hasFinalizers = false) :
    ((live.overlay d).issued version uid).metadata.isBeingDeleted = false ∧
      ((live.overlay d).issued version uid).metadata.hasFinalizers = false := by
  obtain ⟨labels, annotations, owners, hmeta⟩ := Resource.overlay_metadata live d
  have hissued : ((live.overlay d).issued version uid).metadata =
      (live.overlay d).metadata.issued version uid := rfl
  rw [hissued, hmeta]
  exact h

theorem Server.IsUnheld.standing {s : Server} (h : s.IsUnheld) {k : Kind}
    (hk : k.isDependent = true) (key : Key) :
    (s.standing k key).metadata.isBeingDeleted = false ∧
      (s.standing k key).metadata.hasFinalizers = false := by
  cases hfind : s.find? k key with
  | none =>
    rw [Server.standing_of_missing hfind]
    unfold Resource.empty
    split <;> exact ⟨rfl, rfl⟩
  | some r =>
    rw [Server.standing_of_found hfind]
    exact h k key r hk hfind

namespace Target

/-- A target that is not about an object with a mark or with finalizers of its own. -/
def IsUnmarked : Target → Prop
  | .present r => r.metadata.isBeingDeleted = false ∧ r.metadata.hasFinalizers = false
  | .settled _ | .absent _ _ => True

/-- A step does not have dependents deleted or held back. -/
theorem isUnheld_of_work {x : Target} {s t : Server} (hx : x.IsUnmarked)
    (hdependent : x.kind.isDependent = true) (h : x.work.run Server.world s = (.ok (), t))
    (hs : s.IsUnheld) : t.IsUnheld := by
  -- only what the step leaves at its own place is new
  suffices hplace : ∀ r, t.find? x.kind x.key = some r →
      r.metadata.isBeingDeleted = false ∧ r.metadata.hasFinalizers = false by
    intro k key r hk hr
    by_cases hsame : k = x.kind ∧ key = x.key
    · obtain ⟨rfl, rfl⟩ := hsame
      exact hplace r hr
    · rw [find?_work h hsame] at hr
      exact hs k key r hk hr
  intro r hr
  cases x with
  | present d =>
    obtain ⟨o, u, hrun, hend⟩ := Program.run_bind_ok.1 h
    cases hend
    rcases createIfAbsent_left hrun with ⟨-, rfl⟩ | ⟨version, uid, hcreated⟩
    · exact hs _ _ r hdependent hr
    · cases hcreated.symm.trans hr
      exact hx
  | @settled k d =>
    obtain ⟨o, u, hrun, hend⟩ := Program.run_bind_ok.1 h
    cases hend
    obtain ⟨r', hfind, ⟨hkept, -⟩ | ⟨version, uid, rfl⟩⟩ :=
      convergeTo_overlaid (fun r hr => (hs k d.key r hdependent hr).1) hrun
    · cases hfind.symm.trans hr
      exact hs k d.key r hdependent hkept
    · cases hfind.symm.trans hr
      exact unheld_overlay_issued (hs.standing hdependent d.key)
  | absent k key =>
    have hfind := Server.find?_delete s k key
    have ht : (s.delete k key).2 = t := congrArg Prod.snd h
    rw [ht] at hfind
    obtain ⟨stored, hstored, hr⟩ := Option.bind_eq_some_iff.1 (hfind.symm.trans hr)
    rw [(hs k key stored hdependent hstored).2] at hr
    cases hr

/-- Targets that stay quiet through the work on another one. -/
inductive Withstands : Target → Target → Prop
  /-- the other one is elsewhere -/
  | apart {x y : Target} : x.Apart y → Withstands x y
  /-- where one overlay has nothing to do, it has nothing to do after the other one -/
  | turns {k : Kind} {d e : Resource k} :
      (∀ r : Resource k, (r.overlay d).sameAs r = true → (r.overlay e).overlay d = r.overlay e) →
      Withstands (.settled d) (.settled e)

/-- A target withstands the work on itself. -/
theorem Withstands.refl {k : Kind} {d : Resource k} (h : Resource.HasUniquePorts k d.content) :
    Withstands (.settled d) (.settled d) :=
  .turns fun r _ => r.overlay_overlay d h

/-- A quiet target stays quiet through work that it withstands. -/
theorem isQuiet_of_withstood {x y : Target} {s t : Server} (hxy : x.Withstands y)
    (hdependent : y.kind.isDependent = true) (h : y.work.run Server.world s = (.ok (), t))
    (hs : s.IsUnheld) (hx : x.IsQuiet s) : x.IsQuiet t := by
  cases hxy with
  | apart hapart => exact local_isQuiet x s t (find?_work h hapart).symm hx
  | @turns k d e hturn =>
    by_cases hkey : d.key = e.key
    · obtain ⟨o, u, hrun, hend⟩ := Program.run_bind_ok.1 h
      cases hend
      obtain ⟨r, hr, hsame⟩ := hx
      obtain ⟨r', hfind, ⟨hkept, -⟩ | ⟨version, uid, rfl⟩⟩ :=
        convergeTo_overlaid (fun r hr => (hs k e.key r hdependent hr).1) hrun
      · rw [← hkey] at hfind hkept
        cases hr.symm.trans hkept
        exact ⟨r, hfind, hsame⟩
      · rw [← hkey] at hfind
        refine ⟨_, hfind, ?_⟩
        rw [Server.standing_of_found hr, Resource.overlay_issued, hturn r hsame]
        exact Resource.sameAs_self _
    · exact local_isQuiet (.settled d) s t (find?_work h fun hplace => hkey hplace.2).symm hx

/-- What every step keeps, a list of steps keeps. -/
theorem workAll_keeps {I : Server → Prop} {xs : List Target} {s t : Server}
    (hstep : ∀ x ∈ xs, ∀ s t, x.work.run Server.world s = (.ok (), t) → I s → I t)
    (h : (workAll xs).run Server.world s = (.ok (), t)) (hs : I s) : I t := by
  induction xs generalizing s with
  | nil =>
    cases h
    exact hs
  | cons x xs ih =>
    obtain ⟨_, u, hwork, hrest⟩ := Program.run_bind_ok.1 h
    exact ih (fun y hy => hstep y (List.mem_cons_of_mem _ hy)) hrest
      (hstep x List.mem_cons_self s u hwork hs)

end Target

/-! ## Releases -/

namespace Binding

variable {b : Binding} {account ns : String} {s t : Server}

theorem isDependent_kind (b : Binding) : b.kind.isDependent = true := by cases b <;> rfl

/-- What a release leaves at the place of its binding: what was there, or the same without the
account. -/
theorem release_left (hs : s.IsUnheld)
    (h : (b.release account ns).run Server.world s = (.ok (), t)) :
    t.find? b.kind (b.key account ns) = s.find? b.kind (b.key account ns) ∨
      ∃ r version, s.find? b.kind (b.key account ns) = some r ∧
        t.find? b.kind (b.key account ns) =
          some ((b.pruned r account ns).issued version r.metadata.uid) := by
  rw [release_eq, run_get_bind] at h
  cases hfind : s.find? b.kind (b.key account ns) with
  | none =>
    rw [hfind] at h
    cases h
    exact Or.inl hfind
  | some r =>
    rw [hfind] at h
    simp only [handle] at h
    split at h
    · obtain ⟨r', u, hupdate, hend⟩ := Program.run_bind_ok.1 h
      cases hend
      have hkey := Server.key_of_find? hfind
      have hstays := (hs b.kind _ r b.isDependent_kind hfind).1
      obtain ⟨rfl, hplace⟩ := Server.update_staying_ok hfind (by rw [key_pruned, hkey])
        (by rw [metadata_pruned]) hstays hupdate
      refine Or.inr ⟨r, some (toString (s.version + 1)), rfl, ?_⟩
      rw [hplace, Server.withVersion_eq_issued]
      cases b <;> rfl
    · cases h
      exact Or.inl hfind

theorem find?_release (h : (b.release account ns).run Server.world s = (.ok (), t)) {j : Kind}
    {other : Key} (hplace : ¬ (j = b.kind ∧ other = b.key account ns)) :
    t.find? j other = s.find? j other := by
  have hframe : ((b.release account ns).run Server.world s).2.find? j other = s.find? j other :=
    find?_run_release (fun heq => hplace ⟨heq.1.symm, heq.2.symm⟩) s
  rwa [h] at hframe

/-- A release does not have dependents deleted or held back. -/
theorem isUnheld_of_release (h : (b.release account ns).run Server.world s = (.ok (), t))
    (hs : s.IsUnheld) : t.IsUnheld := by
  intro k key r hk hr
  by_cases hsame : k = b.kind ∧ key = b.key account ns
  · obtain ⟨rfl, rfl⟩ := hsame
    rcases release_left hs h with hkept | ⟨before, version, hbefore, hleft⟩
    · exact hs _ _ r hk (hkept.symm.trans hr)
    · cases hleft.symm.trans hr
      have hmeta : ((b.pruned before account ns).issued version before.metadata.uid).metadata =
          before.metadata.issued version before.metadata.uid := by
        rw [← metadata_pruned b before account ns]
        rfl
      rw [hmeta]
      exact hs _ _ before hk hbefore
  · rw [find?_release h hsame] at hr
    exact hs k key r hk hr

/-- A binding of the cluster that is settled stays so when somebody else's subjects are taken out of
one. -/
theorem settled_of_release {d : Resource .clusterRoleBinding}
    (hother : ∀ x ∈ d.content.subjects.getD [], x.isAccount account ns = false)
    (h : (b.release account ns).run Server.world s = (.ok (), t)) (hs : s.IsUnheld)
    (hd : s.Settled d) : t.Settled d := by
  obtain ⟨r, hr, hsame⟩ := hd
  by_cases hplace : Kind.clusterRoleBinding = b.kind ∧ d.key = b.key account ns
  · cases b with
    | role => cases hplace.1
    | cluster =>
      have hkey : d.key = Binding.cluster.key account ns := hplace.2
      rcases release_left hs h with hkept | ⟨before, version, hbefore, hleft⟩
      · rw [← hkey] at hkept
        exact ⟨r, hkept.trans hr, hsame⟩
      · rw [← hkey] at hbefore hleft
        cases hr.symm.trans hbefore
        refine ⟨_, hleft, ?_⟩
        have hover := Resource.clusterRoleBinding_pruned
          (Resource.clusterRoleBinding_eq_of_sameAs hsame) hother
        rw [Resource.overlay_issued]
        have hpruned : (Binding.cluster.pruned r account ns).overlay d =
            Binding.cluster.pruned r account ns := hover
        rw [hpruned]
        exact Resource.sameAs_self _
  · exact ⟨r, (find?_release h hplace).trans hr, hsame⟩

/-- What every release keeps, several releases keep. -/
theorem releaseAll_keeps {I : Server → Prop} {ps : List (Binding × String)}
    (hstep : ∀ (b : Binding) account s t, (b.release account ns).run Server.world s = (.ok (), t) →
      I s → I t)
    (h : (releaseAll ns ps).run Server.world s = (.ok (), t)) (hs : I s) : I t := by
  induction ps generalizing s with
  | nil =>
    cases h
    exact hs
  | cons p ps ih =>
    obtain ⟨_, u, hfirst, hrest⟩ := Program.run_bind_ok.1 h
    exact ih hrest (hstep p.1 p.2 s u hfirst hs)

end Binding

/-! ## Passes -/

namespace Component

variable {c : Component} {settings : PassSettings} {raw : Resource c.kind} {s t : Server}

/-- The one object that is only to be there is compiled without a mark. -/
theorem isUnmarked_of_reached {r : Resource c.kind} {x : Target} (hx : x ∈ c.reached settings r) :
    x.IsUnmarked := by
  have hscaling {k : Kind} (owner : Resource k) (common : CommonSettings) (component : String) :
      (scalingTarget settings.version owner common component).IsUnmarked := by
    unfold scalingTarget
    split <;> trivial
  have hidentity {k : Kind} {owner : Resource k} {common : CommonSettings} {component : String}
      {rules : List PolicyRule} (hx : x ∈ identityTargets owner common component rules) :
      x.IsUnmarked := by
    rcases of_mem_identityTargets hx with rfl | rfl | rfl | rfl | rfl
    · exact ⟨rfl, rfl⟩
    all_goals trivial
  cases c with
  | gateway =>
    simp only [reached] at hx
    cases hb : GatewayCompile.bootstrap r with
    | ok bootstrap =>
      simp only [hb, gatewayTargets, List.mem_append, List.mem_cons, List.mem_map,
        List.not_mem_nil, or_false] at hx
      rcases hx with hx | rfl | ⟨m, -, rfl⟩ | rfl | rfl | rfl
      · exact hidentity hx
      · trivial
      · trivial
      · trivial
      · trivial
      · exact hscaling _ _ _
    | error e =>
      simp only [hb, List.mem_append, List.mem_cons, List.not_mem_nil, or_false] at hx
      rcases hx with hx | rfl
      · exact hidentity hx
      · trivial
  | controller =>
    simp only [reached, controllerTargets, List.mem_append, List.mem_cons, List.not_mem_nil,
      or_false] at hx
    rcases hx with hx | rfl | rfl | rfl
    · exact hidentity hx
    · trivial
    · trivial
    · exact hscaling _ _ _

theorem IsTargetOf.isUnmarked {x : Target} (h : c.IsTargetOf settings raw x) : x.IsUnmarked := by
  rcases h with ⟨ds, hds, hx⟩ | hx
  · obtain ⟨d, rfl⟩ := settled_of_definitionTargets hds x hx
    trivial
  · exact isUnmarked_of_reached hx

namespace Stages

/-- A condition on dependents that steps and releases keep is kept by a pass that converges. -/
theorem keeps (stages : Stages c settings raw s t) {I : Server → Prop}
    (hframe : ∀ s t : Server, (∀ k key, k.isDependent = true → t.find? k key = s.find? k key) →
      t.rejected = s.rejected → I s → I t)
    (hrelease : ∀ (b : Binding) account s t,
      (b.release account raw.metadata.nsOrEmpty).run Server.world s = (.ok (), t) → I s → I t)
    (hwork : ∀ x, c.IsTargetOf settings raw x → ∀ s t, x.work.run Server.world s = (.ok (), t) →
      I s → I t)
    (hs : I s) : I t := by
  have hadded : I stages.added :=
    hframe s _ (fun k key hk => stages.find?_added (ne_kind_of_isDependent hk))
      (rejected_of_run stages.run_add) hs
  have hinstalled : I stages.installed :=
    Target.workAll_keeps (fun x hx => hwork x (Or.inl ⟨_, stages.read, hx⟩))
      stages.run_install hadded
  have hreleased : I stages.released :=
    Binding.releaseAll_keeps hrelease stages.run_release hinstalled
  have hworked : I stages.worked :=
    Target.workAll_keeps (fun x hx => hwork x (isTargetOf_of_targets stages.compile hx))
      stages.run_work hreleased
  exact hframe _ t (fun k key hk => stages.find?_recorded (ne_kind_of_isDependent hk))
    (rejected_of_run stages.run_record) hworked

/-- A pass that converges leaves no dependent behind that is being deleted or held back. -/
theorem isUnheld (stages : Stages c settings raw s t) (hs : s.IsUnheld) : t.IsUnheld := by
  refine stages.keeps (fun s t hframe _ hs k key r hk hr => ?_)
    (fun b account s t => Binding.isUnheld_of_release) (fun x hx s t h => ?_) hs
  · rw [hframe k key hk] at hr
    exact hs k key r hk hr
  · exact Target.isUnheld_of_work hx.isUnmarked hx.isDependent h

/-- A pass that converges leaves everything as it is that is neither its object nor a dependent. -/
theorem find?_independent (stages : Stages c settings raw s t) {key : Key}
    (hraw : s.find? c.kind key = some raw) (hstays : raw.metadata.isBeingDeleted = false)
    {j : Kind} {other : Key}
    (hj : j.isDependent = false) (hplace : ¬ (j = c.kind ∧ other = key)) :
    t.find? j other = s.find? j other := by
  have hkey : raw.key = key := Server.key_of_find? hraw
  have hstored : (stages.stored.getD raw).key = raw.key := by
    obtain ⟨-, -, finalizers, version, hstored⟩ := addFinalizer_ok hraw hstays stages.run_add
    rw [hstored]
    rfl
  subst hkey
  have hadded : stages.added.find? j other = s.find? j other :=
    find?_of_about (asks_addFinalizer raw c.finalizer) stages.run_add hplace
  have hrecorded : t.find? j other = stages.worked.find? j other :=
    find?_of_about (asks_recordStatus _ _) stages.run_record
      fun hother => hplace ⟨hother.1, hother.2.trans hstored⟩
  have hne {k : Kind} (hk : k.isDependent = true) : ¬ j = k := by
    rintro rfl
    rw [hj] at hk
    cases hk
  rw [hrecorded, stages.find?_worked fun x hx hother => hne
      (isCompiled_of_targets stages.compile x hx).dependent hother.1,
    stages.find?_released fun p _ hother => hne p.1.isDependent_kind hother.1.symm,
    stages.find?_installed (hne rfl), hadded]

end Stages

end Component

end GatewayOperator
