import GatewayOperator.Proofs.Reconcile.DesiredState

/-!
# The workload of a component

The Deployment and the Service of a component, and what a converged pass does at their places
(`amended_of_pass`): each is overlaid with what is compiled, unless nothing held back its deletion,
and left alone where it was settled.
-/

namespace GatewayOperator

open StoreProgram

/-! ## What a convergence does at its place -/

section Amended

variable {k : Kind} {d : Resource k} {s s' t : Server} {o : Outcome}

/-- What a convergence that succeeds has done at its place. -/
structure Server.Amended (s t : Server) (d : Resource k) : Prop where
  /-- what stood there is overlaid, or went because nothing held back its deletion -/
  overlaid : s.Overlaid t d ∨
    t.find? k d.key = none ∧ ∃ r, s.find? k d.key = some r ∧ Server.isReleased r = true
  settled : s.Settled d → t.find? k d.key = s.find? k d.key

theorem amended_of_run (h : (convergeTo d).run Server.world s = (.ok o, t)) : s.Amended t d := by
  refine ⟨convergeTo_left h, fun hsettled => ?_⟩
  rw [convergeTo_settled hsettled] at h
  cases h
  rfl

theorem Server.Amended.congr (hbefore : s.find? k d.key = s'.find? k d.key) (h : s.Amended t d) :
    s'.Amended t d := by
  refine ⟨?_, fun hsettled => ?_⟩
  · rw [← hbefore]
    exact h.overlaid.imp_left (Server.Overlaid.congr hbefore)
  · rw [← hbefore]
    exact h.settled (by rwa [Server.Settled, hbefore])

theorem Server.Amended.congr_after {u : Server} (hafter : t.find? k d.key = u.find? k d.key)
    (h : s.Amended t d) : s.Amended u d := by
  refine ⟨?_, fun hsettled => hafter.symm.trans (h.settled hsettled)⟩
  unfold Server.Overlaid
  rw [← hafter]
  exact h.overlaid

/-- What is there afterwards was overlaid. -/
theorem Server.Amended.of_stored {r : Resource k} (h : s.Amended t d)
    (hr : t.find? k d.key = some r) :
    s.Overlaid t d := by
  rcases h.overlaid with hover | ⟨hgone, -⟩
  · exact hover
  · rw [hr] at hgone
    cases hgone

/-- Where something holds it back, or it is not being deleted, what stood there was overlaid. -/
theorem Server.Amended.of_held (h : s.Amended t d)
    (hheld : ∀ r, s.find? k d.key = some r → Server.isReleased r = false) : s.Overlaid t d := by
  rcases h.overlaid with hover | ⟨-, r, hr, hreleased⟩
  · exact hover
  · rw [hheld r hr] at hreleased
    cases hreleased

/-- What a step towards a desired object has done. -/
def Target.Amended (before : Server) : Target → Server → Prop
  | .settled d, t => before.Amended t d
  | .present _, _ => True
  | .absent _ _, _ => True

theorem Target.local_amended (before : Server) : Target.Local (Target.Amended before) := by
  intro x t u hplace h
  cases x with
  | settled d => exact Server.Amended.congr_after hplace h
  | present r => trivial
  | absent k key => trivial

theorem Target.amended_of_work {before : Server} (x : Target) (s t : Server)
    (hs : x.Untouched before s)
    (h : x.work.run Server.world s = (.ok (), t)) : x.Amended before t := by
  cases x with
  | settled d =>
    obtain ⟨o, u, hrun, hend⟩ := Program.run_bind_ok.1 h
    cases hend
    exact (amended_of_run hrun).congr hs
  | present r => trivial
  | absent k key => trivial

end Amended

namespace Component

variable {c : Component} {settings : PassSettings} {s t : Server} {ns name : String}

/-! ## Deployment and Service -/

/-- What is compiled does not depend on what a pass writes to its object. -/
@[simp] theorem service_restated (raw : Resource c.kind) (finalizers : Option (List String))
    (version : Option String) (status : c.kind.Content) :
    c.service (c.withDefaults (raw.restated finalizers version status)) =
      c.service (c.withDefaults raw) := by
  cases c <;> rfl

@[simp] theorem deployment_restated (raw : Resource c.kind) (finalizers : Option (List String))
    (version : Option String) (status : c.kind.Content) :
    c.deployment (c.withDefaults (raw.restated finalizers version status)) =
      c.deployment (c.withDefaults raw) := by
  cases c <;> rfl

/-- A converged pass has worked on the Deployment and the Service of its object, and leaves the
object as it was but for finalizers, version and status. -/
theorem amended_of_pass
    (h : (c.pass settings (.inNamespace ns name)).run Server.world s = (.ok .converged, t)) :
    ∃ raw, s.find? c.kind (.inNamespace ns name) = some raw ∧
      (∃ finalizers version status,
        t.find? c.kind (.inNamespace ns name) = some (raw.restated finalizers version status)) ∧
      s.Amended t (c.deployment (c.withDefaults raw)) ∧
      s.Amended t (c.service (c.withDefaults raw)) := by
  obtain ⟨raw, hraw, -, hconverged⟩ := converged_of_pass (Target.local_untouched s)
    (Target.local_amended s) Target.amended_of_work (fun _ _ _ _ => rfl) h
  obtain ⟨finalizers, version, status, hfind, -, -⟩ := hconverged.object
  obtain ⟨xs, hxs, hamended⟩ := hconverged.compiled
  obtain ⟨ms, -, rfl⟩ := targets_eq hxs
  refine ⟨raw, hraw, ⟨finalizers, version, status, hfind⟩, ?_, ?_⟩
  · exact hamended (.settled (c.deployment (c.withDefaults raw))) (by simp)
  · exact hamended (.settled (c.service (c.withDefaults raw))) (by simp)

end Component

end GatewayOperator
