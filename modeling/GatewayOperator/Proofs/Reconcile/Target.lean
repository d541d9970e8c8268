import GatewayOperator.Proofs.Reconcile.Converge

/-!
# Lists of targets

The body of a pass works on one object after the other. A `Target` is what one such step wants,
`work` is the step and `workAll` a list of steps. The rules here lift what is known of one step to
the list:

* `workAll_ok`: what every step leaves at its place is there at last, since no later step touches
  it,
* `workAll_quiet`: on targets that want nothing more, a list of steps does nothing,
* `workAll_succeeds`: in a store that refuses nothing, all steps succeed.

The first needs the targets to be at different places (`Apart`).
-/

namespace GatewayOperator

open StoreProgram
open Program (asks_bind asks_mono)

/-- Whether objects of a kind belong to desired states. -/
def Kind.isDependent : Kind → Bool
  | .deployment | .service | .serviceAccount | .configMap | .role | .roleBinding | .clusterRole
  | .clusterRoleBinding | .definition | .autoscaler _ => true
  | .gateway | .controller | .namespaceKind | .event => false

/-- What one step of a pass wants of the store. -/
inductive Target where
  /-- an object is there, whatever it holds -/
  | present {k : Kind} (object : Resource k)
  /-- an object holds what is desired -/
  | settled {k : Kind} (desired : Resource k)
  /-- no object is there, unless finalizers hold it back -/
  | absent (k : Kind) (key : Key)

namespace Target

/-- The kind that a target is about. -/
def kind : Target → Kind
  | @present k _ => k
  | @settled k _ => k
  | .absent k _ => k

/-- The key that a target is about. -/
def key : Target → Key
  | .present r => r.key
  | .settled d => d.key
  | .absent _ key => key

section

variable {k : Kind} (r : Resource k) (place : Key)

@[simp] theorem kind_present : (present r).kind = k := rfl

@[simp] theorem kind_settled : (settled r).kind = k := rfl

@[simp] theorem kind_absent : (absent k place).kind = k := rfl

@[simp] theorem key_present : (present r).key = r.key := rfl

@[simp] theorem key_settled : (settled r).key = r.key := rfl

@[simp] theorem key_absent : (absent k place).key = place := rfl

end

/-- The step that works towards a target. -/
def work : Target → StoreProgram Unit
  | .present r => do
    let _ ← createIfAbsent r
    pure ()
  | .settled d => do
    let _ ← convergeTo d
    pure ()
  | .absent k key => StoreProgram.delete k key

/-- Work towards one target after the other. -/
def workAll : List Target → StoreProgram Unit
  | [] => pure ()
  | x :: xs => do
    x.work
    workAll xs

/-- Targets at different places. -/
def Apart (x y : Target) : Prop := ¬ (x.kind = y.kind ∧ x.key = y.key)

/-! ## Places -/

/-- A step asks about the place of its target only. -/
theorem asks_work (x : Target) : x.work.Asks (StoreRequest.isAbout x.kind x.key) := by
  cases x with
  | present r => exact asks_bind (asks_createIfAbsent r) fun _ => trivial
  | settled d => exact asks_bind (asks_convergeTo d) fun _ => trivial
  | absent k key => exact asks_delete k key

/-- The step towards a settled object does what a convergence does. -/
theorem isRepair_work {k : Kind} (d : Resource k) :
    (settled d).work.EveryCall Server.world (IsRepair d) :=
  Program.everyCall_bind (isRepair_convergeTo d) fun _ => Program.everyCall_done _

/-- A step leaves every other place as it is. -/
theorem find?_work {x : Target} {s t : Server}
    (h : x.work.run Server.world s = (.ok (), t)) {j : Kind}
    {other : Key} (hplace : ¬ (j = x.kind ∧ other = x.key)) : t.find? j other = s.find? j other :=
  find?_of_about (asks_work x) h hplace

/-- A list of steps asks about the places of its targets only. -/
theorem asks_workAll (xs : List Target) :
    (workAll xs).Asks fun q => ∃ x ∈ xs, StoreRequest.isAbout x.kind x.key q := by
  induction xs with
  | nil => trivial
  | cons x xs ih =>
    refine asks_bind (asks_mono (fun q hq => ⟨x, List.mem_cons_self, hq⟩) (asks_work x)) ?_
    intro _
    refine asks_mono ?_ ih
    rintro q ⟨y, hy, hq⟩
    exact ⟨y, List.mem_cons_of_mem _ hy, hq⟩

/-- A list of steps leaves every other place as it is. -/
theorem find?_workAll {xs : List Target} {j : Kind} {other : Key}
    (h : ∀ x ∈ xs, ¬ (j = x.kind ∧ other = x.key)) (s : Server) :
    ((workAll xs).run Server.world s).2.find? j other = s.find? j other := by
  refine find?_run (asks_workAll xs) ?_ s
  rintro q ⟨x, hx, hkind, hkey⟩ hq
  rw [hkind, hkey] at hq
  exact h x hx hq

/-! ## Conditions at the place of a target -/

/-- A condition on a target and a server that looks at the target's place only. -/
def Local (P : Target → Server → Prop) : Prop :=
  ∀ x s t, s.find? x.kind x.key = t.find? x.kind x.key → P x s → P x t

/-- If every step turns one local condition into another, so does the list of steps, for all of its
targets at once. -/
theorem workAll_ok {P Q : Target → Server → Prop} (hP : Local P) (hQ : Local Q)
    (hstep : ∀ x s t, P x s → x.work.run Server.world s = (.ok (), t) → Q x t) {xs : List Target}
    (hapart : xs.Pairwise Apart) {s t : Server} (hs : ∀ x ∈ xs, P x s)
    (h : (workAll xs).run Server.world s = (.ok (), t)) : ∀ x ∈ xs, Q x t := by
  induction xs generalizing s with
  | nil => simp
  | cons x xs ih =>
    obtain ⟨hx, hxs⟩ := List.pairwise_cons.1 hapart
    obtain ⟨_, u, hwork, hrest⟩ := Program.run_bind_ok.1 h
    have hQx : Q x u := hstep x s u (hs x List.mem_cons_self) hwork
    intro y hy
    rcases List.mem_cons.1 hy with rfl | hy
    · -- the later steps are elsewhere
      have hframe : ((workAll xs).run Server.world u).2.find? y.kind y.key = u.find? y.kind y.key :=
        find?_workAll hx u
      rw [hrest] at hframe
      exact hQ y u t hframe.symm hQx
    · -- the first step leaves the other places as they are
      refine ih hxs ?_ hrest y hy
      intro z hz
      have hframe : u.find? z.kind z.key = s.find? z.kind z.key :=
        find?_work hwork fun hplace => hx z hz ⟨hplace.1.symm, hplace.2.symm⟩
      exact hP z s u hframe.symm (hs z (List.mem_cons_of_mem _ hz))

/-- Steps that each do nothing do nothing together. -/
theorem workAll_quiet {xs : List Target} {s : Server}
    (h : ∀ x ∈ xs, x.work.run Server.world s = (.ok (), s)) :
    (workAll xs).run Server.world s = (.ok (), s) := by
  induction xs with
  | nil => rfl
  | cons x xs ih =>
    have hx := h x List.mem_cons_self
    exact (Program.run_bind_of_ok hx).trans (ih fun y hy => h y (List.mem_cons_of_mem _ hy))

/-- Whether the object of a target can be at its key. -/
def HasPlace (x : Target) : Prop := x.kind.hasPlace x.key

/-- Whether overlaying with what is desired is done after one time. -/
def HasUniquePorts : Target → Prop
  | .settled d => Resource.HasUniquePorts _ d.content
  | .present _ | .absent _ _ => True

theorem work_succeeds {x : Target} {s : Server} (hrejects : s.rejected = [])
    (hplace : x.HasPlace) : ∃ t, x.work.run Server.world s = (.ok (), t) := by
  have haccepts (k : Kind) : s.rejects k = false := by simp [Server.rejects, hrejects]
  cases x with
  | present r =>
    obtain ⟨o, t, hrun⟩ := createIfAbsent_succeeds (r := r) (haccepts _)
    exact ⟨t, Program.run_bind_of_ok hrun⟩
  | settled d =>
    obtain ⟨o, t, hrun⟩ := convergeTo_succeeds (d := d) (haccepts _) hplace
    exact ⟨t, Program.run_bind_of_ok hrun⟩
  | absent k key => exact ⟨_, Prod.ext (Server.delete_ok s k key) rfl⟩

/-- In a store that refuses nothing, all steps succeed. -/
theorem workAll_succeeds {xs : List Target} {s : Server} (hrejects : s.rejected = [])
    (hplace : ∀ x ∈ xs, x.HasPlace) : ∃ t, (workAll xs).run Server.world s = (.ok (), t) := by
  induction xs generalizing s with
  | nil => exact ⟨s, rfl⟩
  | cons x xs ih =>
    obtain ⟨u, hwork⟩ := work_succeeds hrejects (hplace x List.mem_cons_self)
    obtain ⟨t, hrest⟩ := ih ((rejected_of_run hwork).trans hrejects) fun y hy =>
      hplace y (List.mem_cons_of_mem _ hy)
    exact ⟨t, (Program.run_bind_of_ok hwork).trans hrest⟩

/-! ## Lists in parts -/

theorem work_settled {k : Kind} (d : Resource k) :
    (settled d).work = (convergeTo d).bind fun _ => pure () := rfl

theorem workAll_nil : workAll [] = pure () := rfl

theorem workAll_cons (x : Target) (xs : List Target) :
    workAll (x :: xs) = x.work.bind fun _ => workAll xs := rfl

/-- A list of steps in two parts. -/
theorem workAll_append (xs ys : List Target) :
    workAll (xs ++ ys) = (workAll xs).bind fun _ => workAll ys := by
  induction xs with
  | nil => rfl
  | cons x xs ih =>
    show x.work.bind (fun _ => workAll (xs ++ ys)) = _
    rw [ih]
    exact (Program.bind_assoc _ _ _).symm

end Target

end GatewayOperator
