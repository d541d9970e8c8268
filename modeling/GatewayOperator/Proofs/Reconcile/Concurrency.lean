import GatewayOperator.Proofs.Reconcile.Step
import GatewayOperator.Proofs.Resource.Same
import GatewayOperator.Proofs.Store.Interleaving

/-!
# Concurrent clients

Clients converge, create, release and delete objects of one store at the same time. A convergence, a
creation and a release read an object and write it back, and what they read may be out of date by
then. Still each of them is atomic (`isAtomic_convergeTo`, `isAtomic_createIfAbsent`,
`Binding.isAtomic_releaseAt`): whatever the order of the requests, the store is what the calls make
of it one after the other, in the order of their last requests (`jobs_linearize`).

So nobody's subjects are lost from a binding that clients share: they stay, and in their order,
until they are released or the binding goes.
-/

namespace GatewayOperator

open StoreProgram
open Program (asks_bind)

variable {k : Kind} {s : Server} {α : Type}

/-! ## Atomic calls -/

/-- What is left of a convergence once it has read its object. -/
theorem linearizes_amend {d current : Resource k} {whole : StoreProgram Outcome} (hs : s.IsNumbered)
    (hcurrent : s.find? k d.key = some current)
    (hwhole : ∀ t, t.find? k d.key = some current → whole.run Server.world t =
      (amend d.key (fun r => .ok (r.overlay d)) current).run Server.world t) :
    whole.Linearizes (amend d.key (fun r => .ok (r.overlay d)) current) s := by
  have hkey := Server.key_of_find? hcurrent
  rw [amend_overlay_eq d hkey] at hwhole ⊢
  by_cases hsame : (current.overlay d).sameAs current = true
  · rw [if_pos hsame]
    trivial
  · rw [if_neg hsame] at hwhole ⊢
    -- an overlay keeps the version that was read
    obtain ⟨labels, annotations, owners, hmeta⟩ := Resource.overlay_metadata current d
    exact linearizes_update_pure hs hcurrent ((Resource.key_overlay current d).trans hkey)
      (by rw [hmeta]) hwhole

theorem run_convergeTo_found {d current : Resource k} (h : s.find? k d.key = some current) :
    (convergeTo d).run Server.world s =
      (amend d.key (fun r => .ok (r.overlay d)) current).run Server.world s := by
  unfold convergeTo converge
  rw [run_get_bind, h]

theorem isAtomic_convergeTo (d : Resource k) : IsAtomic (convergeTo d) := by
  refine ⟨writesLast_converge d.key _, fun s hs => ?_⟩
  have hread (t : Server) (ht : s.Precedes t) (current : Resource k)
      (hcurrent : t.find? k d.key = some current) :
      (convergeTo d).Linearizes (amend d.key (fun r => .ok (r.overlay d)) current) t :=
    linearizes_amend (hs.of_precedes ht) hcurrent fun u hu => run_convergeTo_found hu
  -- its last request may be a reading, the creation, or the update after either reading
  show (convergeTo d).Linearizes (StoreProgram.get k d.key >>= _) s
  refine linearizes_get_bind (fun t ht x hx => ?_) fun t ht => ?_
  · refine (run_get_bind t k d.key _).trans ?_
    rw [hx]
    rfl
  cases hfind : t.find? k d.key with
  | some current => exact hread t ht current hfind
  | none =>
    show (convergeTo d).Linearizes (StoreProgram.ofExcept _ >>= _) t
    cases hmutated : mutated d.key (fun r => .ok (r.overlay d)) (.empty k d.key) with
    | error e => trivial
    | ok desired =>
      have hkey := key_of_mutated hmutated
      refine linearizes_tryCreate_bind (fun u hu x hx => ?_) fun u hu => ?_
      · cases hcreate : (u.create desired).1 with
        | error e =>
          rw [hcreate] at hx
          cases e <;> cases hx
        | ok created =>
          -- nothing was there, so the whole convergence creates the object too
          rw [hcreate] at hx
          cases hx
          obtain ⟨hnone, -, -⟩ := Server.create_ok (Prod.ext hcreate rfl)
          rw [hkey] at hnone
          unfold convergeTo converge
          rw [run_get_bind, hnone]
          dsimp only
          rw [hmutated, run_ofExcept_bind, run_tryCreate_bind, hcreate]
          rfl
      · cases hcreate : (u.create desired).1 with
        | ok created => trivial
        | error e =>
          cases e with
          | alreadyExists kind text =>
            -- somebody else was faster, so the object is read again
            refine linearizes_get_bind (fun v hv x hx => ?_) fun v hv => ?_
            · cases hagain : v.find? k d.key with
              | none =>
                rw [hagain] at hx
                cases hx
              | some current =>
                rw [hagain] at hx
                rw [run_convergeTo_found hagain]
                exact congrArg (fun p => p.run Server.world v) hx
            · cases hagain : v.find? k d.key with
              | none => trivial
              | some current => exact hread v (ht.trans (hu.trans hv)) current hagain
          | _ => trivial

theorem isAtomic_createIfAbsent (r : Resource k) : IsAtomic (createIfAbsent r) := by
  refine ⟨writesLast_createIfAbsent r, fun s hs => ?_⟩
  show (createIfAbsent r).Linearizes (StoreProgram.get k r.key >>= _) s
  refine linearizes_get_bind (fun t ht x hx => ?_) fun t ht => ?_
  · refine (run_get_bind t k r.key _).trans ?_
    rw [hx]
    rfl
  cases hfind : t.find? k r.key with
  | some current => trivial
  | none =>
    refine linearizes_tryCreate_bind (fun u hu x hx => ?_) fun u hu => ?_
    · cases hcreate : (u.create r).1 with
      | ok created =>
        rw [hcreate] at hx
        cases hx
        obtain ⟨hnone, -, -⟩ := Server.create_ok (Prod.ext hcreate rfl)
        unfold createIfAbsent
        rw [run_get_bind, hnone]
        dsimp only
        rw [run_tryCreate_bind, hcreate]
        rfl
      | error e =>
        rw [hcreate] at hx
        cases e with
        | alreadyExists kind text =>
          -- an object is there by now, so the whole creation leaves it alone too
          cases hx
          have hsame := Server.world_refused (q := .create k r) hcreate
          rw [Server.world_create] at hsame
          rw [hsame]
          exact createIfAbsent_present (Server.isSome_of_alreadyExists hcreate)
        | _ => cases hx
    · cases (u.create r).1 with
      | ok created => trivial
      | error e => cases e <;> trivial

namespace Binding

/-- Take an account out of the binding at a place, as a pass does at the place that is named after
the account (`Binding.release_eq`). -/
def releaseAt (b : Binding) (key : Key) (account ns : String) : StoreProgram Unit :=
  StoreProgram.get b.kind key >>= b.handle account ns

theorem isAtomic_releaseAt (b : Binding) (key : Key) (account ns : String) :
    IsAtomic (b.releaseAt key account ns) := by
  refine ⟨writesLast_get_bind (b.writesLast_handle account ns), fun s hs => ?_⟩
  refine linearizes_get_bind (fun t ht x hx => ?_) fun t ht => ?_
  · unfold releaseAt
    rw [run_get_bind, hx]
    rfl
  cases hfind : t.find? b.kind key with
  | none => trivial
  | some r =>
    have hwhole (u : Server) (hu : u.find? b.kind key = some r) :
        (b.releaseAt key account ns).run Server.world u =
          (b.handle account ns (some r)).run Server.world u := by
      unfold releaseAt
      rw [run_get_bind, hu]
    unfold handle at hwhole ⊢
    dsimp only at hwhole ⊢
    by_cases hany : ((b.subjects r).any fun x => x.isAccount account ns) = true
    · simp only [if_pos hany] at hwhole ⊢
      refine linearizes_update_pure (hs.of_precedes ht) hfind ?_ ?_ hwhole
      · rw [key_pruned, Server.key_of_find? hfind]
      · rw [metadata_pruned]
    · rw [if_neg hany]
      trivial

/-- A release that succeeds finds nothing to release, or updates the binding. -/
theorem releaseAt_ok {b : Binding} {key : Key} {account ns : String} {s t : Server}
    (h : (b.releaseAt key account ns).run Server.world s = (.ok (), t)) :
    (t = s ∧ ∀ r, s.find? b.kind key = some r → ∀ x ∈ b.subjects r,
      x.isAccount account ns = false) ∨
      ∃ r r', s.find? b.kind key = some r ∧ s.update (b.pruned r account ns) = (.ok r', t) := by
  unfold releaseAt at h
  rw [run_get_bind] at h
  cases hfind : s.find? b.kind key with
  | none =>
    rw [hfind] at h
    cases h
    exact Or.inl ⟨rfl, fun r hr => by cases hr⟩
  | some r =>
    rw [hfind] at h
    simp only [handle] at h
    split at h
    · obtain ⟨r', u, hupdate, hpure⟩ := Program.run_bind_ok.1 h
      cases hpure
      exact Or.inr ⟨r, r', rfl, hupdate⟩
    · rename_i hany
      cases h
      refine Or.inl ⟨rfl, fun r' hr' x hx => ?_⟩
      cases hr'
      rw [← Bool.not_eq_true]
      exact fun haccount => hany (List.any_eq_true.2 ⟨x, hx, haccount⟩)

end Binding

/-- A deletion is one request. -/
theorem isAtomic_delete (key : Key) : IsAtomic (StoreProgram.delete k key) := by
  refine ⟨writesLast_delete key, fun s hs t ht => ⟨fun x hx => ?_, trivial⟩⟩
  have hanswer : (Server.world (.delete k key) t).1 = .ok x := by
    injection hx
  exact Prod.ext hanswer rfl

/-! ## Clients -/

/-- What one client asks for. -/
inductive Job where
  | converge {k : Kind} (d : Resource k)
  | create {k : Kind} (r : Resource k)
  | release (b : Binding) (key : Key) (account ns : String)
  | delete (k : Kind) (key : Key)

namespace Job

/-- The call that a client makes. Releases and deletions have no outcome. -/
def program : Job → StoreProgram (Option Outcome)
  | .converge d => (convergeTo d).bind fun o => pure (some o)
  | .create r => (createIfAbsent r).bind fun o => pure (some o)
  | .release b key account ns => (b.releaseAt key account ns).bind fun _ => pure none
  | .delete k key => (StoreProgram.delete k key).bind fun _ => pure none

def kind : Job → Kind
  | .converge (k := k) _ => k
  | .create (k := k) _ => k
  | .release b _ _ _ => b.kind
  | .delete k _ => k

def key : Job → Key
  | .converge d => d.key
  | .create r => r.key
  | .release _ key _ _ => key
  | .delete _ key => key

theorem isAtomic_program (x : Job) : IsAtomic x.program := by
  cases x with
  | converge d => exact (isAtomic_convergeTo d).map some
  | create r => exact (isAtomic_createIfAbsent r).map some
  | release b key account ns => exact (b.isAtomic_releaseAt key account ns).map fun _ => none
  | delete k key => exact (isAtomic_delete key).map fun _ => none

/-- A call that succeeds leaves every other place as it is. -/
theorem find?_of_program {x : Job} {t : Server} {o : Option Outcome} {j : Kind} {other : Key}
    (h : x.program.run Server.world s = (.ok o, t)) (hplace : ¬ (j = x.kind ∧ other = x.key)) :
    t.find? j other = s.find? j other := by
  cases x with
  | @converge k d =>
    have hasks : (converge d).program.Asks (StoreRequest.isAbout k d.key) :=
      asks_bind (asks_convergeTo d) fun _ => trivial
    exact find?_of_about hasks h hplace
  | @create k r =>
    have hasks : (create r).program.Asks (StoreRequest.isAbout k r.key) :=
      asks_bind (asks_createIfAbsent r) fun _ => trivial
    exact find?_of_about hasks h hplace
  | delete k key =>
    have hasks : (delete k key).program.Asks (StoreRequest.isAbout k key) :=
      asks_bind (asks_delete k key) fun _ => trivial
    exact find?_of_about hasks h hplace
  | release b key account ns =>
    obtain ⟨_, u, hrun, hpure⟩ := Program.run_bind_ok.1 h
    cases hpure
    rcases Binding.releaseAt_ok hrun with ⟨rfl, -⟩ | ⟨r, r', hr, hupdate⟩
    · rfl
    · have hkey : (b.pruned r account ns).key = key :=
        (Binding.key_pruned b r account ns).trans (Server.key_of_find? hr)
      have hframe := Server.find?_world (.update b.kind (b.pruned r account ns)) s
        (fun hp => hplace ⟨hp.1, hp.2.trans hkey⟩)
      rwa [Server.world_update, hupdate] at hframe

end Job

/-! ## Bindings that clients share -/

/-- After a convergence the subjects of the binding are those that were there and those that were
missing. -/
theorem subjects_of_convergeTo {t : Server} {o : Outcome} {d b : Resource .clusterRoleBinding}
    (h : (convergeTo d).run Server.world s = (.ok o, t))
    (hb : t.find? .clusterRoleBinding d.key = some b) :
    Binding.cluster.subjects b = (Binding.cluster.subjects d).foldl (addMissing Subject.isSameAs)
      (Binding.cluster.subjects (s.standing .clusterRoleBinding d.key)) := by
  rcases convergeTo_left h with ⟨r, hr, hwritten⟩ | ⟨hgone, -⟩
  · rw [hb] at hr
    cases hr
    rcases hwritten with ⟨hfound, hsame⟩ | ⟨version, uid, rfl⟩
    · -- a binding that was left alone is written like its overlay
      have hsubjects : (b.overlay d).content.subjects = b.content.subjects :=
        BindingContent.subjects_of_same
          (Resource.content_of_sameAs hsame (by simp [Kind.headFields]))
      rw [Server.standing_of_found hfound]
      show b.content.subjects.getD [] = _
      rw [← hsubjects]
      rfl
    · rfl
  · rw [hgone] at hb
    cases hb

namespace Job

/-- Whether a client releases a subject from the cluster's binding at a place. -/
def releases (place : Key) (x : Subject) : Job → Bool
  | .release .cluster key account ns => key == place && x.isAccount account ns
  | _ => false

/-- A call about another place releases nothing. -/
theorem releases_elsewhere {x : Job} {place : Key}
    (h : ¬ (.clusterRoleBinding = x.kind ∧ place = x.key)) (y : Subject) :
    x.releases place y = false := by
  cases x with
  | release b key account ns =>
    cases b with
    | role => rfl
    | cluster =>
      have hother : ¬ key = place := fun heq => h ⟨rfl, heq.symm⟩
      simp [releases, hother]
  | _ => rfl

/-- What a call that succeeds may leave of the cluster's binding at a place. -/
inductive Leaves (x : Job) (place : Key) (b : Resource .clusterRoleBinding) :
    Option (Resource .clusterRoleBinding) → Prop where
  /-- nothing, if the binding is deleted -/
  | gone : b.metadata.isBeingDeleted = true ∨ x = .delete .clusterRoleBinding place →
      Leaves x place b none
  /-- the subjects that it does not release, in their order -/
  | kept (b' : Resource .clusterRoleBinding) :
      b'.metadata.isBeingDeleted = b.metadata.isBeingDeleted ∨
        x = .delete .clusterRoleBinding place →
      ((Binding.cluster.subjects b).filter fun y => !x.releases place y) <+:
        Binding.cluster.subjects b' →
      Leaves x place b (some b')

variable {t : Server} {place : Key} {b : Resource .clusterRoleBinding}

/-- A binding that is not being deleted is still there after any other call than its deletion. -/
theorem Leaves.stands {x : Job} {found : Option (Resource .clusterRoleBinding)}
    (h : x.Leaves place b found) (hx : x ≠ .delete .clusterRoleBinding place)
    (hlive : b.metadata.isBeingDeleted = false) :
    ∃ b', found = some b' ∧ b'.metadata.isBeingDeleted = false := by
  cases h with
  | gone hwhy =>
    rcases hwhy with hdeleted | hdelete
    · rw [hlive] at hdeleted
      cases hdeleted
    · exact absurd hdelete hx
  | kept b' hmark _ =>
    rcases hmark with hmark | hdelete
    · exact ⟨b', rfl, hmark.trans hlive⟩
    · exact absurd hdelete hx

theorem Leaves.keeps {x : Job} {b' : Resource .clusterRoleBinding}
    (h : x.Leaves place b (some b')) :
    ((Binding.cluster.subjects b).filter fun y => !x.releases place y) <+:
      Binding.cluster.subjects b' := by
  cases h with
  | kept _ _ hkept => exact hkept

theorem filter_releases {x : Job} (h : ∀ y, x.releases place y = false) (subjects : List Subject) :
    (subjects.filter fun y => !x.releases place y) = subjects :=
  List.filter_eq_self.2 fun y _ => by simp [h]

/-- A call may leave exactly the subjects that it does not release. -/
theorem Leaves.of_subjects {x : Job} {b' : Resource .clusterRoleBinding}
    (hmark : b'.metadata.isBeingDeleted = b.metadata.isBeingDeleted ∨
      x = .delete .clusterRoleBinding place)
    (hsubjects : Binding.cluster.subjects b' =
      (Binding.cluster.subjects b).filter fun y => !x.releases place y) :
    x.Leaves place b (some b') :=
  .kept b' hmark (hsubjects ▸ List.prefix_rfl)

/-- A call that releases nothing may leave the binding as it is. -/
theorem leaves_self {x : Job} (h : ∀ y, x.releases place y = false) : x.Leaves place b (some b) :=
  .of_subjects (Or.inl rfl) (filter_releases h _).symm

theorem leaves_of_converge {d : Resource .clusterRoleBinding} {o : Outcome}
    (h : (convergeTo d).run Server.world s = (.ok o, t))
    (hb : s.find? .clusterRoleBinding d.key = some b) :
    (converge d).Leaves d.key b (t.find? .clusterRoleBinding d.key) := by
  rcases convergeTo_left h with ⟨r, hr, hwritten⟩ | ⟨hgone, r, hr, hreleased⟩
  · have hsubjects := subjects_of_convergeTo h hr
    rw [Server.standing_of_found hb] at hsubjects hwritten
    rw [hr]
    refine .kept r (Or.inl ?_) ?_
    · rcases hwritten with ⟨hfound, -⟩ | ⟨version, uid, rfl⟩
      · rw [Option.some.inj (hfound.symm.trans hb)]
      · exact congrArg Option.isSome (deletionTimestamp_overlay b d)
    · rw [hsubjects, filter_releases fun _ => rfl]
      exact prefix_foldl_addMissing Subject.isSameAs _ _
  · rw [hgone]
    obtain rfl : r = b := Option.some.inj (hr.symm.trans hb)
    exact .gone (Or.inl (Server.isBeingDeleted_of_isReleased hreleased))

theorem leaves_of_release {account ns : String}
    (h : (Binding.cluster.releaseAt place account ns).run Server.world s = (.ok (), t))
    (hb : s.find? .clusterRoleBinding place = some b) :
    (release .cluster place account ns).Leaves place b (t.find? .clusterRoleBinding place) := by
  have hprune : ((Binding.cluster.subjects b).filter fun y =>
      !(release .cluster place account ns).releases place y) =
        Subject.prune (Binding.cluster.subjects b) account ns := by
    simp [releases, Subject.prune]
  rcases Binding.releaseAt_ok h with ⟨rfl, hnone⟩ | ⟨r, r', hr, hupdate⟩
  · rw [hb]
    have hsame : Subject.prune (Binding.cluster.subjects b) account ns =
        Binding.cluster.subjects b :=
      List.filter_eq_self.2 fun y hy => by simp [hnone b hb y hy]
    exact .of_subjects (Or.inl rfl) (hprune.trans hsame).symm
  · obtain rfl : r = b := Option.some.inj (hr.symm.trans hb)
    obtain ⟨stored, hstored, hplace⟩ := Server.update_ok hupdate
    have hkey : (Binding.cluster.pruned r account ns).key = place :=
      (Binding.key_pruned .cluster r account ns).trans (Server.key_of_find? hb)
    rw [hkey] at hstored hplace
    obtain rfl : stored = r := Option.some.inj (hstored.symm.trans hb)
    -- the update keeps the mark of a binding that is being deleted
    have hmark : (Server.merged (Binding.cluster.pruned stored account ns) stored).metadata =
        stored.metadata := by
      rw [Server.merged_of_mark (by rw [Binding.metadata_pruned])]
      exact Binding.metadata_pruned .cluster stored account ns
    split at hplace
    · rename_i hreleased
      rw [hplace]
      rw [Server.isReleased, hmark, Bool.and_eq_true] at hreleased
      exact .gone (Or.inl hreleased.1)
    · obtain ⟨rfl, hfind⟩ := hplace
      rw [hfind]
      refine .of_subjects (Or.inl ?_) ?_
      · show (Server.merged _ stored).metadata.isBeingDeleted = _
        rw [hmark]
      · rw [hprune, Binding.subjects_withVersion, Binding.subjects_merged, Binding.subjects_pruned]

theorem leaves_of_delete (hb : s.find? .clusterRoleBinding place = some b) :
    (delete .clusterRoleBinding place).Leaves place b
      ((s.delete .clusterRoleBinding place).2.find? .clusterRoleBinding place) := by
  rw [Server.find?_delete, hb, Option.bind_some]
  split
  · exact .of_subjects (Or.inr rfl) (filter_releases (fun _ => rfl) _).symm
  · exact .gone (Or.inr rfl)

/-- Every call that succeeds leaves one of these. -/
theorem leaves_of_program {x : Job} {o : Option Outcome}
    (h : x.program.run Server.world s = (.ok o, t))
    (hb : s.find? .clusterRoleBinding place = some b) :
    x.Leaves place b (t.find? .clusterRoleBinding place) := by
  by_cases hplace : .clusterRoleBinding = x.kind ∧ place = x.key
  · obtain ⟨hkind, hkey⟩ := hplace
    cases x with
    | @converge k d =>
      obtain rfl : .clusterRoleBinding = k := hkind
      obtain rfl : place = d.key := hkey
      obtain ⟨_, u, hrun, hpure⟩ := Program.run_bind_ok.1 h
      cases hpure
      exact leaves_of_converge hrun hb
    | @create k r =>
      obtain rfl : .clusterRoleBinding = k := hkind
      obtain rfl : place = r.key := hkey
      obtain ⟨_, u, hrun, hpure⟩ := Program.run_bind_ok.1 h
      cases hpure
      rw [createIfAbsent_present (Option.isSome_iff_exists.2 ⟨b, hb⟩)] at hrun
      cases hrun
      rw [hb]
      exact leaves_self fun _ => rfl
    | delete k key =>
      obtain rfl : .clusterRoleBinding = k := hkind
      obtain rfl : place = key := hkey
      obtain ⟨_, u, hrun, hpure⟩ := Program.run_bind_ok.1 h
      cases hpure
      obtain rfl : (s.delete .clusterRoleBinding place).2 = t := congrArg Prod.snd hrun
      exact leaves_of_delete hb
    | release binding key account ns =>
      obtain rfl : place = key := hkey
      cases binding with
      | role => cases hkind
      | cluster =>
        obtain ⟨_, u, hrun, hpure⟩ := Program.run_bind_ok.1 h
        cases hpure
        exact leaves_of_release hrun hb
  · rw [find?_of_program h hplace, hb]
    exact leaves_self (releases_elsewhere hplace)

end Job

/-! ## Runs of clients -/

section Runs

variable {ι : Type} [DecidableEq ι] {jobs : ι → Job}

/-- Clients of a store before their first requests. -/
def clients (jobs : ι → Job) (s : Server) : Moment ι (Option Outcome) :=
  .start (fun i => (jobs i).program) s

/-- The cluster's binding at a place is there all the time while clients take turns. -/
def Moment.HasBinding (m : Moment ι α) (place : Key) (since : List ι) : Prop :=
  ∀ during, during <+: since →
    ∃ b, (m.follow during).store.find? .clusterRoleBinding place = some b

/-- Whether a call that succeeded has released a subject from the cluster's binding at a place. -/
def isReleasedBy (jobs : ι → Job) (place : Key)
    (calls : List (ι × Except Failure (Option Outcome))) (x : Subject) : Bool :=
  calls.any fun c => c.2.isOk && (jobs c.1).releases place x

theorem Moment.HasBinding.turn {m : Moment ι α} {place : Key} {i : ι} {since : List ι}
    (h : m.HasBinding place (i :: since)) : (m.turn i).HasBinding place since :=
  fun during hduring => h (i :: during) (List.cons_prefix_cons.2 ⟨rfl, hduring⟩)

/-- A binding that is not being deleted is there as long as nobody deletes it. -/
theorem hasBinding_of_undeleted {m : Moment ι (Option Outcome)}
    (hm : m.IsCoherent fun i => (jobs i).program) {place : Key} {since : List ι}
    (hnone : ∀ i ∈ since, jobs i ≠ .delete .clusterRoleBinding place)
    {b : Resource .clusterRoleBinding} (hb : m.store.find? .clusterRoleBinding place = some b)
    (hlive : b.metadata.isBeingDeleted = false) : m.HasBinding place since := by
  induction since generalizing m b with
  | nil =>
    intro during hduring
    obtain rfl := List.prefix_nil.1 hduring
    exact ⟨b, hb⟩
  | cons i since ih =>
    obtain ⟨hnext, heffect⟩ := hm.turn i
    obtain ⟨b₁, hb₁, hlive₁⟩ : ∃ b₁, (m.turn i).store.find? .clusterRoleBinding place = some b₁ ∧
        b₁.metadata.isBeingDeleted = false := by
      generalize m.turn i = m₁ at heffect
      cases heffect with
      | none left => exact ⟨b, hb, hlive⟩
      | failed left e => exact ⟨b, hb, hlive⟩
      | succeeded t left o hrun =>
        exact (Job.leaves_of_program hrun hb).stands (hnone i List.mem_cons_self) hlive
    intro during hduring
    cases during with
    | nil => exact ⟨b, hb⟩
    | cons j during =>
      obtain ⟨rfl, hrest⟩ := List.cons_prefix_cons.1 hduring
      exact ih hnext (fun i hi => hnone i (List.mem_cons_of_mem _ hi)) hb₁ hlive₁ during hrest

/-- From one moment to another a binding keeps some subjects, those apart that were released since:
they are at its head, in their order. -/
def KeepsSubjects (jobs : ι → Job) (place : Key) (subjects : List Subject)
    (m m' : Moment ι (Option Outcome)) : Prop :=
  ∃ later b, m'.returned = m.returned ++ later ∧
    m'.store.find? .clusterRoleBinding place = some b ∧
    (subjects.filter fun x => !isReleasedBy jobs place later x) <+: Binding.cluster.subjects b

/-- While the binding is there, it keeps its subjects. -/
theorem keepsSubjects_of_follow {m : Moment ι (Option Outcome)}
    (hm : m.IsCoherent fun i => (jobs i).program) {place : Key} {since : List ι}
    (hstays : m.HasBinding place since) {b : Resource .clusterRoleBinding}
    (hb : m.store.find? .clusterRoleBinding place = some b) :
    KeepsSubjects jobs place (Binding.cluster.subjects b) m (m.follow since) := by
  induction since generalizing m b with
  | nil =>
    have hall : ((Binding.cluster.subjects b).filter fun x => !isReleasedBy jobs place [] x) =
        Binding.cluster.subjects b := List.filter_eq_self.2 fun _ _ => rfl
    exact ⟨[], b, (List.append_nil _).symm, hb, hall.symm ▸ List.prefix_rfl⟩
  | cons i since ih =>
    obtain ⟨hnext, heffect⟩ := hm.turn i
    obtain ⟨b₁, hb₁⟩ := hstays [i] (List.prefix_append [i] since)
    change (m.turn i).store.find? .clusterRoleBinding place = some b₁ at hb₁
    -- the rest keeps what this turn leaves
    obtain ⟨later, b', hreturned, hb', hkept⟩ := ih hnext hstays.turn hb₁
    rw [Moment.follow_cons]
    generalize m.turn i = m₁ at heffect hb₁ hreturned hb' ⊢
    cases heffect with
    | none left =>
      obtain rfl : b = b₁ := Option.some.inj (hb.symm.trans hb₁)
      exact ⟨later, b', hreturned, hb', hkept⟩
    | failed left e =>
      obtain rfl : b = b₁ := Option.some.inj (hb.symm.trans hb₁)
      exact ⟨(i, .error e) :: later, b', hreturned.trans (List.append_assoc _ _ _), hb', hkept⟩
    | succeeded t left o hrun =>
      refine ⟨(i, .ok o) :: later, b', hreturned.trans (List.append_assoc _ _ _), hb', ?_⟩
      have hleaves := Job.leaves_of_program hrun hb
      dsimp only at hb₁
      rw [hb₁] at hleaves
      -- what this call keeps may be released later, and a filter of a prefix is one
      have hstep := hleaves.keeps.filter fun x => !isReleasedBy jobs place later x
      rw [List.filter_filter] at hstep
      have hboth : (fun x => !isReleasedBy jobs place ((i, .ok o) :: later) x) =
          fun x => (!isReleasedBy jobs place later x) && !(jobs i).releases place x := by
        funext x
        simp [isReleasedBy, Except.isOk, Except.toBool, Bool.and_comm]
      rw [hboth]
      exact hstep.trans hkept

/-- When a convergence has returned, its subjects are in the binding, if that is there. -/
theorem added_of_turn {m : Moment ι (Option Outcome)}
    (hm : m.IsCoherent fun i => (jobs i).program) {i : ι} {o : Option Outcome}
    {d b : Resource .clusterRoleBinding} (hjob : jobs i = .converge d)
    (hreturns : (m.turn i).returned = m.returned ++ [(i, .ok o)])
    (hb : (m.turn i).store.find? .clusterRoleBinding d.key = some b) :
    ∀ y ∈ Binding.cluster.subjects d, ∃ z ∈ Binding.cluster.subjects b, z.isSameAs y = true := by
  obtain ⟨-, heffect⟩ := hm.turn i
  generalize m.turn i = m₁ at heffect hreturns hb
  cases heffect with
  | none left => simp at hreturns
  | failed left e => simp at hreturns
  | succeeded t left o' hrun =>
    obtain rfl : o' = o := by simpa using hreturns
    dsimp only at hrun hb
    rw [hjob] at hrun
    obtain ⟨_, u, hconverge, hpure⟩ := Program.run_bind_ok.1 hrun
    cases hpure
    intro y hy
    rw [subjects_of_convergeTo hconverge hb]
    exact any_foldl_addMissing Subject.isSameAs Subject.isSameAs_self hy

omit [DecidableEq ι] in
/-- Subjects that count as one are released together. -/
theorem isReleasedBy_of_isSameAs {place : Key} {x y : Subject} (h : x.isSameAs y = true)
    (calls : List (ι × Except Failure (Option Outcome))) :
    isReleasedBy jobs place calls x = isReleasedBy jobs place calls y := by
  simp only [Subject.isSameAs, Bool.and_eq_true, beq_iff_eq] at h
  have hreleases (job : Job) : job.releases place x = job.releases place y := by
    cases job with
    | release b key account ns => cases b <;> simp [Job.releases, Subject.isAccount, h]
    | _ => rfl
  simp [isReleasedBy, hreleases]

/-- Whatever the order of their requests, clients leave the store as if each call that succeeds had
run alone, at the moment of its last request, and those that fail had not run. A binding that they
share is there as long as it is not deleted. Meanwhile it keeps its subjects, those apart that are
released, in their order, and also those that a convergence has added. -/
theorem jobs_linearize (jobs : ι → Job) (s : Server) (hs : s.IsNumbered) (schedule : List ι) :
    let m := (clients jobs s).follow schedule
    Alone (fun i => (jobs i).program) s m.returned m.store ∧
      (∀ (place : Key) (since : List ι) (b : Resource .clusterRoleBinding),
        m.store.find? .clusterRoleBinding place = some b →
        (b.metadata.isBeingDeleted = false →
          (∀ i ∈ since, jobs i ≠ .delete .clusterRoleBinding place) → m.HasBinding place since) ∧
        (m.HasBinding place since →
          KeepsSubjects jobs place (Binding.cluster.subjects b) m (m.follow since))) ∧
      ∀ (i : ι) (o : Option Outcome) (d : Resource .clusterRoleBinding) (since : List ι),
        jobs i = .converge d → (m.turn i).returned = m.returned ++ [(i, .ok o)] →
        (m.turn i).HasBinding d.key since →
        ∃ later b, ((m.turn i).follow since).returned = (m.turn i).returned ++ later ∧
          ((m.turn i).follow since).store.find? .clusterRoleBinding d.key = some b ∧
          ∀ y ∈ Binding.cluster.subjects d, isReleasedBy jobs d.key later y = true ∨
            ∃ x ∈ Binding.cluster.subjects b, x.isSameAs y = true := by
  intro m
  have hatomic : ∀ i, (jobs i).program.IsAtomic := fun i => (jobs i).isAtomic_program
  have hm : m.IsCoherent fun i => (jobs i).program :=
    (Moment.isCoherent_start hatomic hs).follow schedule
  refine ⟨Moment.alone_of_follow hatomic hs schedule, ?_, ?_⟩
  · intro place since b hb
    constructor
    · intro hlive hnone
      exact hasBinding_of_undeleted hm hnone hb hlive
    · intro hstays
      exact keepsSubjects_of_follow hm hstays hb
  · intro i o d since hjob hreturns hstays
    obtain ⟨b, hb⟩ := hstays [] List.nil_prefix
    obtain ⟨later, b', hlater, hb', hkept⟩ := keepsSubjects_of_follow (hm.turn i).1 hstays hb
    refine ⟨later, b', hlater, hb', fun y hy => ?_⟩
    obtain ⟨x, hx, hsame⟩ := added_of_turn hm hjob hreturns hb y hy
    cases hreleased : isReleasedBy jobs d.key later y with
    | true => exact Or.inl rfl
    | false =>
      have hmem : x ∈ (Binding.cluster.subjects b).filter fun x =>
          !isReleasedBy jobs d.key later x := by
        rw [List.mem_filter, isReleasedBy_of_isSameAs hsame, hreleased]
        exact ⟨hx, rfl⟩
      exact Or.inr ⟨x, hkept.subset hmem, hsame⟩

end Runs

/-! Two clients want different subjects in one binding. Both find none, one of them creates it, and
the other one reads it again. -/

def wantedBinding (ns : String) : Resource .clusterRoleBinding where
  metadata := { name := some "edge" }
  content :=
    { roleRef := roleRefTo .clusterRole "edge", subjects := some [.serviceAccount "edge" ns] }

def racingJobs (first : Bool) : Job := .converge (wantedBinding (if first then "east" else "west"))

/-- The moment when both have returned. -/
def raced : Moment Bool (Option Outcome) :=
  (clients racingJobs {}).follow [true, false, true, false, false, false]

theorem jobs_linearize_race :
    Alone (fun i => (racingJobs i).program) {} raced.returned raced.store ∧
      raced.returned = [(true, .ok (some .created)), (false, .ok (some .updated))] ∧
      (raced.store.find? .clusterRoleBinding (.inCluster "edge")).map
          (fun b => Binding.cluster.subjects b) =
        some [.serviceAccount "edge" "east", .serviceAccount "edge" "west"] := by
  refine ⟨(jobs_linearize racingJobs {} Server.isNumbered_empty
    [true, false, true, false, false, false]).1, rfl, ?_⟩
  decide +kernel

end GatewayOperator
