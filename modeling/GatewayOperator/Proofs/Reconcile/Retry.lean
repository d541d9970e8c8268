import GatewayOperator.Proofs.Reconcile.Gating
import GatewayOperator.Proofs.Reconcile.Quiescence
import GatewayOperator.Proofs.Reconcile.Step

/-!
# Retries

A pass that failed because the store refused some kinds is run again when nothing is refused. The
second pass ends as one pass would have ended that never failed, with the same store (`pass_retry`).

The reason is the same for every step: it fails without effect, and when it has succeeded it does
nothing again, as long as nobody touches its place. `Resumable` says so of a program, and it
composes along programs at different places (`Resumable.bind`, `resumable_all`).
-/

namespace GatewayOperator

open StoreProgram
open Program (asks_mono)

variable {α β : Type}

/-! ## Programs that can be started again -/

namespace StoreProgram

/-- Started again where it failed on a store that refused kinds, and now refuses nothing, a program
does what it would have done at once. -/
def Resumes (p : StoreProgram α) (s : Server) : Prop :=
  ∀ kinds e u, p.run Server.world (s.rejecting kinds) = (.error e, u) →
    p.run Server.world (u.rejecting []) = p.run Server.world (s.rejecting [])

/-- A program that leaves every place outside some places as it is. -/
def StaysAt (places : Kind → Key → Prop) (p : StoreProgram α) : Prop :=
  ∀ s k key, ¬ places k key → (p.run Server.world s).2.find? k key = s.find? k key

/-- A program can be started again as long as nobody else touches its places: where it failed it
goes on, and what it finished it leaves alone. -/
structure Resumable (places : Kind → Key → Prop) (p : StoreProgram Unit) (s : Server) : Prop where
  stays : p.StaysAt places
  heeds : p.HeedsRefusals
  resumes : p.Resumes s
  rests : ∀ kinds u w, p.run Server.world (s.rejecting kinds) = (.ok (), u) →
    (∀ k key, places k key → w.find? k key = u.find? k key) → p.run Server.world w = (.ok (), w)

variable {places : Kind → Key → Prop} {p : StoreProgram Unit} {s : Server}

/-- What fails without effect is started from where it was. -/
theorem WritesLast.resumes {p : StoreProgram α} (h : p.WritesLast) (s : Server) : p.Resumes s := by
  intro kinds e u hrun
  rw [h.run_error hrun, Server.rejecting_rejecting]

theorem Resumes.map {p : StoreProgram α} (h : p.Resumes s) (f : α → β) :
    Resumes (p.bind fun a => pure (f a)) s := by
  intro kinds e u hrun
  rw [Program.run_bind] at hrun
  split at hrun
  · cases hrun
  · rename_i hfail
    cases hrun
    rw [Program.run_bind, Program.run_bind, h kinds _ _ hfail]

/-- A run leaves what is refused as it is. -/
theorem rejecting_of_run {p : StoreProgram α} {t : Server} {kinds : List String}
    {r : Except Failure α} (h : p.run Server.world (s.rejecting kinds) = (r, t)) :
    t.rejecting kinds = t := by
  apply Server.rejecting_eq_self
  have hkept : (p.run Server.world (s.rejecting kinds)).2.rejected = kinds :=
    rejected_run p (s.rejecting kinds)
  rwa [h] at hkept

theorem StaysAt.find?_of_run {p : StoreProgram α} (hp : p.StaysAt places) {s t : Server}
    {r : Except Failure α} (hrun : p.run Server.world s = (r, t)) {k : Kind} {key : Key}
    (hplace : ¬ places k key) : t.find? k key = s.find? k key := by
  have hkept := hp s k key hplace
  rwa [hrun] at hkept

theorem staysAt_of_asks {p : StoreProgram α}
    (h : p.Asks fun q : StoreRequest => places q.kind q.key) : p.StaysAt places := by
  intro s k key hplace
  refine find?_run h ?_ s
  rintro q hq ⟨rfl, rfl⟩
  exact hplace hq

theorem StaysAt.bind {p : StoreProgram α} {f : α → StoreProgram β} (hp : p.StaysAt places)
    (hf : ∀ a, (f a).StaysAt places) : StaysAt places (p.bind f) := by
  intro s k key hplace
  rw [Program.run_bind]
  split
  · rename_i a t hfirst
    rw [hf a t k key hplace, hp.find?_of_run hfirst hplace]
  · rename_i hfail
    exact hp.find?_of_run hfail hplace

/-- When a program fails that touches other places at first and writes last, a place is as it
was. -/
theorem StaysAt.find?_of_error {p : StoreProgram α} {q : StoreProgram β} (hp : p.StaysAt places)
    (hq : q.WritesLast) {s u : Server} {e : Failure}
    (hrun : (p.bind fun _ => q).run Server.world s = (.error e, u)) {k : Kind} {key : Key}
    (hplace : ¬ places k key) : u.find? k key = s.find? k key := by
  rw [Program.run_bind] at hrun
  split at hrun
  · rename_i a t hfirst
    rw [hq.run_error hrun]
    exact hp.find?_of_run hfirst hplace
  · rename_i hfail
    cases hrun
    exact hp.find?_of_run hfail hplace

theorem StaysAt.mono {p : StoreProgram α} {others : Kind → Key → Prop} (hp : p.StaysAt places)
    (h : ∀ k key, places k key → others k key) : p.StaysAt others :=
  fun s k key hplace => hp s k key fun hat => hplace (h k key hat)

/-- A program in two parts at different places goes on where it failed: its first part is not done
twice. -/
theorem Resumable.resumes_bind {q : StoreProgram β} (hp : Resumable places p s)
    (helsewhere : q.StaysAt fun k key => ¬ places k key)
    (hq : ∀ t, (∀ k key, ¬ places k key → t.find? k key = s.find? k key) → q.Resumes t) :
    Resumes (p.bind fun _ => q) s := by
  intro kinds e u hrun
  rw [Program.run_bind] at hrun
  split at hrun
  · rename_i v hfirst
    -- without refusals the first part does the same
    have hclean : p.run Server.world (s.rejecting []) = (.ok (), v.rejecting []) :=
      hp.heeds.run_ok hfirst
    -- and where the second part failed, it has nothing left to do
    have hidle : p.run Server.world (u.rejecting []) = (.ok (), u.rejecting []) :=
      hp.rests kinds v _ hfirst fun k key hplace =>
        helsewhere.find?_of_run hrun fun hnot => hnot hplace
    rw [← rejecting_of_run hfirst] at hrun
    rw [Program.run_bind_of_ok hidle, Program.run_bind_of_ok hclean]
    exact hq v (fun k key hplace => hp.stays.find?_of_run hfirst hplace) kinds e u hrun
  · rename_i hfail
    cases hrun
    rw [Program.run_bind, Program.run_bind, hp.resumes kinds _ _ hfail]

/-- Programs at different places can be started again together. -/
theorem Resumable.bind {others : Kind → Key → Prop} {q : StoreProgram Unit}
    (hp : Resumable places p s) (hapart : ∀ k key, others k key → ¬ places k key)
    (hq : ∀ t, (∀ k key, ¬ places k key → t.find? k key = s.find? k key) → Resumable others q t) :
    Resumable (fun k key => places k key ∨ others k key) (p.bind fun _ => q) s := by
  have hsecond : Resumable others q s := hq s fun _ _ _ => rfl
  have helsewhere : q.StaysAt fun k key => ¬ places k key := hsecond.stays.mono hapart
  refine ⟨?_, ?_, hp.resumes_bind helsewhere fun t ht => (hq t ht).resumes, ?_⟩
  · exact (hp.stays.mono fun k key hat => Or.inl hat).bind fun _ =>
      hsecond.stays.mono fun k key hat => Or.inr hat
  · exact hp.heeds.bind fun _ => hsecond.heeds
  · intro kinds u w hrun hw
    obtain ⟨_, v, hfirst, hrest⟩ := Program.run_bind_ok.1 hrun
    have hidle : p.run Server.world w = (.ok (), w) := by
      refine hp.rests kinds v w hfirst fun k key hplace => ?_
      rw [hw k key (Or.inl hplace)]
      exact helsewhere.find?_of_run hrest fun hnot => hnot hplace
    rw [← rejecting_of_run hfirst] at hrest
    rw [Program.run_bind_of_ok hidle]
    exact (hq v fun k key hplace => hp.stays.find?_of_run hfirst hplace).rests kinds u w hrest
      fun k key hplace => hw k key (Or.inr hplace)

theorem Resumable.mono {others : Kind → Key → Prop} (hp : Resumable places p s)
    (h : ∀ k key, places k key → others k key) : Resumable others p s :=
  ⟨hp.stays.mono h, hp.heeds, hp.resumes,
    fun kinds u w hrun hw => hp.rests kinds u w hrun fun k key hplace => hw k key (h k key hplace)⟩

/-- A result that is given without a request. -/
theorem resumable_ofExcept (r : Except Failure Unit) (s : Server) :
    Resumable (fun _ _ => False) (StoreProgram.ofExcept r) s := by
  have hlast : (StoreProgram.ofExcept r).WritesLast := trivial
  refine ⟨staysAt_of_asks trivial, trivial, hlast.resumes s, ?_⟩
  intro kinds u w hrun _
  cases hrun
  rfl

/-- Steps at different places, each of which can be started again where its place is ready for it,
can be started again one after the other. -/
theorem resumable_all {X : Type} (all : List X → StoreProgram Unit) (step : X → StoreProgram Unit)
    (kind : X → Kind) (key : X → Key) (Ready : X → Server → Prop) (hnil : all [] = pure ())
    (hcons : ∀ x xs, all (x :: xs) = (step x).bind fun _ => all xs)
    (hlocal : ∀ x s t, s.find? (kind x) (key x) = t.find? (kind x) (key x) → Ready x s → Ready x t)
    (hstep : ∀ x s, Ready x s → Resumable (fun k j => kind x = k ∧ key x = j) (step x) s)
    {xs : List X} (hapart : xs.Pairwise fun x y => ¬ (kind x = kind y ∧ key x = key y))
    (hready : ∀ x ∈ xs, Ready x s) :
    Resumable (fun k j => ∃ x ∈ xs, kind x = k ∧ key x = j) (all xs) s := by
  induction xs generalizing s with
  | nil =>
    rw [hnil]
    exact (resumable_ofExcept (.ok ()) s).mono fun k j hplace => hplace.elim
  | cons x xs ih =>
    obtain ⟨hx, hxs⟩ := List.pairwise_cons.1 hapart
    rw [hcons]
    -- the first step leaves the places of the others ready
    have hrest (t : Server) (ht : ∀ k j, ¬ (kind x = k ∧ key x = j) → t.find? k j = s.find? k j) :
        Resumable (fun k j => ∃ y ∈ xs, kind y = k ∧ key y = j) (all xs) t :=
      ih hxs fun y hy =>
        hlocal y s t (ht _ _ (hx y hy)).symm (hready y (List.mem_cons_of_mem _ hy))
    have helsewhere : ∀ k j, (∃ y ∈ xs, kind y = k ∧ key y = j) → ¬ (kind x = k ∧ key x = j) := by
      rintro k j ⟨y, hy, rfl, rfl⟩
      exact hx y hy
    refine ((hstep x s (hready x List.mem_cons_self)).bind helsewhere hrest).mono ?_
    rintro k j (hplace | ⟨y, hy, hplace⟩)
    · exact ⟨x, List.mem_cons_self, hplace⟩
    · exact ⟨y, List.mem_cons_of_mem _ hy, hplace⟩

end StoreProgram

/-! ## Steps -/

/-- The step of a target at whose place nothing is being deleted or held back. -/
theorem Target.resumable_work {x : Target} {s : Server} (h : x.IsFree s) :
    Resumable (fun k key => x.kind = k ∧ x.key = key) x.work s := by
  refine ⟨?_, x.heedsRefusals_work, x.writesLast_work.resumes s, ?_⟩
  · exact staysAt_of_asks (asks_mono (fun q hq => ⟨hq.1.symm, hq.2.symm⟩) x.asks_work)
  · intro kinds u w hrun hw
    have hquiet : x.IsQuiet u :=
      isQuiet_of_work x (s.rejecting kinds) u (local_isFree x s _ rfl h) hrun
    exact work_quiet (local_isQuiet x u w (hw _ _ ⟨rfl, rfl⟩).symm hquiet)

theorem Target.resumable_workAll {xs : List Target} {s : Server} (hapart : xs.Pairwise Apart)
    (hfree : ∀ x ∈ xs, x.IsFree s) :
    Resumable (fun k key => ∃ x ∈ xs, x.kind = k ∧ x.key = key) (workAll xs) s :=
  resumable_all workAll work kind key IsFree workAll_nil workAll_cons local_isFree
    (fun _ _ h => resumable_work h) hapart hfree

namespace Binding

/-- Where a binding grants nothing to an account, there is nothing to release. -/
theorem release_released {b : Binding} {account ns : String} {s : Server}
    (h : ¬ b.Grants s account ns) :
    (b.release account ns).run Server.world s = (.ok (), s) := by
  rw [release_eq, run_get_bind]
  cases hfind : s.find? b.kind (b.key account ns) with
  | none => rfl
  | some r =>
    have hnone : ¬ ((b.subjects r).any fun x => x.isAccount account ns) = true := by
      intro hany
      obtain ⟨x, hx, hgrants⟩ := List.any_eq_true.1 hany
      exact h ⟨r, hfind, x, hx, hgrants⟩
    unfold handle
    dsimp only
    rw [if_neg hnone]
    rfl

theorem resumable_release (b : Binding) (account ns : String) (s : Server) :
    Resumable (fun k key => b.kind = k ∧ b.key account ns = key) (b.release account ns) s := by
  refine ⟨?_, b.heedsRefusals_release account ns, (b.writesLast_release account ns).resumes s, ?_⟩
  · -- the binding that is read is the one at its place
    intro t k key hplace
    exact find?_run_release hplace t
  · intro kinds u w hrun hw
    obtain ⟨calls, hruns⟩ := Program.runs_of_run hrun
    have hreleased : ¬ b.Grants u account ns := (runs_release hruns).released rfl
    refine release_released fun hgrants => hreleased ?_
    exact (grants_congr (hw _ _ ⟨rfl, rfl⟩)).1 hgrants

theorem resumable_releaseAll (ns : String) {ps : List (Binding × String)} (h : ps.Nodup)
    (s : Server) :
    Resumable (fun k key => ∃ p ∈ ps, p.1.kind = k ∧ p.1.key p.2 ns = key)
      (releaseAll ns ps) s := by
  refine resumable_all (releaseAll ns) (fun p => p.1.release p.2 ns) (fun p => p.1.kind)
    (fun p => p.1.key p.2 ns) (fun _ _ => True) rfl (fun _ _ => rfl) (fun _ _ _ _ h => h)
    (fun p s _ => p.1.resumable_release p.2 ns s) ?_ fun _ _ => trivial
  refine h.imp fun {p q} hne hplace => hne ?_
  obtain ⟨hb, ha⟩ := eq_of_place hplace.1 hplace.2
  exact Prod.ext hb ha

end Binding

/-! ## Between the writes to the object -/

namespace Component

variable {c : Component} {settings : PassSettings} {s : Server}

theorem name_of_identityTargets {k : Kind} {owner : Resource k} {s : CommonSettings}
    {component : String} {rules : List PolicyRule} {x : Target}
    (hx : x ∈ identityTargets owner s component rules) :
    x.key.name = s.serviceAccountName owner.metadata.anyName := by
  rcases of_mem_identityTargets hx with rfl | rfl | rfl | rfl | rfl <;> rfl

/-- The bindings that a pass works on have the name of the account. -/
theorem name_of_reached {r : Resource c.kind} {x : Target} (hx : x ∈ c.reached settings r)
    (b : Binding) (hkind : x.kind = b.kind) :
    x.key.name = (c.common r).serviceAccountName r.metadata.anyName := by
  rcases of_mem_reached hx with hidentity | ⟨-, hrole, hcluster⟩
  · cases c <;> exact name_of_identityTargets hidentity
  · cases b with
    | cluster => exact absurd hkind hcluster
    | role => exact absurd hkind hrole

theorem nodup_releases (c : Component) (account : String) : (c.releases account).Nodup := by
  cases c <;> simp [releases, bindings]

theorem nodup_previousReleases (raw : Resource c.kind) (account : String) :
    (c.previousReleases raw account).Nodup := by
  unfold previousReleases
  split
  · exact List.nodup_nil
  · split
    · exact List.nodup_nil
    · exact nodup_releases c _

/-- The current account and the one that was bound before are released apart. -/
theorem nodup_teardownReleases (raw : Resource c.kind) : (c.teardownReleases raw).Nodup := by
  refine List.nodup_append.2
    ⟨nodup_releases c _, nodup_previousReleases raw _, fun p hp q hq heq => ?_⟩
  subst heq
  exact ne_of_mem_previousReleases hq (mem_releases.1 hp).2

theorem resumable_install (hdefs : c = .controller → settings.HasDistinctDefinitions)
    (hfree : ∀ ds, c.definitionTargets settings = .ok ds → ∀ x ∈ ds, x.IsFree s) :
    Resumable (fun k _ => k = .definition) (c.install settings) s := by
  rw [install_eq]
  cases hds : c.definitionTargets settings with
  | error e => exact (resumable_ofExcept (.error e) s).mono fun _ _ hplace => hplace.elim
  | ok ds =>
    refine (Target.resumable_workAll (apart_of_definitionTargets hdefs hds) (hfree ds hds)).mono ?_
    rintro k key ⟨x, hx, rfl, -⟩
    exact (kind_of_definitionTargets hds x hx).1

theorem resumable_converge {r : Resource c.kind} (hfree : ∀ x ∈ c.reached settings r, x.IsFree s) :
    Resumable (fun k key => ∃ x ∈ c.reached settings r, x.kind = k ∧ x.key = key)
      (c.converge settings r) s := by
  rw [converge_eq]
  refine ((Target.resumable_workAll (reached_apart c settings r) hfree).bind
    (fun _ _ hplace => hplace.elim) fun t _ => resumable_ofExcept _ t).mono ?_
  rintro k key (hplace | hplace)
  · exact hplace
  · exact hplace.elim

/-- A compiled binding has the name of the account, a binding that is released before has another
one. -/
theorem reached_apart_previous {raw r : Resource c.kind} {x : Target}
    (hx : x ∈ c.reached settings (c.withDefaults raw)) {ns : String} :
    ¬ ∃ p ∈ c.previousReleases r (c.account raw), p.1.kind = x.kind ∧ p.1.key p.2 ns = x.key := by
  rintro ⟨p, hp, hkind, hkey⟩
  have hname := name_of_reached hx p.1 hkind.symm
  rw [← hkey, metadata_withDefaults] at hname
  refine ne_of_mem_previousReleases hp (Eq.trans ?_ hname)
  cases p.1 <;> rfl

/-- The release of the account that was bound before and the work on compiled objects. -/
theorem resumable_release_converge {raw r : Resource c.kind}
    (hfree : ∀ x ∈ c.reached settings (c.withDefaults raw), x.IsFree s) :
    Resumable (fun k _ => k.isDependent = true ∧ k ≠ .definition)
      ((releasePrevious r (c.account raw) raw.metadata.nsOrEmpty c.releasesRoleBinding).bind
        fun _ => c.converge settings (c.withDefaults raw)) s := by
  rw [releasePrevious_eq_releaseAll]
  have hreleases := Binding.resumable_releaseAll raw.metadata.nsOrEmpty
    (nodup_previousReleases r (c.account raw)) s
  refine (hreleases.bind ?_ fun t ht => resumable_converge fun x hx => ?_).mono ?_
  · rintro k key ⟨x, hx, rfl, rfl⟩
    exact reached_apart_previous hx
  · exact Target.local_isFree x s t (ht _ _ (reached_apart_previous hx)).symm (hfree x hx)
  · rintro k key (⟨p, -, rfl, -⟩ | ⟨x, hx, rfl, -⟩)
    · cases p.1 <;> exact ⟨rfl, by simp⟩
    · exact ⟨(isCompiled_of_reached x hx).dependent, (isCompiled_of_reached x hx).notDefinition⟩

/-- What a pass does between its two writes to its object can be started again: definitions,
bindings that are released and compiled objects are at different places. -/
theorem resumable_between (hdefs : c = .controller → settings.HasDistinctDefinitions)
    {raw : Resource c.kind} (hfree : ∀ x, c.IsTargetOf settings raw x → x.IsFree s)
    (stored : Option (Resource c.kind)) :
    Resumable (fun k _ => k.isDependent = true) (c.between settings raw stored) s := by
  unfold between
  have hinstall : ∀ ds, c.definitionTargets settings = .ok ds → ∀ x ∈ ds, x.IsFree s :=
    fun ds hds x hx => hfree x (Or.inl ⟨ds, hds, hx⟩)
  refine ((resumable_install hdefs hinstall).bind (fun _ _ hplace => hplace.2) fun t ht =>
    resumable_release_converge fun x hx => ?_).mono ?_
  · exact Target.local_isFree x s t (ht _ _ (isCompiled_of_reached x hx).notDefinition).symm
      (hfree x (Or.inr hx))
  · rintro k key (rfl | hplace)
    · rfl
    · exact hplace.1

/-! ## The pass -/

/-- A teardown can be started again: it goes on with the bindings that still hold an account. -/
theorem resumes_finish (raw : Resource c.kind) (s : Server) : (c.finish raw).Resumes s := by
  unfold finish
  split
  · refine Resumes.map (p := c.teardown raw) ?_ fun _ => PassEnd.finalized
    have hobject : (removeFinalizer raw c.finalizer).StaysAt fun k _ => k = c.kind :=
      staysAt_of_asks (asks_mono (fun q hq => hq.1) (asks_removeFinalizer raw c.finalizer))
    rw [teardown_eq]
    refine (Binding.resumable_releaseAll raw.metadata.nsOrEmpty
      (nodup_teardownReleases raw) s).resumes_bind
      (hobject.mono ?_) fun t _ => (writesLast_removeFinalizer raw c.finalizer).resumes t
    rintro k key rfl ⟨p, -, hkind, -⟩
    exact kind_ne_binding p.1 hkind
  · exact WritesLast.resumes (p := pure PassEnd.finalized) trivial s

/-- A teardown that fails leaves its object as it is. -/
theorem find?_of_finish_error {raw : Resource c.kind} {key : Key} {u : Server} {e : Failure}
    (h : (c.finish raw).run Server.world s = (.error e, u)) :
    u.find? c.kind key = s.find? c.kind key := by
  unfold finish at h
  split at h
  · rw [Program.bind_eq, Program.run_bind] at h
    split at h
    · cases h
    · rename_i hfail
      cases h
      rw [teardown_eq] at hfail
      have hreleases := Binding.resumable_releaseAll raw.metadata.nsOrEmpty
        (nodup_teardownReleases raw) s
      refine hreleases.stays.find?_of_error (writesLast_removeFinalizer raw c.finalizer) hfail ?_
      rintro ⟨p, -, hkind, -⟩
      exact kind_ne_binding p.1 hkind
  · cases h

/-- The rest of a pass once the finalizer is there. -/
def afterFinalizer (c : Component) (settings : PassSettings) (raw : Resource c.kind) :
    StoreProgram Unit :=
  (c.between settings raw none).bind fun _ => recordStatus raw (c.account raw)

/-- What is done between the writes to an object does not depend on what they write. -/
theorem between_restated (settings : PassSettings) {raw : Resource c.kind}
    {stored : Option (Resource c.kind)} {finalizers : Option (List String)}
    {version : Option String} (h : stored.getD raw = raw.restated finalizers version raw.content) :
    c.between settings (stored.getD raw) none = c.between settings raw stored := by
  unfold between
  rw [Option.getD_none, h, account_restated]
  cases c <;> rfl

/-- A pass settles its object by adding the finalizer and going on with what is stored then. -/
theorem settle_eq_afterFinalizer {raw : Resource c.kind} {key : Key}
    {stored : Option (Resource c.kind)}
    {t : Server} (hraw : s.find? c.kind key = some raw)
    (hstays : raw.metadata.isBeingDeleted = false)
    (hadd : (addFinalizer raw c.finalizer).run Server.world s = (.ok stored, t)) :
    (c.settle settings raw).run Server.world s =
      (c.afterFinalizer settings (stored.getD raw)).run Server.world t := by
  obtain ⟨-, -, finalizers, version, hstored⟩ := addFinalizer_ok hraw hstays hadd
  rw [settle_eq, Program.bind_eq, Program.run_bind_of_ok hadd, afterFinalizer,
    between_restated settings hstored]
  rw [hstored, account_restated]

theorem resumes_afterFinalizer (hdefs : c = .controller → settings.HasDistinctDefinitions)
    {raw : Resource c.kind} (hfree : ∀ x, c.IsTargetOf settings raw x → x.IsFree s) :
    (c.afterFinalizer settings raw).Resumes s := by
  have hobject : (recordStatus raw (c.account raw)).StaysAt fun k _ => k = c.kind :=
    staysAt_of_asks (asks_mono (fun q hq => hq.1) (asks_recordStatus raw (c.account raw)))
  refine (resumable_between hdefs hfree none).resumes_bind (hobject.mono ?_) fun t _ =>
    (writesLast_recordStatus raw (c.account raw)).resumes t
  rintro k key rfl hdependent
  exact ne_kind_of_isDependent hdependent rfl

/-- A pass of an object that is to stay settles it if the namespace is active, and does nothing
otherwise. -/
theorem run_pass_of_stays {raw : Resource c.kind} {key : Key} (hraw : s.find? c.kind key = some raw)
    (hstays : raw.metadata.isBeingDeleted = false) :
    (c.pass settings key).run Server.world s =
      if s.isActive raw.metadata.nsOrEmpty = true then
        ((c.settle settings raw).bind fun _ => pure PassEnd.converged).run Server.world s
      else (.ok .namespaceInactive, s) := by
  rw [pass_eq, run_get_bind, hraw]
  simp only [handle, hstays, Bool.false_eq_true, if_false]
  unfold proceed
  rw [Program.bind_eq, Program.run_bind_of_ok (run_namespaceActive _ s)]
  cases s.isActive raw.metadata.nsOrEmpty <;> rfl

theorem isActive_congr {t : Server} (ns : String)
    (h : t.find? .namespaceKind (.inCluster ns) = s.find? .namespaceKind (.inCluster ns)) :
    t.isActive ns = s.isActive ns := by
  unfold Server.isActive
  rw [h]

theorem staysAt_addFinalizer (raw : Resource c.kind) (finalizer : String) :
    (addFinalizer raw finalizer).StaysAt fun k _ => k = c.kind :=
  staysAt_of_asks (asks_mono (fun _ hq => hq.1) (asks_addFinalizer raw finalizer))

/-- A pass of an object that carries its finalizer goes on with the rest. -/
theorem run_pass_of_finalizer {raw : Resource c.kind} {key : Key}
    (hraw : s.find? c.kind key = some raw) (hstays : raw.metadata.isBeingDeleted = false)
    (hactive : s.isActive raw.metadata.nsOrEmpty = true)
    (hfinalizer : raw.metadata.hasFinalizer c.finalizer = true) :
    (c.pass settings key).run Server.world s =
      ((c.afterFinalizer settings raw).bind fun _ => pure PassEnd.converged).run
        Server.world s := by
  have hadd : (addFinalizer raw c.finalizer).run Server.world s = (.ok none, s) := by
    rw [addFinalizer_present hfinalizer]
    rfl
  rw [run_pass_of_stays hraw hstays, if_pos hactive, Program.run_bind, Program.run_bind,
    settle_eq_afterFinalizer hraw hstays hadd, Option.getD_none]

/-- When the rest of a pass fails, objects, namespaces and all that is no dependent are as they
were. -/
theorem find?_of_afterFinalizer_error (hdefs : c = .controller → settings.HasDistinctDefinitions)
    {raw : Resource c.kind} (hfree : ∀ x, c.IsTargetOf settings raw x → x.IsFree s)
    {e : Failure} {u : Server}
    (h : (c.afterFinalizer settings raw).run Server.world s = (.error e, u)) {k : Kind} (key : Key)
    (hk : k.isDependent = false) : u.find? k key = s.find? k key :=
  (resumable_between hdefs hfree none).stays.find?_of_error
    (writesLast_recordStatus raw (c.account raw)) h (by simp [hk])

/-- A pass that failed after it has added the finalizer is run again from where it was. -/
theorem run_pass_again (hdefs : c = .controller → settings.HasDistinctDefinitions)
    {raw : Resource c.kind} (hfree : ∀ x, c.IsTargetOf settings raw x → x.IsFree s)
    {stored : Option (Resource c.kind)} {key : Key}
    (hraw : s.find? c.kind key = some raw) (hstays : raw.metadata.isBeingDeleted = false)
    (hactive : s.isActive raw.metadata.nsOrEmpty = true) {kinds : List String} {u v : Server}
    {e : Failure}
    (hadd : (addFinalizer raw c.finalizer).run Server.world (s.rejecting kinds) = (.ok stored, v))
    (hfail : (c.afterFinalizer settings (stored.getD raw)).run Server.world v = (.error e, u)) :
    (c.pass settings key).run Server.world (u.rejecting []) =
      (c.pass settings key).run Server.world (s.rejecting []) := by
  have hrejecting : ∀ others, (s.rejecting others).find? c.kind key = some raw := fun _ => hraw
  have hclean : (addFinalizer raw c.finalizer).run Server.world (s.rejecting []) =
      (.ok stored, v.rejecting []) := (heedsRefusals_addFinalizer raw c.finalizer).run_ok hadd
  obtain ⟨hstored, hfinalizer, finalizers, version, hrestated⟩ :=
    addFinalizer_ok (hrejecting kinds) hstays hadd
  have hv : ∀ k key, k ≠ c.kind → v.find? k key = s.find? k key := fun k key hk =>
    (staysAt_addFinalizer raw c.finalizer).find?_of_run hadd hk
  have hfree' (x : Target) (hx : c.IsTargetOf settings (stored.getD raw) x) : x.IsFree v := by
    rw [hrestated, isTargetOf_restated] at hx
    exact Target.local_isFree x s v (hv _ _ (ne_kind_of_isDependent hx.isDependent)).symm
      (hfree x hx)
  -- the object with its finalizer and the namespace are there for the second pass
  have hkept := fun {k : Kind} => find?_of_afterFinalizer_error (k := k) hdefs hfree' hfail
  have hobject : u.find? c.kind key = some (stored.getD raw) :=
    (hkept key (by cases c <;> rfl)).trans hstored
  have hmark : (stored.getD raw).metadata.isBeingDeleted = false := by
    rw [hrestated]
    exact hstays
  have hns : (stored.getD raw).metadata.nsOrEmpty = raw.metadata.nsOrEmpty := by
    rw [hrestated]
    rfl
  have hagain : (u.rejecting []).isActive (stored.getD raw).metadata.nsOrEmpty = true := by
    rw [hns]
    refine ((isActive_congr _ (hkept _ rfl)).trans (isActive_congr _ ?_)).trans hactive
    exact hv .namespaceKind _ (by cases c <;> simp)
  rw [run_pass_of_finalizer (by exact hobject) hmark hagain hfinalizer,
    run_pass_of_stays (hrejecting []) hstays, if_pos (by exact hactive), Program.run_bind,
    Program.run_bind, settle_eq_afterFinalizer (hrejecting []) hstays hclean]
  rw [← rejecting_of_run hadd] at hfail
  rw [resumes_afterFinalizer hdefs hfree' kinds _ u hfail]

/-- A pass of an object that is to stay goes on where it failed. -/
theorem resumes_pass_of_stays (hdefs : c = .controller → settings.HasDistinctDefinitions)
    {raw : Resource c.kind} (hfree : ∀ x, c.IsTargetOf settings raw x → x.IsFree s) {key : Key}
    (hraw : s.find? c.kind key = some raw) (hstays : raw.metadata.isBeingDeleted = false) :
    (c.pass settings key).Resumes s := by
  intro kinds e u hfail
  have hrejecting : (s.rejecting kinds).find? c.kind key = some raw := hraw
  rw [run_pass_of_stays hrejecting hstays] at hfail
  by_cases hactive : s.isActive raw.metadata.nsOrEmpty = true
  · rw [if_pos (by exact hactive), Program.run_bind] at hfail
    split at hfail
    · cases hfail
    rename_i hsettle
    cases hfail
    cases hadd : (addFinalizer raw c.finalizer).run Server.world (s.rejecting kinds) with
    | mk res v =>
    cases res with
    | error e' =>
      -- without the finalizer nothing has been done
      have hv : v = s.rejecting kinds := (writesLast_addFinalizer raw c.finalizer).run_error hadd
      rw [settle_eq, Program.bind_eq, Program.run_bind, hadd] at hsettle
      cases hsettle
      rw [hv, Server.rejecting_rejecting]
    | ok stored =>
      rw [settle_eq_afterFinalizer hrejecting hstays hadd] at hsettle
      exact run_pass_again hdefs hfree hraw hstays hactive hadd hsettle
  · rw [if_neg (by exact hactive)] at hfail
    cases hfail

/-- A pass that failed on a store that refuses kinds, run again when nothing is refused, ends as a
pass that never failed: with the same result and the same store. At the places that it works on
nothing is being deleted or held back. -/
theorem pass_retry (c : Component) (settings : PassSettings) (key : Key) (s u : Server)
    (kinds : List String) (e : Failure)
    (hdefs : c = .controller → settings.HasDistinctDefinitions)
    (hfree : ∀ (raw : Resource c.kind) (x : Target) (r : Resource x.kind),
      s.find? c.kind key = some raw → c.IsTargetOf settings raw x → s.find? x.kind x.key = some r →
        r.metadata.isBeingDeleted = false ∧ r.metadata.hasFinalizers = false)
    (hfail : (c.pass settings key).run Server.world (s.rejecting kinds) = (.error e, u)) :
    (c.pass settings key).run Server.world (u.rejecting []) =
      (c.pass settings key).run Server.world (s.rejecting []) := by
  cases hfind : s.find? c.kind key with
  | none =>
    rw [pass_eq, run_get_bind, Server.find?_rejecting, hfind] at hfail
    cases hfail
  | some raw =>
    cases hdeleted : raw.metadata.isBeingDeleted with
    | true =>
      rw [pass_eq, run_get_bind, Server.find?_rejecting, hfind] at hfail
      simp only [handle, hdeleted, if_true] at hfail
      have hobject : u.find? c.kind key = (s.rejecting kinds).find? c.kind key :=
        find?_of_finish_error hfail
      rw [pass_eq, run_get_bind, run_get_bind, Server.find?_rejecting,
        Server.find?_rejecting, hobject, Server.find?_rejecting, hfind]
      simp only [handle, hdeleted, if_true]
      exact resumes_finish raw s kinds e u hfail
    | false =>
      have hs (x : Target) (hx : c.IsTargetOf settings raw x) : x.IsFree s :=
        hx.isFree fun r hr => hfree raw x r hfind hx hr
      exact resumes_pass_of_stays hdefs hs hfind hdeleted kinds e u hfail

/-- The pass of a controller whose workload is refused fails after definitions and access are
there. -/
theorem pass_retry_freshStore :
    ∃ e u, (controller.pass installingSettings (.inNamespace "higress-system" "higress")).run
        Server.world (freshStore.rejecting ["Deployment"]) = (.error e, u) ∧
      u.version = 10 ∧
      (controller.pass installingSettings (.inNamespace "higress-system" "higress")).run
          Server.world (u.rejecting []) =
        (controller.pass installingSettings (.inNamespace "higress-system" "higress")).run
          Server.world (freshStore.rejecting []) := by
  have hfail : ((controller.pass installingSettings (.inNamespace "higress-system" "higress")).run
      Server.world (freshStore.rejecting ["Deployment"])).1 =
        .error (Server.writesRejected .deployment) := rfl
  exact ⟨_, _, Prod.ext hfail rfl, rfl, pass_retry .controller installingSettings _ freshStore _
    ["Deployment"] _ (fun _ => hasDistinctDefinitions_installingSettings)
    (fun _ _ r _ hx hr => freshStore_unheld _ _ r hx.isDependent hr) (Prod.ext hfail rfl)⟩

end Component

end GatewayOperator
