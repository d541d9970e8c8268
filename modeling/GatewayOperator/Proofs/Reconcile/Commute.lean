import GatewayOperator.Proofs.Reconcile.Footprint
import GatewayOperator.Proofs.Reconcile.Retry
import GatewayOperator.Proofs.Store.SideBySide

/-!
# Passes that commute

A pass looks at its footprint and at its namespace (`Sight`). On two stores that agree there it ends
alike and leaves alike what it changes (`endAlike_pass`), although the stores may have given other
versions before. So two passes whose footprints are out of each other's sight can change places
(`commutes_of_apart`).
-/

namespace GatewayOperator

open StoreProgram
open Program (Runs asks_bind asks_mono)

variable {α β : Type} {k : Kind}

/-! ## Programs on two stores -/

/-- No program changes the time. -/
theorem clock_run (p : StoreProgram α) (s : Server) : (p.run Server.world s).2.clock = s.clock := by
  induction p generalizing s with
  | done r => rfl
  | call q next ih => rw [Program.run_call, ih, Server.clock_world]

/-- Two runs on stores that agreed on some places: they have one result, leave these places alike,
and have written as much. -/
structure EndAlike (places : Kind → Key → Prop) (s s' : Server)
    (x x' : Except Failure α × Server) : Prop where
  result : x'.1 = x.1
  alike : ∀ k key, places k key → Alike (s.find? k key) (x.2.find? k key) (x'.2.find? k key)
  inStep : Server.InStep s s' x.2 x'.2

theorem Server.Agrees.endAlike {places : Kind → Key → Prop} {s s' : Server}
    (h : s.Agrees places s') (r : Except Failure α) : EndAlike places s s' (r, s) (r, s') :=
  ⟨rfl, fun k key hplace => by rw [h.found k key hplace]; exact Alike.refl _ _,
    Server.InStep.refl s s'⟩

/-- What is done with the results changes nothing. -/
theorem EndAlike.map {places : Kind → Key → Prop} {s s' : Server} {p p' : StoreProgram α}
    (h : EndAlike places s s' (p.run Server.world s) (p'.run Server.world s')) (f : α → β) :
    EndAlike places s s' ((p.bind fun a => pure (f a)).run Server.world s)
      ((p'.bind fun a => pure (f a)).run Server.world s') := by
  rw [Program.run_bind, Program.run_bind]
  cases hrun : p.run Server.world s with
  | mk res t =>
  cases hrun' : p'.run Server.world s' with
  | mk res' t' =>
  rw [hrun, hrun'] at h
  obtain rfl : res' = res := h.result
  cases res' <;> exact ⟨rfl, h.alike, h.inStep⟩

namespace StoreProgram

variable {places others : Kind → Key → Prop} {s s' : Server}

/-- A program that keeps to some places, and does the same on stores that agree there. -/
structure IsConfined (places : Kind → Key → Prop) (p : StoreProgram α) : Prop where
  stays : p.StaysAt places
  ends : ∀ s s', s.Agrees places s' →
    EndAlike places s s' (p.run Server.world s) (p.run Server.world s')

/-- What is elsewhere is still agreed upon. -/
theorem StaysAt.agrees {p : StoreProgram α} (hp : p.StaysAt places)
    (hapart : ∀ k key, others k key → ¬ places k key) (hs : s.Agrees others s') :
    (p.run Server.world s).2.Agrees others (p.run Server.world s').2 := by
  refine ⟨fun k key hplace => ?_, ?_, ?_⟩
  · rw [hp s' k key (hapart k key hplace), hp s k key (hapart k key hplace), hs.found k key hplace]
  · rw [rejected_run, rejected_run, hs.rejected]
  · rw [clock_run, clock_run, hs.clock]

theorem IsConfined.mono {p : StoreProgram α} (hp : IsConfined places p)
    (h : ∀ k key, places k key → others k key) : IsConfined others p := by
  refine ⟨hp.stays.mono h, fun s s' hs => ?_⟩
  have hends := hp.ends s s' (hs.mono h)
  refine ⟨hends.result, fun k key hother => ?_, hends.inStep⟩
  by_cases hplace : places k key
  · exact hends.alike k key hplace
  · rw [hp.stays s k key hplace, hp.stays s' k key hplace, hs.found k key hother]
    exact Alike.refl _ _

theorem isConfined_ofExcept (r : Except Failure α) :
    IsConfined (fun _ _ => False) (StoreProgram.ofExcept r) :=
  ⟨staysAt_of_asks trivial, fun _ _ hs => hs.endAlike r⟩

/-- A program that asks about one place and writes last is confined to this place: until it writes
it is told the same, and then it is done. -/
theorem isConfined_of_asks {p : StoreProgram Unit} {key : Key} (hlast : p.WritesLast)
    (hasks : p.Asks (StoreRequest.isAbout k key)) :
    IsConfined (fun j other => k = j ∧ key = other) p := by
  refine ⟨staysAt_of_asks (asks_mono (fun q hq => ⟨hq.1.symm, hq.2.symm⟩) hasks), fun s s' hs => ?_⟩
  induction p with
  | done r => exact hs.endAlike r
  | call q next ih =>
    obtain ⟨⟨rfl, rfl⟩, hnext⟩ := hasks
    rw [Program.run_call, Program.run_call]
    rcases Server.sideBySide (hs.found q.kind q.key ⟨rfl, rfl⟩) hs.rejected hs.clock with
      ⟨e, h, h'⟩ | ⟨a, h, h'⟩ | ⟨a, a', t, t', hwrite, h, h', halike, hstep⟩
    · rw [h, h']
      exact ih _ (hlast.2 _) (hnext _)
    · rw [h, h']
      exact ih _ (hlast.2 _) (hnext _)
    · obtain ⟨_, hdone⟩ := hlast.1 hwrite a
      obtain ⟨_, hdone'⟩ := hlast.1 hwrite a'
      rw [h, h']
      dsimp only
      rw [hdone, hdone']
      refine ⟨rfl, ?_, hstep⟩
      rintro _ _ ⟨rfl, rfl⟩
      exact halike

/-- Programs at different places are confined together. -/
theorem IsConfined.bind {p : StoreProgram α} {f : α → StoreProgram β} (hp : IsConfined places p)
    (hapart : ∀ k key, others k key → ¬ places k key) (hf : ∀ a, IsConfined others (f a)) :
    IsConfined (fun k key => places k key ∨ others k key) (p.bind f) := by
  refine ⟨(hp.stays.mono fun _ _ => Or.inl).bind fun a => (hf a).stays.mono fun _ _ => Or.inr,
    fun s s' hs => ?_⟩
  have hfirst := (hp.mono fun _ _ => Or.inl).ends s s' hs
  have hothers := hp.stays.agrees hapart (hs.mono fun _ _ => Or.inr)
  rw [Program.run_bind, Program.run_bind]
  cases hrun : p.run Server.world s with
  | mk res t =>
  cases hrun' : p.run Server.world s' with
  | mk res' t' =>
  rw [hrun, hrun'] at hfirst hothers
  obtain rfl : res' = res := hfirst.result
  cases res' with
  | error e => exact ⟨rfl, hfirst.alike, hfirst.inStep⟩
  | ok a =>
    have hsecond := (hf a).ends t t' hothers
    refine ⟨hsecond.result, fun k key hplace => ?_, hfirst.inStep.trans hsecond.inStep⟩
    by_cases hother : others k key
    · -- the first part has left the place as it was
      rw [← hp.stays.find?_of_run hrun (hapart k key hother)]
      exact hsecond.alike k key hother
    · rw [(hf a).stays t k key hother, (hf a).stays t' k key hother]
      exact hfirst.alike k key hplace

theorem IsConfined.map {p : StoreProgram α} (hp : IsConfined places p) (f : α → β) :
    IsConfined places (p.bind fun a => pure (f a)) :=
  ⟨hp.stays.bind fun a => (isConfined_ofExcept (.ok (f a))).stays.mono fun _ _ => False.elim,
    fun s s' hs => (hp.ends s s' hs).map f⟩

/-- Steps that are each confined to their place are confined together. -/
theorem isConfined_all {X : Type} (all : List X → StoreProgram Unit) (step : X → StoreProgram Unit)
    (kind : X → Kind) (key : X → Key) (hnil : all [] = pure ())
    (hcons : ∀ x xs, all (x :: xs) = (step x).bind fun _ => all xs)
    (hstep : ∀ x, IsConfined (fun k j => kind x = k ∧ key x = j) (step x)) {xs : List X}
    (hapart : xs.Pairwise fun x y => ¬ (kind x = kind y ∧ key x = key y)) :
    IsConfined (fun k j => ∃ x ∈ xs, kind x = k ∧ key x = j) (all xs) := by
  induction xs with
  | nil =>
    rw [hnil]
    exact (isConfined_ofExcept (.ok ())).mono fun k j hplace => hplace.elim
  | cons x xs ih =>
    obtain ⟨hx, hxs⟩ := List.pairwise_cons.1 hapart
    have helsewhere : ∀ k j, (∃ y ∈ xs, kind y = k ∧ key y = j) → ¬ (kind x = k ∧ key x = j) := by
      rintro k j ⟨y, hy, rfl, rfl⟩
      exact hx y hy
    rw [hcons]
    refine ((hstep x).bind helsewhere fun _ => ih hxs).mono ?_
    rintro k j (hplace | ⟨y, hy, hplace⟩)
    · exact ⟨x, List.mem_cons_self, hplace⟩
    · exact ⟨y, List.mem_cons_of_mem _ hy, hplace⟩

end StoreProgram

/-! ## Steps of a pass -/

theorem Target.isConfined_workAll {xs : List Target} (hapart : xs.Pairwise Apart) :
    IsConfined (fun k key => ∃ x ∈ xs, x.kind = k ∧ x.key = key) (workAll xs) :=
  isConfined_all workAll work kind key workAll_nil workAll_cons
    (fun x => isConfined_of_asks x.writesLast_work x.asks_work) hapart

namespace Binding

/-- What is done with a binding that was found is about the place where it was found. -/
theorem asks_handle (b : Binding) (account ns : String) (s : Server) :
    (b.handle account ns (s.find? b.kind (b.key account ns))).Asks
      (StoreRequest.isAbout b.kind (b.key account ns)) := by
  cases hfind : s.find? b.kind (b.key account ns) with
  | none => trivial
  | some r =>
    unfold handle
    dsimp only
    split
    · refine ⟨⟨rfl, ?_⟩, fun a => by cases a <;> trivial⟩
      exact (key_pruned b r account ns).trans (Server.key_of_find? hfind)
    · trivial

theorem isConfined_release (b : Binding) (account ns : String) :
    IsConfined (fun k key => b.kind = k ∧ b.key account ns = key) (b.release account ns) := by
  refine ⟨fun s => (b.resumable_release account ns s).stays s, fun s s' hs => ?_⟩
  rw [release_eq, run_get_bind, run_get_bind, hs.found _ _ ⟨rfl, rfl⟩]
  exact (isConfined_of_asks (b.writesLast_handle account ns _)
    (b.asks_handle account ns s)).ends s s' hs

theorem isConfined_releaseAll (ns : String) {ps : List (Binding × String)} (h : ps.Nodup) :
    IsConfined (fun k key => ∃ p ∈ ps, p.1.kind = k ∧ p.1.key p.2 ns = key) (releaseAll ns ps) := by
  refine isConfined_all (releaseAll ns) (fun p => p.1.release p.2 ns) (fun p => p.1.kind)
    (fun p => p.1.key p.2 ns) rfl (fun _ _ => rfl) (fun p => p.1.isConfined_release p.2 ns) ?_
  refine h.imp fun {p q} hne hplace => hne ?_
  obtain ⟨hb, ha⟩ := eq_of_place hplace.1 hplace.2
  exact Prod.ext hb ha

end Binding

namespace Component

variable {c : Component} {settings : PassSettings} {raw : Resource c.kind} {s s' : Server}
  {ns name : String} {key : Key}

/-! ## Between the writes to the object -/

theorem isConfined_converge (r : Resource c.kind) :
    IsConfined (fun k key => ∃ x ∈ c.reached settings r, x.kind = k ∧ x.key = key)
      (c.converge settings r) := by
  rw [converge_eq]
  exact ((Target.isConfined_workAll (reached_apart c settings r)).bind
    (fun _ _ hplace => hplace.elim) fun _ => isConfined_ofExcept _).mono
    fun _ _ hplace => hplace.elim id False.elim

/-- What comes between the two writes to the object is confined to the rest of the footprint. -/
theorem isConfined_between (hdefs : settings.definitions = none) (hns : raw.metadata.ns = some ns)
    {stored : Option (Resource c.kind)}
    (hstored : (stored.getD raw).boundAccount? = raw.boundAccount?) :
    IsConfined (fun k key => Footprint c raw ns name k key ∧ k ≠ c.kind)
      (c.between settings raw stored) := by
  unfold between
  rw [install_of_none hdefs, releasePrevious_eq_releaseAll, Metadata.nsOrEmpty_of_ns hns]
  refine ((Binding.isConfined_releaseAll ns (nodup_previousReleases _ _)).bind ?_ fun _ =>
    isConfined_converge (c.withDefaults raw)).mono ?_
  · rintro k key ⟨x, hx, rfl, rfl⟩
    exact reached_apart_previous hx
  · rintro k key (⟨p, hp, rfl, rfl⟩ | ⟨x, hx, rfl, rfl⟩)
    · rw [mem_previousReleases, hstored] at hp
      exact ⟨footprint_of_release hp.1 (Or.inr hp.2.1), kind_ne_binding p.1⟩
    · exact ⟨footprint_of_reached hns hx,
        ne_kind_of_isDependent (isCompiled_of_reached x hx).dependent⟩

/-! ## The writes to the object -/

/-- An object that does not report a pass yet reports it then. -/
theorem run_recordStatus_missing {r : Resource c.kind} {account : String}
    (hr : s.find? c.kind key = some r) (hreported : ¬ r.reported = some (.deployedWith account)) :
    ∃ t, (recordStatus r account).run Server.world s = (.ok (), t) ∧
      t.find? c.kind key = some (Server.withVersion (r.withStatusOf { r with
        content := c.kind.withReported r.content (.deployedWith account) }) (s.version + 1)) ∧
      Server.Advances s t c.kind key .updateStatus 1 := by
  obtain rfl : r.key = key := Server.key_of_find? hr
  obtain ⟨t, hrun⟩ := recordStatus_succeeds account hr
  refine ⟨t, hrun, ?_⟩
  rw [recordStatus_missing hreported] at hrun
  obtain ⟨x, u, hupdate, hpure⟩ := Program.run_bind_ok.1 hrun
  cases hpure
  have hadvances := Server.updateStatus_advances hupdate
  obtain ⟨stored, hstored, rfl, hfind⟩ := Server.updateStatus_ok hupdate
  change s.find? c.kind r.key = some stored at hstored
  obtain rfl : r = stored := Option.some.inj (hr.symm.trans hstored)
  exact ⟨hfind, hadvances⟩

/-- Whether a status is recorded does not depend on the version of the object. -/
theorem endAlike_recordStatus {r : Resource c.kind} {version : Option String} (account : String)
    (hr : s.find? c.kind key = some r)
    (hr' : s'.find? c.kind key = some (r.issued version r.metadata.uid)) :
    EndAlike (fun k other => c.kind = k ∧ key = other) s s'
      ((recordStatus r account).run Server.world s)
      ((recordStatus (r.issued version r.metadata.uid) account).run Server.world s') := by
  have hsame : (r.issued version r.metadata.uid).reported = r.reported := rfl
  by_cases hreported : r.reported = some (.deployedWith account)
  · rw [recordStatus_reported hreported, recordStatus_reported (hsame.trans hreported)]
    refine ⟨rfl, ?_, Server.InStep.refl s s'⟩
    rintro _ _ ⟨rfl, rfl⟩
    show Alike (s.find? c.kind key) (s.find? c.kind key) (s'.find? c.kind key)
    rw [hr, hr']
    exact .left r version _ (Or.inl rfl)
  · obtain ⟨t, hrun, hfind, hadvances⟩ := run_recordStatus_missing hr hreported
    obtain ⟨t', hrun', hfind', hadvances'⟩ := run_recordStatus_missing hr' (hsame ▸ hreported)
    rw [hrun, hrun']
    refine ⟨rfl, ?_, hadvances.inStep hadvances'⟩
    rintro _ _ ⟨rfl, rfl⟩
    show Alike (s.find? c.kind key) (t.find? c.kind key) (t'.find? c.kind key)
    rw [hfind, hfind']
    exact .left _ (some (toString (s'.version + 1))) _ (Or.inl rfl)

/-- What comes between the two writes depends on the recorded account of the stored object only. -/
theorem between_congr {stored stored' : Option (Resource c.kind)}
    (h : (stored'.getD raw).boundAccount? = (stored.getD raw).boundAccount?) :
    c.between settings raw stored' = c.between settings raw stored := by
  have hreleases : c.previousReleases (stored'.getD raw) (c.account raw) =
      c.previousReleases (stored.getD raw) (c.account raw) := by
    unfold previousReleases
    rw [h]
  unfold between
  rw [releasePrevious_eq_releaseAll, releasePrevious_eq_releaseAll, hreleases]

/-- The only place of a footprint that holds an object of the component is the object's own. -/
theorem Footprint.eq_object {place : Key} (h : Footprint c raw ns name c.kind place) :
    place = .inNamespace ns name := by
  generalize hk : c.kind = k at h
  cases h with
  | object => rfl
  | identity _ _ hidentity =>
    cases hidentity with
    | serviceAccount => cases c <;> cases hk
    | role => cases c <;> cases hk
    | clusterRole => cases c <;> cases hk
    | binding b => exact absurd hk.symm (kind_ne_binding b)
  | previous b => exact absurd hk.symm (kind_ne_binding b)
  | workload _ _ hworkload => cases hworkload <;> cases c <;> cases hk

/-- Once the finalizer is there, the rest of a pass ends alike, whatever version the object was
given with it. -/
theorem endAlike_rest {r : Resource c.kind} {version : Option String}
    (hdefs : settings.definitions = none) (hns : raw.metadata.ns = some ns)
    {stored stored' : Option (Resource c.kind)} (hstored : stored.getD raw = r)
    (hstored' : stored'.getD raw = r.issued version r.metadata.uid)
    (hbound : r.boundAccount? = raw.boundAccount?)
    (hr : s.find? c.kind (.inNamespace ns name) = some r)
    (hr' : s'.find? c.kind (.inNamespace ns name) = some (r.issued version r.metadata.uid))
    (hs : s.Agrees (fun k key => Footprint c raw ns name k key ∧ k ≠ c.kind) s') :
    EndAlike (Footprint c raw ns name) s s'
      (((c.between settings raw stored).bind fun _ =>
        recordStatus (stored.getD raw) (c.account raw)).run Server.world s)
      (((c.between settings raw stored').bind fun _ =>
        recordStatus (stored'.getD raw) (c.account raw)).run Server.world s') := by
  have hissued : (r.issued version r.metadata.uid).boundAccount? = r.boundAccount? := rfl
  have hsame : c.between settings raw stored' = c.between settings raw stored :=
    between_congr (by rw [hstored, hstored', hissued])
  have hconfined : IsConfined (fun k key => Footprint c raw ns name k key ∧ k ≠ c.kind)
      (c.between settings raw stored) := isConfined_between hdefs hns (by rw [hstored, hbound])
  have hends := hconfined.ends s s' hs
  rw [hsame, hstored, hstored', Program.run_bind, Program.run_bind]
  cases hrun : (c.between settings raw stored).run Server.world s with
  | mk res t =>
  cases hrun' : (c.between settings raw stored).run Server.world s' with
  | mk res' t' =>
  rw [hrun, hrun'] at hends
  obtain rfl : res' = res := hends.result
  -- the object is not touched in between
  have hobject : ∀ {u v : Server} {x : Except Failure Unit}, (c.between settings raw stored).run
      Server.world u = (x, v) → v.find? c.kind (.inNamespace ns name) =
        u.find? c.kind (.inNamespace ns name) :=
    fun hrun => hconfined.stays.find?_of_run hrun fun hplace => hplace.2 rfl
  have hr₂ := (hobject hrun).trans hr
  have hr₂' := (hobject hrun').trans hr'
  cases res' with
  | error e =>
    refine ⟨rfl, fun k place hplace => ?_, hends.inStep⟩
    by_cases hk : k = c.kind
    · subst hk
      obtain rfl := hplace.eq_object
      show Alike _ (t.find? _ _) (t'.find? _ _)
      rw [hr₂, hr₂']
      exact .left r version _ (Or.inl rfl)
    · exact hends.alike k place ⟨hplace, hk⟩
  | ok _ =>
    have hrecord := endAlike_recordStatus (c.account raw) hr₂ hr₂'
    refine ⟨hrecord.result, fun k place hplace => ?_, hends.inStep.trans hrecord.inStep⟩
    by_cases hk : k = c.kind
    · subst hk
      obtain rfl := hplace.eq_object
      rw [hr, ← hr₂]
      exact hrecord.alike _ _ ⟨rfl, rfl⟩
    · have hstays : ∀ (x : Resource c.kind) (u : Server),
          ((recordStatus x (c.account raw)).run Server.world u).2.find? k place =
            u.find? k place := fun x u =>
        find?_run (asks_recordStatus x (c.account raw)) (fun q hq hat => hk (hat.1.trans hq.1)) u
      rw [hstays, hstays]
      exact hends.alike k place ⟨hplace, hk⟩

/-- A pass that settles its object ends alike on stores that agree on its footprint. -/
theorem endAlike_settle (hdefs : settings.definitions = none)
    (hraw : s.find? c.kind (.inNamespace ns name) = some raw)
    (hstays : raw.metadata.isBeingDeleted = false) (hs : s.Agrees (Footprint c raw ns name) s') :
    EndAlike (Footprint c raw ns name) s s' ((c.settle settings raw).run Server.world s)
      ((c.settle settings raw).run Server.world s') := by
  have hraw' := (hs.found _ _ .object).trans hraw
  have hkey : raw.key = .inNamespace ns name := Server.key_of_find? hraw
  have hadd := isConfined_of_asks ((writesLast_addFinalizer raw c.finalizer).map fun _ => ())
    (asks_bind (asks_addFinalizer raw c.finalizer) fun _ => trivial)
  rw [hkey] at hadd
  have hobject : ∀ k place, c.kind = k ∧ Key.inNamespace ns name = place →
      Footprint c raw ns name k place := by
    rintro _ _ ⟨rfl, rfl⟩
    exact .object
  have hends := (hadd.mono hobject).ends s s' hs
  have hothers := (staysAt_addFinalizer raw c.finalizer).agrees (fun _ _ hplace => hplace.2)
    (hs.mono fun k place (hplace : Footprint c raw ns name k place ∧ k ≠ c.kind) => hplace.1)
  rw [Program.run_bind, Program.run_bind] at hends
  rw [settle_eq, Program.bind_eq, Program.run_bind, Program.run_bind]
  cases hrun : (addFinalizer raw c.finalizer).run Server.world s with
  | mk res t =>
  cases hrun' : (addFinalizer raw c.finalizer).run Server.world s' with
  | mk res' t' =>
  rw [hrun, hrun'] at hends hothers
  cases res with
  | error e =>
    cases res' with
    | error e' =>
      obtain rfl : e' = e := Except.error.inj hends.result
      exact ⟨rfl, hends.alike, hends.inStep⟩
    | ok stored' => cases hends.result
  | ok stored =>
    cases res' with
    | error e' => cases hends.result
    | ok stored' =>
      obtain ⟨hr, -, finalizers, given, hrestated⟩ := addFinalizer_ok hraw hstays hrun
      obtain ⟨hr', -⟩ := addFinalizer_ok hraw' hstays hrun'
      -- the object that is stored now differs in its version at most
      have halike := hends.alike _ _ .object
      obtain ⟨version, hversion⟩ : ∃ version,
          stored'.getD raw = (stored.getD raw).issued version (stored.getD raw).metadata.uid := by
        change Alike _ (t.find? _ _) (t'.find? _ _) at halike
        rw [hr, hr', hraw] at halike
        generalize stored.getD raw = r at halike
        generalize stored'.getD raw = r' at halike
        cases halike with
        | left _ version uid huid =>
          rcases huid with rfl | hnone
          · exact ⟨version, rfl⟩
          · cases hnone
      have hrest := endAlike_rest hdefs (Server.ns_of_find? hraw) rfl hversion
        (by rw [hrestated, boundAccount?_restated]) hr (hversion ▸ hr') hothers
      refine ⟨hrest.result, fun k place hplace => ?_, hends.inStep.trans hrest.inStep⟩
      have hplace' := hrest.alike k place hplace
      by_cases hk : k = c.kind
      · subst hk
        obtain rfl := hplace.eq_object
        rw [hr] at hplace'
        exact hplace'.of_found _
      · rwa [(staysAt_addFinalizer raw c.finalizer).find?_of_run hrun hk] at hplace'

theorem isConfined_finish (hns : raw.metadata.ns = some ns)
    (hkey : raw.key = .inNamespace ns name) :
    IsConfined (Footprint c raw ns name) (c.finish raw) := by
  have hremove := isConfined_of_asks (writesLast_removeFinalizer raw c.finalizer)
    (asks_removeFinalizer raw c.finalizer)
  unfold finish
  split
  · rw [teardown_eq, Metadata.nsOrEmpty_of_ns hns]
    refine (((Binding.isConfined_releaseAll ns (nodup_teardownReleases raw)).bind ?_ fun _ =>
      hremove).map fun _ => PassEnd.finalized).mono ?_
    · rintro k key ⟨rfl, rfl⟩ ⟨p, -, hkind, -⟩
      exact kind_ne_binding p.1 hkind
    · rintro k key (⟨p, hp, rfl, rfl⟩ | ⟨rfl, rfl⟩)
      · obtain ⟨hb, haccount⟩ := mem_teardownReleases.1 hp
        exact footprint_of_release hb haccount
      · rw [hkey]
        exact .object
  · exact (isConfined_ofExcept (.ok PassEnd.finalized)).mono fun _ _ hplace => hplace.elim

/-! ## Passes on two stores -/

/-- The places that a pass looks at. -/
inductive Sight (c : Component) (s : Server) (ns name : String) : Kind → Key → Prop
  | object : Sight c s ns name c.kind (.inNamespace ns name)
  | ownNamespace : Sight c s ns name .namespaceKind (.inCluster ns)
  | reach (k : Kind) (place : Key) : c.Reach s ns name k place → Sight c s ns name k place

theorem endAlike_handle (hdefs : settings.definitions = none)
    (hraw : s.find? c.kind (.inNamespace ns name) = some raw)
    (hs : s.Agrees (c.Sight s ns name) s') :
    EndAlike (Footprint c raw ns name) s s' ((c.handle settings (some raw)).run Server.world s)
      ((c.handle settings (some raw)).run Server.world s') := by
  have hns : raw.metadata.ns = some ns := Server.ns_of_find? hraw
  have hfootprint : s.Agrees (Footprint c raw ns name) s' :=
    hs.mono fun k place hplace => .reach k place ⟨raw, hraw, hplace⟩
  cases hdeleted : raw.metadata.isBeingDeleted with
  | true =>
    simp only [handle, hdeleted, if_true]
    exact (isConfined_finish hns (Server.key_of_find? hraw)).ends s s' hfootprint
  | false =>
    simp only [handle, hdeleted, Bool.false_eq_true, if_false]
    have hactive : s'.isActive ns = s.isActive ns := isActive_congr ns (hs.found _ _ .ownNamespace)
    unfold proceed
    rw [Metadata.nsOrEmpty_of_ns hns, Program.bind_eq,
      Program.run_bind_of_ok (run_namespaceActive ns s),
      Program.run_bind_of_ok (run_namespaceActive ns s'), hactive]
    cases s.isActive ns with
    | false => exact hfootprint.endAlike _
    | true => exact (endAlike_settle hdefs hraw hdeleted hfootprint).map fun _ => PassEnd.converged

/-- A pass ends alike on stores that agree on what it looks at. -/
theorem endAlike_pass (hdefs : settings.definitions = none) (hs : s.Agrees (c.Sight s ns name) s') :
    EndAlike (c.Reach s ns name) s s'
      ((c.pass settings (.inNamespace ns name)).run Server.world s)
      ((c.pass settings (.inNamespace ns name)).run Server.world s') := by
  rw [pass_eq, run_get_bind, run_get_bind, hs.found _ _ .object]
  cases hraw : s.find? c.kind (.inNamespace ns name) with
  | none =>
    refine ⟨rfl, ?_, Server.InStep.refl s s'⟩
    rintro k place ⟨raw, hfound, -⟩
    rw [hraw] at hfound
    cases hfound
  | some raw =>
    have hends := endAlike_handle hdefs hraw hs
    refine ⟨hends.result, ?_, hends.inStep⟩
    rintro k place ⟨found, hfound, hplace⟩
    obtain rfl := Option.some.inj (hraw.symm.trans hfound)
    exact hends.alike k place hplace

/-- A pass without failing calls leaves everything out of its reach as it is. -/
theorem find?_run_pass (hdefs : settings.definitions = none) {k : Kind} {place : Key}
    (hplace : ¬ c.Reach s ns name k place) :
    ((c.pass settings (.inNamespace ns name)).run Server.world s).2.find? k place =
      s.find? k place := by
  obtain ⟨calls, hruns⟩ :=
    Program.runs_run Server.world (c.pass settings (.inNamespace ns name)) s
  exact find?_of_pass hdefs hruns hplace

end Component

/-! ## Passes one after the other -/

/-- Two stores that came from one, but for what a store generates: versions, uids of objects that
were not there, and the order of the writes that it noted. -/
structure Server.IsReordering (s t t' : Server) : Prop where
  alike : ∀ (k : Kind) (key : Key), Alike (s.find? k key) (t.find? k key) (t'.find? k key)
  writes : t.writes.Perm t'.writes
  version : t.version = t'.version
  rejected : t.rejected = t'.rejected
  clock : t.clock = t'.clock

/-- Two programs that can change places: each has the result that it has alone, and both orders
leave the same. -/
structure StoreProgram.Commutes (p : StoreProgram α) (q : StoreProgram β) (s : Server) : Prop where
  first : (p.run Server.world (q.run Server.world s).2).1 = (p.run Server.world s).1
  second : (q.run Server.world (p.run Server.world s).2).1 = (q.run Server.world s).1
  store : s.IsReordering (q.run Server.world (p.run Server.world s).2).2
    (p.run Server.world (q.run Server.world s).2).2

namespace Component

variable {c d : Component} {settings settings' : PassSettings} {s : Server}
  {ns ns' name name' : String}

/-- What a pass looks at is as it was after a pass that cannot reach it. -/
theorem agrees_of_apart (hdefs : settings.definitions = none)
    (hapart : ∀ k place, c.Reach s ns name k place → ¬ d.Sight s ns' name' k place) :
    s.Agrees (d.Sight s ns' name')
      ((c.pass settings (.inNamespace ns name)).run Server.world s).2 :=
  ⟨fun _ _ hsight => find?_run_pass hdefs fun hreach => hapart _ _ hreach hsight,
    rejected_run _ s, clock_run _ s⟩

/-- What a pass can reach depends on its object. -/
theorem reach_congr {t : Server}
    (h : t.find? c.kind (.inNamespace ns name) = s.find? c.kind (.inNamespace ns name)) {k : Kind}
    {place : Key} : c.Reach t ns name k place ↔ c.Reach s ns name k place := by
  unfold Reach
  rw [h]

/-- Passes that are out of each other's sight can change places. -/
theorem commutes_of_apart (hdefs : settings.definitions = none)
    (hdefs' : settings'.definitions = none)
    (hapart : ∀ k place, c.Reach s ns name k place → ¬ d.Sight s ns' name' k place)
    (hapart' : ∀ k place, d.Reach s ns' name' k place → ¬ c.Sight s ns name k place) :
    Commutes (c.pass settings (.inNamespace ns name)) (d.pass settings' (.inNamespace ns' name'))
      s := by
  have hd := endAlike_pass hdefs' (agrees_of_apart hdefs hapart)
  have hc := endAlike_pass hdefs (agrees_of_apart hdefs' hapart')
  have hdreach {k : Kind} {place : Key} :
      d.Reach ((c.pass settings (.inNamespace ns name)).run Server.world s).2 ns' name' k place ↔
        d.Reach s ns' name' k place :=
    reach_congr ((agrees_of_apart hdefs hapart).found _ _ .object)
  have hcreach {k : Kind} {place : Key} :
      c.Reach ((d.pass settings' (.inNamespace ns' name')).run Server.world s).2 ns name k place ↔
        c.Reach s ns name k place :=
    reach_congr ((agrees_of_apart hdefs' hapart').found _ _ .object)
  refine ⟨hc.result, hd.result, fun k place => ?_, ?_, ?_, ?_, ?_⟩
  · by_cases hd' : d.Reach s ns' name' k place
    · -- only the second pass reaches the place
      have hc' : ¬ c.Reach s ns name k place := fun hreach => hapart _ _ hreach (.reach _ _ hd')
      rw [find?_run_pass hdefs ((not_congr hcreach).2 hc')]
      exact (hd.alike k place hd').symm
    rw [find?_run_pass hdefs' ((not_congr hdreach).2 hd')]
    by_cases hc' : c.Reach s ns name k place
    · exact hc.alike k place hc'
    · rw [find?_run_pass hdefs ((not_congr hcreach).2 hc'), find?_run_pass hdefs hc',
        find?_run_pass hdefs' hd']
      exact Alike.refl _ _
  · obtain ⟨log, hlog, hlog'⟩ := hd.inStep.writes
    obtain ⟨more, hmore, hmore'⟩ := hc.inStep.writes
    rw [hlog', hmore, hmore', hlog, List.append_assoc, List.append_assoc]
    exact List.perm_append_comm.append_left s.writes
  · obtain ⟨n, hn, hn'⟩ := hd.inStep.version
    obtain ⟨m, hm, hm'⟩ := hc.inStep.version
    omega
  · simp only [rejected_run]
  · simp only [clock_run]

/-! ## Objects of different namespaces -/

/-- A pass reaches into its namespace, and to what is named after its accounts in the whole
cluster. -/
theorem place_of_reach {k : Kind} {place : Key} (h : c.Reach s ns name k place) :
    place.ns = some ns ∨ (k = .clusterRole ∨ k = .clusterRoleBinding) ∧
      ∃ raw account, s.find? c.kind (.inNamespace ns name) = some raw ∧
        c.HasAccount raw account ∧ place = .inCluster account := by
  have hbinding {raw : Resource c.kind} {account : String}
      (hraw : s.find? c.kind (.inNamespace ns name) = some raw)
      (haccount : c.HasAccount raw account)
      (b : Binding) : (b.key account ns).ns = some ns ∨
        (b.kind = .clusterRole ∨ b.kind = .clusterRoleBinding) ∧
          ∃ raw other, s.find? c.kind (.inNamespace ns name) = some raw ∧
            c.HasAccount raw other ∧ b.key account ns = .inCluster other := by
    cases b with
    | cluster => exact Or.inr ⟨Or.inr rfl, raw, account, hraw, haccount, rfl⟩
    | role => exact Or.inl rfl
  obtain ⟨raw, hraw, hplace⟩ := h
  cases hplace with
  | object => exact Or.inl rfl
  | identity _ _ hidentity =>
    cases hidentity with
    | serviceAccount => exact Or.inl rfl
    | role => exact Or.inl rfl
    | clusterRole => exact Or.inr ⟨Or.inl rfl, raw, _, hraw, Or.inl rfl, rfl⟩
    | binding b => exact hbinding hraw (Or.inl rfl) b
  | previous b account hb hbound => exact hbinding hraw (Or.inr hbound) b
  | workload _ _ hworkload => cases hworkload <;> exact Or.inl rfl

/-- Two objects, if both are there, have no service account in common, whether current or
recorded. -/
def SharesNoAccount (c d : Component) (s : Server) (ns name ns' name' : String) : Prop :=
  ∀ raw raw', s.find? c.kind (.inNamespace ns name) = some raw →
    s.find? d.kind (.inNamespace ns' name') = some raw' →
      ∀ account, c.HasAccount raw account → ¬ d.HasAccount raw' account

theorem apart_of_namespaces (hns : ns ≠ ns') (haccounts : c.SharesNoAccount d s ns name ns' name')
    {k : Kind} {place : Key} (hreach : c.Reach s ns name k place) :
    ¬ d.Sight s ns' name' k place := by
  intro hsight
  rcases place_of_reach hreach with hplace | ⟨hkind, raw, account, hraw, haccount, rfl⟩
  · cases hsight with
    | object => exact hns (Option.some.inj hplace.symm)
    | ownNamespace => cases hplace
    | reach _ _ hreach' =>
      rcases place_of_reach hreach' with hplace' | ⟨-, _, account, -, -, rfl⟩
      · exact hns (Option.some.inj (hplace.symm.trans hplace'))
      · cases hplace
  · generalize hat : Key.inCluster account = place at hsight
    cases hsight with
    | object => cases hat
    | ownNamespace => rcases hkind with hkind | hkind <;> cases hkind
    | reach _ _ hreach' =>
      rcases place_of_reach hreach' with hplace' | ⟨-, raw', account', hraw', haccount', rfl⟩
      · rw [← hat] at hplace'
        cases hplace'
      · cases hat
        exact haccounts raw raw' hraw hraw' account haccount haccount'

theorem SharesNoAccount.symm (h : c.SharesNoAccount d s ns name ns' name') :
    d.SharesNoAccount c s ns' name' ns name :=
  fun raw raw' hraw hraw' account haccount haccount' =>
    h raw' raw hraw' hraw account haccount' haccount

/-! ## What a pass changes, and with what it can change places -/

/-- What a pass of the object at a key has left alone. -/
structure IsContained (c : Component) (ns name : String) (s t : Server) : Prop where
  /-- everything out of its reach is as it was -/
  elsewhere : ∀ (k : Kind) (place : Key), ¬ c.Reach s ns name k place →
    t.find? k place = s.find? k place
  accounts : ∀ (place : Key) (r : Resource .serviceAccount),
    s.find? .serviceAccount place = some r → t.find? .serviceAccount place = some r
  object : ∀ raw, s.find? c.kind (.inNamespace ns name) = some raw →
    c.IsKept raw (t.find? c.kind (.inNamespace ns name))
  /-- what is named after the object has the name of its key -/
  named : ∀ raw, s.find? c.kind (.inNamespace ns name) = some raw → name ≠ "" →
    raw.metadata.anyName = name

theorem anyName_of_key {m : Metadata} (hkey : m.key = .inNamespace ns name) (hname : name ≠ "") :
    m.anyName = name := by
  have heq : m.name.getD "" = name := congrArg Key.name hkey
  unfold Metadata.anyName
  cases hm : m.name with
  | none =>
    rw [hm] at heq
    exact absurd heq.symm hname
  | some x =>
    rw [hm] at heq
    exact heq

/-- Whatever becomes of it, a pass changes nothing but its footprint, no service account that is
there, and of its own object finalizers, status and version. Passes in different namespaces without
a common account can change places. -/
theorem contained_and_commuting (c : Component) (settings : PassSettings) (ns name : String)
    (s : Server) (hdefs : settings.definitions = none) :
    (∀ calls res t, Runs Server.world (c.pass settings (.inNamespace ns name)) s calls res t →
      c.IsContained ns name s t) ∧
    ∀ (d : Component) (settings' : PassSettings) (ns' name' : String),
      settings'.definitions = none → ns ≠ ns' → c.SharesNoAccount d s ns name ns' name' →
      Commutes (c.pass settings (.inNamespace ns name)) (d.pass settings' (.inNamespace ns' name'))
        s := by
  refine ⟨fun calls res t hruns => ⟨fun k place => ?_, fun place r => ?_, fun raw => ?_, ?_⟩, ?_⟩
  · exact find?_of_pass hdefs hruns
  · exact serviceAccount_of_pass hruns
  · exact fun hraw => object_of_pass hraw hruns
  · exact fun raw hraw hname => anyName_of_key (Server.key_of_find? hraw) hname
  · intro d settings' ns' name' hdefs' hns haccounts
    exact commutes_of_apart hdefs hdefs'
      (fun _ _ => apart_of_namespaces hns haccounts)
      (fun _ _ => apart_of_namespaces hns.symm haccounts.symm)

/-- A gateway and a controller in two namespaces, each with its own account. -/
def pairStore : Server where
  objects :=
    [⟨.namespaceKind, { name := some "ns" }, {}⟩, ⟨.gateway, gatewayNamed "east" none⟩,
      ⟨.namespaceKind, { name := some "higress-system" }, {}⟩, ⟨.controller, appliedController⟩]

theorem contained_and_commuting_pairStore :
    (∃ calls t, Runs Server.world (gateway.pass {} (.inNamespace "ns" "east")) pairStore calls
        (.ok .converged) t ∧ gateway.IsContained "ns" "east" pairStore t) ∧
      Commutes (gateway.pass {} (.inNamespace "ns" "east"))
        (controller.pass {} (.inNamespace "higress-system" "higress")) pairStore ∧
      ((controller.pass {} (.inNamespace "higress-system" "higress")).run Server.world
        pairStore).1 = .ok .converged := by
  have heast : pairStore.find? .gateway (.inNamespace "ns" "east") =
      some (gatewayNamed "east" none) := rfl
  have hhigress : pairStore.find? .controller (.inNamespace "higress-system" "higress") =
      some appliedController := rfl
  have hend : ((gateway.pass {} (.inNamespace "ns" "east")).run Server.world pairStore).1 =
      .ok .converged := rfl
  obtain ⟨calls, hcalls⟩ := Program.runs_of_run (Prod.ext hend rfl)
  obtain ⟨hcontained, hcommutes⟩ := contained_and_commuting gateway {} "ns" "east" pairStore rfl
  refine ⟨⟨calls, _, hcalls, hcontained calls _ _ hcalls⟩,
    hcommutes controller {} "higress-system" "higress" rfl (by decide) ?_, rfl⟩
  intro raw raw' hraw hraw' account haccount haccount'
  obtain rfl := Option.some.inj (heast.symm.trans hraw)
  obtain rfl := Option.some.inj (hhigress.symm.trans hraw')
  -- neither object has recorded an account yet
  have hgateway : account = "higress-gateway" := haccount.resolve_right (by simp [gatewayNamed,
    Resource.boundAccount?, Resource.reported, Kind.reported])
  have hcontroller : account = "higress-controller" := haccount'.resolve_right (by
    simp [appliedController, Resource.boundAccount?, Resource.reported, Kind.reported])
  rw [hgateway] at hcontroller
  exact absurd hcontroller (by decide)

end Component

end GatewayOperator
