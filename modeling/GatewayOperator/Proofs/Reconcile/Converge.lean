import GatewayOperator.Proofs.Store.Call
import GatewayOperator.Reconcile.Converge

/-!
# What a convergence leaves

A convergence that succeeds overlays what stood at its place with what is desired
(`convergeTo_overlaid`). An object is `Settled` when another overlay writes it alike: a convergence
leaves it so (`convergeTo_ok`), and on a settled object it does nothing (`convergeTo_settled`).
`createIfAbsent` does no more than its name says (`createIfAbsent_ok`), and no step asks about
another place than its own (`asks_convergeTo`, `asks_createIfAbsent`, `asks_delete`).
-/

namespace GatewayOperator

open StoreProgram
open Program (Runs Asks asks_bind)

variable {k : Kind}

/-! ## Requests of a convergence -/

theorem asks_ofExcept {α : Type} {P : StoreRequest → Prop} (r : Except Failure α) :
    (StoreProgram.ofExcept r).Asks P := trivial

theorem asks_get {P : StoreRequest → Prop} {key : Key} (h : P (.get k key)) :
    (StoreProgram.get k key).Asks P :=
  ⟨h, fun _ => trivial⟩

theorem mutated_of_ok {key : Key} {mutate : Mutation k} {r x : Resource k} (h : mutate r = .ok x) :
    mutated key mutate r =
      if x.key = key then .ok x else .error (.identityChanged k.name key.text x.key.text) := by
  unfold mutated
  rw [h]
  rfl

/-- A mutated object is at the key it was read from. -/
theorem key_of_mutated {key : Key} {mutate : Mutation k} {r r' : Resource k}
    (h : mutated key mutate r = .ok r') : r'.key = key := by
  cases hm : mutate r with
  | error e =>
    unfold mutated at h
    rw [hm] at h
    cases h
  | ok x =>
    rw [mutated_of_ok hm] at h
    split at h
    · rename_i hx
      cases h
      exact hx
    · cases h

theorem asks_amend {P : StoreRequest → Prop} {key : Key} {mutate : Mutation k}
    {current : Resource k}
    (h : ∀ r : Resource k, r.key = key → P (.update k r)) : (amend key mutate current).Asks P := by
  unfold amend
  cases hm : mutated key mutate current with
  | error e => trivial
  | ok desired =>
    show Asks (I := storeInterface) P (if desired.sameAs current then _ else _)
    split
    · trivial
    · exact ⟨h desired (key_of_mutated hm), fun a => by cases a <;> trivial⟩

/-- A convergence reads, creates and updates the object at its place. -/
theorem asks_converge {key : Key} {mutate : Mutation k} :
    (converge k key mutate).Asks (StoreRequest.isAbout k key) := by
  have hamend (current : Resource k) :
      (amend key mutate current).Asks (StoreRequest.isAbout k key) :=
    asks_amend fun r hr => ⟨rfl, hr⟩
  unfold converge
  refine asks_bind (asks_get ⟨rfl, rfl⟩) ?_
  intro found
  cases found with
  | some current => exact hamend current
  | none =>
    show Asks (I := storeInterface) _ (Program.bind (StoreProgram.ofExcept _) _)
    cases hm : mutated key mutate (.empty k key) with
    | error e => trivial
    | ok desired =>
      refine ⟨⟨rfl, key_of_mutated hm⟩, ?_⟩
      intro created
      cases created with
      | ok r => trivial
      | error e =>
        cases e with
        | alreadyExists kind text =>
          -- what somebody else created meanwhile is read and amended
          refine ⟨⟨rfl, rfl⟩, ?_⟩
          intro again
          cases again with
          | error e => trivial
          | ok found =>
            cases found with
            | some current => exact hamend current
            | none => trivial
        | _ => trivial

theorem asks_convergeTo (d : Resource k) :
    (convergeTo d).Asks (StoreRequest.isAbout k d.key) := asks_converge

/-- A creation of what is not there reads, and creates just that. -/
theorem asks_createIfAbsent_of {P : StoreRequest → Prop} {r : Resource k} (hget : P (.get k r.key))
    (hcreate : P (.create k r)) : (createIfAbsent r).Asks P := by
  unfold createIfAbsent
  refine asks_bind (asks_get hget) ?_
  intro found
  cases found with
  | some current => trivial
  | none =>
    refine ⟨hcreate, ?_⟩
    intro created
    cases created with
    | ok r => trivial
    | error e => cases e <;> trivial

theorem asks_createIfAbsent (r : Resource k) :
    (createIfAbsent r).Asks (StoreRequest.isAbout k r.key) :=
  asks_createIfAbsent_of ⟨rfl, rfl⟩ ⟨rfl, rfl⟩

theorem asks_delete (k : Kind) (key : Key) :
    (StoreProgram.delete k key).Asks (StoreRequest.isAbout k key) :=
  ⟨⟨rfl, rfl⟩, fun a => by cases a <;> trivial⟩

/-! ## Runs of single requests -/

section Run

variable {α : Type} (s : Server)

@[simp] theorem run_update (r : Resource k) :
    (StoreProgram.update r).run Server.world s = s.update r := rfl

/-! A request at the front of a program runs, and the rest goes on with its answer. -/

variable {β : Type}

theorem run_get_bind (k : Kind) (key : Key) (f : Option (Resource k) → StoreProgram β) :
    (StoreProgram.get k key >>= f).run Server.world s =
      (f (s.find? k key)).run Server.world s := rfl

theorem run_tryCreate_bind (r : Resource k) (f : Except Failure (Resource k) → StoreProgram β) :
    (StoreProgram.tryCreate r >>= f).run Server.world s =
      (f (s.create r).1).run Server.world (s.create r).2 := rfl

theorem run_ofExcept_bind (a : α) (f : α → StoreProgram β) :
    (StoreProgram.ofExcept (.ok a) >>= f).run Server.world s = (f a).run Server.world s := rfl

theorem run_ofExcept_error_bind (e : Failure) (f : α → StoreProgram β) :
    (StoreProgram.ofExcept (.error e) >>= f).run Server.world s = (.error e, s) := rfl

end Run

/-- A program that asks about one place leaves every other place as it is. -/
theorem find?_run {α : Type} {P : StoreRequest → Prop} {p : StoreProgram α}
    (hp : Asks (I := storeInterface) P p) {j : Kind} {other : Key}
    (h : ∀ q, P q → ¬ (j = q.kind ∧ other = q.key)) (s : Server) :
    (p.run Server.world s).2.find? j other = s.find? j other := by
  induction p generalizing s with
  | done r => rfl
  | call q next ih =>
    rw [Program.run_call, ih _ (hp.2 _), Server.find?_world q s (h q hp.1)]

/-- A program about one place leaves every other place as it is. -/
theorem find?_of_about {α : Type} {p : StoreProgram α} {key : Key} {r : Except Failure α}
    {s t : Server} (hp : p.Asks (StoreRequest.isAbout k key)) (h : p.run Server.world s = (r, t))
    {j : Kind} {other : Key} (hplace : ¬ (j = k ∧ other = key)) :
    t.find? j other = s.find? j other := by
  have hframe := find?_run hp (fun q hq => by rwa [hq.1, hq.2]) s
  rwa [h] at hframe

/-- No program changes which kinds are refused. -/
theorem rejected_run {α : Type} (p : StoreProgram α) (s : Server) :
    (p.run Server.world s).2.rejected = s.rejected := by
  induction p generalizing s with
  | done r => rfl
  | call q next ih => rw [Program.run_call, ih, Server.rejected_world]

theorem rejected_of_run {α : Type} {p : StoreProgram α} {r : Except Failure α} {s t : Server}
    (h : p.run Server.world s = (r, t)) : t.rejected = s.rejected := by
  have hkept := rejected_run p s
  rwa [h] at hkept

theorem rejects_of_run {α : Type} {p : StoreProgram α} {r : Except Failure α} {s t : Server}
    (h : p.run Server.world s = (r, t)) (j : Kind) : t.rejects j = s.rejects j := by
  unfold Server.rejects
  rw [rejected_of_run h]

/-! ## Settled objects -/

/-- An object is there that overlaying with what is desired writes alike. -/
def Server.Settled (s : Server) (d : Resource k) : Prop :=
  ∃ r, s.find? k d.key = some r ∧ (r.overlay d).sameAs r = true

theorem Resource.sameAs_self (r : Resource k) : r.sameAs r = true := Json.same_self _

/-- What an overlay wrote, with what the store assigns, is settled. -/
theorem sameAs_overlay_issued {live d : Resource k} (h : Resource.HasUniquePorts k d.content)
    (version uid : Option String) :
    (((live.overlay d).issued version uid).overlay d).sameAs
      ((live.overlay d).issued version uid) = true := by
  rw [Resource.overlay_issued, Resource.overlay_overlay live d h]
  exact Resource.sameAs_self _

theorem deletionTimestamp_overlay (live d : Resource k) :
    (live.overlay d).metadata.deletionTimestamp = live.metadata.deletionTimestamp := by
  obtain ⟨labels, annotations, owners, hmeta⟩ := Resource.overlay_metadata live d
  rw [hmeta]

theorem finalizers_overlay (live d : Resource k) :
    (live.overlay d).metadata.finalizers = live.metadata.finalizers := by
  obtain ⟨labels, annotations, owners, hmeta⟩ := Resource.overlay_metadata live d
  rw [hmeta]

/-- An overlay leaves mark and finalizers alone, and with them what holds an object back. -/
theorem isReleased_overlay (live d : Resource k) :
    Server.isReleased (live.overlay d) = Server.isReleased live := by
  obtain ⟨labels, annotations, owners, hmeta⟩ := Resource.overlay_metadata live d
  simp only [Server.isReleased, hmeta]
  rfl

theorem Server.isBeingDeleted_of_isReleased {r : Resource k} (h : Server.isReleased r = true) :
    r.metadata.isBeingDeleted = true := by
  simp only [Server.isReleased, Bool.and_eq_true] at h
  exact h.1

theorem mutated_overlay_eq (key : Key) (r d : Resource k) :
    mutated key (fun current => .ok (current.overlay d)) r =
      if r.key = key then .ok (r.overlay d)
      else .error (.identityChanged k.name key.text r.key.text) := by
  have heq : mutated key (fun current => .ok (current.overlay d)) r =
      if (r.overlay d).key = key then .ok (r.overlay d)
      else .error (.identityChanged k.name key.text (r.overlay d).key.text) := mutated_of_ok rfl
  rwa [Resource.key_overlay] at heq

/-- An object that was read is written over, unless that changes nothing. -/
theorem amend_overlay_eq {key : Key} {live : Resource k} (d : Resource k) (hkey : live.key = key) :
    amend key (fun r => .ok (r.overlay d)) live =
      if (live.overlay d).sameAs live then pure .unchanged
      else StoreProgram.update (live.overlay d) >>= fun _ => pure .updated := by
  unfold amend
  rw [Program.bind_eq, mutated_overlay_eq, if_pos hkey]
  rfl

/-- What stands at a place, or a fresh object. -/
def Server.standing (s : Server) (k : Kind) (key : Key) : Resource k :=
  (s.find? k key).getD (.empty k key)

theorem Server.standing_of_found {s : Server} {key : Key} {r : Resource k}
    (h : s.find? k key = some r) : s.standing k key = r := by
  unfold standing
  rw [h]
  rfl

theorem Server.standing_of_missing {s : Server} {key : Key} (h : s.find? k key = none) :
    s.standing k key = .empty k key := by
  unfold standing
  rw [h]
  rfl

/-- An object is there that was written over what stood there before, unless that was written
alike. -/
def Server.Overlaid (s t : Server) (d : Resource k) : Prop :=
  ∃ r, t.find? k d.key = some r ∧
    (s.find? k d.key = some r ∧ (r.overlay d).sameAs r = true ∨
      ∃ version uid, r = ((s.standing k d.key).overlay d).issued version uid)

/-- Amending an object writes over it, unless nothing holds back its deletion and it goes with the
update. -/
theorem amend_left {d current : Resource k} {s t : Server} {o : Outcome}
    (hcurrent : s.find? k d.key = some current)
    (h : (amend d.key (fun r => .ok (r.overlay d)) current).run Server.world s = (.ok o, t)) :
    s.Overlaid t d ∨ t.find? k d.key = none ∧ Server.isReleased current = true := by
  have hkey := Server.key_of_find? hcurrent
  rw [amend_overlay_eq d hkey] at h
  split at h
  · rename_i hsame
    cases h
    exact Or.inl ⟨current, hcurrent, Or.inl ⟨hcurrent, hsame⟩⟩
  · obtain ⟨r, u, hupdate, hpure⟩ := Program.run_bind_ok.1 h
    cases hpure
    rw [run_update] at hupdate
    obtain ⟨stored, hstored, hplace⟩ := Server.update_ok hupdate
    rw [Resource.key_overlay, hkey] at hstored hplace
    rw [hcurrent] at hstored
    cases hstored
    have hmark := deletionTimestamp_overlay current d
    rw [Server.merged_of_mark hmark, Resource.withStatusOf_overlay] at hplace
    split at hplace
    · rename_i hreleased
      exact Or.inr ⟨hplace, (isReleased_overlay current d).symm.trans hreleased⟩
    · obtain ⟨rfl, hfind⟩ := hplace
      rw [Server.withVersion_eq_issued] at hfind
      exact Or.inl ⟨_, hfind, Or.inr ⟨some (toString (s.version + 1)),
        (current.overlay d).metadata.uid, by rw [Server.standing_of_found hcurrent]⟩⟩

/-- A fresh object is at its key, unless a namespace is asked for where the kind has none. -/
theorem mutated_empty_ok {key : Key} {d r : Resource k}
    (h : mutated key (fun current => .ok (current.overlay d)) (.empty k key) = .ok r) :
    r = (Resource.empty k key).overlay d ∧ r.key = key := by
  refine ⟨?_, key_of_mutated h⟩
  rw [mutated_overlay_eq] at h
  split at h
  · cases h
    rfl
  · cases h

/-- A convergence that succeeds writes over what stood at its place, unless nothing held back the
deletion of that and it went with the update. -/
theorem convergeTo_left {d : Resource k} {s t : Server} {o : Outcome}
    (h : (convergeTo d).run Server.world s = (.ok o, t)) :
    s.Overlaid t d ∨ t.find? k d.key = none ∧
      ∃ r, s.find? k d.key = some r ∧ Server.isReleased r = true := by
  unfold convergeTo converge at h
  rw [run_get_bind] at h
  cases hfind : s.find? k d.key with
  | some current =>
    rw [hfind] at h
    rcases amend_left hfind h with hover | ⟨hgone, hreleased⟩
    · exact Or.inl hover
    · exact Or.inr ⟨hgone, current, rfl, hreleased⟩
  | none =>
    rw [hfind] at h
    cases hmutated : mutated d.key (fun current => .ok (current.overlay d)) (.empty k d.key) with
    | error e =>
      simp only [hmutated] at h
      rw [run_ofExcept_error_bind] at h
      cases h
    | ok fresh =>
      obtain ⟨rfl, hkey⟩ := mutated_empty_ok hmutated
      simp only [hmutated] at h
      rw [run_ofExcept_bind, run_tryCreate_bind] at h
      cases hcreate : (s.create ((Resource.empty k d.key).overlay d)).1 with
      | ok r =>
        rw [hcreate] at h
        cases h
        obtain ⟨-, rfl, hplace⟩ := Server.create_ok (Prod.ext hcreate rfl)
        rw [hkey] at hplace
        exact Or.inl ⟨_, hplace, Or.inr ⟨some (toString (s.version + 1)),
          some (Server.uidOf (s.version + 1)), by rw [Server.standing_of_missing hfind]⟩⟩
      | error e =>
        -- nothing was there, so the creation was refused for good
        obtain rfl := Server.create_error (by rw [hkey]; exact hfind) hcreate
        rw [hcreate] at h
        cases h

/-- A convergence that succeeds writes over what stood at its place. -/
theorem convergeTo_overlaid {d : Resource k} {s t : Server} {o : Outcome}
    (hlive : ∀ r, s.find? k d.key = some r → r.metadata.isBeingDeleted = false)
    (h : (convergeTo d).run Server.world s = (.ok o, t)) : s.Overlaid t d := by
  rcases convergeTo_left h with hover | ⟨-, r, hr, hreleased⟩
  · exact hover
  · have hdeleted := Server.isBeingDeleted_of_isReleased hreleased
    rw [hlive r hr] at hdeleted
    cases hdeleted

/-- A convergence asks for no deletion. -/
theorem deletionTimestamp_of_run {d r : Resource k} {s t : Server} {o : Outcome}
    (h : (convergeTo d).run Server.world s = (.ok o, t)) (hr : t.find? k d.key = some r) :
    r.metadata.deletionTimestamp = (s.standing k d.key).metadata.deletionTimestamp := by
  rcases convergeTo_left h with ⟨x, hx, hover⟩ | ⟨hgone, -⟩
  · obtain rfl : x = r := Option.some.inj (hx.symm.trans hr)
    rcases hover with ⟨hfound, -⟩ | ⟨version, uid, rfl⟩
    · rw [Server.standing_of_found hfound]
    · exact deletionTimestamp_overlay _ d
  · rw [hr] at hgone
    cases hgone

/-- What was written over is settled. -/
theorem Server.Overlaid.settled {d : Resource k} {s t : Server} (h : s.Overlaid t d)
    (hports : Resource.HasUniquePorts k d.content) : t.Settled d := by
  obtain ⟨r, hfind, ⟨-, hsame⟩ | ⟨version, uid, rfl⟩⟩ := h
  · exact ⟨r, hfind, hsame⟩
  · exact ⟨_, hfind, sameAs_overlay_issued hports version uid⟩

/-- A convergence that succeeds settles its object. -/
theorem convergeTo_ok {d : Resource k} {s t : Server} {o : Outcome}
    (hlive : ∀ r, s.find? k d.key = some r → r.metadata.isBeingDeleted = false)
    (hports : Resource.HasUniquePorts k d.content)
    (h : (convergeTo d).run Server.world s = (.ok o, t)) : t.Settled d :=
  (convergeTo_overlaid hlive h).settled hports

/-- A convergence to an object of a kind whose writes are refused succeeds only if nothing is to be
written. -/
theorem convergeTo_refused {d : Resource k} {s t : Server} {o : Outcome}
    (hrejects : s.rejects k = true)
    (h : (convergeTo d).run Server.world s = (.ok o, t)) : t = s := by
  unfold convergeTo converge at h
  rw [run_get_bind] at h
  cases hfind : s.find? k d.key with
  | some current =>
    rw [hfind] at h
    dsimp only at h
    rw [amend_overlay_eq d (Server.key_of_find? hfind)] at h
    split at h
    · cases h
      rfl
    · obtain ⟨r, u, hupdate, -⟩ := Program.run_bind_ok.1 h
      rw [run_update, Server.update, if_pos hrejects] at hupdate
      cases hupdate
  | none =>
    rw [hfind] at h
    cases hmutated : mutated d.key (fun current => .ok (current.overlay d)) (.empty k d.key) with
    | error e =>
      simp only [hmutated] at h
      rw [run_ofExcept_error_bind] at h
      cases h
    | ok fresh =>
      simp only [hmutated] at h
      rw [run_ofExcept_bind, run_tryCreate_bind, Server.create, if_pos hrejects] at h
      cases h

/-- On a settled object a convergence does nothing. -/
theorem convergeTo_settled {d : Resource k} {s : Server} (h : s.Settled d) :
    (convergeTo d).run Server.world s = (.ok .unchanged, s) := by
  obtain ⟨r, hfind, hsame⟩ := h
  have hkey := Server.key_of_find? hfind
  unfold convergeTo converge
  rw [run_get_bind, hfind]
  show (amend d.key (fun current => .ok (current.overlay d)) r).run Server.world s = _
  rw [amend_overlay_eq d hkey, if_pos hsame]
  rfl

/-- Whether an object can be at its key: kinds of the whole cluster have no namespaces. -/
def Kind.hasPlace (k : Kind) (key : Key) : Prop := k.isNamespaced = true ∨ key.ns = none

theorem Resource.key_empty {key : Key} (h : k.hasPlace key) : (Resource.empty k key).key = key := by
  obtain ⟨ns, name⟩ := key
  unfold Resource.empty
  rcases h with h | h
  · rw [if_pos h]
    rfl
  · obtain rfl : ns = none := h
    cases k.isNamespaced <;> rfl

/-- A store that refuses nothing lets every convergence succeed. -/
theorem convergeTo_succeeds {d : Resource k} {s : Server} (hrejects : s.rejects k = false)
    (hplace : k.hasPlace d.key) : ∃ o t, (convergeTo d).run Server.world s = (.ok o, t) := by
  unfold convergeTo converge
  rw [run_get_bind]
  cases hfind : s.find? k d.key with
  | some current =>
    have hkey := Server.key_of_find? hfind
    show ∃ o t, (amend d.key (fun r => .ok (r.overlay d)) current).run Server.world s = _
    rw [amend_overlay_eq d hkey]
    split
    · exact ⟨.unchanged, s, rfl⟩
    · -- an overlay keeps the version that was read
      obtain ⟨labels, annotations, owners, hmeta⟩ := Resource.overlay_metadata current d
      have hfresh : Server.isStale (current.overlay d) current = false := by
        simp [Server.isStale, hmeta]
      obtain ⟨r, t, hupdate⟩ := Server.update_succeeds hrejects
        (by rw [Resource.key_overlay, hkey]; exact hfind) hfresh
      exact ⟨.updated, t, Program.run_bind_of_ok hupdate⟩
  | none =>
    show ∃ o t, (StoreProgram.ofExcept _ >>= _).run Server.world s = _
    rw [mutated_overlay_eq, if_pos (Resource.key_empty hplace), run_ofExcept_bind,
      run_tryCreate_bind]
    obtain ⟨r, t, hcreate⟩ := Server.create_succeeds hrejects
      (r := (Resource.empty k d.key).overlay d)
      (by rw [Resource.key_overlay, Resource.key_empty hplace]; exact hfind)
    rw [hcreate]
    exact ⟨.created, t, rfl⟩

/-! ## Objects that only have to be there -/

/-- A creation that succeeds leaves the store as it is, or nothing was there and the object is there
now. -/
theorem createIfAbsent_left {r : Resource k} {s t : Server} {o : Outcome}
    (h : (createIfAbsent r).run Server.world s = (.ok o, t)) :
    (s.find? k r.key).isSome = true ∧ t = s ∨
      ∃ version uid, t.find? k r.key = some (r.issued version uid) := by
  -- where nothing was, an error can only be a refusal, and the step fails with it
  unfold createIfAbsent at h
  rw [run_get_bind] at h
  cases hfind : s.find? k r.key with
  | some current =>
    rw [hfind] at h
    cases h
    exact Or.inl ⟨rfl, rfl⟩
  | none =>
    simp only [hfind] at h
    rw [run_tryCreate_bind] at h
    cases hcreate : (s.create r).1 with
    | ok created =>
      rw [hcreate] at h
      cases h
      obtain ⟨-, rfl, hplace⟩ := Server.create_ok (Prod.ext hcreate rfl)
      exact Or.inr ⟨_, _, hplace⟩
    | error e =>
      obtain rfl := Server.create_error hfind hcreate
      rw [hcreate] at h
      cases h

/-- After a creation that succeeds, an object is there. -/
theorem createIfAbsent_ok {r : Resource k} {s t : Server} {o : Outcome}
    (h : (createIfAbsent r).run Server.world s = (.ok o, t)) : (t.find? k r.key).isSome = true := by
  rcases createIfAbsent_left h with ⟨hthere, rfl⟩ | ⟨version, uid, hplace⟩
  · exact hthere
  · simp [hplace]

/-- Where an object is, nothing is created. -/
theorem createIfAbsent_present {r : Resource k} {s : Server}
    (h : (s.find? k r.key).isSome = true) :
    (createIfAbsent r).run Server.world s = (.ok .unchanged, s) := by
  obtain ⟨current, hfind⟩ := Option.isSome_iff_exists.1 h
  unfold createIfAbsent
  rw [run_get_bind, hfind]
  rfl

theorem createIfAbsent_succeeds {r : Resource k} {s : Server} (hrejects : s.rejects k = false) :
    ∃ o t, (createIfAbsent r).run Server.world s = (.ok o, t) := by
  unfold createIfAbsent
  rw [run_get_bind]
  cases hfind : s.find? k r.key with
  | some current => exact ⟨.unchanged, s, rfl⟩
  | none =>
    obtain ⟨created, t, hcreate⟩ := Server.create_succeeds hrejects hfind
    show ∃ o t, (StoreProgram.tryCreate r >>= _).run Server.world s = _
    rw [run_tryCreate_bind, hcreate]
    exact ⟨.created, t, rfl⟩

/-! ## Writes of a convergence -/

/-- A call of a convergence reads, or stores what is desired over what is stored or over nothing. -/
inductive IsConvergence (d : Resource k) (c : StoreCall) : Prop
  | reads : c.request.isWrite = false → IsConvergence d c
  | amends (live : Resource k) : c.before.find? k d.key = some live →
      c.request = .update k (live.overlay d) → IsConvergence d c
  | creates : (Resource.empty k d.key).key = d.key →
      c.request = .create k ((Resource.empty k d.key).overlay d) → IsConvergence d c

/-- A call of a convergence that writes nothing where what is desired is settled. -/
structure IsRepair (d : Resource k) (c : StoreCall) : Prop where
  converges : IsConvergence d c
  unsettled : c.request.isWrite = true → ¬ c.before.Settled d

theorem isRepair_of_read {d : Resource k} {c : StoreCall} (h : c.request.isWrite = false) :
    IsRepair d c :=
  ⟨.reads h, fun hwrite => by rw [h] at hwrite; cases hwrite⟩

theorem isRepair_of_get {d : Resource k} {c : StoreCall} {j : Kind} {key : Key}
    (h : c.request = .get j key) : IsRepair d c :=
  isRepair_of_read (by rw [h]; rfl)

theorem isRepair_amend {d current : Resource k} {s t : Server} {calls : List StoreCall}
    {res : Except Failure Outcome} (hcurrent : s.find? k d.key = some current)
    (h : Runs Server.world (amend d.key (fun r => .ok (r.overlay d)) current) s calls res t) :
    ∀ c ∈ calls, IsRepair d c := by
  rw [amend_overlay_eq d (Server.key_of_find? hcurrent)] at h
  split at h
  · rw [(Program.runs_done_iff.1 h).1]
    simp
  · rename_i hdiffers
    obtain ⟨c, rfl, hrequest, rfl⟩ := runs_update_pure h
    have hrepair : IsRepair d c := by
      refine ⟨.amends current hcurrent hrequest, fun _ ⟨r, hr, hsame⟩ => ?_⟩
      rw [hcurrent] at hr
      cases hr
      exact hdiffers hsame
    simpa using hrepair

/-- Whatever fails, a convergence does nothing else. -/
theorem isRepair_convergeTo (d : Resource k) :
    (convergeTo d).EveryCall Server.world (IsRepair d) := by
  intro s calls res t h
  unfold convergeTo converge at h
  obtain ⟨c, rest, rfl, hrequest, -, -, hend⟩ := runs_get_bind h
  refine List.forall_mem_cons.2 ⟨isRepair_of_get hrequest, ?_⟩
  rcases hend with ⟨e, -, rfl, -⟩ | ⟨-, hrest⟩
  · simp
  cases hfind : s.find? k d.key with
  | some current =>
    rw [hfind] at hrest
    exact isRepair_amend hfind hrest
  | none =>
    rw [hfind] at hrest
    dsimp only at hrest
    rw [mutated_overlay_eq] at hrest
    split at hrest
    · rename_i hplace
      obtain ⟨c, rest, a, rfl, hcreate, rfl, -, -, hrest⟩ := runs_tryCreate_bind hrest
      have hmissing : ¬ c.before.Settled d := fun ⟨r, hr, _⟩ => by
        rw [hfind] at hr
        cases hr
      refine List.forall_mem_cons.2 ⟨⟨.creates hplace hcreate, fun _ => hmissing⟩, ?_⟩
      cases a with
      | ok created =>
        rw [(Program.runs_done_iff.1 hrest).1]
        simp
      | error e =>
        cases e with
        | alreadyExists kind text =>
          -- somebody else was faster, so the object is read again
          obtain ⟨again, rest, rfl, hrequest, -, -, hend⟩ := runs_get_bind hrest
          refine List.forall_mem_cons.2 ⟨isRepair_of_get hrequest, ?_⟩
          rcases hend with ⟨e, -, rfl, -⟩ | ⟨-, hrest⟩
          · simp
          cases hagain : c.after.find? k d.key with
          | some current =>
            rw [hagain] at hrest
            exact isRepair_amend hagain hrest
          | none =>
            rw [hagain] at hrest
            rw [(Program.runs_done_iff.1 hrest).1]
            simp
        | _ =>
          rw [(Program.runs_done_iff.1 hrest).1]
          simp
    · rw [(Program.runs_done_iff.1 hrest).1]
      simp

theorem isConvergence_convergeTo (d : Resource k) :
    (convergeTo d).EveryCall Server.world (IsConvergence d) :=
  fun s calls res t h c hc => (isRepair_convergeTo d s calls res t h c hc).converges

/-! ## Convergences that succeed although calls failed -/

/-- An update that fails ends the amendment. -/
theorem run_amend_of_runs {d current : Resource k} {s t : Server} {calls : List StoreCall}
    {o : Outcome} (hcurrent : s.find? k d.key = some current)
    (h : Runs Server.world (amend d.key (fun r => .ok (r.overlay d)) current) s calls (.ok o) t) :
    (amend d.key (fun r => .ok (r.overlay d)) current).run Server.world s = (.ok o, t) := by
  rw [amend_overlay_eq d (Server.key_of_find? hcurrent)] at h ⊢
  split at h
  · rename_i hsame
    obtain ⟨-, hres, rfl⟩ := Program.runs_done_iff.1 h
    rw [if_pos hsame, hres]
    rfl
  · rename_i hdiffers
    obtain ⟨c, rest, -, -, -, -, ⟨e, hfail, -⟩ | ⟨stored, hupdate, -, hrest⟩⟩ := runs_update_bind h
    · cases hfail
    · obtain ⟨-, hres, rfl⟩ := Program.runs_done_iff.1 hrest
      rw [if_neg hdiffers, hres]
      exact Program.run_bind_of_ok hupdate

theorem settled_of_amend {d current : Resource k} {s t : Server} {calls : List StoreCall}
    {o : Outcome} (hports : Resource.HasUniquePorts k d.content)
    (hcurrent : s.find? k d.key = some current) (hheld : Server.isReleased current = false)
    (h : Runs Server.world (amend d.key (fun r => .ok (r.overlay d)) current) s calls (.ok o) t) :
    t.Settled d := by
  rcases amend_left hcurrent (run_amend_of_runs hcurrent h) with hover | ⟨-, hreleased⟩
  · exact hover.settled hports
  · rw [hheld] at hreleased
    cases hreleased

/-- A fresh object is not being deleted. -/
theorem isReleased_overlay_empty (d : Resource k) (key : Key) (version uid : Option String) :
    Server.isReleased (((Resource.empty k key).overlay d).issued version uid) = false := by
  have hfresh : (Resource.empty k key).metadata.deletionTimestamp = none := by
    unfold Resource.empty
    split <;> rfl
  have hunmarked :
      (((Resource.empty k key).overlay d).issued version uid).metadata.isBeingDeleted = false :=
    congrArg Option.isSome ((deletionTimestamp_overlay _ d).trans hfresh)
  simp [Server.isReleased, hunmarked]

/-- A convergence that succeeds settles its object, also if a call failed: then the creation was
answered late. -/
theorem settled_of_runs {d : Resource k} {s t : Server} {calls : List StoreCall} {o : Outcome}
    (hports : Resource.HasUniquePorts k d.content)
    (hheld : ∀ r, s.find? k d.key = some r → Server.isReleased r = false)
    (h : Runs Server.world (convergeTo d) s calls (.ok o) t) : t.Settled d := by
  unfold convergeTo converge at h
  obtain ⟨c, rest, rfl, -, -, -, ⟨e, hfail, -⟩ | ⟨-, hrest⟩⟩ := runs_get_bind h
  · cases hfail
  cases hfind : s.find? k d.key with
  | some current =>
    rw [hfind] at hrest
    exact settled_of_amend hports hfind (hheld current hfind) hrest
  | none =>
    rw [hfind] at hrest
    cases hmutated : mutated d.key (fun current => .ok (current.overlay d)) (.empty k d.key) with
    | error e =>
      simp only [hmutated] at hrest
      cases (Program.runs_done_iff.1 hrest).2.1
    | ok fresh =>
      obtain ⟨rfl, hkey⟩ := mutated_empty_ok hmutated
      simp only [hmutated] at hrest
      obtain ⟨c, rest, a, rfl, hrequest, rfl, hserved, hcreated, hrest⟩ := runs_tryCreate_bind hrest
      cases a with
      | ok stored =>
        obtain ⟨-, -, rfl⟩ := Program.runs_done_iff.1 hrest
        obtain ⟨-, rfl, hplace⟩ := Server.create_ok (hcreated stored rfl)
        rw [hkey] at hplace
        exact ⟨_, hplace, sameAs_overlay_issued hports _ _⟩
      | error e =>
        cases e with
        | alreadyExists kind text =>
          obtain ⟨again, rest, rfl, -, -, -, ⟨e, hfail, -⟩ | ⟨-, hrest⟩⟩ := runs_get_bind hrest
          · cases hfail
          cases hagain : c.after.find? k d.key with
          | none =>
            rw [hagain] at hrest
            cases (Program.runs_done_iff.1 hrest).2.1
          | some current =>
            rw [← hkey] at hfind hagain
            obtain ⟨version, uid, rfl⟩ := StoreCall.issued_of_create hserved hrequest hfind hagain
            rw [hkey] at hagain
            rw [hagain] at hrest
            exact settled_of_amend hports hagain
              (isReleased_overlay_empty d d.key version uid) hrest
        | _ => cases (Program.runs_done_iff.1 hrest).2.1

/-- A write of a convergence stores what is desired over what is stored, or over nothing. -/
def IsOverlayWith (d : Resource k) (c : StoreCall) : Prop :=
  c.request.isWrite = true → ∃ live : Resource k,
    (c.before.find? k d.key = some live ∨ live = .empty k d.key) ∧
      (c.request = .update k (live.overlay d) ∨ c.request = .create k (live.overlay d))

/-- Whatever fails, a convergence writes nothing but overlays. -/
theorem isOverlayWith_convergeTo (d : Resource k) :
    (convergeTo d).EveryCall Server.world (IsOverlayWith d) := by
  intro s calls res t h c hc hwrite
  cases isConvergence_convergeTo d s calls res t h c hc with
  | reads hread =>
    rw [hread] at hwrite
    cases hwrite
  | amends live hlive hrequest => exact ⟨live, Or.inl hlive, Or.inl hrequest⟩
  | creates _ hrequest => exact ⟨.empty k d.key, Or.inr rfl, Or.inr hrequest⟩

end GatewayOperator
