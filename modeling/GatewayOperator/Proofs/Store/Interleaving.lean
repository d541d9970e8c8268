import GatewayOperator.Proofs.Store.Effect
import GatewayOperator.Proofs.Store.Version
import Mathlib.Logic.Function.Basic

/-!
# Many programs on one store

Programs of several clients ask one store in turn, in any order. A `Moment` is where they have come
to, and `Moment.turn` is one request of one of them. `Alone` is what the same calls would do one
after the other, each of them at once: those that succeed run from their first request to their
last, those that fail do nothing.

`Linearizes` is the condition under which both are the same (`Moment.alone_of_follow`): where what
is left of a program succeeds at its next request, the whole program would do the same from the
store as it is then. Programs that read an object and write it back satisfy it, because a server
gives no version twice (`linearizes_update_pure`).
-/

namespace GatewayOperator

variable {α β ι : Type} {k : Kind}

/-! ## Programs that take effect at their last request -/

namespace StoreProgram

/-- From a store on, the last request of what is left decides: if the program succeeds with it, the
whole program would do the same then. -/
def Linearizes (whole : StoreProgram α) : StoreProgram α → Server → Prop
  | .done _, _ => True
  | .call q next, s => ∀ t, s.Precedes t →
      (∀ x, next (Server.world q t).1 = .done (.ok x) →
        whole.run Server.world t = (.ok x, (Server.world q t).2)) ∧
      Linearizes whole (next (Server.world q t).1) t

variable {whole : StoreProgram α} {s : Server}

theorem Linearizes.later {p : StoreProgram α} {t : Server} (h : whole.Linearizes p s)
    (ht : s.Precedes t) : whole.Linearizes p t := by
  cases p with
  | done r => trivial
  | call q next => exact fun u hu => h u (ht.trans hu)

/-- What is done with the result makes no difference. -/
theorem Linearizes.map {p : StoreProgram α} (h : whole.Linearizes p s) (f : α → β) :
    Linearizes (whole.bind fun a => pure (f a)) (p.bind fun a => pure (f a)) s := by
  induction p generalizing s with
  | done r => cases r <;> trivial
  | call q next ih =>
    intro t ht
    obtain ⟨hlast, hrest⟩ := h t ht
    refine ⟨fun y hy => ?_, ih _ hrest⟩
    change (next (Server.world q t).1).bind _ = _ at hy
    -- the result is given only where the program itself succeeds
    generalize next (Server.world q t).1 = p at hy hlast
    cases p with
    | call q' next' => cases hy
    | done r =>
      cases r with
      | error e => cases hy
      | ok x =>
        cases hy
        rw [Program.run_bind_of_ok (hlast x rfl)]
        rfl

/-- A program that goes on with what it reads. -/
theorem linearizes_get_bind {key : Key} {f : Option (Resource k) → StoreProgram α}
    (hlast : ∀ t, s.Precedes t → ∀ x, f (t.find? k key) = .done (.ok x) →
      whole.run Server.world t = (.ok x, t))
    (hrest : ∀ t, s.Precedes t → whole.Linearizes (f (t.find? k key)) t) :
    whole.Linearizes (StoreProgram.get k key >>= f) s :=
  fun t ht => ⟨hlast t ht, hrest t ht⟩

/-- A program that goes on after a creation. -/
theorem linearizes_tryCreate_bind {r : Resource k}
    {f : Except Failure (Resource k) → StoreProgram α}
    (hlast : ∀ t, s.Precedes t → ∀ x, f (t.create r).1 = .done (.ok x) →
      whole.run Server.world t = (.ok x, (t.create r).2))
    (hrest : ∀ t, s.Precedes t → whole.Linearizes (f (t.create r).1) t) :
    whole.Linearizes (StoreProgram.tryCreate r >>= f) s :=
  fun t ht => ⟨hlast t ht, hrest t ht⟩

/-- A program whose only request is its last. -/
theorem linearizes_ask_pure {q : StoreRequest} {x : α}
    (h : ∀ t, s.Precedes t → ∀ a, (Server.world q t).1 = .ok a →
      whole.run Server.world t = (.ok x, (Server.world q t).2)) :
    whole.Linearizes (Program.ask (I := storeInterface) q >>= fun _ => pure x) s := by
  intro t ht
  refine ⟨fun y hy => ?_, ?_⟩
  · change (Program.done (Server.world q t).1).bind (fun _ => pure x) = _ at hy
    cases hanswer : (Server.world q t).1 with
    | error e =>
      rw [hanswer] at hy
      cases hy
    | ok a =>
      rw [hanswer] at hy
      cases hy
      exact h t ht a hanswer
  · change whole.Linearizes ((Program.done (Server.world q t).1).bind fun _ => pure x) t
    cases (Server.world q t).1 <;> trivial

/-- A program that writes back what it has read: where the update is accepted, the object is still
the one that was read. -/
theorem linearizes_update_pure {r current : Resource k} {key : Key} {x : α} (hs : s.IsNumbered)
    (hcurrent : s.find? k key = some current) (hkey : r.key = key)
    (hversion : r.metadata.resourceVersion = current.metadata.resourceVersion)
    (hwhole : ∀ t, t.find? k key = some current →
      whole.run Server.world t = (StoreProgram.update r >>= fun _ => pure x).run Server.world t) :
    whole.Linearizes (StoreProgram.update r >>= fun _ => pure x) s := by
  refine linearizes_ask_pure fun t ht r' hanswer => ?_
  rw [Server.world_update] at hanswer ⊢
  have hupdate : t.update r = (.ok r', (t.update r).2) := Prod.ext hanswer rfl
  -- an accepted update carries the version of the stored object, and that version was given to one
  -- object only
  obtain ⟨n, -, hnumber⟩ := hs k key current hcurrent
  obtain ⟨stored, hstored, hsame⟩ := Server.version_of_update_ok (hversion.trans hnumber) hupdate
  rw [hkey] at hstored
  obtain rfl := hs.eq_of_version ht hcurrent hstored (hsame.trans hversion)
  rw [hwhole t hstored]
  exact Program.run_bind_of_ok hupdate

/-- Programs that take effect at their last request, whatever others do. -/
structure IsAtomic (p : StoreProgram α) : Prop where
  writesLast : p.WritesLast
  linearizes : ∀ s : Server, s.IsNumbered → p.Linearizes p s

theorem IsAtomic.map {p : StoreProgram α} (h : p.IsAtomic) (f : α → β) :
    IsAtomic (p.bind fun a => pure (f a)) :=
  ⟨h.writesLast.map f, fun s hs => (h.linearizes s hs).map f⟩

end StoreProgram

/-! ## Programs in turn -/

/-- A moment of programs that share a store: the store, what is left of each program, and which of
them have returned what so far. -/
structure Moment (ι α : Type) where
  store : Server
  left : ι → StoreProgram α
  returned : List (ι × Except Failure α)

namespace Moment

/-- The moment before the first request. -/
def start (programs : ι → StoreProgram α) (s : Server) : Moment ι α := ⟨s, programs, []⟩

/-- What a program returns, if nothing is left of it. -/
def results (i : ι) : StoreProgram α → List (ι × Except Failure α)
  | .done r => [(i, r)]
  | .call _ _ => []

variable [DecidableEq ι]

/-- The turn of one program: it asks its next request, and goes on or returns. -/
def turn (m : Moment ι α) (i : ι) : Moment ι α :=
  match m.left i with
  | .done _ => m
  | .call q next =>
    let rest := next (Server.world q m.store).1
    { store := (Server.world q m.store).2
      left := Function.update m.left i rest
      returned := m.returned ++ results i rest }

/-- Turns in any order. -/
def follow (m : Moment ι α) (schedule : List ι) : Moment ι α := schedule.foldl turn m

@[simp] theorem follow_nil (m : Moment ι α) : m.follow [] = m := rfl

@[simp] theorem follow_cons (m : Moment ι α) (i : ι) (schedule : List ι) :
    m.follow (i :: schedule) = (m.turn i).follow schedule := rfl

end Moment

/-- Calls that are made one after the other, each of them at once: those that succeed do what they
do alone, those that fail do nothing. -/
inductive Alone (programs : ι → StoreProgram α) (s : Server) :
    List (ι × Except Failure α) → Server → Prop where
  | start : Alone programs s [] s
  | succeeded (calls : List (ι × Except Failure α)) (i : ι) (x : α) (t u : Server) :
      Alone programs s calls t → (programs i).run Server.world t = (.ok x, u) →
      Alone programs s (calls ++ [(i, .ok x)]) u
  | failed (calls : List (ι × Except Failure α)) (i : ι) (e : Failure) (t : Server) :
      Alone programs s calls t → Alone programs s (calls ++ [(i, .error e)]) t

namespace Moment

/-- What holds at every moment of atomic programs. -/
structure IsCoherent (programs : ι → StoreProgram α) (m : Moment ι α) : Prop where
  numbered : m.store.IsNumbered
  left : ∀ i, (m.left i).WritesLast ∧ (programs i).Linearizes (m.left i) m.store

/-- What the turn of a program is, seen from the calls that return. -/
inductive Effect (programs : ι → StoreProgram α) (m : Moment ι α) (i : ι) : Moment ι α → Prop where
  | none (left : ι → StoreProgram α) : Effect programs m i ⟨m.store, left, m.returned⟩
  | failed (left : ι → StoreProgram α) (e : Failure) :
      Effect programs m i ⟨m.store, left, m.returned ++ [(i, .error e)]⟩
  | succeeded (t : Server) (left : ι → StoreProgram α) (x : α) :
      (programs i).run Server.world m.store = (.ok x, t) →
      Effect programs m i ⟨t, left, m.returned ++ [(i, .ok x)]⟩

variable {programs : ι → StoreProgram α} {s : Server} {m : Moment ι α}

theorem isCoherent_start (h : ∀ i, (programs i).IsAtomic) (hs : s.IsNumbered) :
    (start programs s).IsCoherent programs :=
  ⟨hs, fun i => ⟨(h i).writesLast, (h i).linearizes s hs⟩⟩

variable [DecidableEq ι]

/-- A request of one program leaves the moment coherent. -/
theorem IsCoherent.request (hm : m.IsCoherent programs) {i : ι} {q : StoreRequest}
    {next : Except Failure q.Answer → StoreProgram α} (hleft : m.left i = .call q next)
    (returned : List (ι × Except Failure α)) :
    IsCoherent programs ⟨(Server.world q m.store).2,
      Function.update m.left i (next (Server.world q m.store).1), returned⟩ := by
  have hlater : m.store.Precedes (Server.world q m.store).2 := Server.precedes_world q m.store
  refine ⟨hm.numbered.of_precedes hlater, fun j => ?_⟩
  dsimp only
  by_cases hj : j = i
  · subst hj
    obtain ⟨hwrites, hlinear⟩ := hm.left j
    rw [hleft] at hwrites hlinear
    rw [Function.update_self]
    exact ⟨hwrites.2 _, (hlinear _ (.refl _)).2.later hlater⟩
  · rw [Function.update_of_ne hj]
    exact ⟨(hm.left j).1, (hm.left j).2.later hlater⟩

/-- A turn has an effect only if a call returns with it and succeeds, and then it is that of the
whole call. -/
theorem IsCoherent.turn (hm : m.IsCoherent programs) (i : ι) :
    (m.turn i).IsCoherent programs ∧ m.Effect programs i (m.turn i) := by
  unfold Moment.turn
  cases hleft : m.left i with
  | done r => exact ⟨hm, .none m.left⟩
  | call q next =>
    refine ⟨hm.request hleft _, ?_⟩
    obtain ⟨hwrites, hlinear⟩ := hm.left i
    rw [hleft] at hwrites hlinear
    -- a request that does not let the call succeed was no write, or was refused
    have hsame (h : ∀ x, next (Server.world q m.store).1 ≠ .done (.ok x)) :
        (Server.world q m.store).2 = m.store := by
      rcases hwrites.world m.store with ⟨x, hx⟩ | hsame
      · exact absurd hx (h x)
      · exact hsame
    dsimp only
    cases hnext : next (Server.world q m.store).1 with
    | call q' next' =>
      rw [hsame (by simp [hnext]), results, List.append_nil]
      exact .none _
    | done r =>
      cases r with
      | error e =>
        rw [hsame (by simp [hnext])]
        exact .failed _ e
      | ok x => exact .succeeded _ _ x ((hlinear _ (.refl _)).1 x hnext)

theorem IsCoherent.follow (hm : m.IsCoherent programs) (schedule : List ι) :
    (m.follow schedule).IsCoherent programs := by
  induction schedule generalizing m with
  | nil => exact hm
  | cons i schedule ih => exact ih (hm.turn i).1

/-- What was done alone so far goes on so. -/
theorem IsCoherent.alone (hm : m.IsCoherent programs) (h : Alone programs s m.returned m.store)
    (schedule : List ι) :
    Alone programs s (m.follow schedule).returned (m.follow schedule).store := by
  induction schedule generalizing m with
  | nil => exact h
  | cons i schedule ih =>
    obtain ⟨hnext, heffect⟩ := hm.turn i
    refine ih hnext ?_
    generalize m.turn i = m' at heffect
    cases heffect with
    | none left => exact h
    | failed left e => exact .failed _ i e _ h
    | succeeded t left x hrun => exact .succeeded _ i x _ t h hrun

/-- Whatever the order of their requests, atomic programs do what they do one after the other, in
the order of their last requests. -/
theorem alone_of_follow (hprograms : ∀ i, (programs i).IsAtomic) (hs : s.IsNumbered)
    (schedule : List ι) :
    Alone programs s ((start programs s).follow schedule).returned
      ((start programs s).follow schedule).store :=
  (isCoherent_start hprograms hs).alone .start schedule

end Moment

end GatewayOperator
