import GatewayOperator.Proofs.Store.Call

/-!
# What a failed program has done

Two conditions on store programs, both checked along the program, whatever is answered:

* `WritesLast`: a program is done once it has written. When such a program fails it has done nothing
  (`WritesLast.run_error`).
* `HeedsRefusals`: a program fails when one of its writes is refused. When such a program succeeds
  on a server that refuses some kinds, it does the same on one that refuses nothing
  (`HeedsRefusals.run_ok`).
-/

namespace GatewayOperator


variable {α β : Type} {k : Kind}

/-! ## Programs that write last -/

namespace StoreProgram

/-- A program that is done as soon as a write of it has succeeded. -/
def WritesLast : StoreProgram α → Prop
  | .done _ => True
  | .call q next =>
    (q.isWrite = true → ∀ a, ∃ x, next (.ok a) = .done (.ok x)) ∧ ∀ a, WritesLast (next a)

/-- After a request of such a program, the program has succeeded or the store is as it was. -/
theorem WritesLast.world {q : StoreRequest}
    {next : Except Failure (StoreRequest.Answer q) → StoreProgram α}
    (h : WritesLast (.call q next)) (s : Server) :
    (∃ x, next (Server.world q s).1 = .done (.ok x)) ∨ (Server.world q s).2 = s := by
  cases hanswer : (Server.world q s).1 with
  | error e => exact Or.inr (Server.world_refused hanswer)
  | ok a =>
    cases hwrite : q.isWrite with
    | true => exact Or.inl (h.1 hwrite a)
    | false =>
      right
      cases q <;> first | rfl | cases hwrite

/-- Such a program has done nothing when it fails. -/
theorem WritesLast.run_error {p : StoreProgram α} (h : p.WritesLast) {s t : Server} {e : Failure}
    (hrun : p.run Server.world s = (.error e, t)) : t = s := by
  induction p generalizing s with
  | done r =>
    cases hrun
    rfl
  | call q next ih =>
    rw [Program.run_call] at hrun
    rcases h.world s with ⟨x, hx⟩ | hsame
    · rw [hx] at hrun
      cases hrun
    · rw [hsame] at hrun
      exact ih _ (h.2 _) hrun

/-- What is done with the result changes nothing. -/
theorem WritesLast.map {p : StoreProgram α} (h : p.WritesLast) (f : α → β) :
    WritesLast (p.bind fun a => pure (f a)) := by
  induction p with
  | done r => cases r <;> trivial
  | call q next ih =>
    refine ⟨fun hwrite a => ?_, fun a => ih a (h.2 a)⟩
    obtain ⟨x, hx⟩ := h.1 hwrite a
    refine ⟨f x, ?_⟩
    show (next (.ok a)).bind _ = _
    rw [hx]
    rfl

theorem writesLast_get_bind {key : Key} {f : Option (Resource k) → StoreProgram α}
    (h : ∀ found, (f found).WritesLast) : WritesLast (StoreProgram.get k key >>= f) := by
  constructor
  · intro hwrite
    cases hwrite
  · intro a
    cases a with
    | error e => trivial
    | ok found => exact h found

theorem writesLast_update (r : Resource k) : (StoreProgram.update r).WritesLast :=
  ⟨fun _ a => ⟨a, rfl⟩, fun _ => trivial⟩

theorem writesLast_updateStatus (r : Resource k) : (StoreProgram.updateStatus r).WritesLast :=
  ⟨fun _ a => ⟨a, rfl⟩, fun _ => trivial⟩

theorem writesLast_delete (key : Key) : (StoreProgram.delete k key).WritesLast :=
  ⟨fun _ a => ⟨a, rfl⟩, fun _ => trivial⟩

/-- A creation whose failure is looked at, as long as it is not followed by another write. -/
theorem writesLast_tryCreate_bind {r : Resource k}
    {f : Except Failure (Resource k) → StoreProgram α}
    (hok : ∀ stored, ∃ x, f (.ok stored) = .done (.ok x))
    (herror : ∀ e, (f (.error e)).WritesLast) :
    WritesLast (StoreProgram.tryCreate r >>= f) := by
  refine ⟨fun _ stored => hok stored, fun a => ?_⟩
  cases a with
  | error e => exact herror e
  | ok stored =>
    obtain ⟨x, hx⟩ := hok stored
    show (f (.ok stored)).WritesLast
    rw [hx]
    trivial

/-! ## Programs that heed refusals -/

/-- A program that fails when the server refuses a kind of objects that it writes. -/
def HeedsRefusals : StoreProgram α → Prop
  | .done _ => True
  | .call _ next =>
    (∀ k, ∃ e, next (.error (Server.writesRejected k)) = .done (.error e)) ∧
      ∀ a, HeedsRefusals (next a)

theorem HeedsRefusals.bind {p : StoreProgram α} {f : α → StoreProgram β} (hp : p.HeedsRefusals)
    (hf : ∀ a, (f a).HeedsRefusals) : HeedsRefusals (p.bind f) := by
  induction p with
  | done r =>
    cases r with
    | ok a => exact hf a
    | error e => trivial
  | call q next ih =>
    refine ⟨fun k => ?_, fun a => ih a (hp.2 a)⟩
    obtain ⟨e, he⟩ := hp.1 k
    refine ⟨e, ?_⟩
    show (next _).bind _ = _
    rw [he]
    rfl

/-- A request whose failure ends the program. -/
theorem heedsRefusals_ask (q : StoreRequest) :
    HeedsRefusals (Program.ask (I := storeInterface) q) :=
  ⟨fun k => ⟨Server.writesRejected k, rfl⟩, fun _ => trivial⟩

/-- A creation whose failure is looked at, as long as refusals end the program. -/
theorem heedsRefusals_tryCreate_bind {r : Resource k}
    {f : Except Failure (Resource k) → StoreProgram α}
    (hrefused : ∀ k, ∃ e, f (.error (Server.writesRejected k)) = .done (.error e))
    (h : ∀ a, (f a).HeedsRefusals) : HeedsRefusals (StoreProgram.tryCreate r >>= f) := by
  exact ⟨hrefused, h⟩

end StoreProgram

/-! ## Servers that refuse kinds -/

namespace Server

/-- The server with other kinds refused. -/
def rejecting (s : Server) (kinds : List String) : Server := { s with rejected := kinds }

@[simp] theorem find?_rejecting (s : Server) (kinds : List String) (k : Kind) (key : Key) :
    (s.rejecting kinds).find? k key = s.find? k key := rfl

@[simp] theorem rejecting_rejecting (s : Server) (kinds others : List String) :
    (s.rejecting kinds).rejecting others = s.rejecting others := rfl

theorem rejecting_eq_self {s : Server} {kinds : List String} (h : s.rejected = kinds) :
    s.rejecting kinds = s := by
  subst h
  rfl

/-- A request is refused and changes nothing, or does what it does on a server that refuses
nothing. -/
theorem world_rejecting (q : StoreRequest) (s : Server) (kinds : List String) :
    world q (s.rejecting kinds) = (.error (writesRejected q.kind), s.rejecting kinds) ∨
      world q (s.rejecting kinds) =
        ((world q (s.rejecting [])).1, (world q (s.rejecting [])).2.rejecting kinds) := by
  -- only creations and updates look at what is refused
  have haccepts (k : Kind) : (s.rejecting []).rejects k = false := rfl
  cases q with
  | get k key => exact Or.inr rfl
  | create k r =>
    rw [world_create, world_create]
    cases hrejects : (s.rejecting kinds).rejects k with
    | true =>
      left
      unfold create
      rw [hrejects]
      rfl
    | false =>
      right
      unfold create
      rw [hrejects, haccepts, find?_rejecting, find?_rejecting]
      simp only [Bool.false_eq_true, if_false]
      split <;> rfl
  | update k r =>
    rw [world_update, world_update]
    cases hrejects : (s.rejecting kinds).rejects k with
    | true =>
      left
      unfold update
      rw [hrejects]
      rfl
    | false =>
      right
      unfold update
      rw [hrejects, haccepts, find?_rejecting, find?_rejecting]
      simp only [Bool.false_eq_true, if_false]
      split
      · rfl
      split
      · rfl
      · split <;> rfl
  | updateStatus k r =>
    right
    rw [world_updateStatus, world_updateStatus]
    unfold updateStatus
    rw [find?_rejecting, find?_rejecting]
    split
    · rfl
    · split <;> rfl
  | delete k key =>
    right
    rw [world_delete, world_delete]
    unfold delete
    rw [find?_rejecting, find?_rejecting]
    split
    · rfl
    · dsimp only
      split <;> rfl

end Server

open StoreProgram

/-- Where such a program succeeds on a server that refuses kinds, it does the same where nothing is
refused. -/
theorem StoreProgram.HeedsRefusals.run_ok {p : StoreProgram α} (h : p.HeedsRefusals) {s t : Server}
    {kinds : List String} {a : α} (hrun : p.run Server.world (s.rejecting kinds) = (.ok a, t)) :
    p.run Server.world (s.rejecting []) = (.ok a, t.rejecting []) := by
  induction p generalizing s with
  | done r =>
    cases hrun
    rfl
  | call q next ih =>
    rw [Program.run_call] at hrun ⊢
    rcases Server.world_rejecting q s kinds with hrefused | hserved
    · obtain ⟨e, he⟩ := h.1 q.kind
      rw [hrefused] at hrun
      dsimp only at hrun
      rw [he] at hrun
      cases hrun
    · rw [hserved] at hrun
      have hrest := ih _ (h.2 _) hrun
      have hrejected : (Server.world q (s.rejecting [])).2.rejected = [] :=
        Server.rejected_world q (s.rejecting [])
      rwa [Server.rejecting_eq_self hrejected] at hrest

end GatewayOperator
