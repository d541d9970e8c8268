import GatewayOperator.Proofs.Program
import GatewayOperator.Proofs.Store.Server

/-!
# Calls to a server

Runs of programs on a server whose calls may fail. A call that is answered does what `Server.world`
says, a call that fails did that or nothing; either way no place changes but the one that was asked
about (`find?_of_isServed`). `runs_get_bind`, `runs_update_bind` and `runs_updateStatus_bind` take
the first call off a run.
-/

namespace GatewayOperator

open Program (Runs Call)

variable {k : Kind}

/-! ## Requests -/

namespace StoreRequest

/-- A request about one place. -/
def isAbout (k : Kind) (key : Key) (q : StoreRequest) : Prop := q.kind = k ∧ q.key = key

/-- Whether a request may change the store. -/
def isWrite : StoreRequest → Bool
  | .get _ _ => false
  | .create _ _ | .update _ _ | .updateStatus _ _ | .delete _ _ => true

theorem eq_of_update {r r' : Resource k} (h : update k r = update k r') : r = r' := by
  injection h

end StoreRequest

/-! ## Calls -/

/-- A call to a server. -/
abbrev StoreCall := Call storeInterface Server

namespace StoreCall

/-- Whether a call was answered and not refused. -/
def Succeeded (c : StoreCall) : Prop := ∃ a, c.answer = .ok a

/-- A call leaves every other place as it is. -/
theorem find?_of_isServed {c : StoreCall} (h : c.IsServed Server.world) {j : Kind} {other : Key}
    (hplace : ¬ StoreRequest.isAbout j other c.request) :
    c.after.find? j other = c.before.find? j other := by
  have hframe : (Server.world c.request c.before).2.find? j other = c.before.find? j other :=
    Server.find?_world c.request c.before fun hp => hplace ⟨hp.1.symm, hp.2.symm⟩
  rcases h with heq | ⟨e, -, heq | heq⟩
  · rw [← heq] at hframe
    exact hframe
  -- a call that failed did nothing, or what it would have done
  · rw [heq]
  · rw [heq, hframe]

/-- A creation leaves an object that is there as it is. -/
theorem find?_of_create {c : StoreCall} (h : c.IsServed Server.world) {k : Kind}
    {r written : Resource k}
    {key : Key} (hrequest : c.request = .create k written) (hr : c.before.find? k key = some r) :
    c.after.find? k key = some r := by
  obtain ⟨q, a, s, t⟩ := c
  obtain rfl : q = .create k written := hrequest
  by_cases hkey : written.key = key
  · have hrefused : (Server.world (.create k written) s).2 = s := by
      show (s.create written).2 = s
      have hfound : (s.find? k written.key).isSome = true := by
        rw [hkey]
        exact hr ▸ rfl
      unfold Server.create
      rw [if_pos hfound]
      split <;> rfl
    have hsame : t = s := by
      rcases h with heq | ⟨e, -, heq | heq⟩
      · exact (Prod.mk.inj heq).2.trans hrefused
      · exact heq
      · exact heq.trans hrefused
    exact hsame ▸ hr
  · exact (find?_of_isServed h fun habout => hkey habout.2).trans hr

/-- A call that only reads leaves the store as it is. -/
theorem after_of_read {c : StoreCall} (h : c.IsServed Server.world)
    (hread : c.request.isWrite = false) : c.after = c.before := by
  have hworld : (Server.world c.request c.before).2 = c.before := by
    obtain ⟨q, a, s, t⟩ := c
    cases q with
    | get k key => rfl
    | create | update | updateStatus | delete => cases hread
  rcases h with heq | ⟨e, -, heq | heq⟩
  · exact (Prod.mk.inj heq).2.trans hworld
  · exact heq
  · exact heq.trans hworld

/-- What a call may leave at a place, also if it fails. -/
theorem leaves_of_isServed {c : StoreCall} (h : c.IsServed Server.world) (j : Kind) (key : Key) :
    Server.Leaves c.before c.request j key (c.after.find? j key) := by
  rcases h with heq | ⟨e, -, heq | heq⟩
  · have hafter : (Server.world c.request c.before).2 = c.after := (Prod.mk.inj heq).2.symm
    rw [← hafter]
    exact Server.leaves_world c.before c.request j key
  · rw [heq]
    exact .same
  · rw [heq]
    exact Server.leaves_world c.before c.request j key

/-- What is there after a creation, and was not there before, was created. -/
theorem issued_of_create {c : StoreCall} (h : c.IsServed Server.world) {r x : Resource k}
    (hrequest : c.request = .create k r) (hnone : c.before.find? k r.key = none)
    (hx : c.after.find? k r.key = some x) : ∃ version uid, x = r.issued version uid := by
  have hleaves := leaves_of_isServed h k r.key
  rw [hrequest, hx] at hleaves
  generalize hfound : some x = found at hleaves
  cases hleaves with
  | same =>
    rw [hnone] at hfound
    cases hfound
  | created r' version uid hcreate =>
    cases hcreate
    exact ⟨version, uid, Option.some.inj hfound⟩
  | released | deleted => cases hfound
  | updated r' stored version hupdate => cases hupdate
  | reported r' stored version hstatus => cases hstatus
  | marked stored version clock hdelete => cases hdelete

end StoreCall

/-- Runs that ask about other places only leave a place as it is. -/
theorem find?_runs {α : Type} {p : StoreProgram α} {s t : Server} {calls : List StoreCall}
    {r : Except Failure α} (h : Runs Server.world p s calls r t) {j : Kind} {other : Key}
    (hplace : ∀ c ∈ calls, ¬ StoreRequest.isAbout j other c.request) :
    (∀ c ∈ calls, c.before.find? j other = s.find? j other) ∧
      t.find? j other = s.find? j other :=
  h.keeps (fun u => u.find? j other = s.find? j other) rfl fun c hc hserved hbefore =>
    (StoreCall.find?_of_isServed hserved (hplace c hc)).trans hbefore

/-- Runs of a program about one place leave every other place as it is. -/
theorem find?_runs_of_about {α : Type} {k : Kind} {key : Key} {p : StoreProgram α} {s t : Server}
    {calls : List StoreCall} {r : Except Failure α} (hp : p.Asks (StoreRequest.isAbout k key))
    (h : Runs Server.world p s calls r t) {j : Kind} {other : Key}
    (hplace : ¬ (j = k ∧ other = key)) :
    t.find? j other = s.find? j other := by
  refine (find?_runs h fun c hc habout => ?_).2
  obtain ⟨hkind, hkey⟩ := h.asks hp c hc
  exact hplace ⟨habout.1.symm.trans hkind, habout.2.symm.trans hkey⟩

/-! ## The first call of a run -/

section First

variable {β : Type} {s t : Server} {calls : List StoreCall} {res : Except Failure β}

/-- A run that starts with a read fails there or goes on with what is stored. -/
theorem runs_get_bind {key : Key} {f : Option (Resource k) → StoreProgram β}
    (h : Runs Server.world (StoreProgram.get k key >>= f) s calls res t) :
    ∃ (c : StoreCall) (rest : List StoreCall), calls = c :: rest ∧ c.request = .get k key ∧
      c.before = s ∧ c.after = s ∧
      ((∃ e, res = .error e ∧ rest = [] ∧ t = s) ∨
        c.Succeeded ∧ Runs Server.world (f (s.find? k key)) s rest res t) := by
  cases h with
  | @call q next a s s' t rest res hserved hrest =>
    -- also a read that fails leaves the store as it is
    have hafter : s' = s := by
      rcases hserved with heq | ⟨e, -, heq | heq⟩
      · exact (Prod.mk.inj heq).2
      · exact heq
      · exact heq
    subst hafter
    refine ⟨_, rest, rfl, rfl, rfl, rfl, ?_⟩
    cases a with
    | error e =>
      obtain ⟨rfl, rfl, rfl⟩ := Program.runs_done_iff.1 hrest
      exact Or.inl ⟨e, rfl, rfl, rfl⟩
    | ok found =>
      obtain rfl : s'.find? k key = found :=
        Except.ok.inj (Prod.mk.inj (hserved.of_ok rfl)).1
      exact Or.inr ⟨⟨_, rfl⟩, hrest⟩

/-- A run that starts with a creation goes on whatever comes of it. -/
theorem runs_tryCreate_bind {r : Resource k} {f : Except Failure (Resource k) → StoreProgram β}
    (h : Runs Server.world (StoreProgram.tryCreate r >>= f) s calls res t) :
    ∃ (c : StoreCall) (rest : List StoreCall) (a : Except Failure (Resource k)), calls = c :: rest ∧
      c.request = .create k r ∧ c.before = s ∧ c.IsServed Server.world ∧
      (∀ stored, a = .ok stored → s.create r = (.ok stored, c.after)) ∧
      Runs Server.world (f a) c.after rest res t := by
  cases h with
  | @call q next a s s' t rest res hserved hrest =>
    exact ⟨_, rest, a, rfl, rfl, rfl, hserved, fun stored ha => hserved.of_ok ha, hrest⟩

/-- A run that starts with an update fails there or goes on with what was stored. -/
theorem runs_update_bind {r : Resource k} {f : Resource k → StoreProgram β}
    (h : Runs Server.world (StoreProgram.update r >>= f) s calls res t) :
    ∃ (c : StoreCall) (rest : List StoreCall), calls = c :: rest ∧ c.request = .update k r ∧
      c.before = s ∧ c.IsServed Server.world ∧
      ((∃ e, res = .error e ∧ rest = [] ∧ t = c.after) ∨
        ∃ stored, s.update r = (.ok stored, c.after) ∧ c.Succeeded ∧
          Runs Server.world (f stored) c.after rest res t) := by
  cases h with
  | @call q next a s s' t rest res hserved hrest =>
    refine ⟨_, rest, rfl, rfl, rfl, hserved, ?_⟩
    cases a with
    | error e =>
      obtain ⟨rfl, rfl, rfl⟩ := Program.runs_done_iff.1 hrest
      exact Or.inl ⟨e, rfl, rfl, rfl⟩
    | ok stored => exact Or.inr ⟨stored, hserved.of_ok rfl, ⟨_, rfl⟩, hrest⟩

/-- A run that starts with a status update fails there or goes on with what was stored. -/
theorem runs_updateStatus_bind {r : Resource k} {f : Resource k → StoreProgram β}
    (h : Runs Server.world (StoreProgram.updateStatus r >>= f) s calls res t) :
    ∃ (c : StoreCall) (rest : List StoreCall), calls = c :: rest ∧ c.request = .updateStatus k r ∧
      c.before = s ∧ c.IsServed Server.world ∧
      ((∃ e, res = .error e ∧ rest = [] ∧ t = c.after) ∨
        ∃ stored, s.updateStatus r = (.ok stored, c.after) ∧ c.Succeeded ∧
          Runs Server.world (f stored) c.after rest res t) := by
  cases h with
  | @call q next a s s' t rest res hserved hrest =>
    refine ⟨_, rest, rfl, rfl, rfl, hserved, ?_⟩
    cases a with
    | error e =>
      obtain ⟨rfl, rfl, rfl⟩ := Program.runs_done_iff.1 hrest
      exact Or.inl ⟨e, rfl, rfl, rfl⟩
    | ok stored => exact Or.inr ⟨stored, hserved.of_ok rfl, ⟨_, rfl⟩, hrest⟩

/-- An update whose answer is all that is left is the only call of its run. -/
theorem runs_update_pure {r : Resource k} {g : Resource k → β}
    (h : Runs Server.world (StoreProgram.update r >>= fun stored => pure (g stored)) s
      calls res t) :
    ∃ c : StoreCall, calls = [c] ∧ c.request = .update k r ∧ c.before = s := by
  obtain ⟨c, rest, rfl, hrequest, hbefore, -, hend⟩ := runs_update_bind h
  refine ⟨c, ?_, hrequest, hbefore⟩
  rcases hend with ⟨e, -, rfl, -⟩ | ⟨stored, -, -, hrest⟩
  · rfl
  · rw [(Program.runs_done_iff.1 hrest).1]

/-- A status update whose answer is all that is left is the only call of its run. -/
theorem runs_updateStatus_pure {r : Resource k} {g : Resource k → β}
    (h : Runs Server.world (StoreProgram.updateStatus r >>= fun stored => pure (g stored)) s calls
      res t) :
    ∃ c : StoreCall, calls = [c] ∧ c.request = .updateStatus k r ∧ c.before = s := by
  obtain ⟨c, rest, rfl, hrequest, hbefore, -, hend⟩ := runs_updateStatus_bind h
  refine ⟨c, ?_, hrequest, hbefore⟩
  rcases hend with ⟨e, -, rfl, -⟩ | ⟨stored, -, -, hrest⟩
  · rfl
  · rw [(Program.runs_done_iff.1 hrest).1]

end First

end GatewayOperator
