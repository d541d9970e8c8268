import GatewayOperator.Proofs.Lease.Server
import GatewayOperator.Proofs.Store.Version
import Mathlib.Data.List.Pairwise
import Mathlib.Logic.Function.Basic

/-!
# Elections

Replicas call `acquireOrRenew` on one server, any number of them, each as often as it likes and with
its requests in any order among those of the others. An `Election` is where the calls have come to,
and `Election.turn` is the next request of one call.

The clock of a server answers as it likes, and so may each call read another time. Safety rests on
the versions: what a call decides on its reading is written only over the lease that it read.

* `IsSound` is the invariant: every call is at a `Stage` of its program, and the states in which its
  requests were answered follow each other.
* `IsSafe` says what it comes to, and `isSafe_of_follow` that it holds after any turns.
-/

namespace GatewayOperator

variable {σ ι : Type}

/-! ## One call -/

/-- A request to a server with the lease, as it was answered. -/
abbrev LeaseCall (σ : Type) := Program.Call leaseInterface σ

def LeaseRequest.isWrite : LeaseRequest → Bool
  | .create _ | .patch _ => true
  | .now | .get => false

namespace LeaseCall

/-- The time that was read. -/
def reading? : LeaseCall σ → Option Instant
  | ⟨.now, .ok t, _, _⟩ => some t
  | _ => none

/-- The lease that was read, if there was one. -/
def lease? : LeaseCall σ → Option (Option Lease)
  | ⟨.get, .ok l, _, _⟩ => some l
  | _ => none

/-- A write that is answered by success. -/
def IsSuccess (c : LeaseCall σ) : Prop := c.request.isWrite = true ∧ ∃ a, c.answer = .ok a

/-- A request that has changed the lease, whatever it was answered. -/
def TakesEffect (S : LeaseServer σ) (c : LeaseCall σ) : Prop := S.stored c.after ≠ S.stored c.before

end LeaseCall

/-- What a replica asks for, by the time and the lease that it has read. -/
inductive Decides (ns identity : String) (now : Instant) : Option Lease → LeaseRequest → Prop
  | create : Decides ns identity now none (.create (.first ns identity now))
  | renew (l : Lease) : l.holder? = some identity →
      Decides ns identity now (some l) (.patch (l.renewal now))
  | takeOver (l : Lease) : l.holder? ≠ some identity → l.isExpired now = true →
      Decides ns identity now (some l) (.patch (l.takeover identity now))

theorem Decides.isWrite {ns identity : String} {now : Instant} {l : Option Lease}
    {q : LeaseRequest} (h : Decides ns identity now l q) : q.isWrite = true := by
  cases h <;> rfl

/-- What comes of a write. -/
def outcome {α : Type} : Except ApiFailure α → Except ApiFailure Bool
  | .ok _ => .ok true
  | .error f => if f.isConflict then .ok false else .error f

theorem outcome_eq_true {α : Type} {r : Except ApiFailure α} (h : outcome r = .ok true) :
    ∃ a, r = .ok a := by
  cases r with
  | ok a => exact ⟨a, rfl⟩
  | error f =>
    unfold outcome at h
    dsimp only at h
    split at h <;> cases h

/-- The last part of a call, once the time and the lease have been read. -/
def decided (ns identity : String) (now : Instant) : Option Lease → LeaseProgram Bool
  | none => LeaseProgram.create (.first ns identity now)
  | some l =>
    if l.holder? = some identity then LeaseProgram.patch (l.renewal now)
    else if l.isExpired now then LeaseProgram.patch (l.takeover identity now)
    else pure false

theorem acquireOrRenew_eq (ns identity : String) :
    acquireOrRenew ns identity = (Program.ask (I := leaseInterface) .now).bind fun now =>
      (Program.ask (I := leaseInterface) .get).bind (decided ns identity now) := by
  unfold acquireOrRenew
  simp only [Program.bind_eq]
  refine congrArg _ (funext fun now => congrArg _ (funext fun l => ?_))
  cases l <;> rfl

/-- How far a call of `acquireOrRenew` has come: its requests so far, and what is left of it. -/
inductive Stage (ns identity : String) : List (LeaseCall σ) → LeaseProgram Bool → Prop
  | start : Stage ns identity [] (acquireOrRenew ns identity)
  | noTime (e : ApiFailure) (s t : σ) :
      Stage ns identity [⟨.now, .error e, s, t⟩] (.done (.error e))
  | timed (now : Instant) (s t : σ) : Stage ns identity [⟨.now, .ok now, s, t⟩]
      ((Program.ask (I := leaseInterface) .get).bind (decided ns identity now))
  | unread (now : Instant) (e : ApiFailure) (s t s' t' : σ) :
      Stage ns identity [⟨.now, .ok now, s, t⟩, ⟨.get, .error e, s', t'⟩] (.done (.error e))
  | left (now : Instant) (l : Lease) (s t s' t' : σ) :
      Stage ns identity [⟨.now, .ok now, s, t⟩, ⟨.get, .ok (some l), s', t'⟩] (.done (.ok false))
  | deciding (now : Instant) (l : Option Lease) (s t s' t' : σ) (q : LeaseRequest)
      (next : Except ApiFailure q.Answer → LeaseProgram Bool) : Decides ns identity now l q →
      (∀ a, next a = .done (outcome a)) →
      Stage ns identity [⟨.now, .ok now, s, t⟩, ⟨.get, .ok l, s', t'⟩] (.call q next)
  | returned (now : Instant) (l : Option Lease) (s t s' t' : σ) (c : LeaseCall σ) :
      Decides ns identity now l c.request →
      Stage ns identity [⟨.now, .ok now, s, t⟩, ⟨.get, .ok l, s', t'⟩, c] (.done (outcome c.answer))

namespace Stage

variable {ns identity : String} {calls : List (LeaseCall σ)} {p : LeaseProgram Bool}

theorem won_eq (r : Except ApiFailure Unit) : LeaseProgram.won r = .done (outcome r) := by
  cases r with
  | ok u => rfl
  | error f =>
    unfold LeaseProgram.won outcome
    dsimp only
    split <;> rfl

/-- Once the lease has been read, one write is left or none. -/
theorem of_decided (now : Instant) (l : Option Lease) (s t s' t' : σ) :
    Stage ns identity [⟨.now, .ok now, s, t⟩, ⟨.get, .ok l, s', t'⟩]
      (decided ns identity now l) := by
  cases l with
  | none => exact .deciding now none s t s' t' _ _ .create won_eq
  | some l =>
    unfold decided
    dsimp only
    split
    · rename_i hholder
      exact .deciding now _ s t s' t' _ _ (.renew l hholder) won_eq
    split
    · rename_i hholder hexpired
      exact .deciding now _ s t s' t' _ _ (.takeOver l hholder hexpired) won_eq
    · exact .left now l s t s' t'

/-- The next request of a call, whatever it is answered, leads it to its next stage. -/
theorem step (h : Stage ns identity calls p) {q : LeaseRequest}
    {next : Except ApiFailure q.Answer → LeaseProgram Bool} (hp : p = .call q next)
    (a : Except ApiFailure q.Answer) (s t : σ) :
    Stage ns identity (calls ++ [⟨q, a, s, t⟩]) (next a) := by
  cases h with
  | start =>
    rw [acquireOrRenew_eq] at hp
    cases hp
    cases a with
    | error e => exact .noTime e s t
    | ok now => exact .timed now s t
  | timed now s₀ t₀ =>
    cases hp
    cases a with
    | error e => exact .unread now e s₀ t₀ s t
    | ok l => exact of_decided now l s₀ t₀ s t
  | deciding now l s₀ t₀ s₁ t₁ _ _ hdecides hnext =>
    cases hp
    rw [hnext]
    exact .returned now l s₀ t₀ s₁ t₁ ⟨q, a, s, t⟩ hdecides
  | noTime | unread | left | returned => cases hp

/-- A write is the last request of its call and follows from what was read. -/
theorem of_write (h : Stage ns identity calls p) {c : LeaseCall σ} (hc : c ∈ calls)
    (hwrite : c.request.isWrite = true) :
    ∃ now l s t s' t', calls = [⟨.now, .ok now, s, t⟩, ⟨.get, .ok l, s', t'⟩, c] ∧
      Decides ns identity now l c.request ∧ p = .done (outcome c.answer) := by
  cases h with
  | start => cases hc
  | noTime | timed | unread | left | deciding =>
    simp only [List.mem_cons, List.not_mem_nil, or_false] at hc
    rcases hc with rfl | rfl <;> cases hwrite
  | returned now l s t s' t' w hdecides =>
    simp only [List.mem_cons, List.not_mem_nil, or_false] at hc
    rcases hc with rfl | rfl | rfl
    · cases hwrite
    · cases hwrite
    · exact ⟨now, l, s, t, s', t', rfl, hdecides, rfl⟩

/-- A call that returns that it leads has written, and was answered so. -/
theorem of_true (h : Stage ns identity calls p) (hp : p = .done (.ok true)) :
    ∃ c ∈ calls, c.IsSuccess := by
  cases h with
  | returned now l s t s' t' c hdecides =>
    exact ⟨c, by simp, hdecides.isWrite, outcome_eq_true (by injection hp)⟩
  | start | timed | deciding => cases hp
  | noTime | unread | left => cases hp

end Stage

/-! ## One write -/

/-- A write that a replica has decided on changes the lease only while it is the one that was read,
and makes the replica its holder. -/
theorem Decides.writes {S : LeaseServer σ} (hS : S.IsLawful) {ns identity : String} {now : Instant}
    {l : Option Lease} {q : LeaseRequest} (h : Decides ns identity now l q) {s₀ s : σ}
    (hread : S.stored s₀ = l) (hlater : S.Precedes s₀ s)
    (heffect : S.stored (S.world q s).2 ≠ S.stored s) :
    S.stored s = l ∧ ∃ spec, S.Writes s (S.world q s).2 spec ∧
      (spec.bind (·.holderIdentity)) = some identity := by
  -- a patch decided on a lease names its version, so the lease is still the same
  have hpatch : ∀ (p : LeasePatch) (old : Lease), S.stored s₀ = some old →
      p.version = old.metadata.resourceVersion →
      S.stored (S.world (.patch p) s).2 ≠ S.stored s →
      S.stored s = some old ∧ S.Writes s (S.world (.patch p) s).2 (some (p.applied old)) := by
    intro p old hold hp heffect
    rcases hS.patch p s with ⟨hkeeps, -⟩ | ⟨stored, hstored, hversion, hwrites⟩
    · exact absurd hkeeps.stored heffect
    · obtain ⟨v, -, hv⟩ := hS.versioned s₀ old hold
      have hsame : stored.metadata.resourceVersion = old.metadata.resourceVersion := by
        rcases hversion with hnone | hversion
        · rw [hnone, hv] at hp
          cases hp
        · exact hversion.symm.trans hp
      obtain rfl := hS.stored_eq hlater hold hstored hsame
      exact ⟨hstored, hwrites⟩
  cases h with
  | create =>
    rcases hS.create (.first ns identity now) s with ⟨hkeeps, -⟩ | ⟨hnone, hwrites⟩
    · exact absurd hkeeps.stored heffect
    · exact ⟨hnone, _, hwrites, Lease.holderIdentity_sent _⟩
  | renew old hholder =>
    obtain ⟨hstored, hwrites⟩ := hpatch (old.renewal now) old hread rfl heffect
    refine ⟨hstored, _, hwrites, ?_⟩
    exact (LeasePatch.holderIdentity_applied _ old).trans hholder
  | takeOver old _ _ =>
    obtain ⟨hstored, hwrites⟩ := hpatch (old.takeover identity now) old hread rfl heffect
    refine ⟨hstored, _, hwrites, ?_⟩
    exact LeasePatch.holderIdentity_applied _ old

/-- A write that is answered by success has changed the lease. -/
theorem LeaseServer.IsLawful.effective {S : LeaseServer σ} (hS : S.IsLawful) {q : LeaseRequest}
    (hwrite : q.isWrite = true) {s t : σ} {a : q.Answer} (h : S.world q s = (.ok a, t)) :
    S.stored t ≠ S.stored s := by
  have hwrites : ∃ spec, S.Writes s (S.world q s).2 spec := by
    cases q with
    | now | get => cases hwrite
    | create l =>
      rcases hS.create l s with ⟨-, f, hf⟩ | ⟨-, hwrites⟩
      · rw [h] at hf
        cases hf
      · exact ⟨_, hwrites⟩
    | patch p =>
      rcases hS.patch p s with ⟨-, f, hf⟩ | ⟨l, -, -, hwrites⟩
      · rw [h] at hf
        cases hf
      · exact ⟨_, hwrites⟩
  obtain ⟨spec, hwrites⟩ := hwrites
  rw [h] at hwrites
  intro hsame
  exact hS.version_ne hwrites (.refl S t) (by rw [hsame])

/-! ## Many calls -/

/-- Calls on one server: the state of the server, what is left of each call, and their requests so
far in the order in which they were answered. -/
structure Election (σ ι : Type) where
  state : σ
  left : ι → LeaseProgram Bool
  made : List (ι × LeaseCall σ)

namespace Election

variable [DecidableEq ι]

/-- The calls before their first requests, each by a replica of some identity. -/
def start (ns : String) (identity : ι → String) (s : σ) : Election σ ι :=
  ⟨s, fun i => acquireOrRenew ns (identity i), []⟩

/-- The next request of one call. -/
def turn (S : LeaseServer σ) (m : Election σ ι) (i : ι) : Election σ ι :=
  match m.left i with
  | .done _ => m
  | .call q next =>
    { state := (S.world q m.state).2
      left := Function.update m.left i (next (S.world q m.state).1)
      made := m.made ++ [(i, ⟨q, (S.world q m.state).1, m.state, (S.world q m.state).2⟩)] }

/-- Turns in any order. -/
def follow (S : LeaseServer σ) (m : Election σ ι) (schedule : List ι) : Election σ ι :=
  schedule.foldl (turn S) m

/-- The requests of one call among those of all. -/
def requestsOf (i : ι) (made : List (ι × LeaseCall σ)) : List (LeaseCall σ) :=
  (made.filter fun c => c.1 = i).map (·.2)

theorem requestsOf_append_self (i : ι) (made : List (ι × LeaseCall σ)) (c : LeaseCall σ) :
    requestsOf i (made ++ [(i, c)]) = requestsOf i made ++ [c] := by
  simp [requestsOf]

theorem requestsOf_append_of_ne {i j : ι} (h : j ≠ i) (made : List (ι × LeaseCall σ))
    (c : LeaseCall σ) : requestsOf j (made ++ [(i, c)]) = requestsOf j made := by
  simp [requestsOf, h.symm]

/-- The requests of one call. -/
def calls (m : Election σ ι) (i : ι) : List (LeaseCall σ) := requestsOf i m.made

/-- The time that a call has read. -/
def reading? (m : Election σ ι) (i : ι) : Option Instant := (m.calls i).findSome? LeaseCall.reading?

/-- The lease that a call has read, if there was one. -/
def lease? (m : Election σ ι) (i : ι) : Option (Option Lease) :=
  (m.calls i).findSome? LeaseCall.lease?

/-- What a call has returned. -/
def returned? (m : Election σ ι) (i : ι) : Option (Except ApiFailure Bool) :=
  match m.left i with
  | .done r => some r
  | .call _ _ => none

/-- Calls on a lawful server. -/
structure IsSound (S : LeaseServer σ) (ns : String) (identity : ι → String) (m : Election σ ι) :
    Prop where
  stage : ∀ i, Stage ns (identity i) (m.calls i) (m.left i)
  answered : ∀ c ∈ m.made, S.world c.2.request c.2.before = (c.2.answer, c.2.after)
  ordered : m.made.Pairwise fun c d => S.Precedes c.2.after d.2.before
  reached : ∀ c ∈ m.made, S.Precedes c.2.after m.state

variable {S : LeaseServer σ} {ns : String} {identity : ι → String} {m : Election σ ι}

theorem isSound_start (s : σ) : IsSound S ns identity (start ns identity s) where
  stage _ := .start
  answered _ hc := absurd hc List.not_mem_nil
  ordered := .nil
  reached _ hc := absurd hc List.not_mem_nil

theorem IsSound.turn (hS : S.IsLawful) (hm : IsSound S ns identity m) (i : ι) :
    IsSound S ns identity (m.turn S i) := by
  unfold Election.turn
  cases hleft : m.left i with
  | done r => exact hm
  | call q next =>
    dsimp only
    have hlater : S.Precedes m.state (S.world q m.state).2 := hS.precedes q m.state
    refine ⟨fun j => ?_, fun c hc => ?_, ?_, fun c hc => ?_⟩
    · unfold calls
      dsimp only
      by_cases hj : j = i
      · subst hj
        rw [requestsOf_append_self, Function.update_self]
        exact (hm.stage j).step hleft _ _ _
      · rw [requestsOf_append_of_ne hj, Function.update_of_ne hj]
        exact hm.stage j
    · rcases List.mem_append.1 hc with hc | hc
      · exact hm.answered c hc
      · rw [List.mem_singleton.1 hc]
    · refine List.pairwise_append.2 ⟨hm.ordered, List.pairwise_singleton _ _, fun c hc d hd => ?_⟩
      rw [List.mem_singleton.1 hd]
      exact hm.reached c hc
    · rcases List.mem_append.1 hc with hc | hc
      · exact (hm.reached c hc).trans hlater
      · rw [List.mem_singleton.1 hc]
        exact .refl S _

theorem IsSound.follow (hS : S.IsLawful) (hm : IsSound S ns identity m) (schedule : List ι) :
    IsSound S ns identity (m.follow S schedule) := by
  induction schedule generalizing m with
  | nil => exact hm
  | cons i schedule ih => exact ih (hm.turn hS i)

/-! ## Safety -/

/-- What holds of calls on one lease. -/
structure IsSafe (S : LeaseServer σ) (identity : ι → String) (m : Election σ ι) : Prop where
  /-- a write that succeeds has happened -/
  effective : ∀ i, ∀ c ∈ m.calls i, c.IsSuccess → c.TakesEffect S
  /-- after a write its replica holds the lease -/
  held : ∀ i, ∀ c ∈ m.calls i, c.TakesEffect S →
    (S.stored c.after).bind Lease.holder? = some (identity i)
  /-- of two calls that read the same version, or no lease, one at most leads -/
  exclusive : ∀ i j, i ≠ j → ∀ x y, m.lease? i = some x → m.lease? j = some y →
    x.map (·.metadata.resourceVersion) = y.map (·.metadata.resourceVersion) →
    ¬ (m.returned? i = some (.ok true) ∧ m.returned? j = some (.ok true))
  /-- the lease of another replica is replaced only after it has run out -/
  patient : ∀ i, ∀ c ∈ m.calls i, c.TakesEffect S → ∀ l s renewed, S.stored c.before = some l →
    l.holder? ≠ some (identity i) → l.spec = some s → s.renewTime = some renewed →
    ∃ now, m.reading? i = some now ∧
      (renewed.addSeconds (s.leaseDurationSeconds.getD leaseDuration).toInt).isBefore now = true
  /-- a call returns that it leads only if its own write succeeded -/
  earned : ∀ i, m.returned? i = some (.ok true) → ∃ c ∈ m.calls i, c.IsSuccess
  /-- a call whose write is refused because of another's returns that it does not lead -/
  conceded : ∀ i, ∀ c ∈ m.calls i, c.request.isWrite = true →
    ∀ f, c.answer = .error f → f.isConflict = true → m.returned? i = some (.ok false)

variable {c : LeaseCall σ} {i j : ι}

theorem mem_made (hc : c ∈ m.calls i) : (i, c) ∈ m.made := by
  obtain ⟨d, hd, rfl⟩ := List.mem_map.1 hc
  obtain ⟨hmem, hi⟩ := List.mem_filter.1 hd
  rw [decide_eq_true_iff] at hi
  exact hi ▸ hmem

theorem IsSound.world_eq (hm : IsSound S ns identity m) (hc : c ∈ m.calls i) :
    S.world c.request c.before = (c.answer, c.after) := hm.answered _ (mem_made hc)

/-- What a call has read when it writes: the lease as it was stored in an earlier state. -/
theorem IsSound.read (hS : S.IsLawful) (hm : IsSound S ns identity m) (hc : c ∈ m.calls i)
    (hwrite : c.request.isWrite = true) :
    ∃ now l s, m.reading? i = some now ∧ m.lease? i = some l ∧
      Decides ns (identity i) now l c.request ∧ S.stored s = l ∧ S.Precedes s c.before ∧
      m.returned? i = some (outcome c.answer) := by
  obtain ⟨now, l, s, t, s', t', hcalls, hdecides, hleft⟩ := (hm.stage i).of_write hc hwrite
  have hget := hm.world_eq (i := i) (c := ⟨.get, .ok l, s', t'⟩) (by simp [hcalls])
  have hread : l = S.stored s' := hS.answered s' l (by rw [hget])
  have hlater : S.Precedes s' t' := by
    have h := hS.precedes .get s'
    rwa [hget] at h
  have hordered : (m.calls i).Pairwise fun c d => S.Precedes c.after d.before :=
    List.pairwise_map.2 (hm.ordered.filter _)
  have horder : S.Precedes t' c.before := by
    rw [hcalls] at hordered
    exact List.rel_of_pairwise_cons (List.pairwise_cons.1 hordered).2 (List.mem_singleton_self c)
  refine ⟨now, l, s', ?_, ?_, hdecides, hread.symm, hlater.trans horder, ?_⟩
  · rw [reading?, hcalls]
    rfl
  · rw [lease?, hcalls]
    rfl
  · rw [returned?, hleft]

theorem IsSound.isWrite (hS : S.IsLawful) (hm : IsSound S ns identity m) (hc : c ∈ m.calls i)
    (heffect : c.TakesEffect S) : c.request.isWrite = true := by
  have hworld := hm.world_eq hc
  obtain ⟨q, a, s, t⟩ := c
  cases q with
  | create l => rfl
  | patch p => rfl
  | now =>
    have hkeeps := (hS.now s).stored
    rw [hworld] at hkeeps
    exact absurd hkeeps heffect
  | get =>
    have hkeeps := (hS.get s).stored
    rw [hworld] at hkeeps
    exact absurd hkeeps heffect

/-- A request that changes the lease replaces the one that its call has read, by one of its own. -/
theorem IsSound.writes (hS : S.IsLawful) (hm : IsSound S ns identity m) (hc : c ∈ m.calls i)
    (heffect : c.TakesEffect S) :
    ∃ now spec, m.reading? i = some now ∧ m.lease? i = some (S.stored c.before) ∧
      Decides ns (identity i) now (S.stored c.before) c.request ∧
      S.Writes c.before c.after spec ∧ (spec.bind (·.holderIdentity)) = some (identity i) := by
  obtain ⟨now, l, s, hnow, hl, hdecides, hread, hlater, -⟩ :=
    hm.read hS hc (hm.isWrite hS hc heffect)
  have hworld := hm.world_eq hc
  have hchanged : S.stored (S.world c.request c.before).2 ≠ S.stored c.before := by
    rw [hworld]
    exact heffect
  obtain ⟨hstored, spec, hwrites, hholder⟩ := hdecides.writes hS hread hlater hchanged
  rw [hworld] at hwrites
  exact ⟨now, spec, hnow, hstored ▸ hl, hstored ▸ hdecides, hwrites, hholder⟩

theorem IsSound.effective (hS : S.IsLawful) (hm : IsSound S ns identity m) (hc : c ∈ m.calls i)
    (h : c.IsSuccess) : c.TakesEffect S := by
  obtain ⟨hwrite, a, ha⟩ := h
  exact hS.effective hwrite (ha ▸ hm.world_eq hc)

theorem IsSound.earned (hm : IsSound S ns identity m) (h : m.returned? i = some (.ok true)) :
    ∃ c ∈ m.calls i, c.IsSuccess := by
  unfold returned? at h
  split at h
  · rename_i r hleft
    exact (hm.stage i).of_true (by rw [hleft, Option.some.inj h])
  · cases h

/-- Two requests that change the lease replace different ones. -/
theorem IsSound.version_ne (hS : S.IsLawful) (hm : IsSound S ns identity m) {d : LeaseCall σ}
    (hij : i ≠ j) (hc : c ∈ m.calls i) (hd : d ∈ m.calls j) (hceffect : c.TakesEffect S)
    (hdeffect : d.TakesEffect S) :
    (S.stored c.before).map (·.metadata.resourceVersion) ≠
      (S.stored d.before).map (·.metadata.resourceVersion) := by
  obtain ⟨_, _, -, -, -, hcwrites, -⟩ := hm.writes hS hc hceffect
  obtain ⟨_, _, -, -, -, hdwrites, -⟩ := hm.writes hS hd hdeffect
  -- one of the two came first
  have horder : S.Precedes c.after d.before ∨ S.Precedes d.after c.before := by
    have hpairs : m.made.Pairwise fun x y : ι × LeaseCall σ =>
        S.Precedes x.2.after y.2.before ∨ S.Precedes y.2.after x.2.before :=
      hm.ordered.imp Or.inl
    have hsymm : Std.Symm fun x y : ι × LeaseCall σ =>
        S.Precedes x.2.after y.2.before ∨ S.Precedes y.2.after x.2.before := ⟨fun _ _ h => h.symm⟩
    exact hpairs.forall (mem_made hc) (mem_made hd) fun h => hij (congrArg Prod.fst h)
  rcases horder with hcd | hdc
  · exact (hS.version_ne hcwrites hcd).symm
  · exact hS.version_ne hdwrites hdc

theorem IsSound.isSafe (hS : S.IsLawful) (hm : IsSound S ns identity m) :
    IsSafe S identity m where
  effective i c hc h := hm.effective hS hc h
  held i c hc heffect := by
    obtain ⟨now, spec, -, -, -, hwrites, hholder⟩ := hm.writes hS hc heffect
    obtain ⟨l, v, hl, hspec, -⟩ := hwrites.stored
    rw [hl, Option.bind_some, Lease.holder?, hspec, hholder]
  exclusive i j hij x y hx hy hversion := by
    rintro ⟨hi, hj⟩
    obtain ⟨c, hc, hcsuccess⟩ := hm.earned hi
    obtain ⟨d, hd, hdsuccess⟩ := hm.earned hj
    have hceffect := hm.effective hS hc hcsuccess
    have hdeffect := hm.effective hS hd hdsuccess
    obtain ⟨-, -, -, hread, -⟩ := hm.writes hS hc hceffect
    obtain ⟨-, -, -, hread', -⟩ := hm.writes hS hd hdeffect
    obtain rfl := Option.some.inj (hread.symm.trans hx)
    obtain rfl := Option.some.inj (hread'.symm.trans hy)
    exact hm.version_ne hS hij hc hd hceffect hdeffect hversion
  patient i c hc heffect l s renewed hl hholder hs hrenewed := by
    obtain ⟨now, -, hnow, -, hdecides, -⟩ := hm.writes hS hc heffect
    refine ⟨now, hnow, ?_⟩
    rw [hl] at hdecides
    generalize c.request = q at hdecides
    cases hdecides with
    | renew _ hown => exact absurd hown hholder
    | takeOver _ _ hexpired =>
      simpa only [Lease.isExpired, hs, LeaseSpec.isExpired, hrenewed] using hexpired
  earned i h := hm.earned h
  conceded i c hc hwrite f hf hconflict := by
    obtain ⟨-, -, -, -, -, -, -, -, hreturned⟩ := hm.read hS hc hwrite
    rw [hreturned, hf, outcome, if_pos hconflict]

/-- Whatever the order of their requests, calls on one lease are safe. -/
theorem isSafe_of_follow (hS : S.IsLawful) (ns : String) (identity : ι → String) (s : σ)
    (schedule : List ι) : IsSafe S identity ((start ns identity s).follow S schedule) :=
  ((isSound_start s).follow hS schedule).isSafe hS

/-- Two replicas find no lease and race for it; when the winner has not renewed for long, the other
one takes over. The clock shows nanoseconds, of which six digits of a second are sent. -/
def racers (i : Fin 3) : String := if i = 0 then "east" else "west"

def race : Election LeaseStore (Fin 3) :=
  (start "ns" racers { readings := [⟨0, 1234⟩, ⟨1, 999⟩, ⟨20, 1500⟩] }).follow LeaseStore.server
    [0, 1, 0, 1, 0, 1, 2, 2, 2]

theorem isSafe_race :
    LeaseStore.server.IsLawful ∧ IsSafe LeaseStore.server racers race ∧
      race.returned? 0 = some (.ok true) ∧ race.returned? 1 = some (.ok false) ∧
      race.returned? 2 = some (.ok true) ∧
      (race.state.spec.bind id).bind (·.acquireTime) = some ⟨20, 1000⟩ :=
  ⟨LeaseStore.isLawful_server, isSafe_of_follow LeaseStore.isLawful_server _ _ _ _,
    rfl, rfl, rfl, rfl⟩

end Election

end GatewayOperator
