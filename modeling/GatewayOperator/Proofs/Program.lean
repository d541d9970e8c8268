import GatewayOperator.Program

/-!
# Runs of programs

Two views of what a program does. `Program.run` is the one run in a world that always answers; here
it gets the rules by which a run is taken apart (`run_bind_ok`). `Runs` is every run in a world
whose calls fail now and then, together with the calls that were made: a call is answered, or it
fails and its effect has happened or not. What holds of every run by `Runs` holds of the one run
(`runs_run`).

`Asks P p` says that all requests of a program satisfy `P`, whatever is answered. It is checked
along the program (`asks_bind`) and holds of every call of a run (`Runs.asks`).
-/

namespace GatewayOperator

namespace Program

variable {I : Interface} {α β σ : Type}

/-! ## Programs in parts -/

theorem bind_eq (p : Program I α) (f : α → Program I β) : (p >>= f) = p.bind f := rfl

@[simp] theorem pure_bind (a : α) (f : α → Program I β) : (pure a : Program I α).bind f = f a := rfl

theorem bind_assoc {γ : Type} (p : Program I α) (f : α → Program I β) (g : β → Program I γ) :
    (p.bind f).bind g = p.bind fun a => (f a).bind g := by
  induction p with
  | done r => cases r <;> rfl
  | call q next ih =>
    simp only [bind, ih]

/-- A program without a result is not changed by giving none. -/
theorem bind_unit (p : Program I Unit) : (p.bind fun _ => pure ()) = p := by
  induction p with
  | done r => cases r <;> rfl
  | call q next ih => simp only [bind, ih]

/-! ## The run in a world that answers -/

/-- A run in two parts whose first part succeeds. -/
theorem run_bind_of_ok {world : World I σ} {p : Program I α} {f : α → Program I β} {s t : σ} {a : α}
    (h : p.run world s = (.ok a, t)) : (p.bind f).run world s = (f a).run world t := by
  rw [run_bind, h]

/-- A run in two parts succeeds exactly if both of its parts do. -/
theorem run_bind_ok {world : World I σ} {p : Program I α} {f : α → Program I β} {s u : σ} {b : β} :
    (p.bind f).run world s = (.ok b, u) ↔
      ∃ a t, p.run world s = (.ok a, t) ∧ (f a).run world t = (.ok b, u) := by
  constructor
  · intro h
    rw [run_bind] at h
    split at h
    · rename_i a t hp
      exact ⟨a, t, hp, h⟩
    · cases h
  · rintro ⟨a, t, hp, hf⟩
    rw [run_bind_of_ok hp, hf]

/-! ## Runs with failing calls -/

/-- One call of a run. -/
structure Call (I : Interface) (σ : Type) where
  request : I.Request
  answer : Except I.Failure (I.Answer request)
  before : σ
  after : σ

/-- What may become of a call: the world answers it, or it fails; then it has had its effect or
none. -/
def Call.IsServed (world : World I σ) (c : Call I σ) : Prop :=
  (c.answer, c.after) = world c.request c.before ∨
    ∃ e, c.answer = .error e ∧ (c.after = c.before ∨ c.after = (world c.request c.before).2)

/-- A call that succeeded was answered by the world. -/
theorem Call.IsServed.of_ok {world : World I σ} {c : Call I σ} (h : c.IsServed world)
    {a : I.Answer c.request} (ha : c.answer = .ok a) :
    world c.request c.before = (.ok a, c.after) := by
  rcases h with heq | ⟨e, he, -⟩
  · rw [← heq, ha]
  · rw [ha] at he
    cases he

/-- Whether the world answered a call. -/
def Call.IsAnswered (world : World I σ) (c : Call I σ) : Prop :=
  (c.answer, c.after) = world c.request c.before

/-- Runs of a program, each with its calls, its result and the state it leaves. -/
inductive Runs (world : World I σ) :
    Program I α → σ → List (Call I σ) → Except I.Failure α → σ → Prop where
  | done (r : Except I.Failure α) (s : σ) : Runs world (.done r) s [] r s
  | call {next : Except I.Failure (I.Answer q) → Program I α} {a : Except I.Failure (I.Answer q)}
      {s s' t : σ} {calls : List (Call I σ)} {r : Except I.Failure α} :
      Call.IsServed world ⟨q, a, s, s'⟩ → Runs world (next a) s' calls r t →
      Runs world (.call q next) s (⟨q, a, s, s'⟩ :: calls) r t

variable {world : World I σ}

/-- The run in a world that answers is one of the runs. -/
theorem runs_run (world : World I σ) (p : Program I α) (s : σ) :
    ∃ calls, Runs world p s calls (p.run world s).1 (p.run world s).2 := by
  induction p generalizing s with
  | done r => exact ⟨[], .done r s⟩
  | call q next ih =>
    obtain ⟨calls, hcalls⟩ := ih (world q s).1 (world q s).2
    exact ⟨⟨q, (world q s).1, s, (world q s).2⟩ :: calls, .call (Or.inl rfl) hcalls⟩

theorem runs_of_run {p : Program I α} {s t : σ} {r : Except I.Failure α}
    (h : p.run world s = (r, t)) : ∃ calls, Runs world p s calls r t := by
  obtain ⟨calls, hruns⟩ := runs_run world p s
  rw [h] at hruns
  exact ⟨calls, hruns⟩

/-- If all calls were answered, it is that run. -/
theorem Runs.run_eq {p : Program I α} {s t : σ} {calls : List (Call I σ)} {r : Except I.Failure α}
    (h : Runs world p s calls r t) (hanswered : ∀ c ∈ calls, c.IsAnswered world) :
    p.run world s = (r, t) := by
  induction h with
  | done r s => rfl
  | @call q next a s s' t calls r _ _ ih =>
    have hfirst : (a, s') = world q s := hanswered _ List.mem_cons_self
    rw [run_call, ← hfirst]
    exact ih fun c hc => hanswered c (List.mem_cons_of_mem _ hc)

theorem runs_done_iff {r r' : Except I.Failure α} {s t : σ} {calls : List (Call I σ)} :
    Runs world (.done r) s calls r' t ↔ calls = [] ∧ r' = r ∧ t = s := by
  constructor
  · intro h
    cases h
    exact ⟨rfl, rfl, rfl⟩
  · rintro ⟨rfl, rfl, rfl⟩
    exact .done _ _

/-- Every run of a program in two parts fails in its first part, or goes on to its second. -/
theorem Runs.of_bind {p : Program I α} {f : α → Program I β} {s t : σ} {calls : List (Call I σ)}
    {r : Except I.Failure β} (h : Runs world (p.bind f) s calls r t) :
    (∃ e, r = .error e ∧ Runs world p s calls (.error e) t) ∨
      ∃ front back a u, calls = front ++ back ∧ Runs world p s front (.ok a) u ∧
        Runs world (f a) u back r t := by
  induction p generalizing s calls with
  | done r' =>
    cases r' with
    | error e =>
      obtain ⟨rfl, rfl, rfl⟩ := runs_done_iff.1 h
      exact Or.inl ⟨e, rfl, .done _ _⟩
    | ok a => exact Or.inr ⟨[], calls, a, s, rfl, .done _ _, h⟩
  | call q next ih =>
    cases h with
    | call hserved hrest =>
      -- the call belongs to the first part, however the rest is divided
      rcases ih _ hrest with ⟨e, rfl, hp⟩ | ⟨front, back, a, u, rfl, hp, hf⟩
      · exact Or.inl ⟨e, rfl, .call hserved hp⟩
      · exact Or.inr ⟨_, back, a, u, rfl, .call hserved hp, hf⟩

/-- A run of a program in two parts that succeeds is one of both parts. -/
theorem Runs.of_bind_ok {p : Program I α} {f : α → Program I β} {s t : σ}
    {calls : List (Call I σ)} {b : β} (h : Runs world (p.bind f) s calls (.ok b) t) :
    ∃ front back a u, calls = front ++ back ∧ Runs world p s front (.ok a) u ∧
      Runs world (f a) u back (.ok b) t := by
  rcases h.of_bind with ⟨e, hfail, -⟩ | hparts
  · cases hfail
  · exact hparts

/-- What holds at first and is kept by every call holds before every call and at last. -/
theorem Runs.keeps {p : Program I α} {s t : σ} {calls : List (Call I σ)} {r : Except I.Failure α}
    (h : Runs world p s calls r t) (Inv : σ → Prop) (hs : Inv s)
    (hstep : ∀ c ∈ calls, c.IsServed world → Inv c.before → Inv c.after) :
    (∀ c ∈ calls, Inv c.before) ∧ Inv t := by
  induction h with
  | done r s => exact ⟨by simp, hs⟩
  | call hserved _ ih =>
    have hnext := hstep _ List.mem_cons_self hserved hs
    obtain ⟨hcalls, ht⟩ := ih hnext fun c hc => hstep c (List.mem_cons_of_mem _ hc)
    refine ⟨?_, ht⟩
    intro c hc
    rcases List.mem_cons.1 hc with rfl | hc
    · exact hs
    · exact hcalls c hc

/-! ## The requests of a program -/

/-- Every request that a program may ask satisfies a condition, whatever it is answered. -/
def Asks (P : I.Request → Prop) : Program I α → Prop
  | .done _ => True
  | .call q next => P q ∧ ∀ a, (next a).Asks P

variable {P : I.Request → Prop}

theorem asks_bind {p : Program I α} {f : α → Program I β} (hp : p.Asks P)
    (hf : ∀ a, (f a).Asks P) : (p.bind f).Asks P := by
  induction p with
  | done r =>
    cases r with
    | ok a => exact hf a
    | error e => trivial
  | call q next ih => exact ⟨hp.1, fun a => ih a (hp.2 a)⟩

theorem asks_mono {Q : I.Request → Prop} (h : ∀ q, P q → Q q) {p : Program I α} (hp : p.Asks P) :
    p.Asks Q := by
  induction p with
  | done r => trivial
  | call q next ih => exact ⟨h q hp.1, fun a => ih a (hp.2 a)⟩

/-- The requests of a run are requests of its program. -/
theorem Runs.asks {p : Program I α} (hp : p.Asks P) {s t : σ} {calls : List (Call I σ)}
    {r : Except I.Failure α} (h : Runs world p s calls r t) : ∀ c ∈ calls, P c.request := by
  induction h with
  | done r s => simp
  | call _ _ ih =>
    intro c hc
    rcases List.mem_cons.1 hc with rfl | hc
    · exact hp.1
    · exact ih (hp.2 _) c hc

/-! ## The calls of a program -/

/-- A call that a program makes in one of its runs. -/
def Makes (world : World I σ) (p : Program I α) (c : Call I σ) : Prop :=
  ∃ s calls r t, Runs world p s calls r t ∧ c ∈ calls

theorem Runs.makes {p : Program I α} {s t : σ} {calls : List (Call I σ)} {r : Except I.Failure α}
    (h : Runs world p s calls r t) {c : Call I σ} (hc : c ∈ calls) : p.Makes world c :=
  ⟨s, calls, r, t, h, hc⟩

theorem not_makes_done {r : Except I.Failure α} {c : Call I σ} :
    ¬ (Program.done r : Program I α).Makes world c := by
  rintro ⟨s, calls, r', t, h, hc⟩
  rw [(runs_done_iff.1 h).1] at hc
  cases hc

/-- The calls of a program in two parts are calls of its parts. -/
theorem Makes.of_bind {p : Program I α} {f : α → Program I β} {c : Call I σ}
    (h : (p.bind f).Makes world c) : p.Makes world c ∨ ∃ a, (f a).Makes world c := by
  obtain ⟨s, calls, r, t, hruns, hc⟩ := h
  rcases hruns.of_bind with ⟨e, -, hfirst⟩ | ⟨front, back, a, u, rfl, hfirst, hrest⟩
  · exact Or.inl (hfirst.makes hc)
  · rcases List.mem_append.1 hc with hc | hc
    · exact Or.inl (hfirst.makes hc)
    · exact Or.inr ⟨a, hrest.makes hc⟩

theorem Makes.asks {p : Program I α} {c : Call I σ} (h : p.Makes world c) (hp : p.Asks P) :
    P c.request := by
  obtain ⟨s, calls, r, t, hruns, hc⟩ := h
  exact hruns.asks hp c hc

/-- Every call of every run of a program satisfies a condition. -/
def EveryCall (world : World I σ) (P : Call I σ → Prop) (p : Program I α) : Prop :=
  ∀ s calls r t, Runs world p s calls r t → ∀ c ∈ calls, P c

theorem EveryCall.of_makes {P : Call I σ → Prop} {p : Program I α} (h : p.EveryCall world P)
    {c : Call I σ} (hc : p.Makes world c) : P c := by
  obtain ⟨s, calls, r, t, hruns, hc⟩ := hc
  exact h s calls r t hruns c hc

theorem everyCall_done {P : Call I σ → Prop} (r : Except I.Failure α) :
    EveryCall world P (.done r) := by
  intro s calls r' t h c hc
  rw [(runs_done_iff.1 h).1] at hc
  cases hc

theorem everyCall_bind {P : Call I σ → Prop} {p : Program I α} {f : α → Program I β}
    (hp : p.EveryCall world P) (hf : ∀ a, (f a).EveryCall world P) :
    (p.bind f).EveryCall world P := by
  intro s calls r t h c hc
  rcases h.of_bind with ⟨e, -, hfirst⟩ | ⟨front, back, a, u, rfl, hfirst, hrest⟩
  · exact hp _ _ _ _ hfirst c hc
  · rcases List.mem_append.1 hc with hc | hc
    · exact hp _ _ _ _ hfirst c hc
    · exact hf a _ _ _ _ hrest c hc

/-- A condition on requests is one on calls. -/
theorem everyCall_of_asks {P : I.Request → Prop} {Q : Call I σ → Prop} {p : Program I α}
    (hp : p.Asks P) (h : ∀ c : Call I σ, P c.request → Q c) : p.EveryCall world Q :=
  fun _ _ _ _ hruns c hc => h c (hruns.asks hp c hc)

end Program

end GatewayOperator
