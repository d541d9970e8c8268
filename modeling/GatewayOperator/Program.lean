/-!
# Programs

A `Program I α` asks an outside world one request after the other, deciding the next request by the
answers, and ends with a result or a failure. What the world does is not part of the program: `run`
takes it as a step on a state, so one program runs against a store in memory, against one that fails
on purpose and against a server far away.
-/

namespace GatewayOperator

/-- What a program may ask, and how it is answered. -/
structure Interface where
  Request : Type
  Answer : Request → Type
  Failure : Type

/-- A program that asks requests of an interface. -/
inductive Program (I : Interface) (α : Type) where
  | done (result : Except I.Failure α)
  | call (request : I.Request) (next : Except I.Failure (I.Answer request) → Program I α)

namespace Program

variable {I : Interface} {α β : Type}

/-- Go on with the result of a program; a failure ends it. -/
def bind : Program I α → (α → Program I β) → Program I β
  | .done (.ok a), f => f a
  | .done (.error e), _ => .done (.error e)
  | .call q next, f => .call q fun r => (next r).bind f

instance : Monad (Program I) where
  pure a := .done (.ok a)
  bind := bind

/-- End with a failure. -/
def fail (e : I.Failure) : Program I α := .done (.error e)

/-- Ask one request; its failure ends the program. -/
def ask (q : I.Request) : Program I (I.Answer q) := .call q .done

/-- Ask one request and look at its failure. -/
def attempt (q : I.Request) : Program I (Except I.Failure (I.Answer q)) :=
  .call q fun r => .done (.ok r)

/-- Run a whole program and look at its failure. -/
def caught : Program I α → Program I (Except I.Failure α)
  | .done r => .done (.ok r)
  | .call q next => .call q fun r => (next r).caught

/-- A result that may be a failure. -/
def ofExcept (r : Except I.Failure α) : Program I α := .done r

/-- A world that answers requests, changing its state. -/
abbrev World (I : Interface) (σ : Type) :=
  (q : I.Request) → σ → Except I.Failure (I.Answer q) × σ

/-- Run a program in a world. -/
def run {σ : Type} (world : World I σ) : Program I α → σ → Except I.Failure α × σ
  | .done r, s => (r, s)
  | .call q next, s =>
    let (r, s) := world q s
    (next r).run world s

@[simp] theorem run_done {σ : Type} (world : World I σ) (r : Except I.Failure α) (s : σ) :
    (done r).run world s = (r, s) := rfl

@[simp] theorem run_call {σ : Type} (world : World I σ) (q : I.Request)
    (next : Except I.Failure (I.Answer q) → Program I α) (s : σ) :
    (call q next).run world s = (next (world q s).1).run world (world q s).2 := rfl

/-- A program in two parts runs as the first part and then, unless it failed, the second. -/
theorem run_bind {σ : Type} (world : World I σ) (p : Program I α) (f : α → Program I β) (s : σ) :
    (p.bind f).run world s =
      match p.run world s with
      | (.ok a, t) => (f a).run world t
      | (.error e, t) => (.error e, t) := by
  induction p generalizing s with
  | done r => cases r <;> rfl
  | call q next ih => simp only [bind, run_call, ih]

end Program

end GatewayOperator
