import GatewayOperator.Failure
import GatewayOperator.Lease.Basic
import GatewayOperator.Program

/-!
# Acquiring a lease

One attempt reads the clock and the lease and makes at most one write: it creates a lease where
there is none, renews its own, takes over one that ran out and leaves another's alone. Losing a race
is no failure.
-/

namespace GatewayOperator

/-- What a replica asks about the lease. -/
inductive LeaseRequest where
  | now
  | get
  | create (lease : Lease)
  | patch (change : LeasePatch)

/-- How a request is answered. -/
abbrev LeaseRequest.Answer : LeaseRequest → Type
  | .now => Instant
  | .get => Option Lease
  | .create _ => Unit
  | .patch _ => Unit

abbrev leaseInterface : Interface where
  Request := LeaseRequest
  Answer := LeaseRequest.Answer
  Failure := ApiFailure

/-- Whether a refusal says that somebody else wrote first. -/
def ApiFailure.isConflict : ApiFailure → Bool
  | .refused s => s.code == 409
  | _ => false

/-- A program that works on a lease. -/
abbrev LeaseProgram := Program leaseInterface

namespace LeaseProgram

/-- The outcome of a write: whether it was this replica's. -/
def won (r : Except ApiFailure Unit) : LeaseProgram Bool :=
  match r with
  | .ok () => pure true
  | .error f => if f.isConflict then pure false else Program.fail f

/-- Create the lease. -/
def create (lease : Lease) : LeaseProgram Bool := do
  won (← Program.attempt (I := leaseInterface) (.create lease))

/-- Change the lease. -/
def patch (change : LeasePatch) : LeaseProgram Bool := do
  won (← Program.attempt (I := leaseInterface) (.patch change))

end LeaseProgram

/-- One attempt to hold the lease of a namespace; whether the replica holds it afterwards. -/
def acquireOrRenew (ns identity : String) : LeaseProgram Bool := do
  let now ← Program.ask (I := leaseInterface) .now
  match ← Program.ask (I := leaseInterface) .get with
  | none => LeaseProgram.create (.first ns identity now)
  | some lease =>
    if lease.holder? = some identity then LeaseProgram.patch (lease.renewal now)
    else if lease.isExpired now then LeaseProgram.patch (lease.takeover identity now)
    else pure false

/-! ## The election -/

/-- Seconds between two renewals. -/
def renewInterval : Nat := 10

/-- Seconds until another attempt, when the lease is not held. -/
def attemptInterval : Nat := 5

/-- Seconds until the next attempt. -/
def nextAttempt (leads : Bool) : Nat := if leads then renewInterval else attemptInterval

theorem nextAttempt_pos (leads : Bool) : 0 < nextAttempt leads := by cases leads <;> decide

/-- Attempt again and again for some seconds; whether the replica leads in the end. An attempt that
fails ends its leadership. -/
def elect {σ : Type} (world : Program.World leaseInterface σ) (wait : Nat → σ → σ)
    (ns identity : String) (seconds : Nat) (s : σ) : Bool × σ :=
  let (r, s) := (acquireOrRenew ns identity).run world s
  let leads := match r with
    | .ok b => b
    | .error _ => false
  if nextAttempt leads ≤ seconds then
    elect world wait ns identity (seconds - nextAttempt leads) (wait (nextAttempt leads) s)
  else (leads, wait seconds s)
termination_by seconds
decreasing_by exact Nat.sub_lt_self (nextAttempt_pos _) (by assumption)

end GatewayOperator
