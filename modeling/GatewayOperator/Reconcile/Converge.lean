import GatewayOperator.Autoscaling.Conversion
import GatewayOperator.Overlay.Resource
import GatewayOperator.Store.Request

/-!
# Convergence

`converge` reads an object, lets a mutation change it and writes it back only where it differs. An
object that is not there is built from an empty one; if somebody else creates it meanwhile, it is
read again and updated.
-/

namespace GatewayOperator

/-- What a convergence did to the stored object. -/
inductive Outcome where
  | created
  | updated
  | unchanged
  deriving DecidableEq, Repr

namespace Outcome

def text : Outcome → String
  | .created => "created"
  | .updated => "updated"
  | .unchanged => "unchanged"

end Outcome

/-- A change of an object, which may be refused. -/
abbrev Mutation (k : Kind) := Resource k → Except Failure (Resource k)

/-- A mutated object, provided that it stays at its key. -/
def mutated {k : Kind} (key : Key) (mutate : Mutation k) (r : Resource k) :
    Except Failure (Resource k) := do
  let r ← mutate r
  if r.key = key then pure r
  else throw (.identityChanged k.name key.text r.key.text)

open StoreProgram

/-- Mutate an object that was read, and write it back where it differs. -/
def amend {k : Kind} (key : Key) (mutate : Mutation k) (current : Resource k) :
    StoreProgram Outcome := do
  let desired ← ofExcept (mutated key mutate current)
  if desired.sameAs current then pure .unchanged
  else
    let _ ← update desired
    pure .updated

/-- Drive the object at a key towards what a mutation makes of it. -/
def converge (k : Kind) (key : Key) (mutate : Mutation k) : StoreProgram Outcome := do
  match ← get k key with
  | some current => amend key mutate current
  | none =>
    let desired ← ofExcept (mutated key mutate (.empty k key))
    match ← tryCreate desired with
    | .ok _ => pure .created
    | .error (.alreadyExists _ _) =>
      match ← get k key with
      | some current => amend key mutate current
      | none => fail (.conflict k.name key.text)
    | .error e => fail e

/-- Converge towards a compiled object. -/
def convergeTo {k : Kind} (desired : Resource k) : StoreProgram Outcome :=
  converge k desired.key fun current => .ok (current.overlay desired)

/-- Create an object unless one is at its key already. -/
def createIfAbsent {k : Kind} (r : Resource k) : StoreProgram Outcome := do
  match ← get k r.key with
  | some _ => pure .unchanged
  | none =>
    match ← tryCreate r with
    | .ok _ => pure .created
    | .error (.alreadyExists _ _) => pure .unchanged
    | .error e => fail e

/-- Converge every definition; their number. -/
def ensureDefinitions : List (Resource .definition) → StoreProgram Nat
  | [] => pure 0
  | d :: rest => do
    let _ ← convergeTo d
    let n ← ensureDefinitions rest
    pure (n + 1)

/-- Converge the autoscaler at a key in the served version, or delete it where none is wanted. -/
def ensureAutoscaler (version : AutoscalingVersion) (key : Key)
    (desired : Option (Resource (.autoscaler .v2))) : StoreProgram (Option Outcome) := do
  match desired with
  | none =>
    delete (.autoscaler version) key
    pure none
  | some a =>
    let outcome ← match version with
      | .v2 => convergeTo a
      | .v2beta2 => convergeTo (toV2beta2 a)
      | .v2beta1 => convergeTo (toV2beta1 a)
    pure (some outcome)

end GatewayOperator
