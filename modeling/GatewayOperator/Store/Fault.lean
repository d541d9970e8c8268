import GatewayOperator.Store.Server

/-!
# Faults in front of a store

A `Fault` makes some of the calls to a store fail or find what is not there. Each call is offered to
the first fault that matches it and has calls left; a fault lets its first calls pass.
-/

namespace GatewayOperator

/-- The calls that a fault hits. -/
inductive CallName where
  | get
  | create
  | update
  | updateStatus
  | delete
  deriving DecidableEq, Repr

/-- The name of a request's call. -/
def StoreRequest.call : StoreRequest → CallName
  | .get _ _ => .get
  | .create _ _ => .create
  | .update _ _ => .update
  | .updateStatus _ _ => .updateStatus
  | .delete _ _ => .delete

/-- What happens to a call. -/
inductive FaultAction where
  /-- a read finds nothing -/
  | hide
  /-- a read finds this object -/
  | serve (object : Option AnyResource)
  | exists
  | conflict
  | error (status : ApiStatus)

/-- A fault: of the matching calls the first `pass` go through and the next `hits` are hit. -/
structure Fault where
  call : CallName
  kind : Kind
  action : FaultAction
  pass : Nat := 0
  hits : Nat := 1

namespace Fault

/-- Whether a request is offered to the fault. -/
def takes (f : Fault) (q : StoreRequest) : Bool :=
  f.call == q.call && f.kind == q.kind && 0 < f.pass + f.hits

/-- The fault after one call. -/
def spend (f : Fault) : Fault :=
  if 0 < f.pass then { f with pass := f.pass - 1 } else { f with hits := f.hits - 1 }

/-- The answer of a hit call; nothing where the action does not concern it. -/
def answer? (a : FaultAction) : (q : StoreRequest) → Option (Except Failure q.Answer)
  | .get k key =>
    match a with
    | .hide => some (.ok none)
    | .serve object => some (.ok (object.bind fun o => o.as? k))
    | .exists => some (.error (.alreadyExists k.name key.text))
    | .conflict => some (.error (.conflict k.name key.text))
    | .error status => some (.error (.api (.refused status)))
  | q =>
    match a with
    | .exists => some (.error (.alreadyExists q.kind.name q.key.text))
    | .conflict => some (.error (.conflict q.kind.name q.key.text))
    | .error status => some (.error (.api (.refused status)))
    | _ => none

/-- Offer a request to the faults in order: the action of the one that hits it, and the faults
afterwards. -/
def offer (q : StoreRequest) : List Fault → Option FaultAction × List Fault
  | [] => (none, [])
  | f :: rest =>
    if f.takes q then (if 0 < f.pass then none else some f.action, f.spend :: rest)
    else
      let (a, rest) := offer q rest
      (a, f :: rest)

end Fault

/-- A server behind faults. -/
structure FaultyServer where
  server : Server := {}
  faults : List Fault := []

namespace FaultyServer

/-- Answer a request, unless a fault does. -/
def world : Program.World storeInterface FaultyServer
  | q, s =>
    let (action, faults) := Fault.offer q s.faults
    match action.bind fun a => Fault.answer? a q with
    | some r => (r, { s with faults := faults })
    | none =>
      let (r, server) := Server.world q s.server
      (r, ⟨server, faults⟩)

end FaultyServer

end GatewayOperator
