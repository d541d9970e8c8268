import GatewayOperator.Remote.Client
import GatewayOperator.Store.Fault

/-!
# An API server in memory

`ApiServer` is a store behind its HTTP interface: it keeps what arrives and when, and answers
failures by their status codes, from which the client makes the failures of a store again. A kind
that is not installed is answered with 404.
-/

namespace GatewayOperator

/-- A request with the second at which it arrived. -/
structure Arrival where
  time : Nat
  request : HttpRequest

structure ApiServer where
  store : FaultyServer := {}
  /-- the kinds that are not installed -/
  missing : List Kind := []
  /-- seconds since the start -/
  time : Nat := 0
  arrivals : List Arrival := []

/-- What was not found. -/
def ApiStatus.notFound : ApiStatus := ⟨"Failure", "not found", "NotFound", 404⟩

/-- How a server answers a failure of its store. -/
def Failure.toApi : Failure → ApiFailure
  | .api f => f
  | .alreadyExists kind key =>
    .refused ⟨"Failure", (Failure.alreadyExists kind key).message, "AlreadyExists", 409⟩
  | .conflict kind key =>
    .refused ⟨"Failure", (Failure.conflict kind key).message, "Conflict", 409⟩
  | f => .refused { message := f.message, reason := "InternalError" }

/-- The request as it reads from its path: the key names the namespace of the path. -/
def StoreRequest.arrived (home : String) :
    (q : StoreRequest) → { p : StoreRequest // p.Answer = q.Answer }
  | .get k key => ⟨.get k ⟨k.scope home key, key.name⟩, rfl⟩
  | .delete k key => ⟨.delete k ⟨k.scope home key, key.name⟩, rfl⟩
  | q => ⟨q, rfl⟩

namespace ApiServer

/-- The namespace of clients that have no other. -/
def home : String := "default"

/-- Note a request. -/
def note (s : ApiServer) (h : HttpRequest) : ApiServer :=
  { s with arrivals := s.arrivals ++ [⟨s.time, h⟩] }

/-- Answer a request that arrived. -/
def answer (q : StoreRequest) (s : ApiServer) : Except ApiFailure q.Answer × ApiServer :=
  if s.missing.contains q.kind then (.error (.refused .notFound), s)
  else
    let p := q.arrived home
    let (r, store) := FaultyServer.world p.1 s.store
    (r.mapError Failure.toApi |>.map (cast p.2), { s with store := store })

/-- The server as a client's store. -/
def world : Program.World storeInterface ApiServer
  | q, s =>
    match q.toHttp home with
    | .error f => (q.conclude (.error f), s)
    | .ok h =>
      let (r, s) := answer q (s.note h)
      (q.conclude r, s)

/-- Let time pass. -/
def waitUntil (time : Nat) (s : ApiServer) : ApiServer := { s with time := time }

end ApiServer

end GatewayOperator
