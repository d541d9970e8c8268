import GatewayOperator.Http.Exchange
import GatewayOperator.Remote.Path
import GatewayOperator.Resource.Wire
import GatewayOperator.Store.Request

/-!
# A store behind HTTP

`remoteStore` answers the requests of a store by exchanges with an API server. An object is named in
the path, so that a request without a name is refused before it is sent; refusals become the
failures of a store: 409 means that a name is taken or that an object was changed.
-/

namespace GatewayOperator

/-! ## Failures -/

/-- A failed exchange about an object, as the failure of a store. -/
def ApiFailure.classify (k : Kind) (key : Key) : ApiFailure → Failure
  | .refused s =>
    if s.code = 409 ∧ s.reason = "AlreadyExists" then .alreadyExists k.name key.text
    else if s.code = 409 then .conflict k.name key.text
    else .api (.refused s)
  | f => .api f

/-- Whether a failed read means that there is no such object. -/
def ApiFailure.isAbsence : ApiFailure → Bool
  | .refused s => s.reason == "NotFound"
  | _ => false

/-- Whether a failed deletion means that there is no such object. -/
def ApiFailure.isGone : ApiFailure → Bool
  | .refused s => s.code == 404
  | _ => false

/-! ## Requests and answers -/

namespace StoreRequest

/-- A request for one object, unless it has no name. -/
def named (name : String) (q : HttpRequest) : Except ApiFailure HttpRequest :=
  if name = "" then .error .noName else .ok q

/-- The request as it is sent by a client with a namespace of its own. -/
def toHttp (home : String) : StoreRequest → Except ApiFailure HttpRequest
  | .get k key => named key.name { method := .get, target := k.objectPath home key key.name }
  | .create k r => .ok {
      method := .post
      target := k.collection home r.key
      body := some r.toJson }
  | .update k r => named r.metadata.anyName {
      method := .put
      target := k.objectPath home r.key r.metadata.anyName
      body := some r.toJson }
  | .updateStatus k r => named r.metadata.anyName {
      method := .put
      target := k.objectPath home r.key r.metadata.anyName ++ "/status"
      body := some r.toJson }
  | .delete k key => named key.name {
      method := .delete
      target := k.objectPath home key key.name
      body := some (.obj []) }

/-- An object in an answer. -/
def readObject (k : Kind) (j : Json) : Except String (Resource k) :=
  match Resource.decode? k j with
  | some r => .ok r
  | none => .error ("not a " ++ k.name)

/-- What a deletion is answered with: a status, or the object on its way. -/
def readDeleted (k : Kind) (j : Json) : Except String Unit :=
  if j.textAt? "kind" = some "Status" then .ok ()
  else (readObject k j).map fun _ => ()

/-- The result of an exchange for a store. -/
def conclude (q : StoreRequest) (r : Except ApiFailure q.Answer) : Except Failure q.Answer :=
  match q, r with
  | _, .ok a => .ok a
  | .get k key, .error f => if f.isAbsence then .ok none else .error (f.classify k key)
  | .delete k key, .error f => if f.isGone then .ok () else .error (f.classify k key)
  | q, .error f => .error (f.classify q.kind q.key)

/-- What an answer means for a request. -/
def ofHttp : (q : StoreRequest) → HttpAnswer → Except ApiFailure q.Answer
  | .get k _, a => (a.readAs (readObject k)).map some
  | .create k _, a => a.readAs (readObject k)
  | .update k _, a => a.readAs (readObject k)
  | .updateStatus k _, a => a.readAs (readObject k)
  | .delete k _, a => a.readAs (readDeleted k)

end StoreRequest

/-- A store whose requests go over HTTP. -/
def remoteStore {σ : Type} (home : String) (exchange : HttpWorld σ) :
    Program.World storeInterface σ
  | q, s =>
    match q.toHttp home with
    | .error f => (q.conclude (.error f), s)
    | .ok h =>
      let (a, s) := exchange h s
      (q.conclude (q.ofHttp a), s)

end GatewayOperator
