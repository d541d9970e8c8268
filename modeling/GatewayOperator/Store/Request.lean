import GatewayOperator.Failure
import GatewayOperator.Program
import GatewayOperator.Resource.Basic

/-!
# Requests to a store

Every step of a pass talks to the cluster through five requests. Absence is an answer of `get` and
no failure of `delete`; `create` fails on a name that is taken, `update` on an object that was
changed since it was read.
-/

namespace GatewayOperator

/-- What may be asked of a store. -/
inductive StoreRequest where
  | get (k : Kind) (key : Key)
  | create (k : Kind) (object : Resource k)
  /-- replace an object, its status excepted -/
  | update (k : Kind) (object : Resource k)
  /-- replace the status of an object -/
  | updateStatus (k : Kind) (object : Resource k)
  | delete (k : Kind) (key : Key)

namespace StoreRequest

/-- How a store answers. -/
abbrev Answer : StoreRequest → Type
  | .get k _ => Option (Resource k)
  | .create k _ => Resource k
  | .update k _ => Resource k
  | .updateStatus k _ => Resource k
  | .delete _ _ => Unit

/-- The kind that a request is about. -/
def kind : StoreRequest → Kind
  | .get k _ => k
  | .create k _ => k
  | .update k _ => k
  | .updateStatus k _ => k
  | .delete k _ => k

/-- The object that a request is about. -/
def key : StoreRequest → Key
  | .get _ key => key
  | .create _ r => r.key
  | .update _ r => r.key
  | .updateStatus _ r => r.key
  | .delete _ key => key

end StoreRequest

/-- A store as the world of a program. -/
abbrev storeInterface : Interface where
  Request := StoreRequest
  Answer := StoreRequest.Answer
  Failure := Failure

/-- A program that works on a store. -/
abbrev StoreProgram := Program storeInterface

namespace StoreProgram

/-- End with a failure. -/
def fail {α : Type} (f : Failure) : StoreProgram α := Program.fail f

def ofExcept {α : Type} (r : Except Failure α) : StoreProgram α := Program.ofExcept r

/-- The object at a key, if there is one. -/
def get (k : Kind) (key : Key) : StoreProgram (Option (Resource k)) :=
  Program.ask (I := storeInterface) (.get k key)

/-- Create an object. -/
def create {k : Kind} (r : Resource k) : StoreProgram (Resource k) :=
  Program.ask (I := storeInterface) (.create k r)

/-- Create an object and look at the failure. -/
def tryCreate {k : Kind} (r : Resource k) : StoreProgram (Except Failure (Resource k)) :=
  Program.attempt (I := storeInterface) (.create k r)

/-- Replace an object. -/
def update {k : Kind} (r : Resource k) : StoreProgram (Resource k) :=
  Program.ask (I := storeInterface) (.update k r)

/-- Replace an object's status. -/
def updateStatus {k : Kind} (r : Resource k) : StoreProgram (Resource k) :=
  Program.ask (I := storeInterface) (.updateStatus k r)

/-- Delete an object. -/
def delete (k : Kind) (key : Key) : StoreProgram Unit :=
  Program.ask (I := storeInterface) (.delete k key)

end StoreProgram

end GatewayOperator
