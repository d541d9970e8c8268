import GatewayOperator.Store.Request

/-!
# A server in memory

`Server` answers store requests as an API server does, as far as the operator relies on it: every
write gives the object the next resource version, an update that carries an old version is refused,
an update leaves the status alone and a status update leaves everything else alone, and an object
with finalizers is only marked when it is deleted and goes with its last finalizer.
-/

namespace GatewayOperator

/-- What a write does. -/
inductive WriteOp where
  | create
  | update
  | updateStatus
  | delete
  deriving DecidableEq, Repr

/-- A write as the server records it. -/
structure Write where
  kind : String
  key : Key
  op : WriteOp
  deriving DecidableEq, Repr

/-- The objects of a server and how it came to them. -/
structure Server where
  objects : List AnyResource := []
  /-- the resource version given last -/
  version : Nat := 0
  writes : List Write := []
  /-- kinds, by name, whose creations and updates are refused -/
  rejected : List String := []
  /-- the time that deletions are marked with -/
  clock : String := "1970-01-01T00:00:00Z"

/-- An object as one of a kind, if it is. -/
def AnyResource.as? (a : AnyResource) (k : Kind) : Option (Resource k) :=
  if h : a.1 = k then some (h ▸ a.2) else none

/-- Whether an object is the one of a kind at a key. -/
def AnyResource.isAt (a : AnyResource) (k : Kind) (key : Key) : Bool := a.1 == k && a.2.key == key

namespace Server

/-! ## Objects -/

/-- The object of a kind at a key. -/
def find? (s : Server) (k : Kind) (key : Key) : Option (Resource k) :=
  (s.objects.find? fun a => a.isAt k key).bind fun a => a.as? k

/-- The objects of a kind. -/
def all (s : Server) (k : Kind) : List (Resource k) := s.objects.filterMap fun a => a.as? k

/-- The objects without the one of a kind at a key. -/
def without (s : Server) (k : Kind) (key : Key) : List AnyResource :=
  s.objects.filter fun a => !a.isAt k key

/-- Replace the first object that satisfies a test, or add one at the end. -/
def replaceFirst (p : AnyResource → Bool) (a : AnyResource) : List AnyResource → List AnyResource
  | [] => [a]
  | b :: rest => if p b then a :: rest else b :: replaceFirst p a rest

/-- Keep an object at a key. -/
def put {k : Kind} (s : Server) (key : Key) (r : Resource k) : Server :=
  { s with objects := replaceFirst (fun a => a.isAt k key) ⟨k, r⟩ s.objects }

/-- An object with a resource version. -/
def withVersion {k : Kind} (r : Resource k) (version : Nat) : Resource k :=
  r.withMetadata fun m => { m with resourceVersion := some (toString version) }

/-- The uid that goes with a version. -/
def uidOf (version : Nat) : String := "uid-" ++ toString version

/-- Note a write. -/
def record (s : Server) (k : Kind) (key : Key) (op : WriteOp) : Server :=
  { s with writes := s.writes ++ [⟨k.name, key, op⟩] }

/-- Keep an object as a user would apply it: no write is recorded. -/
def insert {k : Kind} (s : Server) (r : Resource k) : Resource k × Server :=
  let version := s.version + 1
  let stored := (withVersion r version).withMetadata fun m =>
    { m with uid := some (m.uid.getD (uidOf version)) }
  (stored, { s with version := version }.put r.key stored)

/-! ## Refusals -/

def notFound (key : Key) : Failure :=
  .api (.refused ⟨"Failure", key.text ++ " not found", "NotFound", 404⟩)

def writesRejected (k : Kind) : Failure :=
  .api (.refused ⟨"Failure", "writes to " ++ k.name ++ " are rejected", "InternalError", 500⟩)

def rejects (s : Server) (k : Kind) : Bool := s.rejected.contains k.name

/-- Whether an object carries another resource version than the stored one. -/
def isStale {k : Kind} (r stored : Resource k) : Bool :=
  r.metadata.resourceVersion.isSome &&
    r.metadata.resourceVersion != stored.metadata.resourceVersion

/-! ## Requests -/

def create {k : Kind} (s : Server) (r : Resource k) : Except Failure (Resource k) × Server :=
  if s.rejects k then (.error (writesRejected k), s)
  else if (s.find? k r.key).isSome then (.error (.alreadyExists k.name r.key.text), s)
  else
    let version := s.version + 1
    let stored := (withVersion r version).withMetadata fun m =>
      { m with uid := some (uidOf version) }
    (.ok stored, ({ s with version := version }.put r.key stored).record k r.key .create)

/-- What an update stores: the object with the stored status, and still marked if it was marked. -/
def merged {k : Kind} (r stored : Resource k) : Resource k :=
  (r.withStatusOf stored).withMetadata fun m =>
    { m with deletionTimestamp := stored.metadata.deletionTimestamp <|> m.deletionTimestamp }

def update {k : Kind} (s : Server) (r : Resource k) : Except Failure (Resource k) × Server :=
  if s.rejects k then (.error (writesRejected k), s)
  else
    match s.find? k r.key with
    | none => (.error (notFound r.key), s)
    | some stored =>
      if isStale r stored then (.error (.conflict k.name r.key.text), s)
      else
        let next := merged r stored
        let s := s.record k r.key .update
        if next.metadata.isBeingDeleted && !next.metadata.hasFinalizers then
          (.ok next, { s with objects := s.without k r.key })
        else
          let next := withVersion next (s.version + 1)
          (.ok next, { s with version := s.version + 1 }.put r.key next)

def updateStatus {k : Kind} (s : Server) (r : Resource k) : Except Failure (Resource k) × Server :=
  match s.find? k r.key with
  | none => (.error (notFound r.key), s)
  | some stored =>
    if isStale r stored then (.error (.conflict k.name r.key.text), s)
    else
      let next := withVersion (stored.withStatusOf r) (s.version + 1)
      (.ok next, ({ s with version := s.version + 1 }.put r.key next).record k r.key .updateStatus)

def delete (s : Server) (k : Kind) (key : Key) : Except Failure Unit × Server :=
  match s.find? k key with
  | none => (.ok (), s)
  | some stored =>
    let s := s.record k key .delete
    if stored.metadata.hasFinalizers then
      let marked := (withVersion stored (s.version + 1)).withMetadata fun m =>
        { m with deletionTimestamp := some s.clock }
      (.ok (), { s with version := s.version + 1 }.put key marked)
    else (.ok (), { s with objects := s.without k key })

/-- Answer a request. -/
def world : Program.World storeInterface Server
  | .get k key, s => (.ok (s.find? k key), s)
  | .create _ r, s => s.create r
  | .update _ r, s => s.update r
  | .updateStatus _ r, s => s.updateStatus r
  | .delete k key, s => s.delete k key

end Server

end GatewayOperator
