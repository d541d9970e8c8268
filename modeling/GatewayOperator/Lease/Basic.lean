import GatewayOperator.Instant
import GatewayOperator.Metadata

/-!
# Leases

A lease names the replica that may write and the time at which it last said so. A holder that has
not renewed its lease for the lease's duration has lost it. A lease is only changed by a patch that
names the version it was decided on, so that of two replicas that decide at once one is refused.
-/

namespace GatewayOperator

/-- What a lease says. -/
structure LeaseSpec where
  acquireTime : Option Instant := none
  holderIdentity : Option String := none
  leaseDurationSeconds : Option Int32 := none
  leaseTransitions : Option Int32 := none
  renewTime : Option Instant := none
  deriving DecidableEq, Repr, Inhabited

structure Lease where
  metadata : Metadata
  spec : Option LeaseSpec := none
  deriving DecidableEq

/-- A change of a lease by merging. -/
structure LeasePatch where
  /-- the version that the change was decided on -/
  version : Option String
  renewTime : Instant
  /-- the new holder, where another one is replaced -/
  holder : Option String := none
  deriving DecidableEq, Repr

/-- The name of the lease that replicas share. -/
def leaseName : String := "higress-operator-leader"

/-- How long a lease holds without being renewed, in seconds. -/
def leaseDuration : Int32 := 15

def microTime (t : Instant) : Json := .str t.toMicros

namespace LeaseSpec

/-- The specification as JSON, its fields ascending by name. -/
def toJson (s : LeaseSpec) : Json :=
  .obj (Json.optional "acquireTime" (s.acquireTime.map microTime) ++
    Json.ofText? "holderIdentity" s.holderIdentity ++
    Json.optional "leaseDurationSeconds" (s.leaseDurationSeconds.map Json.ofInt32) ++
    Json.optional "leaseTransitions" (s.leaseTransitions.map Json.ofInt32) ++
    Json.optional "renewTime" (s.renewTime.map microTime))

/-- The specification of a value that has its shape; instants keep all of their digits. -/
def ofJson (j : Json) : LeaseSpec where
  acquireTime := (j.textAt? "acquireTime").bind Instant.parse?
  holderIdentity := j.textAt? "holderIdentity"
  leaseDurationSeconds := j.int32At? "leaseDurationSeconds"
  leaseTransitions := j.int32At? "leaseTransitions"
  renewTime := (j.textAt? "renewTime").bind Instant.parse?

/-- The specification that a value reads as. -/
def read (j : Json) : Except Shape.Mismatch LeaseSpec :=
  (Shape.read (.record "LeaseSpec") j).map fun _ => ofJson j

/-- Whether the holder has let the lease run out; a lease that was never renewed has. -/
def isExpired (s : LeaseSpec) (now : Instant) : Bool :=
  match s.renewTime with
  | none => true
  | some renewed =>
    (renewed.addSeconds (s.leaseDurationSeconds.getD leaseDuration).toInt).isBefore now

end LeaseSpec

namespace Lease

/-- The lease as JSON. -/
def toJson (l : Lease) : Json :=
  .obj ([("apiVersion", .str "coordination.k8s.io/v1"), ("kind", .str "Lease"),
    ("metadata", l.metadata.toJson)] ++ Json.optional "spec" (l.spec.map LeaseSpec.toJson))

/-- The lease that a value reads as. -/
def read (j : Json) : Except Shape.Mismatch Lease :=
  (Shape.read (.record "Lease") j).map fun n => {
    metadata := Metadata.ofJson ((n.field? "metadata").getD .null)
    spec := (n.field? "spec").map fun _ => LeaseSpec.ofJson ((j.field? "spec").getD .null) }

/-- The replica that holds the lease. -/
def holder? (l : Lease) : Option String := l.spec.bind (·.holderIdentity)

/-- Whether the holder has let the lease run out. -/
def isExpired (l : Lease) (now : Instant) : Bool :=
  match l.spec with
  | none => true
  | some s => s.isExpired now

/-- The first lease of a namespace. -/
def first (ns holder : String) (now : Instant) : Lease where
  metadata := .ofKey (.inNamespace ns leaseName)
  spec := some {
    acquireTime := some now
    holderIdentity := some holder
    leaseDurationSeconds := some leaseDuration
    renewTime := some now }

/-- The holder's renewal. -/
def renewal (l : Lease) (now : Instant) : LeasePatch :=
  { version := l.metadata.resourceVersion, renewTime := now }

/-- The replacement of a holder. -/
def takeover (l : Lease) (holder : String) (now : Instant) : LeasePatch :=
  { version := l.metadata.resourceVersion, renewTime := now, holder := some holder }

end Lease

namespace LeasePatch

/-- The patch as JSON; without a version it is sent as one that is unset. -/
def toJson (p : LeasePatch) : Json :=
  .obj [("metadata", .obj [("resourceVersion", (p.version.map Json.str).getD .null)]),
    ("spec", .obj (
      Json.optional "acquireTime" (p.holder.map fun _ => microTime p.renewTime) ++
      Json.ofText? "holderIdentity" p.holder ++
      [("leaseDurationSeconds", Json.ofInt32 leaseDuration),
        ("renewTime", microTime p.renewTime)]))]

end LeasePatch

end GatewayOperator
