import GatewayOperator.Http.Exchange
import GatewayOperator.Lease.Acquire

/-!
# A lease behind HTTP

The requests of a replica as exchanges with an API server.
-/

namespace GatewayOperator

/-- The leases of a namespace. -/
def leaseCollection (ns : String) : String :=
  "/apis/coordination.k8s.io/v1/namespaces/" ++ ns ++ "/leases"

/-- A lease in an answer. -/
def readLease (j : Json) : Except String Lease := (Lease.read j).mapError Shape.Mismatch.message

/-- The lease of a namespace, over HTTP. -/
def remoteLease {σ : Type} (ns : String) (clock : σ → Instant) (exchange : HttpWorld σ) :
    Program.World leaseInterface σ
  | .now, s => (.ok (clock s), s)
  | .get, s =>
    let (a, s) := exchange { method := .get, target := leaseCollection ns ++ "/" ++ leaseName } s
    match a.readAs readLease with
    | .ok lease => (.ok (some lease), s)
    | .error (.refused status) =>
      if status.reason = "NotFound" then (.ok none, s) else (.error (.refused status), s)
    | .error f => (.error f, s)
  | .create lease, s =>
    let (a, s) := exchange
      { method := .post, target := leaseCollection ns, body := some lease.toJson } s
    ((a.readAs readLease).map fun _ => (), s)
  | .patch change, s =>
    let (a, s) := exchange
      { method := .patch, target := leaseCollection ns ++ "/" ++ leaseName,
        body := some change.toJson } s
    ((a.readAs readLease).map fun _ => (), s)

end GatewayOperator
