/-!
# Failures

Why an operation of the operator fails, with the message that is reported and whether a further pass
may succeed without anybody's help.
-/

namespace GatewayOperator

/-- A refusal by the API server. -/
structure ApiStatus where
  status : String := "Failure"
  message : String := ""
  reason : String := ""
  code : Nat := 500
  deriving DecidableEq, Repr, Inhabited

/-- What goes wrong between the operator and the API server. -/
inductive ApiFailure where
  /-- the server refuses -/
  | refused (status : ApiStatus)
  /-- a request without a name, which is never sent -/
  | noName
  /-- an answer that does not read -/
  | unreadable (reason : String)
  deriving DecidableEq, Repr

/-- Why an operation fails. -/
inductive Failure where
  | api (failure : ApiFailure)
  | alreadyExists (kind key : String)
  | conflict (kind key : String)
  /-- input of a user that cannot converge until it is changed -/
  | validation (message : String)
  /-- a mutation that renames or moves its object -/
  | identityChanged (kind source target : String)
  /-- text that does not read or write -/
  | serialization
  | io (message : String)
  | config (message : String)
  deriving DecidableEq, Repr

namespace Failure

/-- The failure's short name. -/
def label : Failure → String
  | .api _ => "kube"
  | .alreadyExists _ _ => "already_exists"
  | .conflict _ _ => "conflict"
  | .validation _ => "validation"
  | .identityChanged _ _ _ => "contract"
  | .serialization => "serialization"
  | .io _ => "io"
  | .config _ => "config"

/-- Whether a fresh attempt may succeed without a change by a user. -/
def isRetriable : Failure → Bool
  | .api _ | .alreadyExists _ _ | .conflict _ _ | .io _ => true
  | .validation _ | .identityChanged _ _ _ | .serialization | .config _ => false

end Failure

end GatewayOperator
