import GatewayOperator.Failure
import GatewayOperator.Text.Quoted

/-!
# Messages

The texts that report failures.
-/

namespace GatewayOperator

/-- A refusal in words, its fields at the end. -/
def ApiStatus.text (s : ApiStatus) : String :=
  "ApiError: " ++ s.message ++ ": " ++ s.reason ++ " (ErrorResponse \x7b status: " ++
    Quoted.encode s.status ++ ", message: " ++ Quoted.encode s.message ++ ", reason: " ++
    Quoted.encode s.reason ++ ", code: " ++ toString s.code ++ " \x7d)"

/-- A failed exchange in words. -/
def ApiFailure.text : ApiFailure → String
  | .refused status => status.text
  | .noName =>
    "Failed to build request: failed to validate request: A non-empty name is required"
  | .unreadable reason => "Error deserializing response: " ++ reason

/-- A failure in words; what does not read or write has none of its own. -/
def Failure.message : Failure → String
  | .api f => "Kubernetes API error: " ++ f.text
  | .alreadyExists kind key => kind ++ " " ++ key ++ " already exists"
  | .conflict kind key => kind ++ " " ++ key ++ " was modified concurrently"
  | .validation m => "Validation error: " ++ m
  | .identityChanged kind source target =>
    "Mutation changed identity of " ++ kind ++ ": " ++ source ++ " -> " ++ target
  | .serialization => "Serialization error"
  | .io m => "IO error: " ++ m
  | .config m => "Configuration error: " ++ m

end GatewayOperator
