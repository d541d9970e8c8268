import GatewayOperator.Json.Value

/-!
# Containment of JSON values

`Json.contains current desired` asks whether everything set in `desired` holds in `current`: what a
server fills in on its own does not count as a difference. A field whose desired value is empty may
be missing, since a server omits empty fields. Like `Json.same` it compares values in their
canonical form.
-/

namespace GatewayOperator

namespace Json

/-- Values that a server omits when it stores an object. -/
def isEmptyValue : Json → Bool
  | .null => true
  | .arr items => items.isEmpty
  | .obj fields => fields.isEmpty
  | _ => false

mutual

/-- Containment of canonical values. -/
def containsCanonical : (current desired : Json) → Bool
  | .obj cs, .obj ws => containsFields cs ws
  | .arr cs, .arr ws => containsItems cs ws
  | c, w => sameScalar c w

def containsItems : (current desired : List Json) → Bool
  | [], [] => true
  | c :: cs, w :: ws => containsCanonical c w && containsItems cs ws
  | _, _ => false

def containsFields : (current desired : Fields) → Bool
  | _, [] => true
  | cs, (k, w) :: ws =>
    (match Fields.get? cs k with
      | some c => containsCanonical c w
      | none => w.isEmptyValue) &&
    containsFields cs ws

end

/-- Whether every value set in `desired` is present and equal in `current`. -/
def contains (current desired : Json) : Bool :=
  containsCanonical current.canonical desired.canonical

end Json

end GatewayOperator
