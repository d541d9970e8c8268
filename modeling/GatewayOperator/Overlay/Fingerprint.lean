import GatewayOperator.Digest.Sha256
import GatewayOperator.Json.Contains
import GatewayOperator.Overlay.OwnedKeys

/-!
# Fingerprints

A body that the server completes with defaults of its own cannot be compared field by field with the
one that was rendered. Its fingerprint, kept in an annotation, tells whether the rendered body is a
new one; containment tells whether somebody changed the live one.
-/

namespace GatewayOperator

/-- The digest of a rendered body. -/
def fingerprint (body : Json) : String := Sha256.hex body.compact

/-- The fingerprint recorded on an object. -/
def Metadata.fingerprint? (m : Metadata) : Option String :=
  m.annotations.bind fun a => a.get? fingerprintAnnotation

/-- The metadata with the fingerprint of a body. -/
def Metadata.stamp (m : Metadata) (body : Json) : Metadata :=
  { m with
    annotations := some ((m.annotations.getD ∅).insert fingerprintAnnotation (fingerprint body)) }

/-- Whether a live body has to be written again: another one was rendered before, or something that
is rendered is not there. -/
def needsUpdate (m : Metadata) (current desired : Json) : Bool :=
  m.fingerprint? ≠ some (fingerprint desired) || !current.contains desired

end GatewayOperator
