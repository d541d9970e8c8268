import GatewayOperator.Json.Value
import GatewayOperator.Text.Quoted

/-!
# Shapes of stored values

A `Shape` says which JSON values a field of an API type takes. A record names its type, so shapes
may refer to themselves; the fields of a type are in the tables beside this module. `Mismatch` is
the reason why a value does not fit, with the wording of `Mismatch.message`.
-/

namespace GatewayOperator

/-- Which values a field takes. -/
inductive Shape where
  /-- any text -/
  | text
  /-- one given text -/
  | exactly (value : String)
  | flag
  | int32
  | int64
  | number
  /-- a 32-bit integer or a text -/
  | intOrText
  /-- an instant in whole seconds -/
  | time
  /-- an instant in microseconds -/
  | microTime
  /-- bytes in base64 text -/
  | bytes
  /-- any value -/
  | any
  | list (item : Shape)
  | dict (value : Shape)
  /-- an object with the fields of a named type -/
  | record (type : String)
  /-- a flag, or a record -/
  | flagOr (type : String)
  /-- a list of records, or one record -/
  | oneOrMore (type : String)
  /-- a list of texts, or a record -/
  | textsOr (type : String)

namespace Shape

/-- A field of an API type; a required one is always written, with its zero if it is unset. -/
structure Field where
  name : String
  shape : Shape
  zero : Option Json

/-- A field that may be unset. -/
def opt (name : String) (shape : Shape) : Field := ⟨name, shape, none⟩

/-- A required field. -/
def req (name : String) (shape : Shape) (zero : Json) : Field := ⟨name, shape, some zero⟩

/-- A required text. -/
def reqText (name : String) : Field := req name .text (.str "")

/-- A required list. -/
def reqList (name : String) (item : Shape) : Field := req name (.list item) (.arr [])

/-- A required 32-bit integer. -/
def reqInt (name : String) : Field := req name .int32 (.int 0)

/-- An object of empty texts. -/
def zeroTexts (names : List String) : Json := .obj (names.map fun n => (n, .str ""))

/-- A required record whose own required fields are texts. -/
def reqRecord (name type : String) (texts : List String) : Field :=
  req name (.record type) (zeroTexts texts)

/-- A type and its fields. -/
abbrev Types := List (String × List Field)

/-! ## Mismatches -/

/-- Why a value does not fit: its type, or a value of the right type. -/
structure Mismatch where
  found : Json
  expected : String
  ofType : Bool

/-- What was found, in the words of a message. -/
def describe : Json → String
  | .null => "unit value"
  | .bool b => s!"boolean `{b}`"
  | .int n => s!"integer `{n}`"
  | .float x =>
    if x.isFinite then s!"floating point `{x.write Binary64.messageStyle}`"
    else if x.isNegative then "floating point `-inf`"
    else "floating point `inf`"
  | .str s => "string " ++ Quoted.encode s
  | .arr _ => "sequence"
  | .obj _ => "map"

/-- The message of a mismatch. -/
def Mismatch.message (m : Mismatch) : String :=
  (if m.ofType then "invalid type: " else "invalid value: ") ++ describe m.found ++ ", expected " ++
    m.expected

/-- A value of a wrong type. -/
def wrongType {α : Type} (found : Json) (expected : String) : Except Mismatch α :=
  .error ⟨found, expected, true⟩

/-- A wrong value of the right type. -/
def wrongValue {α : Type} (found : Json) (expected : String) : Except Mismatch α :=
  .error ⟨found, expected, false⟩

end Shape

end GatewayOperator
