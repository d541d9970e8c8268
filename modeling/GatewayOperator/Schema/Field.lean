import GatewayOperator.Shape.Basic

/-!
# Fields of the desired state

A `FieldType` says what the values of a field are, and a record lists its fields in their order. The
same description serves to read a specification from YAML and to write the schema that the API
server checks it against. Some records take over the fields of another one, which are marked as
shared.
-/

namespace GatewayOperator

namespace Schema

/-- When a field is written. -/
inductive Presence where
  /-- always, with a default if nothing was said -/
  | always
  /-- only when it is set -/
  | whenSet
  /-- always, and it has to be given -/
  | required
  deriving DecidableEq, Repr

/-- A field but for its type. -/
structure FieldInfo where
  name : String
  presence : Presence
  description : Option String := none
  /-- whether the field belongs to a record that this one takes over -/
  isShared : Bool := false
  deriving DecidableEq, Repr

/-- What the values of a field are. -/
inductive FieldType where
  | text
  | flag
  | int32
  | int64
  /-- a value of another API -/
  | fragment (shape : Shape)
  | list (item : FieldType)
  | dict (value : FieldType)
  | optional (inner : FieldType)
  | record (description : Option String) (fields : List (FieldInfo × FieldType))

/-- The fields of a record in their order. -/
abbrev Fields := List (FieldInfo × FieldType)

/-! ## Describing records -/

/-- A field that is always written. -/
def always (name : String) (type : FieldType) (description : Option String := none) :
    FieldInfo × FieldType :=
  ({ name := name, presence := .always, description := description }, type)

/-- A field that is written when it is set. -/
def whenSet (name : String) (type : FieldType) (description : Option String := none) :
    FieldInfo × FieldType :=
  ({ name := name, presence := .whenSet, description := description }, type)

/-- A field that may be unset. -/
def maybe (name : String) (type : FieldType) (description : Option String := none) :
    FieldInfo × FieldType :=
  whenSet name (.optional type) description

/-- A field that has to be given. -/
def required (name : String) (type : FieldType) : FieldInfo × FieldType :=
  ({ name := name, presence := .required }, type)

/-- Fields as part of another record. -/
def shared (fields : Fields) : Fields := fields.map fun f => ({ f.1 with isShared := true }, f.2)

/-- The names of fields in their order. -/
def names (fields : Fields) : List String := fields.map fun f => f.1.name

/-- The field of a name. -/
def find? (fields : Fields) (name : String) : Option (FieldInfo × FieldType) :=
  fields.find? fun f => f.1.name == name

/-- Whether a record takes over fields of another one. -/
def hasShared (fields : Fields) : Bool := fields.any fun f => f.1.isShared

end Schema

end GatewayOperator
