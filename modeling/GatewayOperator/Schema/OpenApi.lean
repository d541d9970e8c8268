import GatewayOperator.Json.Value
import GatewayOperator.Schema.Field

/-!
# Schemas

The OpenAPI schema of a field: its type, the default of a field that is always written, and the
fields of a record by name. A description of the field wins over that of its record.
-/

namespace GatewayOperator

namespace Schema

mutual

/-- The value of a field that nothing was said about. -/
def zero : FieldType → Json
  | .text => .str ""
  | .flag => .bool false
  | .int32 => .int 0
  | .int64 => .int 0
  | .fragment _ => .null
  | .list _ => .arr []
  | .dict _ => .obj []
  | .optional _ => .null
  | .record _ fields => .obj (Json.Fields.ascending (zeros fields))

/-- The fields of a record that are written in any case. -/
def zeros : List (FieldInfo × FieldType) → Json.Fields
  | [] => []
  | (info, type) :: rest =>
    (if info.presence = .whenSet then [] else [(info.name, zero type)]) ++ zeros rest

end

/-- The required fields in the order of their names. -/
def requiredNames (fields : Fields) : List String :=
  ((fields.filter fun f => f.1.presence = .required).map fun f => f.1.name).mergeSort
    fun a b => a ≤ b

/-- The names of required fields, if there are any. -/
def requiredField (names : List String) : Json.Fields :=
  match names with
  | [] => []
  | names => [("required", .arr (names.map Json.str))]

/-- A description in place of one that is there already. -/
def describe (description : Option String) (fields : Json.Fields) : Json.Fields :=
  match description with
  | some d => ("description", .str d) :: fields.without "description"
  | none => fields

mutual

/-- The schema of a type, by the names of its parts. -/
def schemaOf : FieldType → Json.Fields
  | .text => [("type", .str "string")]
  | .flag => [("type", .str "boolean")]
  | .int32 => [("format", .str "int32"), ("type", .str "integer")]
  | .int64 => [("format", .str "int64"), ("type", .str "integer")]
  | .fragment _ => []
  | .list item => [("items", .obj (Json.Fields.ascending (schemaOf item))), ("type", .str "array")]
  | .dict value =>
    [("additionalProperties", .obj (Json.Fields.ascending (schemaOf value))),
     ("type", .str "object")]
  | .optional inner => ("nullable", .bool true) :: schemaOf inner
  | .record description fields =>
    describe description
      ([("properties", .obj (Json.Fields.ascending (propertiesOf fields)))] ++
        requiredField (requiredNames fields) ++ [("type", .str "object")])

/-- The schemas of a record's fields. -/
def propertiesOf : List (FieldInfo × FieldType) → Json.Fields
  | [] => []
  | (info, type) :: rest =>
    let own := describe info.description (schemaOf type)
    let withDefault :=
      if info.presence = .always then ("default", zero type) :: own else own
    (info.name, .obj (Json.Fields.ascending withDefault)) :: propertiesOf rest

end

/-- The schema of a type. -/
def openApi (type : FieldType) : Json := .obj (Json.Fields.ascending (schemaOf type))

end Schema

end GatewayOperator
