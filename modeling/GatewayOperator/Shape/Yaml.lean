import GatewayOperator.Shape.Read
import GatewayOperator.Yaml.Value

/-!
# Reading YAML values by their shape

`Shape.readYaml` does for YAML values what `Shape.read` does for JSON: the result is the same normal
form. Here keys may be other values than texts, which fit nowhere. In a manifest a list or record
that is null is an empty one (`nullIsEmpty`).
-/

namespace GatewayOperator

namespace Shape

open Yaml (Value)

/-- The text of a key. -/
def keyText (key : Json) (expected : String) : Except Mismatch String :=
  match key with
  | .str k => .ok k
  | key => wrongType key expected

/-- A number that JSON has; of the others nothing is left. -/
def finite : Json → Json
  | .float x => if x.isFinite then .float x else .null
  | j => j

mutual

/-- The JSON value of a YAML value whose keys are texts. -/
def toJson : Value → Except Mismatch Json
  | .scalar j => .ok (finite j)
  | .list items => (toJsonItems items).map .arr
  | .mapping entries => (toJsonEntries entries).map fun fs => .obj (Json.Fields.ascending fs)

def toJsonItems : List Value → Except Mismatch (List Json)
  | [] => .ok []
  | v :: vs => do
    let j ← toJson v
    let js ← toJsonItems vs
    pure (j :: js)

def toJsonEntries : List (Json × Value) → Except Mismatch Json.Fields
  | [] => .ok []
  | (key, v) :: rest => do
    let k ← keyText key "a string key"
    let j ← toJson v
    let rest ← toJsonEntries rest
    pure ((k, j) :: rest)

end

/-- Whether a field takes one text only, and so no null. -/
def Field.isExact (f : Field) : Bool :=
  match f.shape with
  | .exactly _ => true
  | _ => false

/-- An empty list, dictionary or record, where the shape is one of these. -/
def emptyOf? : Shape → Option Json
  | .list _ => some (.arr [])
  | .dict _ => some (.obj [])
  | .record type => some (complete (fieldsOf type) [])
  | _ => none

/-- A value that is neither a list nor a mapping. -/
def readLeaf (nullIsEmpty : Bool) (shape : Shape) (j : Json) : Except Mismatch Json :=
  match shape, (if nullIsEmpty && j.isNull then emptyOf? shape else none) with
  | _, some empty => .ok empty
  | .any, none => .ok (finite j)
  | shape, none => readScalar shape j

mutual

/-- The normal form of a YAML value under a shape. -/
def readYaml (nullIsEmpty : Bool) (shape : Shape) : Value → Except Mismatch Json
  | .scalar j => readLeaf nullIsEmpty shape j
  | .list items =>
    match shape with
    | .list item => (readYamlItems nullIsEmpty item items).map .arr
    | .oneOrMore type => (readYamlItems nullIsEmpty (.record type) items).map .arr
    | .textsOr _ => (readYamlItems nullIsEmpty .text items).map .arr
    | .any => (toJsonItems items).map .arr
    | shape => wrongType (.arr []) (expectation shape)
  | .mapping entries =>
    match shape with
    | .dict value =>
      (readYamlEntries nullIsEmpty value entries).map fun fs => .obj (Json.Fields.ascending fs)
    | .record type | .flagOr type | .oneOrMore type | .textsOr type =>
      let known := fieldsOf type
      (readYamlFields nullIsEmpty known entries).map (complete known)
    | .any => (toJsonEntries entries).map fun fs => .obj (Json.Fields.ascending fs)
    | shape => wrongType (.obj []) (expectation shape)

def readYamlItems (nullIsEmpty : Bool) (item : Shape) : List Value → Except Mismatch (List Json)
  | [] => .ok []
  | v :: vs => do
    let v ← readYaml nullIsEmpty item v
    let vs ← readYamlItems nullIsEmpty item vs
    pure (v :: vs)

/-- The entries of a dictionary. -/
def readYamlEntries (nullIsEmpty : Bool) (value : Shape) :
    List (Json × Value) → Except Mismatch Json.Fields
  | [] => .ok []
  | (key, v) :: rest => do
    let k ← keyText key "a string"
    let v ← readYaml nullIsEmpty value v
    let rest ← readYamlEntries nullIsEmpty value rest
    pure ((k, v) :: rest)

/-- The known fields of a record that are set. -/
def readYamlFields (nullIsEmpty : Bool) (known : List Field) :
    List (Json × Value) → Except Mismatch Json.Fields
  | [] => .ok []
  | (key, v) :: rest => do
    let k ← keyText key "field identifier"
    match findField known k with
    | none => readYamlFields nullIsEmpty known rest
    | some f =>
      if v.sketch.isNull && !f.isExact then readYamlFields nullIsEmpty known rest
      else do
        let v ← readYaml nullIsEmpty f.shape v
        let rest ← readYamlFields nullIsEmpty known rest
        pure ((k, v) :: rest)

end

end Shape

end GatewayOperator
