import GatewayOperator.Failure
import GatewayOperator.Schema.Tables
import GatewayOperator.Settings.Controller
import GatewayOperator.Settings.Gateway
import GatewayOperator.Shape.Yaml

/-!
# Specifications in YAML

`Schema.readText` reads a specification from the only document of a YAML text. A record's own fields
are read as their types ask: a text field takes any scalar as it is written. The fields that a
record takes over from another one are read from values, where a number is no text. No field may be
given twice.
-/

namespace GatewayOperator

namespace Schema

open Yaml (Document Node Reading Value)

/-! ## From values -/

/-- Put a field before the others, unless it is there already. -/
def addField (name : String) (j : Json) (rest : Json.Fields) : Option Json.Fields :=
  if (Json.Fields.get? rest name).isSome then none else some ((name, j) :: rest)

/-- The name that a key stands for: itself, or that of the field at its place. -/
def nameOfKey (fields : Fields) : Json → Option (Option String)
  | .str k => some (some k)
  | .int n => if 0 ≤ n then some ((names fields)[n.toNat]?) else none
  | _ => none

mutual

/-- The field's JSON from a value. -/
def readValue : FieldType → Value → Option Json
  | .text, .scalar (.str s) => some (.str s)
  | .flag, .scalar (.bool b) => some (.bool b)
  | .int32, .scalar (.int n) => some (.int n)
  | .int64, .scalar (.int n) => some (.int n)
  | .fragment shape, v => (Shape.readYaml false shape v).toOption
  | .list item, .list items => (items.mapM (readValue item)).map .arr
  | .dict value, .mapping entries =>
    (entries.mapM fun ((k, v) : Json × Value) =>
      k.text?.bind fun name => (readValue value v).map fun j => (name, j)).map fun fs =>
        .obj (Json.Fields.ascending fs)
  | .optional _, .scalar .null => some .null
  | .optional inner, v => readValue inner v
  | .record _ fields, .mapping entries =>
    (entries.foldr (fun e acc =>
      match acc, nameOfKey fields e.1 with
      | some rest, some (some name) =>
        match readNamed fields name e.2 with
        | some (some j) => addField name j rest
        | some none => some rest
        | none => none
      | some rest, some none => some rest
      | _, _ => none) (some [])).map .obj
  | .record _ fields, .list items => (readPlaced fields items).map .obj
  | _, _ => none

/-- The value of the field of a name: nothing, if no field has it. -/
def readNamed : List (FieldInfo × FieldType) → String → Value → Option (Option Json)
  | [], _, _ => some none
  | (info, type) :: rest, name, v =>
    if info.name = name then (readValue type v).map some else readNamed rest name v

/-- The values of the first fields in their order. -/
def readPlaced : List (FieldInfo × FieldType) → List Value → Option Json.Fields
  | _, [] => some []
  | [], _ :: _ => none
  | (info, type) :: rest, v :: vs =>
    (readValue type v).bind fun j => (readPlaced rest vs).map fun fs => (info.name, j) :: fs

end

/-! ## From nodes -/

/-- The text of a scalar as it is written. -/
def readRaw (d : Document) (n : Node) : Reading String := do
  match ← d.follow n with
  | .scalar _ text _ => pure text
  | _ => failure

/-- The text of a scalar that may stand for a value of some type: a plain one, or a literal one with
the type's tag. -/
def readWord (d : Document) (type : String) (n : Node) : Reading String := do
  match ← d.follow n with
  | .scalar tag text form =>
    if form = .plain || (form = .literal && tag = some (Yaml.coreTag type)) then pure text
    else failure
  | _ => failure

/-- Whether a node is a plain scalar without a character, which stands for anything empty. -/
def isBlank : Node → Bool
  | .scalar _ text form => text = "" && form = .plain
  | _ => false

/-- Whether a node stands for an unset value; a tag for null asks for a null. -/
def isUnset : Node → Option Bool
  | .scalar tag text .plain =>
    if tag = some (Yaml.coreTag "null") then
      if Yaml.Scalar.isNullWord text then some true else none
    else some (tag.isNone && (text = "" || Yaml.Scalar.isNullWord text))
  | _ => some false

/-- A result that may be missing, as a step of reading. -/
def orFail {α : Type} (a : Option α) : Reading α :=
  match a with
  | some a => pure a
  | none => failure

mutual

/-- The field's JSON from a node within `depth` levels of lists and mappings. -/
def readNode (d : Document) : FieldType → (depth : Nat) → Node → Reading Json
  | .text, _, n => do
    let s ← readRaw d n
    pure (.str s)
  | .flag, _, n => do
    let s ← readWord d "bool" n
    let b ← orFail (Yaml.Scalar.boolWord? s)
    pure (.bool b)
  | .int32, _, n => do
    let s ← readWord d "int" n
    let i ← orFail (Yaml.Scalar.integer? s.toList)
    pure (.int i)
  | .int64, _, n => do
    let s ← readWord d "int" n
    let i ← orFail (Yaml.Scalar.integer? s.toList)
    pure (.int i)
  | .fragment shape, depth, n => do
    let v ← d.valueOf false depth n
    orFail (Shape.readYaml false shape v).toOption
  | .list item, depth, n => do
    let n ← d.follow n
    match n with
    | .list _ items => do
      let js ← items.mapM (readNode d item (depth - 1))
      pure (.arr js)
    | n => if isBlank n then pure (.arr []) else failure
  | .dict value, depth, n => do
    let n ← d.follow n
    match n with
    | .mapping _ entries => do
      let fs ← entries.mapM fun e => do
        let k ← readRaw d e.1
        let j ← readNode d value (depth - 1) e.2
        pure (k, j)
      pure (.obj (Json.Fields.ascending fs))
    | n => if isBlank n then pure (.obj []) else failure
  | .optional inner, depth, n => do
    let n ← d.follow n
    let unset ← orFail (isUnset n)
    if unset then pure .null else readNode d inner depth n
  | .record _ fields, depth, n => do
    let n ← d.follow n
    match n with
    | .mapping _ entries => do
      let fs ← entries.foldlM (fun before e => do
        let name ← readRaw d e.1
        match ← readOwn d fields (hasShared fields) name (depth - 1) e.2 with
        | some j => orFail (addField name j before)
        | none => pure before) []
      pure (.obj fs)
    | .list _ items =>
      if hasShared fields then failure
      else do
        let fs ← readOrdered d fields (depth - 1) items
        pure (.obj fs)
    | n => if isBlank n then pure (.obj []) else failure

/-- The value of the field of a name; a shared field, or one that nobody has, is read from its value
if the record takes fields over. -/
def readOwn (d : Document) : List (FieldInfo × FieldType) → (hasShared : Bool) → (name : String) →
    (depth : Nat) → Node → Reading (Option Json)
  | [], hasShared, _, depth, n => do
    if hasShared then
      let _ ← d.valueOf false depth n
    pure none
  | (info, type) :: rest, hasShared, name, depth, n =>
    if info.name = name then
      if info.isShared then do
        let v ← d.valueOf false depth n
        let j ← orFail (readValue type v)
        pure (some j)
      else do
        let j ← readNode d type depth n
        pure (some j)
    else readOwn d rest hasShared name depth n

/-- The values of the first fields in their order. -/
def readOrdered (d : Document) :
    List (FieldInfo × FieldType) → (depth : Nat) → List Node → Reading Json.Fields
  | _, _, [] => pure []
  | [], _, _ :: _ => failure
  | (info, type) :: rest, depth, n :: ns => do
    let j ← readNode d type depth n
    let fs ← readOrdered d rest depth ns
    pure ((info.name, j) :: fs)

end

/-! ## Specifications -/

/-- The JSON of a specification in a document; a void document says nothing. -/
def readDocument (fields : Fields) (d : Document) : Option Json :=
  match d.root with
  | none => some (.obj [])
  | some root => (readNode d (.record none fields) Yaml.depthLimit root).run' d.aliasLimit

/-- The specification of a YAML text with one document. -/
def readText {Spec : Type} [Wire Spec] (fields : Fields) (text : String) : Except Failure Spec :=
  match Document.ofText text with
  | [.ok d] =>
    match (readDocument fields d).bind Wire.decode with
    | some spec => .ok spec
    | none => .error .serialization
  | _ => .error .serialization

end Schema

/-- The desired state of a gateway in YAML. -/
def GatewaySpec.ofYaml (text : String) : Except Failure GatewaySpec :=
  Schema.readText Schema.gatewayFields text

/-- The desired state of a controller in YAML. -/
def ControllerSpec.ofYaml (text : String) : Except Failure ControllerSpec :=
  Schema.readText Schema.controllerFields text

end GatewayOperator
