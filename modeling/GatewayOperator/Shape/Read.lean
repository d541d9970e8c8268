import GatewayOperator.Instant
import GatewayOperator.Text.Base64
import GatewayOperator.Shape.Meta
import GatewayOperator.Shape.Workload
import GatewayOperator.Shape.Volume
import GatewayOperator.Shape.Network
import GatewayOperator.Shape.Access
import GatewayOperator.Shape.Scaling
import GatewayOperator.Shape.Definition
import GatewayOperator.Shape.Object

/-!
# Reading values by their shape

`Shape.read` checks a value against a shape and gives its normal form: unknown fields are dropped,
an unset field is left out, a required one is written with its zero, the fields of a record ascend
by name and instants have one spelling. Fields are visited in the order of the text, so the first of
two mismatches is the one that is reported.
-/

namespace GatewayOperator

namespace Shape

/-- All types by name. -/
def types : Types :=
  metadataTypes ++ workloadTypes ++ volumeTypes ++ networkTypes ++ accessTypes ++ scalingTypes ++
    definitionTypes ++ objectTypes

/-- The fields of a type. -/
def fieldsOf (type : String) : List Field := (types.lookup type).getD []

/-- The field of a name. -/
def findField (fields : List Field) (name : String) : Option Field :=
  fields.find? fun f => f.name == name

/-- The required fields that are missing, with their zeros. -/
def missing (fields : List Field) (present : Json.Fields) : Json.Fields :=
  fields.filterMap fun f =>
    match f.zero, Json.Fields.get? present f.name with
    | some zero, none => some (f.name, zero)
    | _, _ => none

/-- A record's normal form from the fields that were read. -/
def complete (fields : List Field) (present : Json.Fields) : Json :=
  .obj (Json.Fields.ascending (present ++ missing fields present))

/-- What a shape takes, in the words of a message. -/
def expectation : Shape → String
  | .text => "a string"
  | .exactly _ => "a string"
  | .flag => "a boolean"
  | .int32 => "i32"
  | .int64 => "i64"
  | .number => "f64"
  | .intOrText => "enum IntOrString"
  | .time => "an RFC 3339 formatted date and time string"
  | .microTime => "an RFC 3339 formatted date and time string"
  | .bytes => "a base64-encoded string"
  | .any => "any value"
  | .list _ => "a sequence"
  | .dict _ => "a map"
  | .record type => type
  | .flagOr type => s!"enum {type}OrBool"
  | .oneOrMore type => s!"enum {type}OrArray"
  | .textsOr type => s!"enum {type}OrStringArray"

/-- Whether an integer fits `bits` bits with a sign. -/
def fitsSigned (bits : Nat) (n : Int) : Bool :=
  -(Nat.pow 2 (bits - 1) : Int) ≤ n && n < (Nat.pow 2 (bits - 1) : Int)

/-- An instant in one spelling. -/
def readInstant (write : Instant → String) (s : String) (expected : String) :
    Except Mismatch Json :=
  match Instant.parse? s with
  | some t => .ok (.str (write t))
  | none => wrongValue (.str s) expected

/-- A value that is neither a list nor an object. -/
def readScalar (shape : Shape) (v : Json) : Except Mismatch Json :=
  match shape, v with
  | .any, v => .ok v
  | .text, .str s => .ok (.str s)
  | .exactly value, .str s => if s = value then .ok (.str s) else wrongValue (.str s) value
  | .flag, .bool b => .ok (.bool b)
  | .flagOr _, .bool b => .ok (.bool b)
  | .int32, .int n => if fitsSigned 32 n then .ok (.int n) else wrongValue (.int n) "i32"
  | .int64, .int n => if fitsSigned 64 n then .ok (.int n) else wrongValue (.int n) "i64"
  | .number, .int n => .ok (.float (Binary64.ofInt n))
  | .number, .float x => .ok (.float x)
  | .intOrText, .int n =>
    if fitsSigned 32 n then .ok (.int n) else wrongValue (.int n) "a 32-bit integer"
  | .intOrText, .str s => .ok (.str s)
  | .time, .str s => readInstant Instant.toSeconds s (expectation .time)
  | .microTime, .str s => readInstant Instant.toMicros s (expectation .microTime)
  | .bytes, .str s =>
    if Base64.isValid s then .ok (.str s) else wrongValue (.str s) (expectation .bytes)
  | shape, v => wrongType v (expectation shape)

mutual

/-- The normal form of a value under a shape. -/
def read (shape : Shape) : Json → Except Mismatch Json
  | .arr items =>
    match shape with
    | .list item => (readItems item items).map .arr
    | .oneOrMore type => (readItems (.record type) items).map .arr
    | .textsOr _ => (readItems .text items).map .arr
    | .any => .ok (Json.canonical (.arr items))
    | shape => wrongType (.arr items) (expectation shape)
  | .obj fields =>
    match shape with
    | .dict value => (readEntries value fields).map fun fs => .obj (Json.Fields.ascending fs)
    | .record type =>
      let known := fieldsOf type
      (readFields known fields).map (complete known)
    | .flagOr type =>
      let known := fieldsOf type
      (readFields known fields).map (complete known)
    | .oneOrMore type =>
      let known := fieldsOf type
      (readFields known fields).map (complete known)
    | .textsOr type =>
      let known := fieldsOf type
      (readFields known fields).map (complete known)
    | .any => .ok (Json.canonical (.obj fields))
    | shape => wrongType (.obj fields) (expectation shape)
  | .null => readScalar shape .null
  | .bool b => readScalar shape (.bool b)
  | .int n => readScalar shape (.int n)
  | .float x => readScalar shape (.float x)
  | .str s => readScalar shape (.str s)

def readItems (item : Shape) : List Json → Except Mismatch (List Json)
  | [] => .ok []
  | v :: vs => do
    let v ← read item v
    let vs ← readItems item vs
    pure (v :: vs)

/-- The entries of a dictionary; none may be unset. -/
def readEntries (value : Shape) : Json.Fields → Except Mismatch Json.Fields
  | [] => .ok []
  | (k, v) :: rest => do
    let v ← read value v
    let rest ← readEntries value rest
    pure ((k, v) :: rest)

/-- The known fields of a record that are set. -/
def readFields (known : List Field) : Json.Fields → Except Mismatch Json.Fields
  | [] => .ok []
  | (k, v) :: rest =>
    match findField known k with
    | none => readFields known rest
    | some f =>
      match f.shape, v.isNull with
      | .exactly _, _ => do
        let v ← read f.shape v
        let rest ← readFields known rest
        pure ((k, v) :: rest)
      | _, true => readFields known rest
      | _, false => do
        let v ← read f.shape v
        let rest ← readFields known rest
        pure ((k, v) :: rest)

end

end Shape

end GatewayOperator
