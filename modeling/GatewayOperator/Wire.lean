import GatewayOperator.Json.Access
import GatewayOperator.Shape.Read

/-!
# Values on the wire

`Wire α` says how a value of the desired state is written as JSON and read from it. Reading is
strict in types and lenient in fields: a field may be missing where its type has a default, an
unknown field is passed over, and a record may also be given as a list of its fields in their order.
`null` stands for an unset value only where a field may be unset.
-/

namespace GatewayOperator

/-- Values that are written as JSON and read from it. -/
class Wire (α : Type) where
  encode : α → Json
  decode : Json → Option α

namespace Wire

/-- A field that is always written. -/
def always {α : Type} [Wire α] (name : String) (a : α) : Json.Fields := [(name, encode a)]

/-- A field that is written when it is set. -/
def maybe {α : Type} [Wire α] (name : String) (a : Option α) : Json.Fields :=
  match a with
  | some a => [(name, encode a)]
  | none => []

/-- A text that is written when it has characters. -/
def unlessBlank (name : String) (s : String) : Json.Fields :=
  if s = "" then [] else [(name, .str s)]

/-- A list that is written when it has items. -/
def unlessNil {α : Type} [Wire (List α)] (name : String) (xs : List α) : Json.Fields :=
  match xs with
  | [] => []
  | x :: xs => [(name, encode (x :: xs))]

/-- A dictionary that is written when it has bindings. -/
def unlessEmpty {α : Type} [Wire (Dict α)] (name : String) (d : Dict α) : Json.Fields :=
  if d.isEmpty then [] else [(name, encode d)]

/-- A field with a default. -/
def orElse {α : Type} [Wire α] (fields : Json.Fields) (name : String) (default : α) : Option α :=
  match Json.Fields.get? fields name with
  | some v => decode v
  | none => some default

/-- A field that may be unset. -/
def orUnset {α : Type} [Wire α] (fields : Json.Fields) (name : String) : Option (Option α) :=
  match Json.Fields.get? fields name with
  | some .null => some none
  | some v => (decode v).map some
  | none => some none

/-- A field that has to be there. -/
def required {α : Type} [Wire α] (fields : Json.Fields) (name : String) : Option α :=
  (Json.Fields.get? fields name).bind decode

/-- The fields of a record, given by name or in their order. -/
def fieldsOf? (names : List String) : Json → Option Json.Fields
  | .obj fields => some fields
  | .arr items => if items.length ≤ names.length then some (names.zip items) else none
  | _ => none

/-- The fields of a record that is given by name only. -/
def namedFields? : Json → Option Json.Fields
  | .obj fields => some fields
  | _ => none

/-! ## Texts, numbers and collections -/

instance : Wire String := ⟨.str, Json.text?⟩

instance : Wire Bool := ⟨.bool, Json.bool?⟩

instance : Wire Int32 where
  encode n := .int n.toInt
  decode
    | .int n => if Shape.fitsSigned 32 n then some (Int32.ofInt n) else none
    | _ => none

instance : Wire Int64 where
  encode n := .int n.toInt
  decode
    | .int n => if Shape.fitsSigned 64 n then some (Int64.ofInt n) else none
    | _ => none

/-- The values of a list, if all of them read. -/
def decodeItems {α : Type} [Wire α] : List Json → Option (List α)
  | [] => some []
  | j :: js => (decode j).bind fun a => (decodeItems js).map (a :: ·)

instance {α : Type} [Wire α] : Wire (List α) where
  encode xs := .arr (xs.map encode)
  decode
    | .arr items => decodeItems items
    | _ => none

/-- The entries of a dictionary, if all of them read. -/
def decodeEntries {α : Type} [Wire α] : Json.Fields → Option (List (String × α))
  | [] => some []
  | (k, j) :: rest => (decode j).bind fun a => (decodeEntries rest).map ((k, a) :: ·)

instance {α : Type} [Wire α] : Wire (Dict α) where
  encode d := .obj (d.entries.map fun e => (e.1, encode e.2))
  decode
    | .obj fields => (decodeEntries fields).map Dict.ofList
    | _ => none

end Wire

/-! ## Values of other APIs -/

/-- A value of a named API type that is passed on as it is, in its normal form. -/
structure Fragment (type : String) where
  value : Json
  deriving DecidableEq

namespace Fragment

instance {type : String} : Inhabited (Fragment type) := ⟨⟨.obj []⟩⟩

instance {type : String} : Wire (Fragment type) where
  encode f := f.value
  decode j := (Shape.read (.record type) j).toOption.map fun v => ⟨v⟩

end Fragment

/-- A 32-bit integer or a text. -/
inductive IntOrText where
  | int (n : Int32)
  | text (s : String)
  deriving DecidableEq, Repr

namespace IntOrText

/-- The JSON value. -/
def toJson : IntOrText → Json
  | .int n => .int n.toInt
  | .text s => .str s

/-- The value of a JSON integer or text. -/
def ofJson? : Json → Option IntOrText
  | .int n => if Shape.fitsSigned 32 n then some (.int (Int32.ofInt n)) else none
  | .str s => some (.text s)
  | _ => none

instance : Wire IntOrText := ⟨toJson, ofJson?⟩

end IntOrText

end GatewayOperator
