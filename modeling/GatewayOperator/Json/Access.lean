import GatewayOperator.Dict
import GatewayOperator.Json.Value

/-!
# Reading fields of a value

Total access to the fields of a value that already has its normal form: a field of another type
counts as unset.
-/

namespace GatewayOperator

namespace Json

/-- The entries of an object whose values a reader takes. -/
def dictOf {α : Type} (read : Json → Option α) (fields : Fields) : Dict α :=
  Dict.ofList (fields.filterMap fun f => (read f.2).map fun v => (f.1, v))

def textAt? (j : Json) (name : String) : Option String := (j.field? name).bind text?

def textAt (j : Json) (name : String) : String := (j.textAt? name).getD ""

def intAt? (j : Json) (name : String) : Option Int := (j.field? name).bind int?

def int32At? (j : Json) (name : String) : Option Int32 := (j.intAt? name).map Int32.ofInt

def int32At (j : Json) (name : String) : Int32 := (j.int32At? name).getD 0

def boolAt? (j : Json) (name : String) : Option Bool := (j.field? name).bind bool?

/-- The items of a list. -/
def itemsAt? (j : Json) (name : String) : Option (List Json) :=
  match j.field? name with
  | some (.arr items) => some items
  | _ => none

/-- A list of texts. -/
def textsAt? (j : Json) (name : String) : Option (List String) :=
  (j.itemsAt? name).map fun items => items.filterMap text?

/-- A dictionary of texts. -/
def dictAt? (j : Json) (name : String) : Option (Dict String) :=
  match j.field? name with
  | some (.obj fields) => some (dictOf text? fields)
  | _ => none

/-- A dictionary of texts as an object. -/
def ofDict (d : Dict String) : Json := .obj (d.entries.map fun e => (e.1, .str e.2))

def ofInt32 (n : Int32) : Json := .int n.toInt

/-- The fields of a value but for some. -/
def rest (j : Json) (names : List String) : Fields :=
  j.fields.filter fun f => !names.contains f.1

end Json

end GatewayOperator
