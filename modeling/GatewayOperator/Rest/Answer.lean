import GatewayOperator.Http.Exchange
import GatewayOperator.Remote.Client

/-!
# The operator's own HTTP interface

What the operator answers about itself and about the desired states of the cluster.
-/

namespace GatewayOperator

/-- The version of the operator. -/
def operatorVersion : String := "0.1.0"

/-- An answer with a JSON body. -/
structure RestAnswer where
  status : Nat
  body : Json
  deriving DecidableEq

/-- A desired state in a list. -/
structure ComponentSummary where
  name : String
  ns : String
  deployed : Bool
  deleting : Bool
  deriving DecidableEq, Repr

namespace ComponentSummary

/-- The summary of a desired state with its reported status. -/
def of (m : Metadata) (status : Option ComponentStatus) : ComponentSummary where
  name := m.anyName
  ns := m.nsOrEmpty
  deployed := (status.map (·.deployed)).getD false
  deleting := m.isBeingDeleted

def toJson (s : ComponentSummary) : Json :=
  .obj [("name", .str s.name), ("namespace", .str s.ns), ("deployed", .bool s.deployed),
    ("deleting", .bool s.deleting)]

end ComponentSummary

/-- The operator is alive. -/
def healthBody : Json := .obj [("status", .str "healthy"), ("version", .str operatorVersion)]

/-- Whether this replica leads. -/
def readyAnswer (leads : Bool) : RestAnswer where
  status := if leads then 200 else 503
  body := .obj [("ready", .bool leads), ("leader", .bool leads)]

/-! ## Lists of desired states -/

/-- The request for all objects of a kind. -/
def listRequest (k : Kind) : HttpRequest := { method := .get, target := k.everywhere }

/-- The objects of a list, if all of them read. -/
def readObjects (k : Kind) : List Json → Except String (List (Resource k))
  | [] => .ok []
  | j :: js => do
    let r ← StoreRequest.readObject k j
    let rs ← readObjects k js
    pure (r :: rs)

/-- A list names its version and kind; its items may be unset. -/
def readList (k : Kind) (j : Json) : Except String (List (Resource k)) :=
  match j.textAt? "apiVersion", j.textAt? "kind", j.field? "items" with
  | some _, some _, some (.arr items) => readObjects k items
  | some _, some _, some .null => .ok []
  | _, _, _ => .error "not a list"

/-- The list of desired states with their number. -/
def listBody (items : List ComponentSummary) : Json :=
  .obj [("items", .arr (items.map ComponentSummary.toJson)), ("total", .int items.length)]

/-- The list that an answer of the API server makes, or why there is none. -/
def listAnswer (k : Kind) (status : Resource k → Option ComponentStatus) (a : HttpAnswer) :
    RestAnswer :=
  match a.readAs (readList k) with
  | .ok rs => ⟨200, listBody (rs.map fun r => .of r.metadata (status r))⟩
  | .error f => ⟨500, .obj [("error", .str "list_failed"), ("message", .str f.text)]⟩

end GatewayOperator
