import GatewayOperator.Yaml.Node
import GatewayOperator.Yaml.Scalar

/-!
# Values of nodes

`Document.valueOf` says what a node stands for: tags and plain words become nulls, booleans, numbers
and texts, and aliases the nodes that they name. Keys may be any values, so a mapping's keys are
kept as JSON. Nodes that are nested too deeply, and documents in which aliases multiply, have no
value.
-/

namespace GatewayOperator

namespace Yaml

/-- What a node stands for. -/
inductive Value where
  /-- a value that is neither a list nor a mapping -/
  | scalar (j : Json)
  | list (items : List Value)
  | mapping (entries : List (Json × Value))

namespace Value

instance : Inhabited Value := ⟨.scalar .null⟩

mutual

/-- The value as a key; a mapping as a list of pairs. -/
def toKey : Value → Json
  | .scalar j => j
  | .list items => .arr (toKeys items)
  | .mapping entries => .arr (toPairs entries)

def toKeys : List Value → List Json
  | [] => []
  | v :: vs => toKey v :: toKeys vs

def toPairs : List (Json × Value) → List Json
  | [] => []
  | (k, v) :: rest => .arr [k, toKey v] :: toPairs rest

end

mutual

/-- Whether no mapping has two entries with one key. -/
def hasDistinctKeys : Value → Bool
  | .scalar _ => true
  | .list items => itemsDistinct items
  | .mapping entries => entriesDistinct [] entries

def itemsDistinct : List Value → Bool
  | [] => true
  | v :: vs => hasDistinctKeys v && itemsDistinct vs

/-- The same for entries after some keys. -/
def entriesDistinct (seen : List Json) : List (Json × Value) → Bool
  | [] => true
  | (k, v) :: rest => !seen.contains k && hasDistinctKeys v && entriesDistinct (k :: seen) rest

end

/-- What a value is, as far as messages tell. -/
def sketch : Value → Json
  | .scalar j => j
  | .list _ => .arr []
  | .mapping _ => .obj []

end Value

/-! ## Scalars -/

/-- A tag of the core schema. -/
def coreTag (name : String) : String := "tag:yaml.org,2002:" ++ name

/-- Whether a tag has a meaning of the document's own. -/
def isLocalTag (tag : Option String) : Bool := tag.any fun t => t.toList.head? = some '!'

/-- An integer that fits 64 bits, with or without a sign. -/
def wordInteger? (n : Int) : Option Json :=
  if -(Nat.pow 2 63 : Int) ≤ n && n < (Nat.pow 2 64 : Int) then some (.int n) else none

/-- What an untagged plain scalar stands for. -/
def plainValue? (text : String) : Option Json :=
  match Scalar.resolve text with
  | .null => some .null
  | .bool b => some (.bool b)
  | .int n => wordInteger? n
  | .float x => some (.float x)
  | .text => some (.str text)

/-- What a scalar stands for. A core tag asks for a value of its type, and a local one says
nothing. -/
def scalarValue? (tag : Option String) (text : String) (form : Form) : Option Json :=
  if tag = some (coreTag "bool") then (Scalar.boolWord? text).map .bool
  else if tag = some (coreTag "int") then (Scalar.integer? text.toList).bind wordInteger?
  else if tag = some (coreTag "float") then (Scalar.double? text).map .float
  else if tag = some (coreTag "null") then (if Scalar.isNullWord text then some .null else none)
  else if form = .plain && (tag.isNone || isLocalTag tag) then plainValue? text
  else some (.str text)

/-! ## Nodes -/

/-- Reading the nodes of a document, with the number of aliases that may still be followed. -/
abbrev Reading := StateT Nat Option

/-- How deeply lists and mappings may be nested. -/
def depthLimit : Nat := 128

namespace Document

/-- How many aliases may be followed in all. -/
def aliasLimit (d : Document) : Nat := 100 * d.size

/-- A node, or what an alias stands for. -/
def follow (d : Document) : Node → Reading Node
  | .reference number => do
    match ← get with
    | 0 => failure
    | left + 1 =>
      set left
      match d.target? number with
      | some n => pure n
      | none => failure
  | n => pure n

/-- What a node stands for, with `depth` levels of lists and mappings at most. -/
def valueOf (d : Document) (allowsLocalTags : Bool) : (depth : Nat) → Node → Reading Value
  | 0, n => do
    match ← d.follow n with
    | .scalar tag text form => scalar allowsLocalTags tag text form
    | _ => failure
  | depth + 1, n => do
    match ← d.follow n with
    | .scalar tag text form => scalar allowsLocalTags tag text form
    | .list tag items =>
      if isLocalTag tag && !allowsLocalTags then failure
      let xs ← items.mapM (valueOf d allowsLocalTags depth)
      pure (.list xs)
    | .mapping tag entries =>
      if isLocalTag tag && !allowsLocalTags then failure
      let es ← entries.mapM fun e => do
        let k ← valueOf d allowsLocalTags depth e.1
        let v ← valueOf d allowsLocalTags depth e.2
        pure (k.toKey, v)
      pure (.mapping es)
    | .reference _ => failure
where
  scalar (allowsLocalTags : Bool) (tag : Option String) (text : String) (form : Form) :
      Reading Value :=
    if isLocalTag tag && !allowsLocalTags then failure
    else
      match scalarValue? tag text form with
      | some j => pure (.scalar j)
      | none => failure

/-- What a whole document stands for, if no mapping in it has a key twice. -/
def value? (d : Document) : Option Value :=
  match d.root with
  | none => some (.scalar .null)
  | some root =>
    ((d.valueOf true depthLimit root).run' d.aliasLimit).bind fun v =>
      if v.hasDistinctKeys then some v else none

end Document

end Yaml

end GatewayOperator
