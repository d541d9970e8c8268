import GatewayOperator.Json.Value

/-!
# JSON pointers

A pointer names a place in a value: a field of an object by its name, an item of a list by its
index. `Json.at?` reads a place and `Json.assign` writes it, making the objects on the way; an unset
value takes the place away.
-/

namespace GatewayOperator

namespace Json

/-- The steps of a pointer, `~1` read as a slash and `~0` as a tilde. -/
def pointerSteps (pointer : String) : List String :=
  match pointer.splitOn "/" with
  | _ :: steps => steps.map fun s => (s.replace "~1" "/").replace "~0" "~"
  | [] => []

/-- A step as an index of a list: decimal digits without leading zeros. -/
def indexOf? (step : String) : Option Nat :=
  if step.isEmpty || !step.all Char.isDigit then none
  else if step.length > 1 && step.startsWith "0" then none
  else step.toNat?

/-- The value one step down. -/
def child? (j : Json) (step : String) : Option Json :=
  match j with
  | .obj fields => Fields.get? fields step
  | .arr items => (indexOf? step).bind fun i => items[i]?
  | _ => none

/-- The value at the end of some steps. -/
def follow? (j : Json) : List String → Option Json
  | [] => some j
  | step :: steps => (j.child? step).bind fun c => c.follow? steps

/-- The value at a pointer. -/
def at? (j : Json) (pointer : String) : Option Json :=
  if pointer.isEmpty then some j
  else if pointer.startsWith "/" then j.follow? (pointerSteps pointer)
  else none

/-- Set a field where it stands, or at the end. -/
def Fields.set (name : String) (value : Json) : Fields → Fields
  | [] => [(name, value)]
  | (k, v) :: rest =>
    if k = name then (name, value) :: rest else (k, v) :: Fields.set name value rest

/-- Put a value at the end of some steps; what is no list on the way becomes an object. -/
def assignSteps (value : Json) : List String → Json → Json
  | [], _ => value
  | step :: steps, .arr items =>
    match indexOf? step with
    | some i => .arr (items.modify i (assignSteps value steps))
    | none => .arr items
  | step :: steps, .obj fields =>
    .obj (Fields.set step (assignSteps value steps ((Fields.get? fields step).getD .null)) fields)
  | step :: steps, _ => .obj [(step, assignSteps value steps .null)]

/-- Take away what stands at the end of some steps; the objects on the way are made. -/
def removeSteps : List String → Json → Json
  | [], j => j
  | [step], .arr items =>
    match indexOf? step with
    | some i => .arr (items.eraseIdx i)
    | none => .arr items
  | [step], .obj fields => .obj (Fields.without fields step)
  | [_], _ => .obj []
  | step :: steps, .arr items =>
    match indexOf? step with
    | some i => .arr (items.modify i (removeSteps steps))
    | none => .arr items
  | step :: steps, .obj fields =>
    .obj (Fields.set step (removeSteps steps ((Fields.get? fields step).getD .null)) fields)
  | step :: steps, _ => .obj [(step, removeSteps steps .null)]

/-- Write the place at a pointer; an unset value takes the place away. -/
def assign (j : Json) (pointer : String) (value : Json) : Json :=
  if value.isNull then removeSteps (pointerSteps pointer) j
  else assignSteps value (pointerSteps pointer) j

end Json

end GatewayOperator
