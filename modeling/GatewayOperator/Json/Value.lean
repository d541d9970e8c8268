import GatewayOperator.Binary64

/-!
# JSON values

A value keeps integers and doubles apart, and an object keeps its fields in the order in which they
are written. `Json.canonical` is the form in which values are stored and compared: the fields
ascending by key, the last of each key. `Json.same` is equality of values.
-/

namespace GatewayOperator

/-- A JSON value; the fields of an object are in writing order. -/
inductive Json where
  | null
  | bool (b : Bool)
  | int (n : Int)
  | float (x : Binary64)
  | str (s : String)
  | arr (items : List Json)
  | obj (fields : List (String × Json))

namespace Json

instance : Inhabited Json := ⟨.null⟩

/-- The fields of an object by name. -/
abbrev Fields := List (String × Json)

/-! ## Structural equality -/

mutual

/-- Whether two values are written alike. -/
def decEq : (a b : Json) → Decidable (a = b)
  | .null, .null => isTrue rfl
  | .bool a, .bool b => decidable_of_iff (a = b) (by simp)
  | .int a, .int b => decidable_of_iff (a = b) (by simp)
  | .float a, .float b => decidable_of_iff (a = b) (by simp)
  | .str a, .str b => decidable_of_iff (a = b) (by simp)
  | .arr as, .arr bs =>
    match decEqItems as bs with
    | isTrue h => isTrue (by rw [h])
    | isFalse h => isFalse (by simpa using h)
  | .obj as, .obj bs =>
    match decEqFields as bs with
    | isTrue h => isTrue (by rw [h])
    | isFalse h => isFalse (by simpa using h)
  | .null, .bool _ | .null, .int _ | .null, .float _ | .null, .str _ | .null, .arr _ | .null, .obj _
  | .bool _, .null | .bool _, .int _ | .bool _, .float _ | .bool _, .str _ | .bool _, .arr _
  | .bool _, .obj _ | .int _, .null | .int _, .bool _ | .int _, .float _ | .int _, .str _
  | .int _, .arr _ | .int _, .obj _ | .float _, .null | .float _, .bool _ | .float _, .int _
  | .float _, .str _ | .float _, .arr _ | .float _, .obj _ | .str _, .null | .str _, .bool _
  | .str _, .int _ | .str _, .float _ | .str _, .arr _ | .str _, .obj _ | .arr _, .null
  | .arr _, .bool _ | .arr _, .int _ | .arr _, .float _ | .arr _, .str _ | .arr _, .obj _
  | .obj _, .null | .obj _, .bool _ | .obj _, .int _ | .obj _, .float _ | .obj _, .str _
  | .obj _, .arr _ => isFalse (by simp)

def decEqItems : (as bs : List Json) → Decidable (as = bs)
  | [], [] => isTrue rfl
  | [], _ :: _ | _ :: _, [] => isFalse (by simp)
  | a :: as, b :: bs =>
    match decEq a b, decEqItems as bs with
    | isTrue h, isTrue hs => isTrue (by rw [h, hs])
    | isFalse h, _ => isFalse (by simp [h])
    | _, isFalse hs => isFalse (by simp [hs])

def decEqFields : (as bs : Fields) → Decidable (as = bs)
  | [], [] => isTrue rfl
  | [], _ :: _ | _ :: _, [] => isFalse (by simp)
  | (k, a) :: as, (j, b) :: bs =>
    match decEq a b, decEqFields as bs with
    | isTrue h, isTrue hs =>
      if hk : k = j then isTrue (by rw [hk, h, hs]) else isFalse (by simp [hk])
    | isFalse h, _ => isFalse (by simp [h])
    | _, isFalse hs => isFalse (by simp [hs])

end

instance : DecidableEq Json := decEq

/-! ## Fields -/

/-- The first value under a name. -/
def Fields.get? (fields : Fields) (name : String) : Option Json :=
  match fields with
  | [] => none
  | (k, v) :: rest => if k = name then some v else Fields.get? rest name

/-- Put a field at its place among ascending ones, over an earlier one of its name. -/
def Fields.place (name : String) (value : Json) : Fields → Fields
  | [] => [(name, value)]
  | (k, v) :: rest =>
    if name < k then (name, value) :: (k, v) :: rest
    else if name = k then (name, value) :: rest
    else (k, v) :: Fields.place name value rest

/-- The fields ascending by name, the last of each name. -/
def Fields.ascending (fields : Fields) : Fields :=
  fields.foldl (fun acc f => Fields.place f.1 f.2 acc) []

/-- Drop the fields of a name. -/
def Fields.without (fields : Fields) (name : String) : Fields :=
  fields.filter (·.1 ≠ name)

/-- The field of an object; nothing of any other value. -/
def field? (j : Json) (name : String) : Option Json :=
  match j with
  | .obj fields => Fields.get? fields name
  | _ => none

/-- The fields of an object; none of any other value. -/
def fields (j : Json) : Fields :=
  match j with
  | .obj fs => fs
  | _ => []

/-- The items of an array; none of any other value. -/
def items (j : Json) : List Json :=
  match j with
  | .arr xs => xs
  | _ => []

def text? : Json → Option String
  | .str s => some s
  | _ => none

def int? : Json → Option Int
  | .int n => some n
  | _ => none

def bool? : Json → Option Bool
  | .bool b => some b
  | _ => none

def isNull : Json → Bool
  | .null => true
  | _ => false

/-- A text, unless it is unset. -/
def ofText? (name : String) (s : Option String) : Fields :=
  match s with
  | some s => [(name, .str s)]
  | none => []

/-- A field that is left out when it is unset. -/
def optional (name : String) (value : Option Json) : Fields :=
  match value with
  | some v => [(name, v)]
  | none => []

/-- A list of texts. -/
def texts (xs : List String) : Json := .arr (xs.map .str)

/-! ## Canonical form -/

mutual

/-- The value with the fields of every object ascending by name. -/
def canonical : Json → Json
  | .arr items => .arr (canonicalItems items)
  | .obj fields => .obj (Fields.ascending (canonicalFields fields))
  | .null => .null
  | .bool b => .bool b
  | .int n => .int n
  | .float x => .float x
  | .str s => .str s

def canonicalItems : List Json → List Json
  | [] => []
  | x :: xs => canonical x :: canonicalItems xs

def canonicalFields : Fields → Fields
  | [] => []
  | (k, v) :: rest => (k, canonical v) :: canonicalFields rest

end

/-! ## Equality of values -/

/-- Equality of values that hold no other values; an integer is never a double. -/
def sameScalar : Json → Json → Bool
  | .null, .null => true
  | .bool a, .bool b => a == b
  | .int a, .int b => a == b
  | .float a, .float b => a.sameValue b
  | .str a, .str b => a == b
  | _, _ => false

mutual

/-- Equality of canonical values. -/
def sameCanonical : Json → Json → Bool
  | .arr as, .arr bs => sameItems as bs
  | .obj as, .obj bs => sameFields as bs
  | a, b => sameScalar a b

def sameItems : List Json → List Json → Bool
  | [], [] => true
  | a :: as, b :: bs => sameCanonical a b && sameItems as bs
  | _, _ => false

def sameFields : Fields → Fields → Bool
  | [], [] => true
  | (k, a) :: as, (j, b) :: bs => k == j && sameCanonical a b && sameFields as bs
  | _, _ => false

end

/-- Equality of values: the order of fields does not matter. -/
def same (a b : Json) : Bool := sameCanonical a.canonical b.canonical

mutual

theorem sameCanonical_self : (a : Json) → sameCanonical a a = true
  | .arr as => by rw [sameCanonical]; exact sameItems_self as
  | .obj as => by rw [sameCanonical]; exact sameFields_self as
  | .null => rfl
  | .bool b => by simp [sameCanonical, sameScalar]
  | .int n => by simp [sameCanonical, sameScalar]
  | .float x => by simp [sameCanonical, sameScalar]
  | .str s => by simp [sameCanonical, sameScalar]

theorem sameItems_self : (as : List Json) → sameItems as as = true
  | [] => rfl
  | a :: as => by simp [sameItems, sameCanonical_self a, sameItems_self as]

theorem sameFields_self : (as : Fields) → sameFields as as = true
  | [] => rfl
  | (_, a) :: as => by simp [sameFields, sameCanonical_self a, sameFields_self as]

end

@[simp] theorem same_self (a : Json) : a.same a = true := sameCanonical_self _

end Json

end GatewayOperator
