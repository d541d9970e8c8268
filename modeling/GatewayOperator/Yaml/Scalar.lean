import GatewayOperator.Json.Reader

/-!
# Plain scalars

What an unquoted word of a YAML document stands for: nothing, a boolean, an integer, a double or a
text. `Scalar.resolve` decides it; the writer quotes exactly the texts that would be taken for
something else.
-/

namespace GatewayOperator

namespace Yaml

/-- What a plain scalar stands for. -/
inductive Scalar where
  | null
  | bool (b : Bool)
  | int (n : Int)
  | float (x : Binary64)
  | text
  deriving DecidableEq

namespace Scalar

def isNullWord (s : String) : Bool := ["null", "Null", "NULL", "~"].contains s

def boolWord? (s : String) : Option Bool :=
  if ["true", "True", "TRUE"].contains s then some true
  else if ["false", "False", "FALSE"].contains s then some false
  else none

/-- The value of a digit in some base. -/
def digitOf? (base : Nat) (c : Char) : Option Nat :=
  match Json.hexValue? c with
  | some n => if n < base then some n else none
  | none => none

/-- A number of one digit or more. -/
def naturalOf? (base : Nat) (cs : List Char) : Option Nat :=
  if cs.isEmpty then none
  else
    cs.foldl (fun acc c => acc.bind fun n => (digitOf? base c).map fun d => n * base + d) (some 0)

/-- A sign in front: whether it is a minus, and what follows. -/
def splitSign : List Char → Option Bool × List Char
  | '-' :: rest => (some true, rest)
  | '+' :: rest => (some false, rest)
  | cs => (none, cs)

/-- Digits after an optional base mark. -/
def based? (cs : List Char) : Option Nat :=
  match cs with
  | '0' :: 'x' :: rest => naturalOf? 16 rest
  | '0' :: 'o' :: rest => naturalOf? 8 rest
  | '0' :: 'b' :: rest => naturalOf? 2 rest
  | cs => naturalOf? 10 cs

/-- Digits with a leading zero, which are a text. -/
def isPaddedDigits (cs : List Char) : Bool :=
  match (splitSign cs).2 with
  | '0' :: rest => !rest.isEmpty && rest.all Char.isDigit
  | _ => false

/-- An integer of at most 128 bits. -/
def integer? (cs : List Char) : Option Int :=
  if isPaddedDigits cs then none
  else
    let (sign, rest) := splitSign cs
    match based? rest with
    | none => none
    | some n =>
      if sign = some true then if n ≤ Nat.pow 2 127 then some (-(n : Int)) else none
      else if n < Nat.pow 2 128 then some n else none

/-- A decimal number: digits with a point among or beside them, and an exponent. -/
def decimal? (negative : Bool) (cs : List Char) : Option Binary64 :=
  let whole := cs.takeWhile Char.isDigit
  let rest := cs.dropWhile Char.isDigit
  let (fraction, rest) := match rest with
    | '.' :: rest => (rest.takeWhile Char.isDigit, rest.dropWhile Char.isDigit)
    | rest => ([], rest)
  let digits := whole ++ fraction
  if digits.isEmpty then none
  else
    match Json.exponent? rest with
    | some (e, []) =>
      let m := digits.foldl (fun acc c => acc * 10 + Json.digitValue c) 0
      let x := Binary64.ofDecimal negative m (e - (fraction.length : Int))
      if x.isFinite then some x else none
    | _ => none

/-- The infinities and the number that is none. -/
def special? (s : String) : Option Binary64 :=
  if [".inf", ".Inf", ".INF", "+.inf", "+.Inf", "+.INF"].contains s then
    some ⟨0x7ff0000000000000⟩
  else if ["-.inf", "-.Inf", "-.INF"].contains s then some ⟨0xfff0000000000000⟩
  else if [".nan", ".NaN", ".NAN"].contains s then some ⟨0x7ff8000000000000⟩
  else none

/-- A double, also one with leading zeros. -/
def double? (s : String) : Option Binary64 :=
  match special? s with
  | some x => some x
  | none =>
    let (sign, rest) := splitSign s.toList
    decimal? (sign = some true) rest

/-- What a plain scalar stands for. -/
def resolve (s : String) : Scalar :=
  if s = "" || isNullWord s then .null
  else
    match boolWord? s with
    | some b => .bool b
    | none =>
      match integer? s.toList with
      | some n => .int n
      | none =>
        match double? s with
        | some x => if isPaddedDigits s.toList then .text else .float x
        | none => .text

end Scalar

end Yaml

end GatewayOperator
