import GatewayOperator.Json.Value

/-!
# Reading JSON text

`Json.parse?` reads one value and nothing after it. A number without fraction and exponent that fits
64 bits, signed or unsigned, is an integer; every other number is a double. A text may hold no lone
surrogate and no control character. An object keeps its fields as they are written, also repeated
ones: `Json.canonical` then keeps the last.
-/

namespace GatewayOperator

namespace Json

/-! ## Numbers -/

/-- The largest exponent of ten that a double holds exactly scaled. -/
def greatestPower : Nat := 308

/-- Scale a double by a power of ten, in steps of the greatest power downwards; nothing if the
result is too large. -/
def scale : (fuel : Nat) → Float → Int → Option Float
  | 0, x, _ => some x
  | fuel + 1, x, e =>
    if e.natAbs ≤ greatestPower then
      let p := Float.ofScientific 1 false e.natAbs
      if 0 ≤ e then
        let y := x * p
        if y.isInf then none else some y
      else some (x / p)
    else if x == 0 then some x
    else if 0 ≤ e then none
    else scale fuel (x / Float.ofScientific 1 false greatestPower) (e + greatestPower)

/-- The double of a written number: the significand is rounded first, then scaled. -/
def double? (negative : Bool) (significand : Nat) (exponent : Int) : Option Binary64 :=
  (scale 400 (Float.ofNat significand) exponent).map fun x =>
    Binary64.ofFloat (if negative then -x else x)

def digitValue (c : Char) : Nat := c.toNat - '0'.toNat

/-- The greatest unsigned word of 64 bits. -/
def wordMax : Nat := Nat.pow 2 64 - 1

/-- A significand of at most 64 bits read from digits: the digits past that are dropped, and their
number comes as the second part. -/
def significand (start : Nat) : List Char → Nat × Nat
  | [] => (start, 0)
  | c :: cs =>
    let next := start * 10 + digitValue c
    if next ≤ wordMax then significand next cs else (start, cs.length + 1)

/-- An exponent, capped at 32 bits; beyond that only its sign matters. -/
def exponentOf (negative : Bool) (ds : List Char) : Int :=
  let n := ds.foldl (fun acc c => acc * 10 + digitValue c) 0
  let n := min n (Nat.pow 2 31 - 1)
  if negative then -(n : Int) else n

/-- The exponent part of a number, if there is one. -/
def exponent? (cs : List Char) : Option (Int × List Char) :=
  match cs with
  | c :: rest =>
    if c = 'e' ∨ c = 'E' then
      let (negative, rest) := match rest with
        | '-' :: r => (true, r)
        | '+' :: r => (false, r)
        | r => (false, r)
      let ds := rest.takeWhile Char.isDigit
      if ds.isEmpty then none else some (exponentOf negative ds, rest.dropWhile Char.isDigit)
    else some (0, cs)
  | [] => some (0, [])

/-- A number without its sign. -/
def number? (negative : Bool) (cs : List Char) : Option (Json × List Char) :=
  let whole := cs.takeWhile Char.isDigit
  let rest := cs.dropWhile Char.isDigit
  if whole.isEmpty ∨ (whole.head? = some '0' ∧ 1 < whole.length) then none
  else
    let (sig, dropped) := significand 0 whole
    match rest with
    | '.' :: rest =>
      let fraction := rest.takeWhile Char.isDigit
      if fraction.isEmpty then none
      else
        let (sig', cut) := if dropped = 0 then significand sig fraction else (sig, fraction.length)
        let shift : Int := (dropped : Int) - ((fraction.length : Int) - cut)
        match exponent? (rest.dropWhile Char.isDigit) with
        | none => none
        | some (e, rest) => (double? negative sig' (shift + e)).map fun x => (.float x, rest)
    | rest =>
      match exponent? rest with
      | none => none
      | some (e, after) =>
        if after.length = rest.length ∧ dropped = 0 then
          if negative then
            if sig = 0 ∨ Nat.pow 2 63 < sig then
              (double? true sig 0).map fun x => (.float x, after)
            else some (.int (-(sig : Int)), after)
          else some (.int sig, after)
        else (double? negative sig ((dropped : Int) + e)).map fun x => (.float x, after)

/-! ## Texts -/

def hexValue? (c : Char) : Option Nat :=
  if '0' ≤ c ∧ c ≤ '9' then some (c.toNat - '0'.toNat)
  else if 'a' ≤ c ∧ c ≤ 'f' then some (c.toNat - 'a'.toNat + 10)
  else if 'A' ≤ c ∧ c ≤ 'F' then some (c.toNat - 'A'.toNat + 10)
  else none

/-- Four hexadecimal digits. -/
def hexQuad? : List Char → Option (Nat × List Char)
  | a :: b :: c :: d :: rest => do
    let a ← hexValue? a
    let b ← hexValue? b
    let c ← hexValue? c
    let d ← hexValue? d
    pure (((a * 16 + b) * 16 + c) * 16 + d, rest)
  | _ => none

/-- The character of an escape whose backslash is gone. -/
def escape? : List Char → Option (Char × List Char)
  | '"' :: rest => some ('"', rest)
  | '\\' :: rest => some ('\\', rest)
  | '/' :: rest => some ('/', rest)
  | 'b' :: rest => some ('\x08', rest)
  | 'f' :: rest => some ('\x0c', rest)
  | 'n' :: rest => some ('\n', rest)
  | 'r' :: rest => some ('\r', rest)
  | 't' :: rest => some ('\t', rest)
  | 'u' :: rest => do
    let (high, rest) ← hexQuad? rest
    if 0xd800 ≤ high ∧ high < 0xdc00 then
      match rest with
      | '\\' :: 'u' :: rest => do
        let (low, rest) ← hexQuad? rest
        if 0xdc00 ≤ low ∧ low < 0xe000 then
          pure (Char.ofNat (0x10000 + (high - 0xd800) * 0x400 + (low - 0xdc00)), rest)
        else none
      | _ => none
    else if 0xdc00 ≤ high ∧ high < 0xe000 then none
    else pure (Char.ofNat high, rest)
  | _ => none

/-- The rest of a quoted text, its characters collected in reverse. -/
def quoted? : (fuel : Nat) → List Char → List Char → Option (String × List Char)
  | 0, _, _ => none
  | _, _, [] => none
  | _, acc, '"' :: rest => some (String.ofList acc.reverse, rest)
  | fuel + 1, acc, '\\' :: rest =>
    match escape? rest with
    | some (c, rest) => quoted? fuel (c :: acc) rest
    | none => none
  | fuel + 1, acc, c :: rest => if c.toNat < 0x20 then none else quoted? fuel (c :: acc) rest

/-! ## Values -/

def isBlank (c : Char) : Bool := c = ' ' || c = '\n' || c = '\t' || c = '\r'

def skipBlanks (cs : List Char) : List Char := cs.dropWhile isBlank

/-- A literal at the front of the text. -/
def literal? (word : List Char) (value : Json) (cs : List Char) : Option (Json × List Char) :=
  if word.isPrefixOf cs then some (value, cs.drop word.length) else none

mutual

/-- One value at the front of the text. -/
def value? : (fuel : Nat) → List Char → Option (Json × List Char)
  | 0, _ => none
  | fuel + 1, cs =>
    match skipBlanks cs with
    | '"' :: rest => (quoted? (rest.length + 1) [] rest).map fun (s, rest) => (.str s, rest)
    | '[' :: rest =>
      match skipBlanks rest with
      | ']' :: rest => some (.arr [], rest)
      | rest => items? fuel [] rest
    | '{' :: rest =>
      match skipBlanks rest with
      | '}' :: rest => some (.obj [], rest)
      | rest => fields? fuel [] rest
    | '-' :: rest => number? true rest
    | 'n' :: rest => literal? ['u', 'l', 'l'] .null rest
    | 't' :: rest => literal? ['r', 'u', 'e'] (.bool true) rest
    | 'f' :: rest => literal? ['a', 'l', 's', 'e'] (.bool false) rest
    | rest => number? false rest

/-- The items of an array up to its bracket. -/
def items? : (fuel : Nat) → List Json → List Char → Option (Json × List Char)
  | 0, _, _ => none
  | fuel + 1, acc, cs =>
    match value? fuel cs with
    | none => none
    | some (v, rest) =>
      match skipBlanks rest with
      | ',' :: rest => items? fuel (v :: acc) rest
      | ']' :: rest => some (.arr (v :: acc).reverse, rest)
      | _ => none

/-- The fields of an object up to its brace. -/
def fields? : (fuel : Nat) → Fields → List Char → Option (Json × List Char)
  | 0, _, _ => none
  | fuel + 1, acc, cs =>
    match skipBlanks cs with
    | '"' :: rest =>
      match quoted? (rest.length + 1) [] rest with
      | none => none
      | some (k, rest) =>
        match skipBlanks rest with
        | ':' :: rest =>
          match value? fuel rest with
          | none => none
          | some (v, rest) =>
            match skipBlanks rest with
            | ',' :: rest => fields? fuel ((k, v) :: acc) rest
            | '}' :: rest => some (.obj ((k, v) :: acc).reverse, rest)
            | _ => none
        | _ => none
    | _ => none

end

/-- Read one value, with nothing but blanks after it; its fields are as written. -/
def parse? (text : String) : Option Json :=
  let cs := text.toList
  match value? (cs.length + 1) cs with
  | some (v, rest) => if (skipBlanks rest).isEmpty then some v else none
  | none => none

end Json

end GatewayOperator
