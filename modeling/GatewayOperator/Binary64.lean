/-!
# Doubles

`Binary64` is an IEEE double held as its bits, so that two of them can be told apart and compared
inside the logic. `sameValue` is equality of the numbers (the two zeros are one number);
`Binary64.digits` gives the shortest decimal that reads back, and a `DecimalStyle` says how such a
decimal is written.
-/

namespace GatewayOperator

/-- An IEEE double, by its bits. -/
structure Binary64 where
  bits : UInt64
  deriving DecidableEq, Repr

namespace Binary64

def ofFloat (x : Float) : Binary64 := ⟨x.toBits⟩

def toFloat (x : Binary64) : Float := Float.ofBits x.bits

/-- The double nearest to an integer. -/
def ofInt (n : Int) : Binary64 := ofFloat (Float.ofInt n)

/-- The double nearest to `mantissa * 10 ^ exponent`, negated on demand. -/
def ofDecimal (negative : Bool) (mantissa : Nat) (exponent : Int) : Binary64 :=
  let x := if 0 ≤ exponent then Float.ofScientific mantissa false exponent.toNat
    else Float.ofScientific mantissa true (-exponent).toNat
  ofFloat (if negative then -x else x)

def isNegative (x : Binary64) : Bool := x.bits >>> 63 == 1

/-- Whether the double is one of the two zeros. -/
def isZero (x : Binary64) : Bool := (x.bits <<< 1) == 0

/-- Neither infinite nor a NaN. -/
def isFinite (x : Binary64) : Bool := ((x.bits >>> 52) &&& 0x7ff) != 0x7ff

/-- Equality as numbers: zero has two spellings, every other finite number one. -/
def sameValue (x y : Binary64) : Bool := x == y || (x.isZero && y.isZero)

@[simp] theorem sameValue_self (x : Binary64) : x.sameValue x = true := by simp [sameValue]

/-! ## Shortest decimals -/

/-- The magnitude of a finite double as `mantissa * 2 ^ exponent`. -/
def magnitude (x : Binary64) : Nat × Int :=
  let exponent := ((x.bits >>> 52) &&& 0x7ff).toNat
  let fraction := (x.bits &&& 0xfffffffffffff).toNat
  if exponent = 0 then (fraction, -1074) else (fraction + Nat.pow 2 52, (exponent : Int) - 1075)

/-- A positive rational as numerator and denominator, scaled by a power of two. -/
def scaled (n : Nat) (q : Int) : Nat × Nat :=
  if 0 ≤ q then (n * Nat.pow 2 q.toNat, 1) else (n, Nat.pow 2 (-q).toNat)

/-- Number of decimal digits of a natural number. -/
def decimalLength (n : Nat) : Nat := (Nat.toDigits 10 n).length

/-- The least number of factors of ten, up to `fuel`, that lifts the fraction to one or more. -/
def shiftToOne (den : Nat) : (fuel num shift : Nat) → Nat
  | 0, _, shift => shift
  | fuel + 1, num, shift => if den ≤ num then shift else shiftToOne den fuel (num * 10) (shift + 1)

/-- Where the decimal point of `num / den` stands: the `k` with
`10 ^ (k - 1) ≤ num / den < 10 ^ k`. -/
def pointPosition (num den : Nat) : Int :=
  if den ≤ num then decimalLength (num / den) else 1 - (shiftToOne den 400 num 0 : Int)

/-- Compare `c * 10 ^ p` with `num / den`. -/
def compareDecimal (c : Nat) (p : Int) (num den : Nat) : Ordering :=
  if 0 ≤ p then compare (c * Nat.pow 10 p.toNat * den) num
  else compare (c * den) (num * Nat.pow 10 (-p).toNat)

/-- Candidates on finer and finer decimal grids: the first grid with a point that reads back to
`m * 2 ^ q` wins, and of two such points the nearer one. -/
def searchGrids (m : Nat) (q : Int) (k : Int) : (fuel n : Nat) → Nat × Int
  | 0, _ => (m, 0)
  | fuel + 1, n =>
    let p := k - n
    let (num, den) := scaled m q
    let (lowNum, lowDen) := if m = Nat.pow 2 52 ∧ -1074 < q then scaled (4 * m - 1) (q - 2)
      else scaled (2 * m - 1) (q - 1)
    let (highNum, highDen) := scaled (2 * m + 1) (q - 1)
    let even := m % 2 == 0
    let below :=
      if 0 ≤ p then num / (den * Nat.pow 10 p.toNat) else num * Nat.pow 10 (-p).toNat / den
    let readsBack (c : Nat) : Bool :=
      (match compareDecimal c p lowNum lowDen with
        | .lt => false
        | .eq => even
        | .gt => true) &&
      (match compareDecimal c p highNum highDen with
        | .lt => true
        | .eq => even
        | .gt => false)
    match readsBack below, readsBack (below + 1) with
    | true, false => (below, p)
    | false, true => (below + 1, p)
    | true, true =>
      match compareDecimal (2 * below + 1) p (2 * num) den with
      | .gt => (below, p)
      | .lt => (below + 1, p)
      | .eq => if below % 2 = 0 then (below, p) else (below + 1, p)
    | false, false => searchGrids m q k fuel (n + 1)

/-- The shortest decimal `digits * 10 ^ exponent` that reads back to the magnitude of a finite
double. -/
def digits (x : Binary64) : Nat × Int :=
  if x.isZero then (0, 0)
  else
    let (m, q) := x.magnitude
    let (num, den) := scaled m q
    searchGrids m q (pointPosition num den) 17 1

/-! ## Written decimals -/

/-- Between which powers of ten a decimal is written with a point and no exponent. -/
structure DecimalStyle where
  below : Int
  above : Int

/-- JSON text: positional from `1e-5` to below `1e16`. -/
def jsonStyle : DecimalStyle := ⟨16, -5⟩

/-- Messages: always positional. -/
def messageStyle : DecimalStyle := ⟨400, -400⟩

/-- Zeros to fill up a decimal. -/
def zeros (n : Int) : String := String.ofList (List.replicate n.toNat '0')

/-- A decimal in a style, always with a fraction or an exponent. -/
def writeDecimal (style : DecimalStyle) (digits : Nat) (exponent : Int) : String :=
  let text := Nat.repr digits
  let length : Int := text.length
  let point := length + exponent
  if 0 ≤ exponent ∧ point ≤ style.below then text ++ zeros exponent ++ ".0"
  else if 0 < point ∧ point ≤ style.below then
    String.ofList (text.toList.take point.toNat) ++ "." ++
      String.ofList (text.toList.drop point.toNat)
  else if style.above < point ∧ point ≤ 0 then "0." ++ zeros (-point) ++ text
  else
    let mantissa := if length = 1 then text
      else String.ofList (text.toList.take 1) ++ "." ++ String.ofList (text.toList.drop 1)
    mantissa ++ "e" ++ toString (point - 1)

/-- The text of a finite double in a style. -/
def write (style : DecimalStyle) (x : Binary64) : String :=
  let (d, e) := x.digits
  (if x.isNegative then "-" else "") ++ writeDecimal style d e

end Binary64

end GatewayOperator
