import GatewayOperator.Binary64

/-!
# Decimals of samples

A sample is written by a decimal that reads back to it, found with significands of 64 bits: value
and interval are scaled by a power of ten so that the whole part of the interval's upper end has few
digits, then digits of the upper end are taken until what is left of it lies within the interval. As
long as fewer than nine digits of the fraction were taken, the last digit is lowered towards the
value. The decimal is nearly always the shortest, though not always the nearest of those.
-/

namespace GatewayOperator

/-- `significand * 2 ^ exponent` with a significand below `2 ^ 64`. -/
structure Scaled where
  significand : Nat
  exponent : Int
  deriving DecidableEq, Repr

namespace Scaled

/-- The same number with the top bit set; zero stays. -/
def normalize (x : Scaled) : Scaled :=
  let shift := 63 - Nat.log2 x.significand
  if x.significand = 0 then x else ⟨x.significand * Nat.pow 2 shift, x.exponent - shift⟩

/-- The product, rounded to 64 bits. -/
def mul (x y : Scaled) : Scaled :=
  ⟨(x.significand * y.significand + Nat.pow 2 63) / Nat.pow 2 64, x.exponent + y.exponent + 64⟩

/-- The power `10 ^ k`, rounded to 64 bits. -/
def powerOfTen (k : Int) : Scaled :=
  let (num, den) := if 0 ≤ k then (Nat.pow 10 k.toNat, 1) else (1, Nat.pow 10 (-k).toNat)
  let guess : Int := (Nat.log2 num : Int) - Nat.log2 den - 63
  let at_ (e : Int) : Nat × Nat :=
    if 0 ≤ e then (num, den * Nat.pow 2 e.toNat) else (num * Nat.pow 2 (-e).toNat, den)
  let (n, d) := at_ guess
  let e := if n < d * Nat.pow 2 63 then guess - 1 else guess
  let (n, d) := at_ e
  ⟨(2 * n + d) / (2 * d), e⟩

end Scaled

namespace SampleText

/-- The power of ten that brings a number with this exponent into reach, as one of every eighth: the
scaled number has an exponent from -60 to -32. -/
def scaleExponent (exponent : Int) : Int :=
  let n := (-61 - exponent) * 30102999566398114
  let k := -((-n) / Nat.pow 10 17) + 347
  (k / 8 + 1) * 8 - 348

/-- The digits taken so far, the last one first, and what is left. -/
structure Progress where
  digits : List Nat := []
  rest : Nat

/-- Take a digit; no number starts with a zero. -/
def push (digits : List Nat) (d : Nat) : List Nat :=
  if digits.isEmpty && d = 0 then [] else d :: digits

/-- Lower the last digit, each time by `unit`, as long as that stays in the interval of width
`width` and brings the number nearer to the value, `target` below the upper end. -/
def lower (width unit target : Nat) : (fuel : Nat) → Progress → List Nat
  | 0, p => p.digits
  | fuel + 1, p =>
    if p.rest < target ∧ p.rest ≤ width ∧ unit ≤ width - p.rest ∧
        (p.rest + unit < target ∨ p.rest + unit - target < target - p.rest) then
      match p.digits with
      | d :: ds => lower width unit target fuel ⟨(d - 1) :: ds, p.rest + unit⟩
      | [] => []
    else p.digits

/-- Digits of the whole part, the highest first; `none` goes on with the fraction. -/
def wholeDigits (bits width target fraction : Nat) :
    (position whole : Nat) → List Nat → List Nat × Option Nat
  | 0, _, digits => (digits, none)
  | position + 1, whole, digits =>
    let digits := push digits (whole / Nat.pow 10 position)
    let whole := whole % Nat.pow 10 position
    let rest := whole * Nat.pow 2 bits + fraction
    if rest ≤ width then
      (lower width (Nat.pow 10 position * Nat.pow 2 bits) target 10 ⟨digits, rest⟩, some position)
    else wholeDigits bits width target fraction position whole digits

/-- Digits of the fraction and how many there are. -/
def fractionDigits (bits target : Nat) :
    (fuel taken width fraction : Nat) → List Nat → List Nat × Nat
  | 0, taken, _, _, digits => (digits, taken)
  | fuel + 1, taken, width, fraction, digits =>
    let fraction := fraction * 10
    let width := width * 10
    let digits := push digits (fraction / Nat.pow 2 bits)
    let fraction := fraction % Nat.pow 2 bits
    let taken := taken + 1
    if fraction < width then
      let target := if taken < 9 then target * Nat.pow 10 taken else 0
      (lower width (Nat.pow 2 bits) target 10 ⟨digits, fraction⟩, taken)
    else fractionDigits bits target fuel taken width fraction digits

/-- The decimal `digits * 10 ^ exponent` of the magnitude of a finite double that is not zero. -/
def decimal (x : Binary64) : Nat × Int :=
  let (m, q) := x.magnitude
  let high := Scaled.normalize ⟨2 * m + 1, q - 1⟩
  let low : Scaled := if m = Nat.pow 2 52 then ⟨4 * m - 1, q - 2⟩ else ⟨2 * m - 1, q - 1⟩
  let low : Scaled :=
    ⟨low.significand * Nat.pow 2 (low.exponent - high.exponent).toNat, high.exponent⟩
  let k := scaleExponent high.exponent
  let power := Scaled.powerOfTen k
  let value := (Scaled.normalize ⟨m, q⟩).mul power
  let top := (high.mul power).significand - 1
  let bottom := (low.mul power).significand + 1
  let bits := (-(high.mul power).exponent).toNat
  let width := top - bottom
  let target := top - value.significand
  let whole := top / Nat.pow 2 bits
  let fraction := top % Nat.pow 2 bits
  let number (ds : List Nat) : Nat := ds.foldr (fun d acc => acc * 10 + d) 0
  match wholeDigits bits width target fraction (Binary64.decimalLength whole) whole [] with
  | (digits, some position) => (number digits, (position : Int) - k)
  | (digits, none) =>
    let (digits, taken) := fractionDigits bits target 20 0 width fraction digits
    (number digits, -(taken : Int) - k)

end SampleText

/-- How a sample is written: positional from `1e-6` to below `1e21`. -/
def sampleStyle : Binary64.DecimalStyle := ⟨21, -6⟩

/-- The text of a sample. -/
def sampleText (x : Binary64) : String :=
  let sign := if x.isNegative then "-" else ""
  if !x.isFinite then
    if (x.bits <<< 12) == 0 then sign ++ "inf" else "NaN"
  else if x.isZero then sign ++ "0.0"
  else
    let (d, e) := SampleText.decimal x
    sign ++ Binary64.writeDecimal sampleStyle d e

end GatewayOperator
