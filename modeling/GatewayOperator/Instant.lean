/-!
# Instants

An instant is a count of seconds since the start of 1970, and nanoseconds in it; a leap second
counts as the one before it with over 10^9 nanoseconds. Instants are read from text with an offset,
and written in universal time, in whole seconds or with six digits, what is finer being cut off.
-/

namespace GatewayOperator

/-- A point in time. -/
structure Instant where
  seconds : Int
  nanos : Nat
  deriving DecidableEq, Repr, Inhabited

namespace Instant

/-- Days from the start of 1970 to a date; months count from 1. -/
def daysFromCivil (year : Int) (month day : Nat) : Int :=
  let y := if month ≤ 2 then year - 1 else year
  let era := y.fdiv 400
  let yearOfEra := y - era * 400
  let monthFromMarch : Int := ((month + 9) % 12 : Nat)
  let dayOfYear := (153 * monthFromMarch + 2) / 5 + day - 1
  let dayOfEra := yearOfEra * 365 + yearOfEra / 4 - yearOfEra / 100 + dayOfYear
  era * 146097 + dayOfEra - 719468

/-- The date of a day: year, month and day. -/
def civilFromDays (days : Int) : Int × Nat × Nat :=
  let z := days + 719468
  let era := z.fdiv 146097
  let dayOfEra := z - era * 146097
  let yearOfEra := (dayOfEra - dayOfEra / 1460 + dayOfEra / 36524 - dayOfEra / 146096) / 365
  let dayOfYear := dayOfEra - (365 * yearOfEra + yearOfEra / 4 - yearOfEra / 100)
  let monthFromMarch := (5 * dayOfYear + 2) / 153
  let day := dayOfYear - (153 * monthFromMarch + 2) / 5 + 1
  let month := if monthFromMarch < 10 then monthFromMarch + 3 else monthFromMarch - 9
  let year := yearOfEra + era * 400 + (if month ≤ 2 then 1 else 0)
  (year, month.toNat, day.toNat)

def isLeapYear (year : Int) : Bool := year % 4 = 0 && (year % 100 ≠ 0 || year % 400 = 0)

def daysInMonth (year : Int) (month : Nat) : Nat :=
  if month = 2 then (if isLeapYear year then 29 else 28)
  else if month = 4 ∨ month = 6 ∨ month = 9 ∨ month = 11 then 30
  else 31

/-! ## Reading -/

/-- Blanks that may stand between the parts of an instant. -/
def isBlank (c : Char) : Bool := c = ' ' || c = '\t' || c = '\n' || c = '\r'

def skipBlanks (cs : List Char) : List Char := cs.dropWhile isBlank

def numberOf (ds : List Char) : Nat := ds.foldl (fun acc c => acc * 10 + (c.toNat - '0'.toNat)) 0

/-- A number of one to `n` digits at the front, after blanks. -/
def digits? (n : Nat) (cs : List Char) : Option (Nat × List Char) :=
  let cs := skipBlanks cs
  let front := (cs.take n).takeWhile Char.isDigit
  if front.isEmpty then none else some (numberOf front, cs.drop front.length)

/-- A number of exactly two digits at the front. -/
def twoDigits? : List Char → Option (Nat × List Char)
  | a :: b :: rest => if a.isDigit ∧ b.isDigit then some (numberOf [a, b], rest) else none
  | _ => none

/-- One given character at the front, after blanks. -/
def char? (c : Char) (cs : List Char) : Option (List Char) :=
  match skipBlanks cs with
  | c' :: rest => if c' = c then some rest else none
  | [] => none

/-- A year: four digits, or a sign and any number of digits. -/
def year? (cs : List Char) : Option (Int × List Char) :=
  match skipBlanks cs with
  | '-' :: rest => (digits? 9 rest).map fun (n, rest) => (-(n : Int), rest)
  | '+' :: rest => (digits? 9 rest).map fun (n, rest) => ((n : Int), rest)
  | rest => (digits? 4 rest).map fun (n, rest) => ((n : Int), rest)

/-- Nanoseconds of a fraction; digits past the ninth are dropped. -/
def fractionNanos (ds : List Char) : Nat := numberOf ((ds ++ List.replicate 9 '0').take 9)

/-- An optional fraction of a second. -/
def fraction? : List Char → Option (Nat × List Char)
  | '.' :: rest =>
    let ds := rest.takeWhile Char.isDigit
    if ds.isEmpty then none else some (fractionNanos ds, rest.dropWhile Char.isDigit)
  | rest => some (0, rest)

/-- An offset in seconds. -/
def offset? (cs : List Char) : Option (Int × List Char) :=
  match skipBlanks cs with
  | 'Z' :: rest => some (0, rest)
  | 'z' :: rest => some (0, rest)
  | [] => none
  | sign :: rest =>
    if (String.ofList (sign :: rest.take 2)).toLower = "utc" then some (0, rest.drop 2)
    else if sign ≠ '+' ∧ sign ≠ '-' ∧ sign ≠ '−' then none
    else do
      let (h, rest) ← twoDigits? rest
      let (m, rest) ← twoDigits? (rest.dropWhile fun c => c = ':' || isBlank c)
      if 24 ≤ h ∨ 60 ≤ m then none
      let n : Int := (h * 3600 + m * 60 : Nat)
      pure (if sign = '+' then n else -n, rest)

/-- An instant written as a date, a time of day and an offset. -/
def parse? (text : String) : Option Instant := do
  let (year, cs) ← year? text.toList
  let cs ← char? '-' cs
  let (month, cs) ← digits? 2 cs
  let cs ← char? '-' cs
  let (day, cs) ← digits? 2 cs
  let cs ← match cs with
    | c :: rest => if c = 'T' ∨ c = 't' ∨ isBlank c then some rest else none
    | [] => none
  let (hour, cs) ← digits? 2 cs
  let cs ← char? ':' cs
  let (minute, cs) ← digits? 2 cs
  let cs ← char? ':' cs
  let (second, cs) ← digits? 2 cs
  let (nanos, cs) ← fraction? cs
  let (offset, cs) ← offset? cs
  if month = 0 ∨ 12 < month ∨ day = 0 ∨ daysInMonth year month < day ∨ 24 ≤ hour ∨ 60 ≤ minute ∨
      60 < second ∨ !cs.isEmpty then none
  let dayTime : Int := (hour * 3600 + minute * 60 + min second 59 : Nat)
  pure ⟨daysFromCivil year month day * 86400 + dayTime - offset,
    if second = 60 then nanos + 1000000000 else nanos⟩

/-! ## Writing -/

/-- A number filled up with zeros on the left. -/
def padded (width n : Nat) : String :=
  let s := Nat.repr n
  String.ofList (List.replicate (width - s.length) '0') ++ s

/-- Date and time of day up to the second. -/
def dateTime (t : Instant) : String :=
  let (year, month, day) := civilFromDays (t.seconds.fdiv 86400)
  let s := (t.seconds.fmod 86400).toNat
  let second := s % 60 + (if 1000000000 ≤ t.nanos then 1 else 0)
  let yearText := if 0 ≤ year ∧ year ≤ 9999 then padded 4 year.toNat
    else (if year < 0 then "-" else "+") ++ padded 4 year.natAbs
  yearText ++ "-" ++ padded 2 month ++ "-" ++ padded 2 day ++ "T" ++ padded 2 (s / 3600) ++ ":" ++
    padded 2 (s / 60 % 60) ++ ":" ++ padded 2 second

/-- In whole seconds. -/
def toSeconds (t : Instant) : String := t.dateTime ++ "Z"

/-- With six digits of a second. -/
def toMicros (t : Instant) : String :=
  t.dateTime ++ "." ++ padded 6 (t.nanos % 1000000000 / 1000) ++ "Z"

/-- The instant some seconds later. -/
def addSeconds (t : Instant) (n : Int) : Instant := { t with seconds := t.seconds + n }

/-- Whether `s` is before `t`. -/
def isBefore (s t : Instant) : Bool :=
  decide (s.seconds < t.seconds) || (s.seconds == t.seconds && decide (s.nanos < t.nanos))

end Instant

end GatewayOperator
