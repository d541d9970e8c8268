import GatewayOperator.Metrics.Decimal
import GatewayOperator.Reconcile.Converge

/-!
# Metrics

The operator counts what its convergences did and how its passes failed, and measures how long
passes take. `Metrics.text` exposes the counts: one family of samples after the other, a help and a
type line ahead of each. Samples of one family are in the order in which their labels first came up.
-/

namespace GatewayOperator

/-- Labels of a sample, as names and values. -/
abbrev Labels := List (String × String)

/-- Samples by their labels, in the order of their first use. -/
abbrev Family (α : Type) := List (Labels × α)

namespace Family

/-- Change the sample of some labels, which starts as `zero`. -/
def modify {α : Type} (zero : α) (f : α → α) (labels : Labels) : Family α → Family α
  | [] => [(labels, f zero)]
  | (l, a) :: rest => if l = labels then (l, f a) :: rest else (l, a) :: modify zero f labels rest

end Family

/-- Durations that were observed, in seconds, the latest last. -/
structure Histogram where
  observed : List Binary64 := []
  deriving DecidableEq

namespace Binary64

def add (x y : Binary64) : Binary64 := ofFloat (x.toFloat + y.toFloat)

/-- Whether a double is at most another one; a NaN never is. -/
def atMost (x y : Binary64) : Bool := decide (x.toFloat ≤ y.toFloat)

/-- The largest finite double. -/
def largest : Binary64 := ⟨0x7fefffffffffffff⟩

end Binary64

namespace Histogram

def observe (h : Histogram) (seconds : Binary64) : Histogram := ⟨h.observed ++ [seconds]⟩

def sum (h : Histogram) : Binary64 := h.observed.foldl Binary64.add ⟨0⟩

def count (h : Histogram) : Nat := h.observed.length

/-- How many durations are no longer than a bound. -/
def within (h : Histogram) (bound : Binary64) : Nat :=
  (h.observed.filter fun x => x.atMost bound).length

/-- The bounds from one millisecond on, each twice the one before. -/
def bounds : List Binary64 :=
  (List.range 16).map fun i => Binary64.ofDecimal false (Nat.pow 2 i) (-3)

end Histogram

/-- What the operator counts and measures. -/
structure Metrics where
  durations : Family Histogram := []
  errors : Family Nat := []
  outcomes : Family Nat := []

namespace Metrics

/-- A pass of a controller took some time. -/
def observeDuration (m : Metrics) (controller : String) (seconds : Binary64) : Metrics :=
  { m with durations :=
    Family.modify {} (fun h => h.observe seconds) [("controller", controller)] m.durations }

/-- A pass of a controller failed. -/
def countError (m : Metrics) (controller kind : String) : Metrics :=
  { m with errors :=
    Family.modify 0 (· + 1) [("controller", controller), ("kind", kind)] m.errors }

/-- An object of a kind was converged. -/
def countOutcome (m : Metrics) (kind outcome : String) : Metrics :=
  { m with outcomes :=
    Family.modify 0 (· + 1) [("kind", kind), ("outcome", outcome)] m.outcomes }

/-! ## Exposition -/

/-- A label; its value stands as it is. -/
def labelText (l : String × String) : String := l.1 ++ "=\"" ++ l.2 ++ "\""

def labelsText (ls : Labels) : String :=
  "\x7b" ++ ",".intercalate (ls.map labelText) ++ "\x7d"

/-- One sample. -/
def sample (name : String) (labels : Labels) (value : String) : String :=
  name ++ labelsText labels ++ " " ++ value

/-- The lines ahead of a family. -/
def heading (name help type : String) : List String :=
  ["# HELP " ++ name ++ " " ++ help ++ ".", "# TYPE " ++ name ++ " " ++ type]

/-- A family of counters. -/
def counterLines (name help : String) (f : Family Nat) : List String :=
  heading name help "counter" ++
    f.map fun (labels, n) => sample (name ++ "_total") labels (toString n)

/-- The bound of a bucket; the last one has none. -/
def boundText (bound : Binary64) : String :=
  if bound = Binary64.largest then "+Inf" else sampleText bound

/-- The samples of one histogram. -/
def histogramSamples (name : String) (labels : Labels) (h : Histogram) : List String :=
  [sample (name ++ "_sum") labels (sampleText h.sum),
    sample (name ++ "_count") labels (toString h.count)] ++
  (Histogram.bounds ++ [Binary64.largest]).map fun bound =>
    sample (name ++ "_bucket") (("le", boundText bound) :: labels) (toString (h.within bound))

/-- A family of histograms. -/
def histogramLines (name help : String) (f : Family Histogram) : List String :=
  heading name help "histogram" ++ f.flatMap fun (labels, h) => histogramSamples name labels h

/-- The exposition line by line. -/
def lines (m : Metrics) : List String :=
  histogramLines "higress_reconcile_duration_seconds" "Duration of reconcile loops in seconds"
      m.durations ++
    counterLines "higress_reconcile_errors_total" "Total number of reconcile errors" m.errors ++
    counterLines "higress_apply_outcomes_total" "Total number of object convergences by outcome"
      m.outcomes ++
    ["# EOF"]

/-- The exposition. -/
def text (m : Metrics) : String := String.join (m.lines.map fun l => l ++ "\n")

end Metrics

end GatewayOperator
