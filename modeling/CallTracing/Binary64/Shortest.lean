/-
  CallTracing/Binary64/Shortest.lean
  ==================================
  **The shortest decimal that reads back as a given double.**

  The reals that round to a double form an interval, which contains its two ends exactly when the
  mantissa is even.  For 1, 2, … 17 digits the two neighbours of the double on the decimal grid
  with that many digits are compared with the interval; the first grid with a hit wins, and of two
  hits the nearer.  Seventeen digits always suffice.  If a point of a grid lies in the interval,
  so does one of the double's two neighbours on it, so no shorter decimal is missed.

  All of this is exact arithmetic on natural numbers: `Span` holds the double and the two ends of
  its interval over a common denominator.
-/
import CallTracing.Binary64.Basic

namespace CallTracing.Binary64

/-- A positive double and the ends of the interval of reals that round to it, as numerators over
one denominator. -/
structure Span where
  low : Nat
  value : Nat
  high : Nat
  den : Nat
  /-- Whether the two ends round to the double too. -/
  closed : Bool

/-- The interval of `mantissa * 2 ^ exponent`.  The gap below the least mantissa of 53 bits is half
as wide as the gap above. -/
def span (mantissa : Nat) (exponent : Int) : Span :=
  let narrow := decide (mantissa = Nat.pow 2 52) && decide (leastExponent < exponent)
  let unit := Nat.pow 2 (exponent - 2).toNat
  { low := (4 * mantissa - if narrow then 1 else 2) * unit
    value := 4 * mantissa * unit
    high := (4 * mantissa + 2) * unit
    den := Nat.pow 2 (2 - exponent).toNat
    closed := mantissa % 2 == 0 }

/-- Which neighbour is taken where two decimals are equally near. -/
inductive Tie where
  | even
  | up
deriving DecidableEq, Repr

/-- A decimal `digits * 10 ^ exponent`. -/
structure Decimal where
  digits : Nat
  exponent : Int
deriving DecidableEq, Repr

/-- The exponent of the leading digit: ten to it is at most the value, and ten times as much is
more. -/
def leadingExponent (s : Span) : Int :=
  ((Nat.toDigits 10 (s.value * Nat.pow 10 340 / s.den)).length : Int) - 1 - 340

/-- The decimal on the grid of step `10 ^ step` that stands for the double, if one does. -/
def onGrid (tie : Tie) (s : Span) (step : Int) : Option Nat :=
  let up := Nat.pow 10 (-step).toNat
  let den := s.den * Nat.pow 10 step.toNat
  let value := s.value * up
  let below := value / den
  let above := below + 1
  let lowHit := if s.closed then decide (s.low * up ≤ below * den)
    else decide (s.low * up < below * den)
  let highHit := if s.closed then decide (above * den ≤ s.high * up)
    else decide (above * den < s.high * up)
  let fromBelow := value - below * den
  let fromAbove := above * den - value
  match lowHit, highHit with
  | true, true =>
    if fromBelow < fromAbove then some below
    else if fromAbove < fromBelow then some above
    else match tie with
      | .even => some (below + below % 2)
      | .up => some above
  | true, false => some below
  | false, true => some above
  | false, false => none

/-- Try finer and finer grids; the last one tried, with seventeen digits, always has a hit. -/
def search (tie : Tie) (s : Span) (step : Int) : Nat → Decimal
  | 0 => ⟨s.value * Nat.pow 10 (-step).toNat / (s.den * Nat.pow 10 step.toNat), step⟩
  | more + 1 =>
    match onGrid tie s step with
    | some digits => ⟨digits, step⟩
    | none => search tie s (step - 1) more

/-- The shortest decimal that rounds to the positive double `mantissa * 2 ^ exponent`. -/
def shortest (tie : Tie) (mantissa : Nat) (exponent : Int) : Decimal :=
  let s := span mantissa exponent
  search tie s (leadingExponent s) 17

end CallTracing.Binary64
