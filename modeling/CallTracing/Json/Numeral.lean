/-
  CallTracing/Json/Numeral.lean
  =============================
  **The numerals of JSON texts, and the numbers that are made of them.**

  A whole number that fits 64 bits, signed or unsigned, is kept as it is.  Any other numeral becomes
  a double, in the quick way: digits are gathered into a significand as long as 64 bits hold it,
  those of the fraction after those in front of the point; digits that are left out only count for
  the exponent, if at all; and the double is made of significand and exponent by `Binary64.ofParts`.
  It is not always the double that is nearest to the numeral.
-/
import CallTracing.Binary64.Arithmetic
import CallTracing.Binary64.Numeral
import CallTracing.Json.Basic

namespace CallTracing.Json

/-- The parts of a numeral. -/
structure Numeral where
  negative : Bool
  /-- The digits in front of the point. -/
  whole : List Char
  fraction : Option (List Char) := none
  exponent : Option Int := none
deriving DecidableEq, Repr

/-- Digits gathered into a significand up to the first one with which 64 bits do not hold it any
more, and the digits from that one on. -/
def gather (significand : Nat) : List Char → Nat × List Char
  | [] => (significand, [])
  | digit :: rest =>
    let next := significand * 10 + (digit.toNat - '0'.toNat)
    if next < Nat.pow 2 64 then gather next rest else (significand, digit :: rest)

namespace Numeral

/-- The double of a numeral.  Digits that were left out in front of the point raise the exponent,
and digits that were gathered behind it lower it. -/
def double (numeral : Numeral) : Binary64 :=
  let fraction := numeral.fraction.getD []
  let (front, leftOut) := gather 0 numeral.whole
  let (significand, ignored) := gather front fraction
  let shift : Int := leftOut.length - (fraction.length - ignored.length : Nat)
  .ofParts numeral.negative significand (shift + numeral.exponent.getD 0)

/-- The number of a numeral. -/
def number (numeral : Numeral) : JsonNumber :=
  match gather 0 numeral.whole, numeral.fraction, numeral.exponent with
  | (magnitude, []), none, none => .ofLiteral numeral.negative magnitude
  | _, _, _ => .real numeral.double

end Numeral

end CallTracing.Json
