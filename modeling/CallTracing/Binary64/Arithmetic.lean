/-
  CallTracing/Binary64/Arithmetic.lean
  ====================================
  **Products and quotients of doubles, and decimals read in the quick way.**

  A product or a quotient of two finite doubles is rounded once, from its exact value.  `ofParts`
  makes a double of a significand and a power of ten with such operations alone: the significand is
  rounded, the power of ten is taken from a table of doubles, and the two are multiplied or divided.
  That is up to three roundings, so the result need not be the double nearest to the decimal, as
  that of `ofDecimal` is.
-/
import CallTracing.Binary64.Basic

namespace CallTracing.Binary64

/-! ### Operations -/

/-- Whether the number is a zero of either sign. -/
def isZero : Binary64 → Bool
  | .finite _ mantissa _ => mantissa == 0
  | _ => false

/-- The number with the other sign. -/
def neg : Binary64 → Binary64
  | .finite negative mantissa exponent => .finite (!negative) mantissa exponent
  | .infinite negative => .infinite (!negative)
  | .nan => .nan

/-- The product of two numbers. -/
def mul : Binary64 → Binary64 → Binary64
  | .finite negative mantissa exponent, .finite negative' mantissa' exponent' =>
    let parts := scaled (mantissa * mantissa') 1 (-(exponent + exponent'))
    rounded (negative != negative') parts.1 parts.2
  | .finite negative mantissa _, .infinite negative' =>
    if mantissa = 0 then .nan else .infinite (negative != negative')
  | .infinite negative, .finite negative' mantissa' _ =>
    if mantissa' = 0 then .nan else .infinite (negative != negative')
  | .infinite negative, .infinite negative' => .infinite (negative != negative')
  | .nan, _ => .nan
  | _, .nan => .nan

/-- The quotient of two numbers. -/
def div : Binary64 → Binary64 → Binary64
  | .finite negative mantissa exponent, .finite negative' mantissa' exponent' =>
    if mantissa' = 0 then if mantissa = 0 then .nan else .infinite (negative != negative')
    else
      let parts := scaled mantissa mantissa' (exponent' - exponent)
      rounded (negative != negative') parts.1 parts.2
  | .finite negative _ _, .infinite negative' => zero (negative != negative')
  | .infinite negative, .finite negative' _ _ => .infinite (negative != negative')
  | .infinite _, .infinite _ => .nan
  | .nan, _ => .nan
  | _, .nan => .nan

/-! ### Decimals -/

/-- The greatest power of ten in the table. -/
def greatestTen : Nat := 308

/-- An entry of the table of powers of ten. -/
def tenTo (k : Nat) : Binary64 := rounded false (Nat.pow 10 k) 1

/-- Division by the greatest power of ten, over and over, but not of zero. -/
def shrunk (x : Binary64) : Nat → Binary64
  | 0 => x
  | times + 1 => if x.isZero then x else shrunk (x.div (tenTo greatestTen)) times

/-- A number multiplied with a power of ten, or divided by one.  Powers that are not in the table
are too large for any number but zero, or are divided by in steps. -/
def timesTen (x : Binary64) (exponent : Int) : Binary64 :=
  if greatestTen < exponent then if x.isZero then x else .infinite false
  else if 0 ≤ exponent then x.mul (tenTo exponent.toNat)
  else
    let below := (-exponent).toNat - 1
    (x.shrunk (below / greatestTen)).div (tenTo (below % greatestTen + 1))

/-- The double made of the parts of a decimal, `significand * 10 ^ exponent`. -/
def ofParts (negative : Bool) (significand : Nat) (exponent : Int) : Binary64 :=
  let magnitude := (rounded false significand 1).timesTen exponent
  if negative then magnitude.neg else magnitude

end CallTracing.Binary64
