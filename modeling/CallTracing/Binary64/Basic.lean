/-
  CallTracing/Binary64/Basic.lean
  ===============================
  **Double-precision numbers, exactly.**

  A finite number is a sign, a natural mantissa and a power of two, so that everything said about
  it is integer arithmetic: rounding a quotient to the nearest double, whether a double is a whole
  number, and (in `Shortest`) the decimal that stands for it.  Nothing here runs machine
  floating-point operations, which a proof could not look into.

  The numbers that `rounded` builds are in normal form: a mantissa below `2 ^ 53`, an exponent of
  at least `-1074`, and a mantissa of 53 bits unless the exponent is `-1074`.  One number has one
  form, so equality of values of this type is equality of doubles with zero's sign told apart and
  all NaNs alike.
-/

namespace CallTracing

/-- A double-precision number. -/
inductive Binary64 where
  /-- `mantissa * 2 ^ exponent`, below zero if `negative`. -/
  | finite (negative : Bool) (mantissa : Nat) (exponent : Int)
  | infinite (negative : Bool)
  | nan
deriving DecidableEq, Repr, Inhabited

namespace Binary64

/-! ### Rounding -/

/-- Bits of a mantissa in normal form. -/
def precision : Nat := 53

/-- The exponent of the smallest numbers. -/
def leastExponent : Int := -1074

/-- The exponent of the largest numbers. -/
def greatestExponent : Int := 971

/-- Zero, with a sign. -/
def zero (negative : Bool) : Binary64 := .finite negative 0 leastExponent

/-- The quotient rounded to a whole number; a half goes to the even neighbour. -/
def nearest (num den : Nat) : Nat :=
  let floor := num / den
  let rest := num % den
  if 2 * rest < den then floor
  else if den < 2 * rest then floor + 1
  else floor + floor % 2

/-- Numerator and denominator of `num / den / 2 ^ exponent`. -/
def scaled (num den : Nat) (exponent : Int) : Nat × Nat :=
  (num * Nat.pow 2 (-exponent).toNat, den * Nat.pow 2 exponent.toNat)

/-- The exponent at which the quotient has a mantissa of 53 bits, or the least exponent. -/
def exponentFor (num den : Nat) : Int :=
  let guess : Int := (num.log2 : Int) - (den.log2 : Int) - 52
  let parts := scaled num den guess
  let exponent := if parts.1 / parts.2 < Nat.pow 2 52 then guess - 1 else guess
  max exponent leastExponent

/-- The double nearest to a quotient of natural numbers, infinite where it is out of range. -/
def rounded (negative : Bool) (num den : Nat) : Binary64 :=
  if num = 0 then zero negative
  else
    let exponent := exponentFor num den
    let parts := scaled num den exponent
    let mantissa := nearest parts.1 parts.2
    let carried := decide (mantissa = Nat.pow 2 precision)
    let mantissa := if carried then Nat.pow 2 (precision - 1) else mantissa
    let exponent := if carried then exponent + 1 else exponent
    if greatestExponent < exponent then .infinite negative
    else .finite negative mantissa exponent

/-- The double nearest to a whole number. -/
def ofInt (n : Int) : Binary64 := rounded (decide (n < 0)) n.natAbs 1

/-- The double nearest to `digits * 10 ^ exponent`.  Far outside the range of doubles the answer is
known from the number of digits alone. -/
def ofDecimal (negative : Bool) (digits : Nat) (exponent : Int) : Binary64 :=
  if digits = 0 then zero negative
  else
    let magnitude : Int := (Nat.toDigits 10 digits).length + exponent
    if 310 < magnitude then .infinite negative
    else if magnitude < -330 then zero negative
    else rounded negative (digits * Nat.pow 10 exponent.toNat) (Nat.pow 10 (-exponent).toNat)

/-! ### Reading a double -/

/-- Whether the number is neither infinite nor NaN. -/
def isFinite : Binary64 → Bool
  | .finite _ _ _ => true
  | _ => false

/-- Sign and magnitude put together. -/
def signed (negative : Bool) (magnitude : Nat) : Int :=
  if negative then -(magnitude : Int) else magnitude

/-- The whole number that the double is, if it is one. -/
def toInt? : Binary64 → Option Int
  | .finite negative mantissa exponent =>
    let divisor := Nat.pow 2 (-exponent).toNat
    if mantissa % divisor = 0 then
      some (signed negative (mantissa / divisor * Nat.pow 2 exponent.toNat))
    else none
  | _ => none

theorem toInt?_zero (negative : Bool) : (zero negative).toInt? = some 0 := by
  simp [toInt?, zero, Nat.zero_mod, signed]

end Binary64

end CallTracing
