/-
  CallTracing/Binary64/Layout.lean
  ================================
  **Writing a double.**  The digits are always those of the shortest decimal; what differs from one
  place to the next is the layout, and each layout is one record: `jsonLayout` for numbers in JSON
  texts, `debugLayout` for diagnostics, `plainLayout` for attribute values in text.
-/
import CallTracing.Binary64.Shortest

namespace CallTracing.Binary64

/-- How a number is laid out. -/
structure Layout where
  /-- Exponents of the leading digit from which on the number is written without an exponent. -/
  leastPlain : Option Int
  /-- The first exponent of the leading digit that is too large to be written without one. -/
  beyondPlain : Option Int
  /-- Whether a whole number gets a fraction of one zero. -/
  fraction : Bool
  /-- Whether a positive exponent has a sign. -/
  plusSign : Bool
  /-- Which of two equally near decimals is written. -/
  tie : Tie

/-- Numbers in JSON texts: plain from `1e-5` to below `1e16`, and `1e+16` beyond. -/
def jsonLayout : Layout := ⟨some (-5), some 16, true, true, .even⟩

/-- Numbers in diagnostics: plain from `1e-4` to below `1e16`, and `1e16` beyond. -/
def debugLayout : Layout := ⟨some (-4), some 16, true, false, .up⟩

/-- Attribute values as text: never an exponent, and no fraction on whole numbers. -/
def plainLayout : Layout := ⟨none, none, false, false, .up⟩

/-- Whether a leading digit at this exponent is written plainly. -/
def Layout.isPlain (layout : Layout) (leading : Int) : Bool :=
  (match layout.leastPlain with
    | some least => decide (least ≤ leading)
    | none => true) &&
  (match layout.beyondPlain with
    | some beyond => decide (leading < beyond)
    | none => true)

/-- The decimal digits of a number that stand before its trailing zeros; `0` for zero. -/
def significant (n : Nat) : List Char :=
  match ((Nat.toDigits 10 n).reverse.dropWhile (· == '0')).reverse with
  | [] => ['0']
  | digits => digits

/-- Digits around a decimal point, the leading one at exponent `leading`. -/
def plainDigits (fraction : Bool) (digits : List Char) (leading : Int) : List Char :=
  if leading < 0 then
    ['0', '.'] ++ List.replicate (-leading - 1).toNat '0' ++ digits
  else
    let whole := leading.toNat + 1
    if digits.length ≤ whole then
      digits ++ List.replicate (whole - digits.length) '0' ++
        if fraction then ['.', '0'] else []
    else digits.take whole ++ '.' :: digits.drop whole

/-- Digits with an exponent. -/
def exponentDigits (plusSign : Bool) (digits : List Char) (leading : Int) : List Char :=
  let mantissa :=
    match digits with
    | first :: second :: rest => first :: '.' :: second :: rest
    | few => few
  let sign := if leading < 0 then ['-'] else if plusSign then ['+'] else []
  mantissa ++ 'e' :: sign ++ Nat.toDigits 10 leading.natAbs

/-- The magnitude of a finite number. -/
def magnitudeText (layout : Layout) (mantissa : Nat) (exponent : Int) : List Char :=
  if mantissa = 0 then plainDigits layout.fraction ['0'] 0
  else
    let decimal := shortest layout.tie mantissa exponent
    let leading := ((Nat.toDigits 10 decimal.digits).length : Int) - 1 + decimal.exponent
    let digits := significant decimal.digits
    if layout.isPlain leading then plainDigits layout.fraction digits leading
    else exponentDigits layout.plusSign digits leading

/-- A double as text. -/
def text (layout : Layout) : Binary64 → String
  | .finite negative mantissa exponent =>
    String.ofList ((if negative then ['-'] else []) ++ magnitudeText layout mantissa exponent)
  | .infinite negative => if negative then "-inf" else "inf"
  | .nan => "NaN"

/-- A double as a JSON number, or as an attribute where JSON has no number for it. -/
def jsonText (x : Binary64) : String :=
  if x.isFinite then x.text jsonLayout else x.text plainLayout

end CallTracing.Binary64
