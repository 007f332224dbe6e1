/-
  CallTracing/Binary64/Numeral.lean
  =================================
  **Reading numerals.**  A decimal numeral is cut into sign, whole digits, fraction digits and
  exponent; what is allowed of these is the business of each format, and the value is the double
  nearest to the decimal.  `ofText?` reads the numerals of configuration values: a sign of either
  kind, digits on at least one side of the point, and the names of the infinities and of NaN.
-/
import CallTracing.Binary64.Basic

namespace CallTracing.Binary64

/-- The value of a run of decimal digits. -/
def digitsValue (digits : List Char) : Nat :=
  digits.foldl (fun value c => value * 10 + (c.toNat - '0'.toNat)) 0

/-- The digits at the front, and what follows them. -/
def spanDigits (text : List Char) : List Char × List Char :=
  (text.takeWhile Char.isDigit, text.dropWhile Char.isDigit)

theorem spanDigits_append (text : List Char) :
    (spanDigits text).1 ++ (spanDigits text).2 = text :=
  List.takeWhile_append_dropWhile

/-- The double written `whole.fraction` times ten to `exponent`. -/
def ofNumeral (negative : Bool) (whole fraction : List Char) (exponent : Int) : Binary64 :=
  ofDecimal negative (digitsValue (whole ++ fraction)) (exponent - fraction.length)

/-- An exponent at the end of a numeral: a mark, a sign that may be left out, digits. -/
def exponent? : List Char → Option Int
  | mark :: rest =>
    if mark = 'e' ∨ mark = 'E' then
      let (negative, digits) : Bool × List Char :=
        match rest with
        | '-' :: digits => (true, digits)
        | '+' :: digits => (false, digits)
        | digits => (false, digits)
      if digits.isEmpty || !digits.all Char.isDigit then none
      else some (signed negative (digitsValue digits))
    else none
  | [] => some 0

/-- An unsigned numeral. -/
def unsigned? (negative : Bool) (text : List Char) : Option Binary64 :=
  let (whole, rest) := spanDigits text
  let (fraction, rest) : List Char × List Char :=
    match rest with
    | '.' :: after => spanDigits after
    | other => ([], other)
  if whole.isEmpty && fraction.isEmpty then none
  else (exponent? rest).map (ofNumeral negative whole fraction)

/-- A number in text, by name or by digits. -/
def ofText? (text : String) : Option Binary64 :=
  let (negative, rest) : Bool × List Char :=
    match text.toList with
    | '-' :: rest => (true, rest)
    | '+' :: rest => (false, rest)
    | rest => (false, rest)
  match String.ofList (rest.map Char.toLower) with
  | "inf" => some (.infinite negative)
  | "infinity" => some (.infinite negative)
  | "nan" => some .nan
  | _ => unsigned? negative rest

end CallTracing.Binary64
