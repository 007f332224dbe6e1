/-
  CallTracing/Json/Reader.lean
  ============================
  **Reading JSON texts**, strictly by the standard: four blanks, no byte order mark, no bare
  control characters in strings, no lone surrogates, nothing but blanks after the value.

  Reading is done in two steps.  `readWhole?` gives the value as it was written, with repeated
  member names, numbers out of range as infinities, and any depth of nesting.  `parse?` then
  refuses a value that is nested too deeply or holds a number out of range, and settles repeated
  names.  The settings reader starts from the first step, because it refuses repeated names and
  does not look at what it ignores.

  The readers of values, items and members call each other on what is left of the text; each call
  takes one unit of fuel, and `readWhole?` gives out enough for every character to be the start
  of a value or of a list of values.
-/
import CallTracing.Json.Numeral
import CallTracing.Text.Hex

namespace CallTracing.Json

/-! ### Strings and numbers -/

/-- Whether a character may stand between two tokens. -/
def isSpace (c : Char) : Bool := c == ' ' || c == '\t' || c == '\n' || c == '\r'

/-- The text after its leading blanks. -/
def skipSpace (text : List Char) : List Char := text.dropWhile isSpace

/-- The character of two surrogate units. -/
def paired? (high low : Nat) : Option Char :=
  if 0xDC00 ≤ low ∧ low < 0xE000 then
    some (Char.ofNat (0x10000 + (high - 0xD800) * 0x400 + (low - 0xDC00)))
  else none

/-- The character that a letter after a backslash stands for. -/
def escape? (c : Char) : Option Char :=
  match c with
  | '"' => some '"'
  | '\\' => some '\\'
  | '/' => some '/'
  | 'b' => some (Char.ofNat 8)
  | 'f' => some (Char.ofNat 12)
  | 'n' => some '\n'
  | 'r' => some '\r'
  | 't' => some '\t'
  | _ => none

/-- The characters of a string up to its closing quote, and the text after it. -/
def readString : List Char → Option (List Char × List Char)
  | [] => none
  | '"' :: rest => some ([], rest)
  | '\\' :: 'u' :: a :: b :: c :: d :: rest =>
    match Text.hexNumber? [a, b, c, d] with
    | none => none
    | some unit =>
      if 0xDC00 ≤ unit ∧ unit < 0xE000 then none
      else if 0xD800 ≤ unit ∧ unit < 0xDC00 then
        match rest with
        | '\\' :: 'u' :: e :: f :: g :: h :: after =>
          match (Text.hexNumber? [e, f, g, h]).bind (paired? unit) with
          | none => none
          | some char => (readString after).map fun (chars, left) => (char :: chars, left)
        | _ => none
      else (readString rest).map fun (chars, left) => (Char.ofNat unit :: chars, left)
  | '\\' :: c :: rest =>
    match escape? c with
    | none => none
    | some char => (readString rest).map fun (chars, left) => (char :: chars, left)
  | c :: rest =>
    if c.toNat < 32 then none
    else (readString rest).map fun (chars, left) => (c :: chars, left)

/-- The whole part of a number: a lone zero, or digits that start with another one. -/
def wholePart? (text : List Char) : Option (List Char × List Char) :=
  match text with
  | '0' :: rest => some (['0'], rest)
  | _ =>
    let (digits, rest) := Binary64.spanDigits text
    if digits.isEmpty then none else some (digits, rest)

/-- The fraction of a number, if there is one: a point and at least one digit. -/
def fractionPart? (text : List Char) : Option (Option (List Char) × List Char) :=
  match text with
  | '.' :: rest =>
    let (digits, rest) := Binary64.spanDigits rest
    if digits.isEmpty then none else some (some digits, rest)
  | _ => some (none, text)

/-- The exponent of a number, if there is one: a mark, a sign, at least one digit. -/
def exponentPart? (text : List Char) : Option (Option Int × List Char) :=
  match text with
  | mark :: rest =>
    if mark = 'e' ∨ mark = 'E' then
      let (negative, rest) : Bool × List Char :=
        match rest with
        | '-' :: after => (true, after)
        | '+' :: after => (false, after)
        | after => (false, after)
      let (digits, rest) := Binary64.spanDigits rest
      if digits.isEmpty then none
      else some (some (Binary64.signed negative (Binary64.digitsValue digits)), rest)
    else some (none, text)
  | [] => some (none, text)

/-- An unsigned numeral, with the sign that stood before it. -/
def readMagnitude (negative : Bool) (text : List Char) : Option (Numeral × List Char) := do
  let (whole, rest) ← wholePart? text
  let (fraction, rest) ← fractionPart? rest
  let (exponent, rest) ← exponentPart? rest
  return (⟨negative, whole, fraction, exponent⟩, rest)

/-- A numeral at the start of a text. -/
def readNumeral (text : List Char) : Option (Numeral × List Char) :=
  match text with
  | '-' :: rest => readMagnitude true rest
  | _ => readMagnitude false text

/-- A number at the start of a text. -/
def readNumber (text : List Char) : Option (JsonNumber × List Char) :=
  (readNumeral text).map fun (numeral, rest) => (numeral.number, rest)

/-! ### Values -/

mutual

/-- A value at the start of a text, after blanks. -/
def readValue : Nat → List Char → Option (Json × List Char)
  | 0, _ => none
  | fuel + 1, text =>
    match skipSpace text with
    | 'n' :: 'u' :: 'l' :: 'l' :: rest => some (.null, rest)
    | 't' :: 'r' :: 'u' :: 'e' :: rest => some (.bool true, rest)
    | 'f' :: 'a' :: 'l' :: 's' :: 'e' :: rest => some (.bool false, rest)
    | '"' :: rest => (readString rest).map fun (chars, left) => (.string (String.ofList chars), left)
    | '[' :: rest =>
      match skipSpace rest with
      | ']' :: left => some (.array [], left)
      | _ => (readItems fuel rest).map fun (items, left) => (.array items, left)
    | '{' :: rest =>
      match skipSpace rest with
      | '}' :: left => some (.object [], left)
      | _ => (readMembers fuel rest).map fun (members, left) => (.object members, left)
    | other => (readNumber other).map fun (n, left) => (.number n, left)

/-- The items of an array up to its closing bracket; there is at least one. -/
def readItems : Nat → List Char → Option (List Json × List Char)
  | 0, _ => none
  | fuel + 1, text =>
    match readValue fuel text with
    | none => none
    | some (item, rest) =>
      match skipSpace rest with
      | ']' :: left => some ([item], left)
      | ',' :: more => (readItems fuel more).map fun (items, left) => (item :: items, left)
      | _ => none

/-- The members of an object up to its closing brace; there is at least one. -/
def readMembers : Nat → List Char → Option (List (String × Json) × List Char)
  | 0, _ => none
  | fuel + 1, text =>
    match skipSpace text with
    | '"' :: rest =>
      match readString rest with
      | none => none
      | some (name, rest) =>
        match skipSpace rest with
        | ':' :: rest =>
          match readValue fuel rest with
          | none => none
          | some (value, rest) =>
            match skipSpace rest with
            | '}' :: left => some ([(String.ofList name, value)], left)
            | ',' :: more =>
              (readMembers fuel more).map fun (members, left) =>
                ((String.ofList name, value) :: members, left)
            | _ => none
        | _ => none
    | _ => none

end

/-- The value that a text consists of, as it was written. -/
def readWhole? (text : String) : Option Json :=
  match readValue (2 * text.toList.length + 2) text.toList with
  | some (value, rest) => if (skipSpace rest).isEmpty then some value else none
  | none => none

/-- How deeply a value may be nested. -/
def maxDepth : Nat := 127

/-- The value of a text, repeated member names settled. -/
def parse? (text : String) : Option Json :=
  (readWhole? text).bind fun value =>
    if value.depth ≤ maxDepth ∧ value.allFinite then some value.collapsed else none

end CallTracing.Json
