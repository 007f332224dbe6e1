/-
  CallTracing/Toml/Scalar.lean
  ============================
  **Strings, numbers, dates and times of TOML documents.**

  A reader takes the characters at the start of a text and gives what it read and the rest, or
  nothing where the text is not as it should be.  Numbers, dates and times are read only so far as
  to know whether they are well formed and in range.
-/
import CallTracing.Binary64.Numeral
import CallTracing.Text.Hex
import CallTracing.Toml.Quoted

namespace CallTracing.Toml

/-! ### Characters -/

/-- Whether a character is a blank within a line. -/
def isBlank (c : Char) : Bool := c == ' ' || c == '\t'

/-- The text after its leading blanks. -/
def skipBlanks (text : List Char) : List Char := text.dropWhile isBlank

/-- Whether a character may stand in a comment, or in a string as it is. -/
def isPlain (c : Char) : Bool := c == '\t' || (0x20 ≤ c.toNat && c.toNat != 0x7F)

/-- The text after a line end. -/
def afterLineEnd? : List Char → Option (List Char)
  | '\n' :: rest => some rest
  | '\r' :: '\n' :: rest => some rest
  | _ => none

/-- The text after a comment, if there is one. -/
def skipComment : List Char → List Char
  | '#' :: rest => rest.dropWhile isPlain
  | text => text

/-- The text after blanks, comments and line ends. -/
def skipLines : Nat → List Char → List Char
  | 0, text => text
  | fuel + 1, text =>
    let rest := skipComment (skipBlanks text)
    match afterLineEnd? rest with
    | some after => skipLines fuel after
    | none => rest

/-- The text after blanks, comments and line ends; a comment must end its line. -/
def skipSpace (text : List Char) : List Char := skipLines (text.length + 1) text

/-! ### Strings -/

/-- The character of a code, if there is one. -/
def charOf? (code : Nat) : Option Char :=
  if h : code.isValidChar then some (Char.ofNatAux code h) else none

/-- The character that an escape stands for, after its backslash. -/
def readEscape? : List Char → Option (Char × List Char)
  | 'b' :: rest => some (Char.ofNat 8, rest)
  | 't' :: rest => some ('\t', rest)
  | 'n' :: rest => some ('\n', rest)
  | 'f' :: rest => some (Char.ofNat 12, rest)
  | 'r' :: rest => some ('\r', rest)
  | '"' :: rest => some ('"', rest)
  | '\\' :: rest => some ('\\', rest)
  | 'u' :: rest => coded 4 rest
  | 'U' :: rest => coded 8 rest
  | _ => none
where
  /-- The character of a code of so many digits. -/
  coded (width : Nat) (text : List Char) : Option (Char × List Char) :=
    if (text.take width).length = width then
      ((Text.hexNumber? (text.take width)).bind charOf?).map fun c => (c, text.drop width)
    else none

/-- A string on one line, up to its closing quote. -/
def readShort (style : QuoteStyle) : Nat → List Char → Option (List Char × List Char)
  | 0, _ => none
  | _ + 1, [] => none
  | fuel + 1, c :: rest =>
    if c = style.quote then some ([], rest)
    else if c = '\\' ∧ style.quote = '"' then
      (readEscape? rest).bind fun (escaped, rest) =>
        (readShort style fuel rest).map fun (chars, left) => (escaped :: chars, left)
    else if isPlain c then
      (readShort style fuel rest).map fun (chars, left) => (c :: chars, left)
    else none

/-- The text after a backslash at the end of a line, with the blank lines that follow. -/
def afterContinuation? (text : List Char) : Option (List Char) :=
  (afterLineEnd? (skipBlanks text)).map fun rest => blankLines rest.length rest
where
  /-- The text after blanks and line ends. -/
  blankLines : Nat → List Char → List Char
    | 0, text => text
    | fuel + 1, text =>
      match afterLineEnd? (skipBlanks text) with
      | some after => blankLines fuel after
      | none => skipBlanks text

/-- A string over several lines, up to its closing quotes.  One or two quotes are part of it. -/
def readLong (style : QuoteStyle) : Nat → List Char → Option (List Char × List Char)
  | 0, _ => none
  | _ + 1, [] => none
  | fuel + 1, c :: rest =>
    if c = style.quote then
      let run := (c :: rest).takeWhile (· = style.quote)
      let after := (c :: rest).dropWhile (· = style.quote)
      if run.length < 3 then
        (readLong style fuel after).map fun (chars, left) => (run ++ chars, left)
      else if run.length ≤ 5 then some (run.drop 3, after)
      else none
    else if c = '\\' ∧ style.quote = '"' then
      match afterContinuation? rest with
      | some after => readLong style fuel after
      | none =>
        (readEscape? rest).bind fun (escaped, rest) =>
          (readLong style fuel rest).map fun (chars, left) => (escaped :: chars, left)
    else
      match afterLineEnd? (c :: rest) with
      | some after => (readLong style fuel after).map fun (chars, left) => ('\n' :: chars, left)
      | none =>
        if isPlain c then
          (readLong style fuel rest).map fun (chars, left) => (c :: chars, left)
        else none

/-- A string that starts with its quote. -/
def readString? (text : List Char) : Option (String × List Char) :=
  match text with
  | [] => none
  | quote :: rest =>
    if quote = '"' ∨ quote = singleQuote then
      let read :=
        if (text.take 3) = [quote, quote, quote] then
          let body := text.drop 3
          readLong ⟨quote, true⟩ (body.length + 1) ((afterLineEnd? body).getD body)
        else readShort ⟨quote, false⟩ (rest.length + 1) rest
      read.map fun (chars, left) => (String.ofList chars, left)
    else none

/-! ### Numbers -/

/-- Digits with single underscores between them: the digits, if they are so written. -/
def digits? (isDigit : Char → Bool) : List Char → Option (List Char)
  | [] => none
  | [c] => if isDigit c then some [c] else none
  | c :: '_' :: rest => if isDigit c then (digits? isDigit rest).map (c :: ·) else none
  | c :: rest => if isDigit c then (digits? isDigit rest).map (c :: ·) else none

/-- Decimal digits that do not start with a needless zero. -/
def wholeDigits? (text : List Char) : Option (List Char) :=
  (digits? Char.isDigit text).filter fun digits => digits.head? != some '0' || digits.length = 1

/-- A sign and the text after it. -/
def splitSign : List Char → Option Bool × List Char
  | '-' :: rest => (some true, rest)
  | '+' :: rest => (some false, rest)
  | text => (none, text)

/-- Whether an integer fits 64 bits. -/
def fits (negative : Bool) (magnitude : Nat) : Bool :=
  decide (magnitude < if negative then Nat.pow 2 63 + 1 else Nat.pow 2 63)

/-- The value of digits in a base. -/
def valueIn (base : Nat) (digits : List Char) : Nat :=
  digits.foldl (fun n c => n * base + (Text.hexValue? c).getD 0) 0

/-- Whether a text is an integer in another base than ten. -/
def isBased (text : List Char) : Bool :=
  let ok (base : Nat) (digits : List Char) : Bool :=
    match digits? (fun c => ((Text.hexValue? c).map fun v => decide (v < base)).getD false) digits with
    | some digits => fits false (valueIn base digits)
    | none => false
  match text with
  | '0' :: 'x' :: digits => ok 16 digits
  | '0' :: 'o' :: digits => ok 8 digits
  | '0' :: 'b' :: digits => ok 2 digits
  | _ => false

/-- Whether a text is an integer. -/
def isInteger (text : List Char) : Bool :=
  isBased text ||
    let (sign, rest) := splitSign text
    match wholeDigits? rest with
    | some digits => fits (sign == some true) (valueIn 10 digits)
    | none => false

/-- Whether a double is plus infinity. -/
def isPlusInfinity : Binary64 → Bool
  | .infinite negative => !negative
  | _ => false

/-- Whether a text is a number with a fraction or an exponent, or one of the names for infinity and
for no number.  A number too large for a double is refused. -/
def isReal (text : List Char) : Bool :=
  let (sign, rest) := splitSign text
  if rest = ['i', 'n', 'f'] ∨ rest = ['n', 'a', 'n'] then true
  else
    let isMark (c : Char) : Bool := c == 'e' || c == 'E'
    let mantissa := rest.takeWhile (!isMark ·)
    let exponent := rest.dropWhile (!isMark ·)
    let whole := mantissa.takeWhile (· != '.')
    let fraction := mantissa.dropWhile (· != '.')
    if fraction.isEmpty && exponent.isEmpty then false
    else
      let (exponentSign, exponentText) := splitSign (exponent.drop 1)
      let fractionDigits := if fraction.isEmpty then some [] else digits? Char.isDigit (fraction.drop 1)
      let exponentDigits := if exponent.isEmpty then some [] else digits? Char.isDigit exponentText
      match wholeDigits? whole, fractionDigits, exponentDigits with
      | some w, some f, some e =>
        !isPlusInfinity (Binary64.ofNumeral (sign == some true) w f
          (Binary64.signed (exponentSign == some true) (valueIn 10 e)))
      | _, _, _ => false

/-! ### Dates and times -/

/-- A number of exactly so many digits, and the text after it. -/
def fixed? (width : Nat) (text : List Char) : Option (Nat × List Char) :=
  let digits := text.take width
  if digits.length = width && digits.all Char.isDigit then
    some (valueIn 10 digits, text.drop width)
  else none

/-- How many days a month has. -/
def daysIn (year month : Nat) : Nat :=
  if month = 2 then
    (if year % 4 = 0 ∧ (year % 100 ≠ 0 ∨ year % 400 = 0) then 29 else 28)
  else if month ∈ [4, 6, 9, 11] then 30 else 31

/-- The text after a date. -/
def afterDate? (text : List Char) : Option (List Char) :=
  match fixed? 4 text with
  | some (year, '-' :: rest) =>
    match fixed? 2 rest with
    | some (month, '-' :: rest) =>
      match fixed? 2 rest with
      | some (day, rest) =>
        if 1 ≤ month ∧ month ≤ 12 ∧ 1 ≤ day ∧ day ≤ daysIn year month then some rest else none
      | none => none
    | _ => none
  | _ => none

/-- The text after the fraction of a second, if there is one. -/
def afterFraction? : List Char → Option (List Char)
  | '.' :: rest =>
    if (rest.takeWhile Char.isDigit).isEmpty then none else some (rest.dropWhile Char.isDigit)
  | text => some text

/-- The text after a time of day. -/
def afterTime? (text : List Char) : Option (List Char) :=
  match fixed? 2 text with
  | some (hour, ':' :: rest) =>
    match fixed? 2 rest with
    | some (minute, ':' :: rest) =>
      match fixed? 2 rest with
      | some (second, rest) =>
        if hour ≤ 23 ∧ minute ≤ 59 ∧ second ≤ 60 then afterFraction? rest else none
      | none => none
    | _ => none
  | _ => none

/-- Whether a text is nothing, or the offset of a time zone. -/
def isOffset (text : List Char) : Bool :=
  match text with
  | [] => true
  | ['Z'] => true
  | ['z'] => true
  | sign :: rest =>
    if sign = '+' ∨ sign = '-' then
      match fixed? 2 rest with
      | some (hour, ':' :: rest) =>
        match fixed? 2 rest with
        | some (minute, []) => decide (hour ≤ 23 ∧ minute ≤ 59)
        | _ => false
      | _ => false
    else false

/-- Whether a text is a date, a time, or both. -/
def isMoment (text : List Char) : Bool :=
  match afterDate? text with
  | some [] => true
  | some (mark :: rest) =>
    if mark = 'T' ∨ mark = 't' ∨ mark = ' ' then
      match afterTime? rest with
      | some zone => isOffset zone
      | none => false
    else false
  | none => afterTime? text = some []

/-! ### Words -/

/-- Whether a character can be part of a number, a date or a time. -/
def isWordChar (c : Char) : Bool := c.isAlphanum || c == '_' || c == '+' || c == '-' || c == '.' || c == ':'

/-- The characters up to the end of a number, a date or a time.  A blank is part of it only between
a date and a time. -/
def splitWord (text : List Char) : List Char × List Char :=
  let word := text.takeWhile isWordChar
  let rest := text.dropWhile isWordChar
  match rest with
  | ' ' :: c :: more =>
    if afterDate? word = some [] && c.isDigit then
      (word ++ ' ' :: (c :: more).takeWhile isWordChar, (c :: more).dropWhile isWordChar)
    else (word, rest)
  | _ => (word, rest)

/-- Whether a word is a number, a date or a time. -/
def isQuantity (word : List Char) : Bool := isInteger word || isReal word || isMoment word

end CallTracing.Toml
