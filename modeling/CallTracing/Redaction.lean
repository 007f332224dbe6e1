/-
  CallTracing/Redaction.lean
  ==========================
  **Keeping credentials and very long values out of diagnostics.**

  Three kinds of secrets are looked for, one after the other: access key ids standing as words of
  their own, bearer tokens, and values assigned to a name such as `password` or `aws_secret_key`.
  Of a secret at most the first five characters stay.  The result is cut off after 256 characters.

  A kind of secret is a matcher (`Matcher`): given the character before a place in a text and what
  follows, it gives the text that is kept and the secret behind it, if they stand there.
  `redactFrom` goes through a text once, from left to right, and after a match goes on behind it.
  Letters of the names are matched whatever their case; two of them have a third form, the long s
  and the Kelvin sign.
-/
import CallTracing.Text.Blank
import CallTracing.Text.CharTable

namespace CallTracing.Redaction

/-! ### Words -/

/-- Whether a character belongs to a word. -/
def isWordChar (c : Char) : Bool := Text.inRanges Text.wordRanges c.toNat

/-- Whether a word may start behind this character. -/
def startsWord (before : Option Char) : Bool :=
  match before with
  | some c => !isWordChar c
  | none => true

/-- Whether a word may end before this text. -/
def endsWord (after : List Char) : Bool := startsWord after.head?

/-! ### Hiding -/

/-- What stays of a secret: its first five characters, or only its length if it has no more. -/
def obscured (secret : List Char) : List Char :=
  if secret.length ≤ 5 then List.replicate secret.length '*' else secret.take 5 ++ ['*', '*', '*']

/-- The text that is kept, and the secret that follows it. -/
structure Match where
  kept : List Char
  secret : List Char
deriving DecidableEq, Repr

/-- What a kind of secret looks like, behind a character and at the start of a text. -/
abbrev Matcher := Option Char → List Char → Option Match

/-- How many characters a match covers. -/
def Match.length (found : Match) : Nat := found.kept.length + found.secret.length

/-- What is written for a match. -/
def Match.hidden (found : Match) : List Char := found.kept ++ obscured found.secret

/-- Hide the secrets of one kind in a text, the first `skip` characters of which are covered by a
match already. -/
def redactFrom (matcher : Matcher) (skip : Nat) (before : Option Char) : List Char → List Char
  | [] => []
  | c :: rest =>
    match skip with
    | left + 1 => redactFrom matcher left (some c) rest
    | 0 =>
      match matcher before (c :: rest) with
      | some found => found.hidden ++ redactFrom matcher (found.length - 1) (some c) rest
      | none => c :: redactFrom matcher 0 (some c) rest

/-- Hide the secrets of one kind. -/
def redact (matcher : Matcher) (text : List Char) : List Char := redactFrom matcher 0 none text

/-! ### Letters of either case -/

/-- The long s, a third form of the letter s. -/
def longS : Char := Char.ofNat 0x17F

/-- The Kelvin sign, a third form of the letter k. -/
def kelvinSign : Char := Char.ofNat 0x212A

/-- Whether a character is a given lower-case letter in some form, or the given character itself. -/
def isForm (letter c : Char) : Bool :=
  c == letter || c.toLower == letter || (letter == 's' && c == longS) ||
    (letter == 'k' && c == kelvinSign)

/-- A name at the start of a text, whatever its case, and what follows it. -/
def name? : List Char → List Char → Option (List Char × List Char)
  | [], text => some ([], text)
  | _ :: _, [] => none
  | letter :: name, c :: text =>
    if isForm letter c then (name? name text).map fun (read, rest) => (c :: read, rest) else none

/-- The longest beginning of a text whose characters have a property, and the rest. -/
def leading (property : Char → Bool) (text : List Char) : List Char × List Char :=
  (text.takeWhile property, text.dropWhile property)

/-- One character with a property, or nothing. -/
def atMostOne (property : Char → Bool) (text : List Char) : List Char × List Char :=
  match text with
  | c :: rest => if property c then ([c], rest) else ([], text)
  | [] => ([], [])

/-! ### Access key ids -/

/-- Whether a character may stand in an access key id. -/
def isKeyIdChar (c : Char) : Bool := c.isUpper || c.isDigit

/-- What access key ids begin with. -/
def keyIdStems : List (List Char) := ["AKIA".toList, "ASIA".toList]

/-- How long an access key id is. -/
def keyIdLength : Nat := 20

/-- An access key id that is a word of its own. -/
def accessKeyId : Matcher := fun before text =>
  let key := text.take keyIdLength
  if startsWord before && key.length == keyIdLength && keyIdStems.contains (key.take 4) &&
      key.all isKeyIdChar && endsWord (text.drop keyIdLength)
  then some ⟨[], key⟩ else none

/-! ### Bearer tokens -/

/-- Whether a character may stand in a bearer token, before the padding at its end. -/
def isTokenChar (c : Char) : Bool :=
  c.isAlphanum || c == '-' || c == '.' || c == '_' || c == '~' || c == '+' || c == '/' ||
    c == longS || c == kelvinSign

/-- A token behind the word `bearer`. -/
def bearerToken : Matcher := fun before text =>
  if startsWord before then
    match name? "bearer".toList text with
    | none => none
    | some (word, rest) =>
      let (blanks, rest) := leading Text.isBlank rest
      let (token, rest) := leading isTokenChar rest
      let (padding, _) := leading (· == '=') rest
      if blanks.isEmpty || token.isEmpty then none else some ⟨word ++ blanks, token ++ padding⟩
  else none

/-! ### Assigned secrets -/

/-- Whether a character is a quote. -/
def isQuote (c : Char) : Bool := c == '"' || c.toNat == 39

/-- Whether a character stands between a name and its value. -/
def isAssignment (c : Char) : Bool := c == ':' || c == '='

/-- Whether a character may stand in an assigned value. -/
def isValueChar (c : Char) : Bool :=
  !(Text.isBlank c || isQuote c || c == ',' || c == ';' || c == '&')

/-- What may stand before the name of a secret. -/
def secretStem : List Char := "aws_".toList

/-- The names of secrets. -/
def secretNames : List (List Char) :=
  ["secret_access_key".toList, "secret_key".toList, "session_token".toList, "password".toList,
    "token".toList, "authorization".toList]

/-- A value assigned to the name of a secret.  Name and value may stand in quotes, with blanks
around the sign between them. -/
def assignedSecret : Matcher := fun before text =>
  if startsWord before then
    let (stem, rest) := (name? secretStem text).getD ([], text)
    match secretNames.findSome? (name? · rest) with
    | none => none
    | some (name, rest) =>
      let (closing, rest) := atMostOne isQuote rest
      let (front, rest) := leading Text.isBlank rest
      let (sign, rest) := atMostOne isAssignment rest
      let (back, rest) := leading Text.isBlank rest
      let (opening, rest) := atMostOne isQuote rest
      let (value, _) := leading isValueChar rest
      if sign.isEmpty || value.isEmpty then none
      else some ⟨stem ++ name ++ closing ++ front ++ sign ++ back ++ opening, value⟩
  else none

/-! ### Whole texts -/

/-- How many characters of a value are logged. -/
def maxLogged : Nat := 256

/-- A text cut off where it gets too long to log. -/
def capped (text : List Char) : List Char :=
  if maxLogged < text.length then text.take maxLogged ++ ['.', '.', '.'] else text

/-- The characters of a text that may be logged. -/
def sanitizedChars (text : List Char) : List Char :=
  capped (redact assignedSecret (redact bearerToken (redact accessKeyId text)))

/-- A text as it may be logged. -/
def sanitized (text : String) : String := String.ofList (sanitizedChars text.toList)

/-- What stays of a text that is a secret as a whole. -/
def obscuredText (text : String) : String := String.ofList (obscured text.toList)

/-- The first characters of a text. -/
def truncated (text : String) (count : Nat) : String := String.ofList (text.toList.take count)

/-! ### Laws -/

theorem obscured_congr {a b : List Char} (hlen : a.length = b.length)
    (htake : a.take 5 = b.take 5) : obscured a = obscured b := by
  simp [obscured, hlen, htake]

end CallTracing.Redaction
