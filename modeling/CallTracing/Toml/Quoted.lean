/-
  CallTracing/Toml/Quoted.lean
  ============================
  **A text as a TOML string.**  Of the four ways to write one, the first that needs no escape is
  taken: between double quotes, between single quotes, between three double quotes, between three
  single quotes.  Where every way needs an escape it is double quotes, three of them if the text
  has line ends.  A text with line ends starts on a line of its own.
-/
import CallTracing.Text.Hex

namespace CallTracing.Toml

/-- The single quote. -/
def singleQuote : Char := Char.ofNat 39

/-- The length of the longest run of a character. -/
def longestRun (c : Char) (text : List Char) : Nat :=
  (text.foldl (fun (best, now) d => if d = c then (max best (now + 1), now + 1) else (best, 0))
    (0, 0)).1

/-- Whether a character can only be written by an escape, wherever it stands. -/
def isControl (c : Char) : Bool :=
  (c.toNat < 0x20 && c != '\t' && c != '\n') || c.toNat == 0x7F

/-- A way to write a string. -/
structure QuoteStyle where
  quote : Char
  /-- Between three quotes, and so over several lines. -/
  isLong : Bool
deriving DecidableEq, Repr

/-- Whether a text needs no escape in a style. -/
def QuoteStyle.suits (style : QuoteStyle) (text : List Char) : Bool :=
  !text.any isControl
    && decide (longestRun style.quote text ≤ if style.isLong then 2 else 0)
    && (style.quote != '"' || !text.contains '\\')
    && (style.isLong || !text.contains '\n')

/-- The styles, the preferred ones first. -/
def styles : List QuoteStyle :=
  [⟨'"', false⟩, ⟨singleQuote, false⟩, ⟨'"', true⟩, ⟨singleQuote, true⟩]

/-- The style for a text. -/
def styleFor (text : List Char) : QuoteStyle :=
  (styles.find? (·.suits text)).getD ⟨'"', text.contains '\n'⟩

/-- A character between double quotes, after a run of so many double quotes. -/
def escaped (isLong : Bool) (quotesBefore : Nat) (c : Char) : List Char :=
  if c = '"' then (if quotesBefore < (if isLong then 2 else 0) then ['"'] else ['\\', '"'])
  else if c = '\\' then ['\\', '\\']
  else if c = '\n' then (if isLong then ['\n'] else ['\\', 'n'])
  else if c = '\t' then ['\\', 't']
  else if c = '\r' then ['\\', 'r']
  else if c.toNat = 8 then ['\\', 'b']
  else if c.toNat = 12 then ['\\', 'f']
  else if isControl c then
    ['\\', 'u'] ++ (Text.hexPadded 4 c.toNat).toList.map Char.toUpper
  else [c]

/-- The characters between double quotes, given how many double quotes stand before them. -/
def escapedAll (isLong : Bool) : Nat → List Char → List Char
  | _, [] => []
  | quotesBefore, c :: rest =>
    let written := escaped isLong quotesBefore c
    written ++ escapedAll isLong (if written = ['"'] then quotesBefore + 1 else 0) rest

/-- A text as a TOML string. -/
def quoted (text : String) : String :=
  let chars := text.toList
  let style := styleFor chars
  let marks := List.replicate (if style.isLong then 3 else 1) style.quote
  let opening := if style.isLong && chars.contains '\n' then ['\n'] else []
  let inside := if style.quote = '"' then escapedAll style.isLong 0 chars else chars
  String.ofList (marks ++ opening ++ inside ++ marks)

end CallTracing.Toml
