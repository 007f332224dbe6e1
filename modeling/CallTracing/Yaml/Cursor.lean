/-
  CallTracing/Yaml/Cursor.lean
  ============================
  **A place in a YAML text.**  Indentation is part of YAML's grammar, so a reader has to know the
  column of every token, and whether two tokens are on one line.  A cursor is the rest of the text
  together with that knowledge.
-/

namespace CallTracing.Yaml

/-- Whether a character ends a line. -/
def isBreak (c : Char) : Bool :=
  c == '\n' || c == '\r' || c.toNat == 0x85 || c.toNat == 0x2028 || c.toNat == 0x2029

/-- Whether a character is a blank within a line. -/
def isBlank (c : Char) : Bool := c == ' ' || c == '\t'

/-- Whether a word ends before this, the end of the text included. -/
def endsWord : Option Char → Bool
  | none => true
  | some c => isBlank c || isBreak c

/-- Whether a character can be part of the name of an anchor, a handle or a directive. -/
def isNameChar (c : Char) : Bool :=
  (c.toNat < 128 && c.isAlphanum) || c == '_' || c == '-'

/-- Whether a character may stand in a text at all. -/
def isPrintable (c : Char) : Bool :=
  let n := c.toNat
  n == 9 || n == 10 || n == 13 || (0x20 ≤ n && n ≤ 0x7E) || n == 0x85 || (0xA0 ≤ n && n ≤ 0xFFFD)
    || 0x10000 ≤ n

/-- A place in a text. -/
structure Cursor where
  /-- What is left of the text. -/
  rest : List Char
  /-- How many characters are before this place. -/
  index : Nat := 0
  line : Nat := 0
  column : Nat := 0
deriving Repr

namespace Cursor

/-- The character so many places on. -/
def ahead (cursor : Cursor) (count : Nat) : Option Char := cursor.rest[count]?

/-- The character here. -/
def here (cursor : Cursor) : Option Char := cursor.rest.head?

/-- The place so many characters further on the line. -/
def advance (cursor : Cursor) (count : Nat) : Cursor :=
  { cursor with
    rest := cursor.rest.drop count
    index := cursor.index + count
    column := cursor.column + count }

/-- The place on the line where only this is left of the text. -/
def upTo (cursor : Cursor) (rest : List Char) : Cursor :=
  cursor.advance (cursor.rest.length - rest.length)

/-- The longest run of characters here with a property, and the place after it. -/
def span (cursor : Cursor) (p : Char → Bool) : List Char × Cursor :=
  let run := cursor.rest.takeWhile p
  (run, cursor.advance run.length)

/-- The place after blanks. -/
def skipBlanks (cursor : Cursor) : Cursor := (cursor.span isBlank).2

/-- The place after a comment, if there is one here. -/
def skipComment (cursor : Cursor) : Cursor :=
  if cursor.here = some '#' then (cursor.span (!isBreak ·)).2 else cursor

/-- The place after so many characters that end a line. -/
def nextLine (cursor : Cursor) (count : Nat) : Cursor where
  rest := cursor.rest.drop count
  index := cursor.index + count
  line := cursor.line + 1
  column := 0

/-- The line end here as it counts in a text, and the place after it. -/
def lineEnd? (cursor : Cursor) : Option (Char × Cursor) :=
  match cursor.rest with
  | '\r' :: '\n' :: _ => some ('\n', cursor.nextLine 2)
  | c :: _ =>
    if isBreak c then
      some (if c.toNat = 0x2028 ∨ c.toNat = 0x2029 then c else '\n', cursor.nextLine 1)
    else none
  | [] => none

/-- Whether a mark of three characters stands here, at the start of a line. -/
def isMark (cursor : Cursor) (c : Char) : Bool :=
  cursor.column == 0 && cursor.rest.take 3 == [c, c, c] && endsWord (cursor.ahead 3)

/-- Whether a document begins or ends here. -/
def isDocumentMark (cursor : Cursor) : Bool := cursor.isMark '-' || cursor.isMark '.'

end Cursor

end CallTracing.Yaml
