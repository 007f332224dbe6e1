/-
  CallTracing/Yaml/Token.lean
  ===========================
  **The tokens of a YAML text.**

  Indentation is turned into tokens here: a block collection begins at the first token of its
  column and ends before the first token left of it.  A mapping key without a question mark is
  recognised only at the colon behind it.  So a token that may turn out to be such a key leaves a
  numbered place in front of it, and the colon fills that place (`Scanner.filled`); places that
  were never filled vanish at the end (`Scanner.tokens`).

  A key without a question mark is on one line and no longer than 1024 characters.  A token at the
  column of a block mapping must be such a key.
-/
import CallTracing.Text.Utf8
import CallTracing.Yaml.Scalar

namespace CallTracing.Yaml

/-- A token. -/
inductive Token where
  | version (major minor : Nat)
  | handle (name uri : String)
  | documentStart
  | documentEnd
  | streamEnd
  | blockSequenceStart
  | blockMappingStart
  | blockEnd
  | flowSequenceStart
  | flowSequenceEnd
  | flowMappingStart
  | flowMappingEnd
  | blockEntry
  | flowEntry
  | key
  | value
  | alias (name : String)
  | anchor (name : String)
  | tag (handle suffix : String)
  | scalar (style : ScalarStyle) (text : String)
deriving DecidableEq, Repr

/-- A token, or a place where a key may turn out to begin. -/
inductive Entry where
  | token (t : Token)
  | place (number : Nat)
deriving DecidableEq, Repr

/-- What may turn out to be a key. -/
structure KeyCandidate where
  place : Nat
  /-- Whether it must turn out to be one. -/
  isRequired : Bool
  index : Nat
  line : Nat
  column : Nat
deriving DecidableEq, Repr

/-- A scanner on its way through a text. -/
structure Scanner where
  cursor : Cursor
  /-- The column of the innermost block collection; below zero for none. -/
  indent : Int := -1
  /-- The columns of the collections around it. -/
  outer : List Int := []
  /-- The candidates, one for each flow collection around this place and one for the blocks. -/
  candidates : List (Option KeyCandidate) := [none]
  /-- Whether a key without a question mark may begin here. -/
  keyAllowed : Bool := true
  places : Nat := 0
  /-- The tokens that fill places. -/
  filled : List (Nat × List Token) := []
  /-- What was found so far, the last first. -/
  entries : List Entry := []

namespace Scanner

/-- Whether the place is inside a flow collection. -/
def inFlow (s : Scanner) : Bool := decide (1 < s.candidates.length)

/-- Add a token. -/
def emit (s : Scanner) (t : Token) : Scanner := { s with entries := .token t :: s.entries }

/-- Add a token of so many characters on one line. -/
def emitMark (s : Scanner) (t : Token) (width : Nat) : Scanner :=
  { s.emit t with cursor := s.cursor.advance width }

/-- All tokens, with the filled places. -/
def tokens (s : Scanner) : List Token :=
  s.entries.reverse.flatMap fun entry =>
    match entry with
    | .token t => [t]
    | .place number => (s.filled.lookup number).getD []

/-! ### Indentation -/

/-- End the block collections right of a column. -/
def closeTo (column : Int) : Int → List Int → List Entry → Int × List Int × List Entry
  | indent, [], entries => (indent, [], entries)
  | indent, next :: outer, entries =>
    if column < indent then closeTo column next outer (.token .blockEnd :: entries)
    else (indent, next :: outer, entries)

/-- End the block collections right of a column; not inside a flow collection. -/
def unroll (s : Scanner) (column : Int) : Scanner :=
  if s.inFlow then s
  else
    let (indent, outer, entries) := closeTo column s.indent s.outer s.entries
    { s with indent := indent, outer := outer, entries := entries }

/-- Whether a block collection begins at a column. -/
def opensAt (s : Scanner) (column : Nat) : Bool := !s.inFlow && decide (s.indent < (column : Int))

/-- Make a column that of the innermost block collection, if it begins there. -/
def indentTo (s : Scanner) (column : Nat) : Scanner :=
  if s.opensAt column then { s with indent := column, outer := s.indent :: s.outer } else s

/-- Begin a block collection here, unless it has begun. -/
def roll (s : Scanner) (t : Token) : Scanner :=
  let column := s.cursor.column
  if s.opensAt column then (s.indentTo column).emit t else s

/-! ### Candidates -/

/-- The candidate of the innermost collection. -/
def candidate? (s : Scanner) : Option KeyCandidate := s.candidates.head?.join

/-- Set the candidate of the innermost collection. -/
def setCandidate (s : Scanner) (c : Option KeyCandidate) : Scanner :=
  { s with candidates := c :: s.candidates.drop 1 }

/-- Whether a candidate is too far away to be a key here. -/
def isStale (s : Scanner) (c : KeyCandidate) : Bool :=
  decide (c.line < s.cursor.line) || decide (c.index + 1024 < s.cursor.index)

/-- Give up the candidates that are too far away. -/
def dropStale (s : Scanner) : Option Scanner :=
  (s.candidates.mapM fun slot =>
    match slot with
    | none => some none
    | some c => if !s.isStale c then some (some c) else if c.isRequired then none else some none).map
    fun candidates => { s with candidates := candidates }

/-- Give up the candidate of the innermost collection. -/
def dropCandidate (s : Scanner) : Option Scanner :=
  match s.candidate? with
  | some c => if c.isRequired then none else some (s.setCandidate none)
  | none => some s

/-- What comes next may turn out to be a key, where one is allowed. -/
def saveCandidate (s : Scanner) : Option Scanner :=
  if s.keyAllowed then
    s.dropCandidate.map fun s =>
      let c : KeyCandidate :=
        { place := s.places
          isRequired := !s.inFlow && decide (s.indent = (s.cursor.column : Int))
          index := s.cursor.index
          line := s.cursor.line
          column := s.cursor.column }
      { s.setCandidate (some c) with
        places := s.places + 1
        entries := .place s.places :: s.entries }
  else some s

/-! ### Marks -/

/-- A mark between documents. -/
def documentMark (s : Scanner) (t : Token) : Option Scanner :=
  (s.unroll (-1)).dropCandidate.map fun s => { s.emitMark t 3 with keyAllowed := false }

/-- The beginning of a flow collection. -/
def flowStart (s : Scanner) (t : Token) : Option Scanner :=
  s.saveCandidate.map fun s =>
    { s.emitMark t 1 with candidates := none :: s.candidates, keyAllowed := true }

/-- The end of a flow collection. -/
def flowEnd (s : Scanner) (t : Token) : Option Scanner :=
  s.dropCandidate.map fun s =>
    let candidates := if s.inFlow then s.candidates.drop 1 else s.candidates
    { s.emitMark t 1 with candidates := candidates, keyAllowed := false }

/-- A comma between the items of a flow collection. -/
def flowEntry (s : Scanner) : Option Scanner :=
  s.dropCandidate.map fun s => { s.emitMark .flowEntry 1 with keyAllowed := true }

/-- A hyphen before an item of a block sequence. -/
def blockEntry (s : Scanner) : Option Scanner :=
  if !s.inFlow && !s.keyAllowed then none
  else
    (s.roll .blockSequenceStart).dropCandidate.map fun s =>
      { s.emitMark .blockEntry 1 with keyAllowed := true }

/-- A question mark before a key. -/
def keyMark (s : Scanner) : Option Scanner :=
  if !s.inFlow && !s.keyAllowed then none
  else
    (s.roll .blockMappingStart).dropCandidate.map fun s =>
      { s.emitMark .key 1 with keyAllowed := !s.inFlow }

/-- A colon before a value: what stands before it on the line was a key. -/
def valueMark (s : Scanner) : Option Scanner :=
  match s.candidate? with
  | some c =>
    let opening := if s.opensAt c.column then [Token.blockMappingStart] else []
    let s := (s.indentTo c.column).setCandidate none
    some { s.emitMark .value 1 with
      filled := (c.place, opening ++ [Token.key]) :: s.filled
      keyAllowed := false }
  | none =>
    if !s.inFlow && !s.keyAllowed then none
    else
      let s := s.roll .blockMappingStart
      some { s.emitMark .value 1 with keyAllowed := !s.inFlow }

/-! ### Names -/

/-- Whether a name may end before this. -/
def endsName (c : Option Char) : Bool :=
  endsWord c || (c.map fun d => "?:,]%@\x7d".toList.contains d || d.toNat == 0x60).getD true

/-- A name behind its mark: an anchor, or an alias to one. -/
def readName (s : Scanner) (make : String → Token) : Option Scanner :=
  s.saveCandidate.bind fun s =>
    let (name, after) := (s.cursor.advance 1).span isNameChar
    if name.isEmpty || !endsName after.here then none
    else some { s.emit (make (String.ofList name)) with cursor := after, keyAllowed := false }

/-- Whether a character may stand in a tag; in one between angle brackets some more may. -/
def isUriChar (isVerbatim : Bool) (c : Char) : Bool :=
  isNameChar c || ";/?:@&=+$.%!~*()".toList.contains c || c == singleQuote
    || (isVerbatim && (c == ',' || c == '[' || c == ']'))

/-- The bytes of a run of percent signs with two digits each, and the text after it. -/
def percentBytes : List Char → Option (List UInt8 × List Char)
  | '%' :: a :: b :: rest =>
    match Text.hexNumber? [a, b], percentBytes rest with
    | some byte, some (bytes, left) => some (UInt8.ofNat byte :: bytes, left)
    | _, _ => none
  | '%' :: _ => none
  | text => some ([], text)

/-- The characters of a tag with percent signs resolved. -/
def unescaped : Nat → List Char → Option (List Char)
  | 0, _ => some []
  | _ + 1, [] => some []
  | fuel + 1, c :: rest =>
    if c = '%' then
      (percentBytes (c :: rest)).bind fun (bytes, left) =>
        (Text.Utf8.decode? bytes).bind fun decoded =>
          (unescaped fuel left).map (decoded.toList ++ ·)
    else (unescaped fuel rest).map (c :: ·)

/-- The characters of a tag here, and the place after them. -/
def readUri (isVerbatim : Bool) (cursor : Cursor) : Option (List Char × Cursor) :=
  let (raw, after) := cursor.span (isUriChar isVerbatim)
  (unescaped (raw.length + 1) raw).map fun chars => (chars, after)

/-- A handle here: an exclamation mark, with a name and another one or without. -/
def readHandle (cursor : Cursor) : Option (List Char × Cursor) :=
  if cursor.here = some '!' then
    let (name, after) := (cursor.advance 1).span isNameChar
    if after.here = some '!' then some ('!' :: name ++ ['!'], after.advance 1)
    else some ('!' :: name, after)
  else none

/-- Handle and suffix of a tag here, and the place after it. -/
def splitTag (cursor : Cursor) : Option (List Char × List Char × Cursor) :=
  if cursor.ahead 1 = some '<' then
    (readUri true (cursor.advance 2)).bind fun (uri, after) =>
      if uri.isEmpty || after.here != some '>' then none else some ([], uri, after.advance 1)
  else
    (readHandle cursor).bind fun (handle, after) =>
      if 2 ≤ handle.length ∧ handle.getLast? = some '!' then
        (readUri false after).bind fun (uri, after) =>
          if uri.isEmpty then none else some (handle, uri, after)
      else
        (readUri false after).map fun (uri, after) =>
          match handle.drop 1 ++ uri with
          | [] => ([], ['!'], after)
          | suffix => (['!'], suffix, after)

/-- A tag. -/
def readTag (s : Scanner) : Option Scanner :=
  s.saveCandidate.bind fun s =>
    (splitTag s.cursor).bind fun (handle, suffix, after) =>
      if endsWord after.here || (s.inFlow && after.here == some ',') then
        some { s.emit (.tag (String.ofList handle) (String.ofList suffix)) with
          cursor := after, keyAllowed := false }
      else none

/-! ### Directives -/

/-- A part of a version number. -/
def readVersionPart (cursor : Cursor) : Option (Nat × Cursor) :=
  let (digits, after) := cursor.span Char.isDigit
  if digits.isEmpty || decide (9 < digits.length) then none
  else some (digits.foldl (fun n c => n * 10 + (c.toNat - '0'.toNat)) 0, after)

/-- What stands behind the name of a directive. -/
def directiveOf (name : String) (cursor : Cursor) : Option (Token × Cursor) :=
  match name with
  | "YAML" =>
    (readVersionPart cursor.skipBlanks).bind fun (major, after) =>
      if after.here = some '.' then
        (readVersionPart (after.advance 1)).map fun (minor, after) => (.version major minor, after)
      else none
  | "TAG" =>
    (readHandle cursor.skipBlanks).bind fun (handle, after) =>
      if (after.here.map isBlank).getD false && (handle == ['!'] || handle.getLast? == some '!') then
        (readUri true after.skipBlanks).bind fun (uri, after) =>
          if uri.isEmpty || !endsWord after.here then none
          else some (.handle (String.ofList handle) (String.ofList uri), after)
      else none
  | _ => none

/-- A directive: a line of its own, but for a comment. -/
def readDirective (s : Scanner) : Option Scanner :=
  (s.unroll (-1)).dropCandidate.bind fun s =>
    let (name, after) := (s.cursor.advance 1).span isNameChar
    if !endsWord after.here then none
    else
      (directiveOf (String.ofList name) after).bind fun (token, after) =>
        let after := after.skipBlanks.skipComment
        if after.rest.isEmpty then some { s.emit token with cursor := after, keyAllowed := false }
        else
          after.lineEnd?.map fun (_, next) =>
            { s.emit token with cursor := next, keyAllowed := false }

/-! ### Scalars -/

/-- A block scalar. -/
def blockScalar (s : Scanner) (isLiteral : Bool) : Option Scanner :=
  s.dropCandidate.bind fun s =>
    (readBlock isLiteral s.indent (s.cursor.advance 1)).map fun (text, after) =>
      { s.emit (.scalar (if isLiteral then .literal else .folded) (String.ofList text)) with
        cursor := after, keyAllowed := true }

/-- A quoted scalar. -/
def quotedScalar (s : Scanner) (isDouble : Bool) : Option Scanner :=
  s.saveCandidate.bind fun s =>
    (readQuoted isDouble (s.cursor.rest.length + 1) [] (s.cursor.advance 1)).map fun (text, after) =>
      { s.emit (.scalar (if isDouble then .doubleQuoted else .singleQuoted) (String.ofList text)) with
        cursor := after, keyAllowed := false }

/-- A plain scalar.  Where it ends on a new line, a key may follow. -/
def plainScalar (s : Scanner) : Option Scanner :=
  s.saveCandidate.bind fun s =>
    let margin := (s.indent + 1).toNat
    (readPlain s.inFlow margin (s.cursor.rest.length + 1) [] {} s.cursor).map
      fun (text, after, onNewLine) =>
        { s.emit (.scalar .plain (String.ofList text)) with cursor := after, keyAllowed := onNewLine }

/-! ### Steps -/

/-- Whether a plain scalar can start with a character that has another one behind it. -/
def startsPlain (inFlow : Bool) (c : Char) (next : Option Char) : Bool :=
  if c == '-' then !(next.map isBlank).getD false
  else if c == '?' || c == ':' then !inFlow && !endsWord next
  else !("&*!|>%@#,[]\"\x7b\x7d".toList.contains c || c == singleQuote || c.toNat == 0x60)

/-- The token that starts with a character. -/
def readToken (s : Scanner) (c : Char) : Option Scanner :=
  let next := s.cursor.ahead 1
  if s.cursor.column == 0 && c == '%' then s.readDirective
  else if s.cursor.isMark '-' then s.documentMark .documentStart
  else if s.cursor.isMark '.' then s.documentMark .documentEnd
  else if c == '[' then s.flowStart .flowSequenceStart
  else if c.toNat == 0x7B then s.flowStart .flowMappingStart
  else if c == ']' then s.flowEnd .flowSequenceEnd
  else if c.toNat == 0x7D then s.flowEnd .flowMappingEnd
  else if c == ',' then s.flowEntry
  else if c == '-' && endsWord next then s.blockEntry
  else if c == '?' && (s.inFlow || endsWord next) then s.keyMark
  else if c == ':' && (s.inFlow || endsWord next) then s.valueMark
  else if c == '*' then s.readName .alias
  else if c == '&' then s.readName .anchor
  else if c == '!' then s.readTag
  else if c == '|' && !s.inFlow then s.blockScalar true
  else if c == '>' && !s.inFlow then s.blockScalar false
  else if c == singleQuote then s.quotedScalar false
  else if c == '"' then s.quotedScalar true
  else if !isBlank c && startsPlain s.inFlow c next then s.plainScalar
  else none

/-- The next blank, comment, line end or token. -/
def step (s : Scanner) (c : Char) : Option Scanner :=
  if c == ' ' || (c == '\t' && (s.inFlow || !s.keyAllowed))
      || (c.toNat == 0xFEFF && s.cursor.column == 0) then
    some { s with cursor := s.cursor.advance 1 }
  else if c == '#' then some { s with cursor := s.cursor.skipComment }
  else
    match s.cursor.lineEnd? with
    | some (_, next) => some { s with cursor := next, keyAllowed := s.keyAllowed || !s.inFlow }
    | none => s.dropStale.bind fun s => (s.unroll s.cursor.column).readToken c

/-- The end of the text. -/
def atEnd (s : Scanner) : Option Scanner :=
  (s.unroll (-1)).dropCandidate.map (·.emit .streamEnd)

/-- Go through the rest of a text. -/
def run : Nat → Scanner → Option Scanner
  | 0, _ => none
  | fuel + 1, s =>
    match s.cursor.here with
    | none => s.atEnd
    | some c => (s.step c).bind (run fuel)

end Scanner

/-- The tokens of a text, which must consist of printable characters. -/
def tokens? (text : String) : Option (List Token) :=
  let chars := text.toList
  if chars.all isPrintable then
    (Scanner.run (chars.length + 1) { cursor := { rest := chars } }).map Scanner.tokens
  else none

end CallTracing.Yaml
