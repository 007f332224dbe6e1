/-
  CallTracing/Yaml/Scalar.lean
  ============================
  **The text of a YAML scalar.**

  A scalar is written plain, between quotes, or as a block of lines.  Over several lines the plain
  and the quoted styles fold: one line end counts as a blank, and of several the first does not
  count.  What stands between two words of such a scalar is a `Gap`; a folded block has the same
  rule for whole lines, except around lines that start with a blank.
-/
import CallTracing.Text.Hex
import CallTracing.Yaml.Cursor

namespace CallTracing.Yaml

/-- How a scalar is written. -/
inductive ScalarStyle where
  | plain
  | singleQuoted
  | doubleQuoted
  | literal
  | folded
deriving DecidableEq, Repr

/-! ### Gaps -/

/-- What stands between two words of a scalar. -/
structure Gap where
  /-- The blanks, where there is no line end. -/
  blanks : List Char := []
  /-- The first line end; nothing, if it is taken back by a backslash. -/
  first : Option (List Char) := none
  /-- The other line ends. -/
  more : List Char := []

/-- What a gap counts for. -/
def Gap.text (gap : Gap) : List Char :=
  match gap.first with
  | none => gap.blanks
  | some ['\n'] => if gap.more.isEmpty then [' '] else gap.more
  | some first => first ++ gap.more

/-- The gap here, after what was already read of it.  A tab must not stand left of `margin` on a
new line. -/
def readGap (margin : Nat) : Nat → Gap → Cursor → Option (Gap × Cursor)
  | 0, gap, cursor => some (gap, cursor)
  | fuel + 1, gap, cursor =>
    match cursor.here with
    | none => some (gap, cursor)
    | some c =>
      if isBlank c then
        if gap.first.isSome && c == '\t' && decide (cursor.column < margin) then none
        else
          let gap := if gap.first.isNone then { gap with blanks := gap.blanks ++ [c] } else gap
          readGap margin fuel gap (cursor.advance 1)
      else
        match cursor.lineEnd? with
        | none => some (gap, cursor)
        | some (lineEnd, next) =>
          let gap : Gap :=
            if gap.first.isNone then { gap with blanks := [], first := some [lineEnd] }
            else { gap with more := gap.more ++ [lineEnd] }
          readGap margin fuel gap next

/-! ### Plain scalars -/

/-- Whether a character separates the items of a flow collection. -/
def isFlowMark (c : Char) : Bool := c == ',' || c == '[' || c == ']' || c == '{' || c == '}'

/-- A word of a plain scalar.  In a flow collection a colon must not stand right before a mark. -/
def plainWord (inFlow : Bool) : List Char → Option (List Char)
  | [] => some []
  | c :: rest =>
    if isBlank c || isBreak c then some []
    else if inFlow && c == ':' && (rest.head?.map fun d => isFlowMark d || d == '?').getD false then
      none
    else if c == ':' && endsWord rest.head? then some []
    else if inFlow && isFlowMark c then some []
    else (plainWord inFlow rest).map (c :: ·)

/-- A plain scalar here, whose lines are indented up to `margin`: its text, the place after it, and
whether that is on a new line. -/
def readPlain (inFlow : Bool) (margin : Nat) :
    Nat → List Char → Gap → Cursor → Option (List Char × Cursor × Bool)
  | 0, _, _, _ => none
  | fuel + 1, text, gap, cursor =>
    let done := some (text, cursor, gap.first.isSome)
    if cursor.isDocumentMark || cursor.here == some '#' then done
    else
      match plainWord inFlow cursor.rest with
      | none => none
      | some [] => done
      | some word =>
        let text := text ++ gap.text ++ word
        let cursor := cursor.advance word.length
        match readGap margin (cursor.rest.length + 1) {} cursor with
        | none => none
        | some (gap, next) =>
          if next.index = cursor.index then some (text, cursor, false)
          else if !inFlow && decide (next.column < margin) then some (text, next, gap.first.isSome)
          else readPlain inFlow margin fuel text gap next

/-! ### Quoted scalars -/

/-- The single quote. -/
def singleQuote : Char := Char.ofNat 39

/-- The character of a code, if there is one. -/
def charOf? (code : Nat) : Option Char :=
  if h : code.isValidChar then some (Char.ofNatAux code h) else none

/-- The characters that a letter after a backslash stands for. -/
def escapes : List (Char × Nat) :=
  [('0', 0), ('a', 7), ('b', 8), ('t', 9), ('\t', 9), ('n', 10), ('v', 11), ('f', 12), ('r', 13),
    ('e', 27), (' ', 0x20), ('"', 0x22), ('/', 0x2F), ('\\', 0x5C), ('N', 0x85), ('_', 0xA0),
    ('L', 0x2028), ('P', 0x2029)]

/-- How many digits of a code follow a letter after a backslash. -/
def codeWidths : List (Char × Nat) := [('x', 2), ('u', 4), ('U', 8)]

/-- The character that an escape stands for, after its backslash. -/
def readEscape? : List Char → Option (Char × List Char)
  | [] => none
  | c :: rest =>
    match escapes.lookup c, codeWidths.lookup c with
    | some code, _ => some (Char.ofNat code, rest)
    | none, some width =>
      if (rest.take width).length = width then
        ((Text.hexNumber? (rest.take width)).bind charOf?).map fun d => (d, rest.drop width)
      else none
    | none, none => none

/-- A word of a quoted scalar, up to a blank, a line end, a backslash before a line end, or the
closing quote. -/
def quotedWord (isDouble : Bool) : Nat → List Char → Option (List Char × List Char)
  | 0, _ => none
  | _ + 1, [] => some ([], [])
  | fuel + 1, c :: rest =>
    if isBlank c || isBreak c then some ([], c :: rest)
    else if !isDouble && c == singleQuote then
      if rest.head? = some singleQuote then
        (quotedWord isDouble fuel (rest.drop 1)).map fun (word, left) => (c :: word, left)
      else some ([], c :: rest)
    else if isDouble && c == '"' then some ([], c :: rest)
    else if isDouble && c == '\\' then
      if (rest.head?.map isBreak).getD false then some ([], c :: rest)
      else
        (readEscape? rest).bind fun (escaped, rest) =>
          (quotedWord isDouble fuel rest).map fun (word, left) => (escaped :: word, left)
    else (quotedWord isDouble fuel rest).map fun (word, left) => (c :: word, left)

/-- A quoted scalar, after its opening quote: its text and the place after it. -/
def readQuoted (isDouble : Bool) : Nat → List Char → Cursor → Option (List Char × Cursor)
  | 0, _, _ => none
  | fuel + 1, text, cursor =>
    if cursor.isDocumentMark then none
    else
      (quotedWord isDouble (cursor.rest.length + 1) cursor.rest).bind fun (word, rest) =>
        let text := text ++ word
        let cursor := cursor.upTo rest
        match rest with
        | [] => none
        | c :: _ =>
          if c = (if isDouble then '"' else singleQuote) then some (text, cursor.advance 1)
          else
            let start : Option (Gap × Cursor) :=
              if c = '\\' then
                ((cursor.advance 1).lineEnd?).map fun (_, next) => ({ first := some [] }, next)
              else some ({}, cursor)
            start.bind fun (gap, cursor) =>
              (readGap 0 (cursor.rest.length + 1) gap cursor).bind fun (gap, next) =>
                readQuoted isDouble fuel (text ++ gap.text) next

/-! ### Block scalars -/

/-- What becomes of the line ends after the last line of a block. -/
inductive Chomping where
  | strip
  | clip
  | keep
deriving DecidableEq, Repr

/-- What stands behind the mark of a block. -/
structure BlockHeader where
  chomping : Chomping := .clip
  /-- How far the lines are indented, if it is said. -/
  indentation : Option Nat := none

/-- The chomping that a mark stands for. -/
def chompingOf? (c : Char) : Option Chomping :=
  if c = '-' then some .strip else if c = '+' then some .keep else none

/-- The indentation that a digit stands for; zero is refused. -/
def indentationOf? (c : Char) : Option (Option Nat) :=
  if c.isDigit then some (if c = '0' then none else some (c.toNat - '0'.toNat)) else none

/-- The header of a block: a mark and a digit, in either order, or one of them, or none. -/
def readHeader? (cursor : Cursor) : Option (BlockHeader × Cursor) :=
  match cursor.here with
  | none => some ({}, cursor)
  | some c =>
    match chompingOf? c, indentationOf? c with
    | some chomping, _ =>
      let cursor := cursor.advance 1
      match cursor.here.bind indentationOf? with
      | none => some ({ chomping := chomping }, cursor)
      | some none => none
      | some (some n) => some (⟨chomping, some n⟩, cursor.advance 1)
    | none, some none => none
    | none, some (some n) =>
      let cursor := cursor.advance 1
      match cursor.here.bind chompingOf? with
      | none => some ({ indentation := some n }, cursor)
      | some chomping => some (⟨chomping, some n⟩, cursor.advance 1)
    | none, none => some ({}, cursor)

/-- The line ends before the next line of a block, and the deepest indentation met.  While the
indentation of the block is not known (`none`) every leading blank counts. -/
def blankLines (indentation : Option Nat) :
    Nat → List Char → Nat → Cursor → Option (List Char × Nat × Cursor)
  | 0, ends, deepest, cursor => some (ends, deepest, cursor)
  | fuel + 1, ends, deepest, cursor =>
    let isMargin := (indentation.map fun n => decide (cursor.column < n)).getD true
    if isMargin && cursor.here == some ' ' then
      blankLines indentation fuel ends (max deepest (cursor.column + 1)) (cursor.advance 1)
    else if isMargin && cursor.here == some '\t' then none
    else
      match cursor.lineEnd? with
      | none => some (ends, deepest, cursor)
      | some (lineEnd, next) => blankLines indentation fuel (ends ++ [lineEnd]) deepest next

/-- What joins two lines of a block. -/
def joined (isLiteral aroundBlank : Bool) (lineEnd : List Char) (more : List Char) : List Char :=
  if !isLiteral && lineEnd == ['\n'] && !aroundBlank then (if more.isEmpty then [' '] else more)
  else lineEnd ++ more

/-- The lines of a block: the text, the last line end, the line ends after it, and the place after
the block. -/
def readLines (isLiteral : Bool) (indentation : Nat) :
    Nat → List Char → List Char → List Char → Bool → Cursor →
      Option (List Char × List Char × List Char × Cursor)
  | 0, _, _, _, _, _ => none
  | fuel + 1, text, lineEnd, more, afterBlank, cursor =>
    if cursor.column ≠ indentation ∨ cursor.rest.isEmpty then some (text, lineEnd, more, cursor)
    else
      let startsBlank := (cursor.here.map isBlank).getD false
      let (line, after) := cursor.span (!isBreak ·)
      let text := text ++ joined isLiteral (afterBlank || startsBlank) lineEnd more ++ line
      let (lineEnd, next) : List Char × Cursor :=
        match after.lineEnd? with
        | some (c, next) => ([c], next)
        | none => ([], after)
      (blankLines (some indentation) (next.rest.length + 1) [] 0 next).bind fun (more, _, next) =>
        readLines isLiteral indentation fuel text lineEnd more startsBlank next

/-- A block scalar, after its mark.  `outer` is the indentation of what it stands in, and is below
zero at the top. -/
def readBlock (isLiteral : Bool) (outer : Int) (cursor : Cursor) : Option (List Char × Cursor) :=
  (readHeader? cursor).bind fun (header, cursor) =>
    let cursor := cursor.skipBlanks.skipComment
    let start : Option Cursor :=
      if cursor.rest.isEmpty then some cursor else cursor.lineEnd?.map (·.2)
    start.bind fun cursor =>
      let known := header.indentation.map fun n => (max outer 0).toNat + n
      (blankLines known (cursor.rest.length + 1) [] 0 cursor).bind fun (ends, deepest, cursor) =>
        let indentation := known.getD (max deepest (max (outer + 1).toNat 1))
        (readLines isLiteral indentation (cursor.rest.length + 2) [] [] ends false cursor).map
          fun (text, lineEnd, more, cursor) =>
            match header.chomping with
            | .strip => (text, cursor)
            | .clip => (text ++ lineEnd, cursor)
            | .keep => (text ++ lineEnd ++ more, cursor)

end CallTracing.Yaml
