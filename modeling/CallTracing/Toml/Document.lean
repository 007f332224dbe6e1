/-
  CallTracing/Toml/Document.lean
  ==============================
  **Reading TOML documents**, and TOML as a format for settings.

  A document is a list of statements: a header, the header of an array element, or a key with a
  value.  Each statement changes the root table as `Table` says.  A document may start with a byte
  order mark.

  A record is a table, or an array of its fields in order.  A name is chosen by a string, or by a
  table with one key over an empty table or an empty array.
-/
import CallTracing.Settings.Decode
import CallTracing.Toml.Scalar
import CallTracing.Toml.Table

namespace CallTracing.Toml

/-- How deeply values may be nested, and how many parts a key may have. -/
def nestingLimit : Nat := 80

/-! ### Keys -/

/-- Whether a character may stand in a key without quotes. -/
def isBareKeyChar (c : Char) : Bool := c.isAlphanum || c == '_' || c == '-'

/-- A part of a key. -/
def readKeyPart? (text : List Char) : Option (String × List Char) :=
  match text with
  | [] => none
  | c :: rest =>
    if c = '"' ∨ c = singleQuote then
      if rest.take 2 = [c, c] then none else readString? text
    else
      let word := text.takeWhile isBareKeyChar
      if word.isEmpty then none else some (String.ofList word, text.dropWhile isBareKeyChar)

/-- The parts of a key, between dots; blanks may stand around each. -/
def readKey? : Nat → List Char → Option (List String × List Char)
  | 0, _ => none
  | fuel + 1, text =>
    (readKeyPart? (skipBlanks text)).bind fun (part, rest) =>
      match skipBlanks rest with
      | '.' :: more => (readKey? fuel more).map fun (parts, left) => (part :: parts, left)
      | left => some ([part], left)

/-- A key of no more parts than allowed: all but the last, the last, and the text after it. -/
def splitKey? (text : List Char) : Option (List String × String × List Char) :=
  (readKey? (nestingLimit - 1) text).bind fun (parts, rest) =>
    parts.getLast?.map fun last => (parts.dropLast, last, rest)

/-! ### Values -/

mutual

/-- A value; `depth` bounds the nesting, and `fuel` the number of values. -/
def readValue : Nat → Nat → List Char → Option (Item × List Char)
  | 0, _, _ => none
  | fuel + 1, depth, text =>
    match text with
    | [] => none
    | '[' :: rest =>
      match depth with
      | 0 => none
      | depth + 1 => (readItems fuel depth (skipSpace rest)).map fun (items, left) => (.array items, left)
    | '{' :: rest =>
      match depth with
      | 0 => none
      | depth + 1 =>
        match skipBlanks rest with
        | '}' :: left => some (.inlineTable [], left)
        | rest => (readEntries fuel depth [] rest).map fun (entries, left) => (.inlineTable entries, left)
    | 't' :: 'r' :: 'u' :: 'e' :: rest => some (.switch true, rest)
    | 'f' :: 'a' :: 'l' :: 's' :: 'e' :: rest => some (.switch false, rest)
    | c :: _ =>
      if c = '"' ∨ c = singleQuote then
        (readString? text).map fun (s, left) => (.text s, left)
      else
        let (word, left) := splitWord text
        if isQuantity word then some (.quantity, left) else none

/-- The items of an array up to its closing bracket; a comma may follow the last. -/
def readItems : Nat → Nat → List Char → Option (List Item × List Char)
  | 0, _, _ => none
  | fuel + 1, depth, text =>
    match text with
    | ']' :: left => some ([], left)
    | _ =>
      (readValue fuel depth text).bind fun (item, rest) =>
        match skipSpace rest with
        | ']' :: left => some ([item], left)
        | ',' :: more =>
          (readItems fuel depth (skipSpace more)).map fun (items, left) => (item :: items, left)
        | _ => none

/-- The entries of an inline table up to its closing brace; there is at least one. -/
def readEntries : Nat → Nat → Entries → List Char → Option (Entries × List Char)
  | 0, _, _, _ => none
  | fuel + 1, depth, entries, text =>
    (splitKey? text).bind fun (path, key, rest) =>
      match rest with
      | '=' :: rest =>
        (readValue fuel depth (skipBlanks rest)).bind fun (item, rest) =>
          (Entries.insert path key item (.header, entries)).bind fun entries =>
            match skipBlanks rest with
            | '}' :: left => some (entries, left)
            | ',' :: more => readEntries fuel depth entries more
            | _ => none
      | _ => none

end

/-! ### Statements -/

/-- A statement of a document. -/
inductive Statement where
  | header (path : List String) (key : String)
  | element (path : List String) (key : String)
  | pair (path : List String) (key : String) (item : Item)

/-- A statement at the start of a text. -/
def readStatement? (text : List Char) : Option (Statement × List Char) :=
  match text with
  | '[' :: '[' :: rest =>
    (splitKey? rest).bind fun (path, key, rest) =>
      match rest with
      | ']' :: ']' :: left => some (.element path key, left)
      | _ => none
  | '[' :: rest =>
    (splitKey? rest).bind fun (path, key, rest) =>
      match rest with
      | ']' :: left => some (.header path key, left)
      | _ => none
  | _ =>
    (splitKey? text).bind fun (path, key, rest) =>
      match rest with
      | '=' :: rest =>
        (readValue (2 * text.length + 2) (nestingLimit - 1) (skipBlanks rest)).map fun (item, left) =>
          (.pair path key item, left)
      | _ => none

/-- The statements of a text, each at the end of its line but for a comment. -/
def readStatements : Nat → List Char → Option (List Statement)
  | 0, _ => none
  | fuel + 1, text =>
    match skipSpace text with
    | [] => some []
    | start =>
      (readStatement? start).bind fun (statement, rest) =>
        match skipComment (skipBlanks rest) with
        | [] => some [statement]
        | rest =>
          (afterLineEnd? rest).bind fun rest =>
            (readStatements fuel rest).map (statement :: ·)

/-- A document so far: its root table, and the path of the table that keys now go to. -/
structure Draft where
  root : Entries := []
  current : List String := []

/-- Carry out a statement. -/
def Draft.step (draft : Draft) : Statement → Option Draft
  | .header path key => (draft.root.openTable path key).map (⟨·, path ++ [key]⟩)
  | .element path key => (draft.root.openElement path key).map (⟨·, path ++ [key]⟩)
  | .pair path key item =>
    (Entries.changeAt .implied (Entries.insert path key item) draft.current (.header, draft.root)).map
      fun root => { draft with root := root }

/-- The text after a byte order mark, if there is one. -/
def afterMark (text : List Char) : List Char :=
  match text with
  | c :: rest => if c.toNat = 0xFEFF then rest else text
  | [] => []

/-- The root table of a document. -/
def parse? (text : String) : Option Entries :=
  let chars := afterMark text.toList
  (readStatements (chars.length + 1) chars).bind fun statements =>
    (statements.foldlM Draft.step {}).map (·.root)

/-! ### Settings -/

/-- The entries of a table. -/
def Item.entries? : Item → Option Entries
  | .inlineTable entries => some entries
  | .table _ entries => some entries
  | _ => none

/-- The items of an array. -/
def Item.items? : Item → Option (List Item)
  | .array items => some items
  | .tables elements => some (elements.map (Item.table .header))
  | _ => none

/-- Whether the item is an empty table or an empty array. -/
def Item.isEmpty (item : Item) : Bool :=
  (item.entries?.map List.isEmpty).getD ((item.items?.map List.isEmpty).getD false)

/-- How TOML values are seen by the settings. -/
def documentView : DocumentView Item where
  switch?
    | .switch b => some b
    | _ => none
  text?
    | .text s => some s
    | _ => none
  list? := Item.items?
  record? item := (item.entries?.map .named).or (item.items?.map .positional)
  choice?
    | .text s => some s
    | item =>
      match item.entries? with
      | some [(name, content)] => if content.isEmpty then some name else none
      | _ => none

/-- The settings that a TOML document describes. -/
def settings? (text : String) : Option Settings :=
  (parse? text).bind fun root => documentView.settings (.table .header root)

end CallTracing.Toml
