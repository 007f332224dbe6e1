/-
  CallTracing/Payload/Display.lean
  ================================
  **Field values as text.**

  `flat?` is the text that an attribute takes from a value, if the value has one: scalars are
  written out, a list shows the items that have a text, a map its keys, a record its JSON form.
  Bytes have no text, so that bodies do not end up in attributes.  `shown` is the form for
  diagnostics, which shows how many bytes there are and not which.  `decodeText?` reads a body:
  a text, or bytes as UTF-8.
-/
import CallTracing.Json.Writer
import CallTracing.Payload.Basic
import CallTracing.Text.Quoted
import CallTracing.Text.Utf8

namespace CallTracing.FieldValue

/-! ### Attribute text -/

/-- Texts in brackets, with commas between them; nothing where that would be empty. -/
def joined? (parts : List String) : Option String :=
  let body := ",".intercalate parts
  if body.isEmpty then none else some ("[" ++ body ++ "]")

mutual

/-- The text of a value in an attribute. -/
def flat? : FieldValue → Option String
  | .text s => some s
  | .int n => some (toString n)
  | .float x => some x.jsonText
  | .bool b => some (Text.shownBool b)
  | .bytes _ => none
  | .list items => joined? (flatItems items)
  | .map entries => joined? (entries.map (·.1))
  | .record payload => payload.marshalled.map Json.text

/-- The texts of the items that have one. -/
def flatItems : List FieldValue → List String
  | [] => []
  | item :: rest =>
    match flat? item with
    | some flat => flat :: flatItems rest
    | none => flatItems rest

end

theorem flatItems_eq_filterMap (items : List FieldValue) :
    flatItems items = items.filterMap flat? := by
  induction items with
  | nil => rfl
  | cons item rest ih => cases h : flat? item <;> simp [flatItems, h, ih]

/-! ### Bodies -/

/-- The text of a body, if the value can be one. -/
def decodeText? : FieldValue → Option String
  | .text s => some s
  | .bytes content => some (Text.Utf8.decodeLossy content)
  | _ => none

/-! ### Diagnostics -/

mutual

/-- The value as diagnostics show it. -/
def shown : FieldValue → String
  | .text s => "Str(" ++ Text.quoted s ++ ")"
  | .int n => "Int(" ++ toString n ++ ")"
  | .float x => "Float(" ++ x.text Binary64.debugLayout ++ ")"
  | .bool b => "Bool(" ++ Text.shownBool b ++ ")"
  | .bytes content => "Bytes(" ++ toString content.length ++ " bytes)"
  | .list items => "List(" ++ Text.shownList (shownItems items) ++ ")"
  | .map entries =>
    "Map(\x7b" ++ Text.commaSeparated (shownEntries entries) ++ "\x7d)"
  | .record payload => "Record(" ++ payload.typeName ++ ")"

/-- The items of a list as diagnostics show them. -/
def shownItems : List FieldValue → List String
  | [] => []
  | item :: rest => shown item :: shownItems rest

/-- The entries of a map as diagnostics show them. -/
def shownEntries : List (String × FieldValue) → List String
  | [] => []
  | (key, value) :: rest => (Text.quoted key ++ ": " ++ shown value) :: shownEntries rest

end

end CallTracing.FieldValue
