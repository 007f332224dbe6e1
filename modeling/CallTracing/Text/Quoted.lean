/-
  CallTracing/Text/Quoted.lean
  ============================
  **Texts as they are shown in diagnostics**: between double quotes, with a backslash before a
  quote or a backslash, short names for the usual controls, and every character that would not be
  seen (`hiddenRanges`) written by its code point.  Records, lists and optional values are shown
  around such texts; the functions at the end lay those out.
-/
import CallTracing.Text.CharTable
import CallTracing.Text.Hex

namespace CallTracing.Text

/-- One character of a quoted text. -/
def quotedChar (c : Char) : String :=
  if c = '"' then "\\\""
  else if c = '\\' then "\\\\"
  else if c = '\n' then "\\n"
  else if c = '\r' then "\\r"
  else if c = '\t' then "\\t"
  else if c.toNat = 0 then "\\0"
  else if inRanges hiddenRanges c.toNat then "\\u\x7b" ++ String.ofList (hexDigits c.toNat) ++ "\x7d"
  else c.toString

/-- A text between quotes. -/
def quoted (text : String) : String :=
  "\"" ++ String.join (text.toList.map quotedChar) ++ "\""

/-! ### Layouts around texts -/

/-- Texts with a comma and a blank between neighbours. -/
def commaSeparated (parts : List String) : String := ", ".intercalate parts

/-- A value that may be absent. -/
def shownOption (shown : Option String) : String :=
  match shown with
  | some text => "Some(" ++ text ++ ")"
  | none => "None"

/-- A list in brackets. -/
def shownList (items : List String) : String := "[" ++ commaSeparated items ++ "]"

/-- A record: its name, and its fields by name in braces. -/
def shownRecord (name : String) (fields : List (String × String)) : String :=
  name ++ " \x7b " ++ commaSeparated (fields.map fun field => field.1 ++ ": " ++ field.2) ++ " \x7d"

/-- A truth value. -/
def shownBool (value : Bool) : String := if value then "true" else "false"

end CallTracing.Text
