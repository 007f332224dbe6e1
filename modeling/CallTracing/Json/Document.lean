/-
  CallTracing/Json/Document.lean
  ==============================
  **JSON as a format for settings.**  A record is an object, or an array of its fields in order.
  A name is chosen by a string, or by an object with null under that name and nothing else.
-/
import CallTracing.Json.Reader
import CallTracing.Settings.Decode

namespace CallTracing.Json

/-- How JSON values are seen by the settings. -/
def documentView : DocumentView Json where
  switch?
    | .bool b => some b
    | _ => none
  text?
    | .string s => some s
    | _ => none
  list?
    | .array items => some items
    | _ => none
  record?
    | .object members => some (.named members)
    | .array items => some (.positional items)
    | _ => none
  choice?
    | .string s => some s
    | .object [(name, .null)] => some name
    | _ => none

/-- The settings that a JSON text describes. -/
def settings? (text : String) : Option Settings := (readWhole? text).bind documentView.settings

end CallTracing.Json
