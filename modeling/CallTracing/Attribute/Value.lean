/-
  CallTracing/Attribute/Value.lean
  ================================
  **Attribute values**: the four scalar shapes that every tracing backend accepts, and their text.
-/
import CallTracing.Binary64.Layout
import CallTracing.Text.Quoted

namespace CallTracing

/-- The value of a span attribute. -/
inductive AttributeValue where
  | text (s : String)
  | bool (b : Bool)
  | int (n : Int)
  | float (x : Binary64)
deriving DecidableEq, Repr

namespace AttributeValue

/-- The value as it is shown: a text as it is, a number without an exponent. -/
def display : AttributeValue → String
  | .text s => s
  | .bool b => Text.shownBool b
  | .int n => toString n
  | .float x => x.text Binary64.plainLayout

/-- The text that the value is, if it is one. -/
def text? : AttributeValue → Option String
  | .text s => some s
  | _ => none

/-- The whole number that the value is, if it is one. -/
def int? : AttributeValue → Option Int
  | .int n => some n
  | _ => none

end AttributeValue

end CallTracing
