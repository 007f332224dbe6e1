/-
  CallTracing/Json/Basic.lean
  ===========================
  **JSON values.**

  The members of an object are a list, in the order in which they were written; that order is kept
  through every operation, because log lines and echoed bodies show it.  A number is a whole
  number if its literal is one and fits 64 bits, signed or unsigned, and a double otherwise.

  A value that was just read may repeat a member name.  `collapsed` settles this the way every
  consumer but the settings reader wants it: the member keeps its first place and takes its last
  value.
-/
import CallTracing.Binary64.Layout

namespace CallTracing

/-- A number of a JSON text. -/
inductive JsonNumber where
  | integer (n : Int)
  | real (x : Binary64)
deriving DecidableEq, Repr

/-- A JSON value. -/
inductive Json where
  | null
  | bool (b : Bool)
  | number (n : JsonNumber)
  | string (s : String)
  | array (items : List Json)
  | object (members : List (String × Json))
deriving Inhabited, Repr

namespace JsonNumber

/-- The number as it is written. -/
def text : JsonNumber → String
  | .integer n => toString n
  | .real x => x.jsonText

/-- Whether the number has a finite value. -/
def isFinite : JsonNumber → Bool
  | .integer _ => true
  | .real x => x.isFinite

/-- The number of a literal of up to 64 bits, with the sign that it was written with.  Minus zero,
and negative numbers that do not fit 64 bits with their sign, are doubles. -/
def ofLiteral (negative : Bool) (magnitude : Nat) : JsonNumber :=
  if negative then
    if magnitude = 0 then .real (.zero true)
    else if magnitude ≤ Nat.pow 2 63 then .integer (-(magnitude : Int))
    else .real (Binary64.ofInt (-(magnitude : Int)))
  else .integer magnitude

end JsonNumber

namespace Json

/-! ### Members -/

/-- The value of the first member of this name. -/
def lookup (name : String) : List (String × Json) → Option Json
  | [] => none
  | (key, value) :: rest => if key = name then some value else lookup name rest

/-- Set a member: in its place if the name is there, at the end if not. -/
def setMember (name : String) (value : Json) : List (String × Json) → List (String × Json)
  | [] => [(name, value)]
  | (key, old) :: rest =>
    if key = name then (name, value) :: rest else (key, old) :: setMember name value rest

/-- Members one after the other set in an empty object. -/
def ofMembers (members : List (String × Json)) : List (String × Json) :=
  members.foldl (fun set member => setMember member.1 member.2 set) []

/-! ### Whole values -/

mutual

/-- The value with every repeated member name settled. -/
def collapsed : Json → Json
  | .array items => .array (collapsedItems items)
  | .object members => .object (ofMembers (collapsedMembers members))
  | .null => .null
  | .bool b => .bool b
  | .number n => .number n
  | .string s => .string s

/-- Every item with its repeated names settled. -/
def collapsedItems : List Json → List Json
  | [] => []
  | item :: rest => collapsed item :: collapsedItems rest

/-- Every member value with its repeated names settled. -/
def collapsedMembers : List (String × Json) → List (String × Json)
  | [] => []
  | (name, value) :: rest => (name, collapsed value) :: collapsedMembers rest

end

mutual

/-- How deeply arrays and objects are nested. -/
def depth : Json → Nat
  | .array items => depthItems items + 1
  | .object members => depthMembers members + 1
  | .null => 0
  | .bool _ => 0
  | .number _ => 0
  | .string _ => 0

/-- Depth of the deepest item. -/
def depthItems : List Json → Nat
  | [] => 0
  | item :: rest => max (depth item) (depthItems rest)

/-- Depth of the deepest member value. -/
def depthMembers : List (String × Json) → Nat
  | [] => 0
  | (_, value) :: rest => max (depth value) (depthMembers rest)

end

mutual

/-- Whether every number in the value is finite. -/
def allFinite : Json → Bool
  | .array items => allFiniteItems items
  | .object members => allFiniteMembers members
  | .number n => n.isFinite
  | .null => true
  | .bool _ => true
  | .string _ => true

/-- Whether every number in the items is finite. -/
def allFiniteItems : List Json → Bool
  | [] => true
  | item :: rest => allFinite item && allFiniteItems rest

/-- Whether every number in the members is finite. -/
def allFiniteMembers : List (String × Json) → Bool
  | [] => true
  | (_, value) :: rest => allFinite value && allFiniteMembers rest

end

/-! ### Reading inside a value -/

/-- A member of an object, by name. -/
def member? (value : Json) (name : String) : Option Json :=
  match value with
  | .object members => lookup name members
  | _ => none

/-- An array index in text: decimal digits, without a leading zero. -/
def index? (text : String) : Option Nat :=
  match text.toList with
  | [] => none
  | ['0'] => some 0
  | digits =>
    if digits.head? = some '0' || !digits.all Char.isDigit then none
    else some (digits.foldl (fun n c => n * 10 + (c.toNat - '0'.toNat)) 0)

/-- One step into a value: a member by name or an item by index. -/
def step? (value : Json) (name : String) : Option Json :=
  match value with
  | .object members => lookup name members
  | .array items => (index? name).bind (items[·]?)
  | _ => none

/-- The value at the end of a path of steps. -/
def at? (value : Json) : List String → Option Json
  | [] => some value
  | name :: rest => (value.step? name).bind (·.at? rest)

end Json

end CallTracing
