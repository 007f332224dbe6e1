/-
  CallTracing/Log/MemberOrder.lean
  ================================
  **The order of the members of a JSON log line.**

  Time and place of an event come first in its line.  They are taken out of the object one after
  the other; taking a member out moves the last member into its place (`takeMember`).  What remains
  follows in the order that this leaves.  A line that is no JSON object is left as it is.
-/
import CallTracing.Json.Reader
import CallTracing.Json.Writer
import CallTracing.Text.Blank
import CallTracing.Text.Utf8

namespace CallTracing.Log

/-- The members of an object. -/
abbrev Members := List (String × Json)

/-- Move the last member to the front. -/
def lastFirst (members : Members) : Members :=
  match members.getLast? with
  | none => []
  | some last => last :: members.dropLast

/-- Take a member out; the last one moves into its place. -/
def takeMember (name : String) : Members → Option (Json × Members)
  | [] => none
  | (key, value) :: rest =>
    if key = name then some (value, lastFirst rest)
    else (takeMember name rest).map fun (found, left) => (found, (key, value) :: left)

/-- Take members out one after the other, as far as they are there. -/
def takeMembers : List String → Members → Members × Members
  | [], members => ([], members)
  | name :: names, members =>
    match takeMember name members with
    | none => takeMembers names members
    | some (value, left) =>
      let (taken, rest) := takeMembers names left
      ((name, value) :: taken, rest)

/-- The members that come first in a line. -/
def leadingMembers : List String := ["timestamp", "filename", "line_number", "target", "level"]

/-- The members of a line in their order. -/
def ordered (members : Members) : Members :=
  let (taken, rest) := takeMembers leadingMembers members
  taken ++ rest

/-- A line with its members in order, if it is a JSON object. -/
def reordered? (line : String) : Option String :=
  match Json.parse? (Text.trim line) with
  | some (.object members) => some ((Json.object (ordered members)).text ++ "\n")
  | _ => none

/-- What is written for a piece of output: the piece, or the line in order. -/
def writtenFor (piece : List UInt8) : List UInt8 :=
  match (Text.Utf8.decode? piece).bind reordered? with
  | some line => Text.Utf8.encode line
  | none => piece

end CallTracing.Log
