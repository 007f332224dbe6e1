/-
  CallTracing/Payload/Basic.lean
  ==============================
  **Payloads and the values read off them.**

  The objects that a traced call sends and receives are known only at run time.  A `Payload` is
  such an object as far as tracing can see it: it has a type name, it can be asked whether it has
  an accessor of some name (`probe`), and an accessor can be invoked, which gives a value, nothing,
  an error, or a panic.  `answer name n` is what the `n`-th invocation of the accessor `name`
  gives, counted from zero, so that accessors whose result changes are covered too; the counting
  itself is part of the session (`Payload.Session`), by the payload's `identity`.

  A `FieldValue` is what an accessor gives: a scalar, bytes, a list, a map in ascending order of
  keys, or another payload.
-/
import CallTracing.Error
import CallTracing.Json.Basic

namespace CallTracing

/-- What asking for an accessor gives. -/
inductive Probe where
  | present
  | absent
  | panics
deriving DecidableEq, Repr

mutual

/-- A value read off a payload. -/
inductive FieldValue where
  | text (s : String)
  | int (n : Int)
  | float (x : Binary64)
  | bool (b : Bool)
  | bytes (content : List UInt8)
  | list (items : List FieldValue)
  | map (entries : List (String × FieldValue))
  | record (payload : Payload)

/-- What invoking an accessor gives. -/
inductive Answer where
  | value (v : FieldValue)
  /-- The field is not set on this object. -/
  | unset
  | fails (error : TraceError)
  | panics

/-- An object whose fields are read by accessor name. -/
structure Payload where
  /-- Tells the objects of one session apart. -/
  identity : Nat
  typeName : String
  /-- What is known about the accessors of one payload holds of all with the same key. -/
  profileKey : String
  probe : String → Probe
  answer : String → Nat → Answer
  /-- The whole object as JSON, where it can be written so. -/
  marshalled : Option Json

end

/-- Whether an accessor is found; one that panics when it is looked for is not. -/
def Payload.exposes (payload : Payload) (name : String) : Bool :=
  payload.probe name == .present

namespace FieldValue

/-- The name of the value's shape. -/
def shape : FieldValue → String
  | .text _ => "str"
  | .int _ => "int"
  | .float _ => "float"
  | .bool _ => "bool"
  | .bytes _ => "bytes"
  | .list _ => "list"
  | .map _ => "map"
  | .record _ => "record"

/-- The text that the value is, if it is one. -/
def text? : FieldValue → Option String
  | .text s => some s
  | _ => none

/-- The payload that the value is, if it is one. -/
def record? : FieldValue → Option Payload
  | .record payload => some payload
  | _ => none

/-! ### Maps -/

/-- The value under a key. -/
def entry? (key : String) : List (String × FieldValue) → Option FieldValue
  | [] => none
  | (name, value) :: rest => if name = key then some value else entry? key rest

/-- Set an entry in a list in ascending order of keys. -/
def insertEntry (key : String) (value : FieldValue) :
    List (String × FieldValue) → List (String × FieldValue)
  | [] => [(key, value)]
  | (name, old) :: rest =>
    if name = key then (key, value) :: rest
    else if key < name then (key, value) :: (name, old) :: rest
    else (name, old) :: insertEntry key value rest

/-- A map of entries given in any order; a later entry replaces an earlier one of its key. -/
def ofEntries (entries : List (String × FieldValue)) : FieldValue :=
  .map (entries.foldl (fun sorted entry => insertEntry entry.1 entry.2 sorted) [])

end FieldValue

end CallTracing
