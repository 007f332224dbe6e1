/-
  CallTracing/Log/File.lean
  =========================
  **The lines of a log file.**

  An event may happen inside a span.  A span is logged when it is created and when it is closed,
  and every event inside it names it; a span that the filter holds back is not mentioned at all.
  A line is a JSON object with its members in order, or plain text.

  When and where a line came to be is not known here: it is put in from a `Stamp`.
-/
import CallTracing.Json.Writer
import CallTracing.Log.Filter
import CallTracing.Log.MemberOrder
import CallTracing.Log.Settings
import CallTracing.Text.Quoted

namespace CallTracing.Log

/-- The value of a field. -/
inductive FieldContent where
  | text (s : String)
  | switch (b : Bool)
  /-- A text that is shown as it is. -/
  | shown (s : String)
deriving DecidableEq, Repr

/-- An event for the log. -/
structure LogEvent where
  level : Level
  target : String
  message : String
  fields : List (String × FieldContent) := []
deriving DecidableEq, Repr

/-- A span around events. -/
structure LogSpan where
  name : String
  level : Level
  target : String
  fields : List (String × FieldContent) := []
deriving DecidableEq, Repr

/-- When and where a line came to be. -/
structure Stamp where
  time : String
  file : String
  line : Nat
  /-- How long a closed span was entered. -/
  busy : String
  /-- How long a closed span was not entered. -/
  idle : String
deriving DecidableEq, Repr

/-- What a line is about: an event, the span around it, and whether that span is entered. -/
structure LineContent where
  event : LogEvent
  span : Option LogSpan := none
  isEntered : Bool := true
deriving DecidableEq, Repr

/-! ### JSON lines -/

/-- The value of a field in JSON. -/
def FieldContent.json : FieldContent → Json
  | .text s => .string s
  | .switch b => .bool b
  | .shown s => .string s

/-- Fields as members of an object. -/
def jsonFields (fields : List (String × FieldContent)) : Members :=
  fields.map fun field => (field.1, field.2.json)

/-- A span in JSON. -/
def LogSpan.json (span : LogSpan) : Json :=
  .object (jsonFields span.fields ++ [("name", .string span.name)])

/-- What a line tells about spans. -/
def LineContent.spanMembers (content : LineContent) : Members :=
  match content.span with
  | none => []
  | some span =>
    [("span", span.json), ("spans", .array (if content.isEntered then [span.json] else []))]

/-- A line as a JSON object. -/
def LineContent.jsonLine (content : LineContent) (stamp : Stamp) : String :=
  let event := content.event
  let members : Members :=
    [("timestamp", .string stamp.time), ("level", .string event.level.name),
      ("fields", .object (("message", .string event.message) :: jsonFields event.fields)),
      ("target", .string event.target), ("filename", .string stamp.file),
      ("line_number", .number (.integer stamp.line))] ++ content.spanMembers
  (Json.object (ordered members)).text

/-! ### Plain lines -/

/-- A character of a message; one that a terminal might act on is written by its code. -/
def visible (c : Char) : String :=
  let n := c.toNat
  if n = 0x1B ∨ n = 7 ∨ n = 8 ∨ n = 0x0C ∨ n = 0x7F then "\\x" ++ Text.hexPadded 2 n
  else if 0x80 ≤ n ∧ n ≤ 0x9F then "\\u\x7b" ++ Text.hexPadded 1 n ++ "\x7d"
  else c.toString

/-- The value of a field in a plain line. -/
def FieldContent.plain : FieldContent → String
  | .text s => Text.quoted s
  | .switch b => Text.shownBool b
  | .shown s => s

/-- Fields in a plain line. -/
def plainFields (fields : List (String × FieldContent)) : List String :=
  fields.map fun field => field.1 ++ "=" ++ field.2.plain

/-- A span in front of a plain line. -/
def LogSpan.plain (span : LogSpan) : String :=
  let fields := " ".intercalate (plainFields span.fields)
  span.name ++ (if fields.isEmpty then "" else "\x7b" ++ fields ++ "\x7d") ++ ": "

/-- The name of a level, at the right of five places. -/
def paddedName (level : Level) : String :=
  String.ofList (List.replicate (5 - level.name.length) ' ') ++ level.name

/-- A line as plain text. -/
def LineContent.plainLine (content : LineContent) (stamp : Stamp) : String :=
  let event := content.event
  let message := String.join (event.message.toList.map visible)
  stamp.time ++ " " ++ paddedName event.level ++ " " ++
    ((content.span.map LogSpan.plain).getD "") ++ event.target ++ ": " ++
    stamp.file ++ ":" ++ toString stamp.line ++ ": " ++
    " ".intercalate (message :: plainFields event.fields)

/-! ### Files -/

/-- An event together with the span around it. -/
structure Happening where
  event : LogEvent
  span : Option LogSpan := none
deriving DecidableEq, Repr

/-- The event that reports a span itself. -/
def LogSpan.event (span : LogSpan) (message : String)
    (fields : List (String × FieldContent) := []) : LogEvent :=
  ⟨span.level, span.target, message, fields⟩

/-- What is logged of a happening. -/
def contents (filter : Filter) (stamp : Stamp) (happening : Happening) : List LineContent :=
  let event := happening.event
  let span := happening.span.filter fun span => filter.passes span.target span.level
  let middle := if filter.passes event.target event.level then [LineContent.mk event span true] else []
  match span with
  | none => middle
  | some around =>
    [⟨around.event "new", some around, false⟩] ++ middle ++
      [⟨around.event "close" [("time.busy", .shown stamp.busy), ("time.idle", .shown stamp.idle)],
        some around, false⟩]

/-- The event with which a log begins. -/
def LogSettings.firstEvent (settings : LogSettings) : LogEvent where
  level := .info
  target := EventSource.logging.target
  message := "Correlation logging initialized"
  fields :=
    [("log_dir", .shown (Text.shownOption (settings.directory.map Text.quoted))),
      ("json_format", .switch settings.json), ("console", .switch settings.console)]

/-- Everything that happens once a log is started. -/
def LogSettings.withFirst (settings : LogSettings) (happenings : List Happening) :
    List Happening :=
  { event := settings.firstEvent } :: happenings

/-- The lines of the log file. -/
def LogSettings.fileLines (settings : LogSettings) (stamp : Stamp) (happenings : List Happening) :
    List String :=
  if settings.directory.isSome then
    ((settings.withFirst happenings).flatMap (contents (Filter.ofText settings.filter) stamp)).map
      fun content => if settings.json then content.jsonLine stamp else content.plainLine stamp
  else []

/-- How many events are shown on the console. -/
def LogSettings.consoleCount (settings : LogSettings) (happenings : List Happening) : Nat :=
  if settings.console then
    (settings.withFirst happenings).countP fun happening =>
      (Filter.ofText settings.filter).passes happening.event.target happening.event.level
  else 0

end CallTracing.Log
