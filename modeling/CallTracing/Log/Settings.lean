/-
  CallTracing/Log/Settings.lean
  =============================
  **Settings of the log**: where the log file is, if there is one, what goes into it, and in which
  form.  `ofEnvironment` takes them from environment variables; a switch that is not spelled
  exactly is taken to be on.
-/
import CallTracing.Error
import CallTracing.Settings.Environment

namespace CallTracing.Log

/-- Settings of the log. -/
structure LogSettings where
  /-- The directory of the log file; without it there is no file. -/
  directory : Option String := none
  /-- The name of the log file, up to its date. -/
  fileName : String := "otel-correlate.log"
  /-- Which events are logged. -/
  filter : String := "info"
  /-- Whether events are also shown on the console. -/
  console : Bool := true
  /-- Whether the lines of the file are JSON. -/
  json : Bool := true
deriving DecidableEq, Repr

namespace LogSettings

/-- A switch, by its exact spelling. -/
def switchOf (text : String) : Bool := text != "false"

/-- The defaults, with everything that the environment sets in place. -/
def ofEnvironment (environment : Environment) : LogSettings :=
  let defaults : LogSettings := {}
  { defaults with
    directory := (environment.text? "CORRELATE_LOG_DIR").filter (!isBlankText ·)
    filter := (environment.text? "CORRELATE_LOG_LEVEL").getD defaults.filter
    console := ((environment.text? "CORRELATE_CONSOLE_LOGGING").map switchOf).getD true
    json := ((environment.text? "CORRELATE_JSON_LOGS").map switchOf).getD true }

/-- The name of the log file without its date, which follows a point unless nothing stands before
it. -/
def datelessName (settings : LogSettings) : String :=
  if settings.fileName.isEmpty then "" else settings.fileName ++ "."

/-- Start the log: whether there is a file.  It cannot be started twice, nor where its directory
cannot be made, for which a reason is given. -/
def start (settings : LogSettings) (obstacle : Option String) (isStarted : Bool) :
    Except TraceError Bool :=
  match settings.directory, obstacle with
  | some _, some reason =>
    .error ⟨.configuration, "Failed to create log directory: " ++ reason⟩
  | directory, _ =>
    if isStarted then
      .error ⟨.configuration, "Failed to install subscriber: " ++
        "a global default trace dispatcher has already been set"⟩
    else .ok directory.isSome

end LogSettings

end CallTracing.Log
