/-
  CallTracing/Settings/Basic.lean
  ===============================
  **Settings of the tracing layer**, in four sections: whether calls are traced and under which
  service name, which spans are suppressed, what is captured, and how the trace is passed on.
  Every setting has a default.  `validate` refuses settings that cannot work.
-/
import CallTracing.Error
import CallTracing.Span.Suppression
import CallTracing.Text.Blank

namespace CallTracing

/-- Whether calls are traced, and under which name. -/
structure InstrumentationSettings where
  enabled : Bool := true
  serviceName : String := "otel-correlate"
deriving DecidableEq, Repr

/-- Which spans inside spans are suppressed. -/
structure SuppressionSettings where
  strategy : SuppressionStrategy := .spanKey
  claimedKeys : List SpanKey := [.httpClient]
deriving DecidableEq, Repr

/-- What is captured. -/
structure CaptureSettings where
  awsSdk : Bool := true
  fieldMappings : Bool := true
  genAi : Bool := true
  rpc : Bool := true
deriving DecidableEq, Repr

/-- How the trace is passed on. -/
structure PropagationSettings where
  propagators : List String := ["tracecontext", "baggage"]
  injectHeaders : Bool := true
deriving DecidableEq, Repr

/-- All settings. -/
structure Settings where
  instrumentation : InstrumentationSettings := {}
  suppression : SuppressionSettings := {}
  capture : CaptureSettings := {}
  propagation : PropagationSettings := {}
deriving DecidableEq, Repr

/-- The policy that the settings describe. -/
def SuppressionSettings.policy (settings : SuppressionSettings) : SuppressionPolicy :=
  ⟨settings.strategy, settings.claimedKeys⟩

/-! ### Errors -/

/-- Why there are no settings. -/
inductive SettingsError where
  | environment (message : String)
  | file (message : String)
  /-- The text of a file is no document of its format, or describes no settings. -/
  | malformed
  | validation (message : String)
  | transport (message : String)
deriving DecidableEq, Repr

namespace SettingsError

/-- The error as text. -/
def text : SettingsError → String
  | .environment message => "Environment variable parsing error: " ++ message
  | .file message => "File parsing error: " ++ message
  | .malformed => "File parsing error"
  | .validation message => "Validation error: " ++ message
  | .transport message => "IO error: " ++ message

/-- The error as trouble of the tracing layer. -/
def toTraceError (error : SettingsError) : TraceError := ⟨.configuration, error.text⟩

end SettingsError

/-! ### Validation -/

/-- Whether a text consists of blanks. -/
def isBlankText (text : String) : Bool := (Text.trim text).isEmpty

/-- The first reason why settings cannot work, if there is one. -/
def Settings.validate (settings : Settings) : Except SettingsError Unit :=
  if isBlankText settings.instrumentation.serviceName then
    .error (.validation "Service name cannot be empty")
  else if settings.propagation.propagators.any isBlankText then
    .error (.validation "Propagator names cannot be empty")
  else if settings.propagation.injectHeaders && settings.propagation.propagators.isEmpty then
    .error (.validation "Header injection requires at least one propagator")
  else .ok ()

end CallTracing
