/-
  CallTracing/Settings/Environment.lean
  =====================================
  **Settings from environment variables.**

  Each variable stands for one setting (`overrides`), and they are looked at in a fixed order, so
  that the first one that cannot be understood is the one reported.  Switches are read whatever
  their case and the blanks around them; lists are separated by commas, and blank items are passed
  over.  A variable that is set to something else than a Unicode text counts as not set.

  `ofEnvironment` starts from the defaults.  `mergedWith` starts from other settings: the environment
  is read as a whole first, and then each setting whose variable is set is taken over (`takeovers`).
-/
import CallTracing.Settings.Basic

namespace CallTracing

/-- What a variable is set to. -/
inductive EnvironmentValue where
  | text (text : String)
  /-- Bytes that are no Unicode text. -/
  | notUnicode
deriving DecidableEq, Repr

instance : Coe String EnvironmentValue := ⟨.text⟩

/-- The environment variables that are set. -/
abbrev Environment := List (String × EnvironmentValue)

namespace Environment

/-- The text that a variable is set to. -/
def text? (environment : Environment) (name : String) : Option String :=
  match environment.lookup name with
  | some (.text text) => some text
  | some .notUnicode => none
  | none => none

/-- Why a variable was not understood. -/
def refused (name reason : String) : SettingsError := .environment (name ++ ": " ++ reason)

/-- The reason why a text is no switch. -/
def notASwitch : String :=
  let tick := (Char.ofNat 0x60).toString
  "provided string was not " ++ tick ++ "true" ++ tick ++ " or " ++ tick ++ "false" ++ tick

/-- The switch that a text means. -/
def switchOf (name text : String) : Except SettingsError Bool :=
  match Text.lower (Text.trim text) with
  | "true" => .ok true
  | "false" => .ok false
  | _ => .error (refused name notASwitch)

/-- The items of a list: what stands between commas, without blanks around it, unless nothing is
left. -/
def listOf (text : String) : List String :=
  (((text.toList.splitOn ',').map Text.trimmed).filter (!·.isEmpty)).map String.ofList

/-- The strategy that a text means. -/
def strategyOf (name text : String) : Except SettingsError SuppressionStrategy :=
  match SuppressionStrategy.parse text with
  | .ok strategy => .ok strategy
  | .error reason => .error (refused name reason)

/-- A span key that a text means. -/
def spanKeyOf (name text : String) : Except SettingsError SpanKey :=
  match SpanKey.parse text with
  | .ok key => .ok key
  | .error reason => .error (refused name reason)

/-- What a variable does to settings. -/
structure Override where
  name : String
  apply : String → Settings → Except SettingsError Settings

/-- A variable that is a switch. -/
def switch (name : String) (set : Bool → Settings → Settings) : Override :=
  ⟨name, fun text settings => do return set (← switchOf name text) settings⟩

/-- The variables, in the order in which they are looked at. -/
def overrides : List Override :=
  [switch "CORRELATE_ENABLED" fun on s =>
      { s with instrumentation := { s.instrumentation with enabled := on } },
    ⟨"OTEL_SERVICE_NAME", fun text s =>
      .ok { s with instrumentation := { s.instrumentation with serviceName := text } }⟩,
    ⟨"CORRELATE_SUPPRESSION_STRATEGY", fun text s => do
      let strategy ← strategyOf "CORRELATE_SUPPRESSION_STRATEGY" text
      return { s with suppression := { s.suppression with strategy := strategy } }⟩,
    ⟨"CORRELATE_CLAIMED_SPAN_KEYS", fun text s => do
      let keys ← (listOf text).mapM (spanKeyOf "CORRELATE_CLAIMED_SPAN_KEYS")
      return { s with suppression := { s.suppression with claimedKeys := keys } }⟩,
    switch "CORRELATE_CAPTURE_GEN_AI" fun on s =>
      { s with capture := { s.capture with genAi := on } },
    switch "CORRELATE_CAPTURE_AWS_SDK" fun on s =>
      { s with capture := { s.capture with awsSdk := on } },
    switch "CORRELATE_CAPTURE_RPC" fun on s =>
      { s with capture := { s.capture with rpc := on } },
    switch "CORRELATE_CAPTURE_FIELD_MAPPINGS" fun on s =>
      { s with capture := { s.capture with fieldMappings := on } },
    ⟨"OTEL_PROPAGATORS", fun text s =>
      .ok { s with propagation := { s.propagation with propagators := listOf text } }⟩,
    switch "CORRELATE_INJECT_HEADERS" fun on s =>
      { s with propagation := { s.propagation with injectHeaders := on } }]

/-- Apply a variable, if it is set. -/
def applyOne (environment : Environment) (settings : Settings) (override : Override) :
    Except SettingsError Settings :=
  match environment.text? override.name with
  | some text => override.apply text settings
  | none => .ok settings

/-- A setting that goes over from settings that were read to others, with its variable. -/
structure Takeover where
  name : String
  take : Settings → Settings → Settings

/-- The settings that go over, in the order in which they do. -/
def takeovers : List Takeover :=
  [⟨"CORRELATE_ENABLED", fun read s =>
      { s with instrumentation :=
          { s.instrumentation with enabled := read.instrumentation.enabled } }⟩,
    ⟨"OTEL_SERVICE_NAME", fun read s =>
      { s with instrumentation :=
          { s.instrumentation with serviceName := read.instrumentation.serviceName } }⟩,
    ⟨"CORRELATE_SUPPRESSION_STRATEGY", fun read s =>
      { s with suppression := { s.suppression with strategy := read.suppression.strategy } }⟩,
    ⟨"CORRELATE_CLAIMED_SPAN_KEYS", fun read s =>
      { s with suppression := { s.suppression with claimedKeys := read.suppression.claimedKeys } }⟩,
    ⟨"CORRELATE_CAPTURE_GEN_AI", fun read s =>
      { s with capture := { s.capture with genAi := read.capture.genAi } }⟩,
    ⟨"CORRELATE_CAPTURE_AWS_SDK", fun read s =>
      { s with capture := { s.capture with awsSdk := read.capture.awsSdk } }⟩,
    ⟨"CORRELATE_CAPTURE_RPC", fun read s =>
      { s with capture := { s.capture with rpc := read.capture.rpc } }⟩,
    ⟨"CORRELATE_CAPTURE_FIELD_MAPPINGS", fun read s =>
      { s with capture := { s.capture with fieldMappings := read.capture.fieldMappings } }⟩,
    ⟨"OTEL_PROPAGATORS", fun read s =>
      { s with propagation := { s.propagation with propagators := read.propagation.propagators } }⟩,
    ⟨"CORRELATE_INJECT_HEADERS", fun read s =>
      { s with propagation :=
          { s.propagation with injectHeaders := read.propagation.injectHeaders } }⟩]

/-- Take a setting over, if its variable is set. -/
def takeOne (environment : Environment) (read settings : Settings) (takeover : Takeover) :
    Settings :=
  if (environment.text? takeover.name).isSome then takeover.take read settings else settings

end Environment

namespace Settings

/-- The defaults, with everything that the environment sets in place. -/
def ofEnvironment (environment : Environment) : Except SettingsError Settings :=
  Environment.overrides.foldlM (Environment.applyOne environment) {}

/-- Settings with everything that the environment sets in place. -/
def mergedWith (settings : Settings) (environment : Environment) :
    Except SettingsError Settings := do
  let read ← ofEnvironment environment
  return Environment.takeovers.foldl (Environment.takeOne environment read) settings

end Settings

end CallTracing
