/-
  CallTracing/Json/Settings.lean
  ==============================
  **Settings written as a JSON document**: an object of four sections, each an object with every
  setting of the section under its name.
-/
import CallTracing.Json.Writer
import CallTracing.Settings.Basic

namespace CallTracing.Json

/-- An array of strings. -/
def ofTexts (texts : List String) : Json := .array (texts.map .string)

/-- The settings as a document. -/
def ofSettings (settings : Settings) : Json :=
  .object
    [("instrumentation", .object
        [("enabled", .bool settings.instrumentation.enabled),
          ("service_name", .string settings.instrumentation.serviceName)]),
      ("suppression", .object
        [("strategy", .string settings.suppression.strategy.name),
          ("claimed_keys", ofTexts (settings.suppression.claimedKeys.map SpanKey.name))]),
      ("capture", .object
        [("aws_sdk", .bool settings.capture.awsSdk),
          ("field_mappings", .bool settings.capture.fieldMappings),
          ("gen_ai", .bool settings.capture.genAi),
          ("rpc", .bool settings.capture.rpc)]),
      ("propagation", .object
        [("propagators", ofTexts settings.propagation.propagators),
          ("inject_headers", .bool settings.propagation.injectHeaders)])]

/-- The text of the document. -/
def settingsText (settings : Settings) : String := (ofSettings settings).text

end CallTracing.Json
