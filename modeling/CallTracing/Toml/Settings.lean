/-
  CallTracing/Toml/Settings.lean
  ==============================
  **Settings written as a TOML document**: one table for each section, every setting in its place,
  and a blank line between tables.
-/
import CallTracing.Settings.Basic
import CallTracing.Text.Quoted
import CallTracing.Toml.Quoted

namespace CallTracing.Toml

/-- An array of strings on one line. -/
def textArray (texts : List String) : String :=
  "[" ++ Text.commaSeparated (texts.map quoted) ++ "]"

/-- A table of keys and written values. -/
def written (name : String) (entries : List (String × String)) : String :=
  "[" ++ name ++ "]\n" ++
    String.join (entries.map fun entry => entry.1 ++ " = " ++ entry.2 ++ "\n")

/-- The settings as tables of written values. -/
def tables (settings : Settings) : List (String × List (String × String)) :=
  [("instrumentation",
      [("enabled", Text.shownBool settings.instrumentation.enabled),
        ("service_name", quoted settings.instrumentation.serviceName)]),
    ("suppression",
      [("strategy", quoted settings.suppression.strategy.name),
        ("claimed_keys", textArray (settings.suppression.claimedKeys.map SpanKey.name))]),
    ("capture",
      [("aws_sdk", Text.shownBool settings.capture.awsSdk),
        ("field_mappings", Text.shownBool settings.capture.fieldMappings),
        ("gen_ai", Text.shownBool settings.capture.genAi),
        ("rpc", Text.shownBool settings.capture.rpc)]),
    ("propagation",
      [("propagators", textArray settings.propagation.propagators),
        ("inject_headers", Text.shownBool settings.propagation.injectHeaders)])]

/-- The settings as a TOML document. -/
def textOf (settings : Settings) : String :=
  "\n".intercalate ((tables settings).map fun table => written table.1 table.2)

end CallTracing.Toml
