/-
  CallTracing/Settings/Decode.lean
  ================================
  **Settings from a document**, whatever its format.

  A format says how its values are seen: as a switch, a text, a list, a record, or the choice of a
  name (`DocumentView`).  A record has named fields, or fields by position.  The decoder asks for
  what each setting needs.  A setting that is not there has its default; one that is there twice,
  or is seen as something else, makes the whole document unusable; names that are not known are
  passed over, with whatever stands under them.
-/
import CallTracing.Settings.Basic

namespace CallTracing

/-- The fields of a record. -/
inductive DocumentRecord (ν : Type) where
  | named (fields : List (String × ν))
  | positional (fields : List ν)

/-- How the values of a format are seen. -/
structure DocumentView (ν : Type) where
  switch? : ν → Option Bool
  text? : ν → Option String
  list? : ν → Option (List ν)
  record? : ν → Option (DocumentRecord ν)
  choice? : ν → Option String

namespace DocumentRecord

variable {ν α : Type}

/-- Whether the record has no more than so many fields by position. -/
def fits (record : DocumentRecord ν) (count : Nat) : Bool :=
  match record with
  | .named _ => true
  | .positional fields => decide (fields.length ≤ count)

/-- The field of a name and a position, or its default. -/
def field (record : DocumentRecord ν) (name : String) (position : Nat) (default : α)
    (decode : ν → Option α) : Option α :=
  match record with
  | .named fields =>
    match fields.filter (·.1 = name) with
    | [] => some default
    | [found] => decode found.2
    | _ => none
  | .positional fields =>
    match fields[position]? with
    | none => some default
    | some found => decode found

end DocumentRecord

namespace DocumentView

variable {ν : Type}

/-- A list whose items are all decoded. -/
def listOf {α : Type} (view : DocumentView ν) (decode : ν → Option α) (value : ν) :
    Option (List α) :=
  (view.list? value).bind (·.mapM decode)

/-- The fields of a value that is a record of no more than so many fields. -/
def fieldsOf (view : DocumentView ν) (count : Nat) (value : ν) : Option (DocumentRecord ν) :=
  (view.record? value).filter (·.fits count)

/-- A span key, by its exact name. -/
def spanKey (view : DocumentView ν) (value : ν) : Option SpanKey :=
  (view.choice? value).bind SpanKey.ofName?

/-- A strategy, by its exact name. -/
def strategy (view : DocumentView ν) (value : ν) : Option SuppressionStrategy :=
  (view.choice? value).bind SuppressionStrategy.ofName?

/-! ### Sections -/

/-- The section on tracing as such. -/
def instrumentation (view : DocumentView ν) (value : ν) : Option InstrumentationSettings := do
  let fields ← view.fieldsOf 2 value
  let enabled ← fields.field "enabled" 0 true view.switch?
  let serviceName ← fields.field "service_name" 1 "otel-correlate" view.text?
  return ⟨enabled, serviceName⟩

/-- The section on suppression. -/
def suppression (view : DocumentView ν) (value : ν) : Option SuppressionSettings := do
  let fields ← view.fieldsOf 2 value
  let strategy ← fields.field "strategy" 0 .spanKey view.strategy
  let claimedKeys ← fields.field "claimed_keys" 1 [.httpClient] (view.listOf view.spanKey)
  return ⟨strategy, claimedKeys⟩

/-- The section on what is captured. -/
def capture (view : DocumentView ν) (value : ν) : Option CaptureSettings := do
  let fields ← view.fieldsOf 4 value
  let awsSdk ← fields.field "aws_sdk" 0 true view.switch?
  let fieldMappings ← fields.field "field_mappings" 1 true view.switch?
  let genAi ← fields.field "gen_ai" 2 true view.switch?
  let rpc ← fields.field "rpc" 3 true view.switch?
  return ⟨awsSdk, fieldMappings, genAi, rpc⟩

/-- The section on passing the trace on. -/
def propagation (view : DocumentView ν) (value : ν) : Option PropagationSettings := do
  let fields ← view.fieldsOf 2 value
  let propagators ← fields.field "propagators" 0 ["tracecontext", "baggage"] (view.listOf view.text?)
  let injectHeaders ← fields.field "inject_headers" 1 true view.switch?
  return ⟨propagators, injectHeaders⟩

/-- All settings. -/
def settings (view : DocumentView ν) (value : ν) : Option Settings := do
  let fields ← view.fieldsOf 4 value
  let instrumentation ← fields.field "instrumentation" 0 {} view.instrumentation
  let suppression ← fields.field "suppression" 1 {} view.suppression
  let capture ← fields.field "capture" 2 {} view.capture
  let propagation ← fields.field "propagation" 3 {} view.propagation
  return ⟨instrumentation, suppression, capture, propagation⟩

end DocumentView

end CallTracing
