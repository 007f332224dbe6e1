/-
  CallTracing/Extract/Chain.lean
  ==============================
  **The standard chain**: the facts about the call, the facts of the service, and the mapped
  fields, each if it is captured.  Bodies and token-count headers are captured together.
-/
import CallTracing.Extract.FieldMapping
import CallTracing.Extract.Rpc
import CallTracing.Extract.Sdk
import CallTracing.Settings.Basic

namespace CallTracing.ExtractorChain

/-- The extractors that settings ask for, in order. -/
def ofCapture (capture : CaptureSettings) : ExtractorChain :=
  (if capture.rpc then [RpcFacts.extractor] else []) ++
    (if capture.awsSdk then [SdkFacts.extractor capture.genAi] else []) ++
    if capture.fieldMappings then [FieldMappings.extractor capture.genAi] else []

end CallTracing.ExtractorChain
