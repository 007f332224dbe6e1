import CallTracing.Call.Schedule
import CallTracing.Json.Settings
import CallTracing.Log.File
import CallTracing.Settings.File
import CallTracing.Sink.Recording
import CallTracing.Sink.Tracing
import CallTracing.Toml.Settings
import CallTracing.Proofs.Sink.Watched
import CallTracing.Proofs.Call.Conduct
import CallTracing.Proofs.Call.Journal
import CallTracing.Proofs.Call.Lifecycle
import CallTracing.Proofs.Payload.Cache
import CallTracing.Proofs.Payload.History
import CallTracing.Proofs.Payload.AssembledKey
import CallTracing.Proofs.Call.Interception
import CallTracing.Proofs.Sink.TracingCalls
import CallTracing.Proofs.Call.Nesting
import CallTracing.Proofs.Call.Phases
import CallTracing.Proofs.Call.Passage
import CallTracing.Proofs.Call.Transparency
import CallTracing.Proofs.Call.AbruptExit
import CallTracing.Proofs.Call.Turns
import CallTracing.Proofs.Call.Overlap
import CallTracing.Proofs.Attribute.Writes
import CallTracing.Proofs.Model.Facts
import CallTracing.Proofs.Payload.Readings
import CallTracing.Proofs.Extract.Mappings
import CallTracing.Proofs.Extract.Chain
import CallTracing.Proofs.Extract.WireContract
import CallTracing.Proofs.Payload.Views
import CallTracing.Proofs.Extract.LastWrite
import CallTracing.Proofs.Extract.GenAiSwitch
import CallTracing.Proofs.Redaction.KeyIds
import CallTracing.Proofs.Redaction.KeyFree
import CallTracing.Proofs.Call.Reporting
import CallTracing.Proofs.Call.KeyExposure
import CallTracing.Proofs.Redaction.Accounted
import CallTracing.Proofs.Extract.Isolation
import CallTracing.Proofs.Payload.Invocations
import CallTracing.Proofs.Extract.BodySnapshot
import CallTracing.Proofs.Extract.TokenCounts
import CallTracing.Proofs.Redaction.Shielded
import CallTracing.Proofs.Redaction.KeyMasks
import CallTracing.Proofs.Redaction.BearerTails
import CallTracing.Proofs.Settings.Rendering
import CallTracing.Proofs.Settings.Documents
import CallTracing.Proofs.Payload.Paths
import CallTracing.Proofs.Model.TokenLimit
import CallTracing.Proofs.Model.Union
import CallTracing.Proofs.Payload.Concealment
import CallTracing.Proofs.Model.Selection
import CallTracing.Proofs.Extract.Services
import CallTracing.Proofs.Model.Counts
import CallTracing.Proofs.Text.Utf8
import CallTracing.Proofs.Extract.BodyEncodings
import CallTracing.Proofs.Extract.FailureFacts
import CallTracing.Proofs.Extract.HeaderOrder
import CallTracing.Proofs.Settings.Propagators
import CallTracing.Proofs.Attribute.Export
import CallTracing.Proofs.Binary64.ReadsBack
import CallTracing.Proofs.Log.MemberMoves
import CallTracing.Proofs.Json.Members
import CallTracing.Proofs.Json.NumberText
import CallTracing.Proofs.Json.Settled
import CallTracing.Proofs.Json.Compact
import CallTracing.Proofs.Log.ReorderedLines
