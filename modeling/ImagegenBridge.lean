import ImagegenBridge.Config.Settings
import ImagegenBridge.Core.Limits
import ImagegenBridge.Core.NegotiationProjection
import ImagegenBridge.Config.Adapters
import ImagegenBridge.Runtime.IdempotencyGenerations
import ImagegenBridge.Lib.Pool
import ImagegenBridge.Runtime.AbandonedLeaders
import ImagegenBridge.Jobs.Budget
import ImagegenBridge.Jobs.Cancellation
import ImagegenBridge.Jobs.Scheduling
import ImagegenBridge.Jobs.Shutdown
import ImagegenBridge.Jobs.Submission
import ImagegenBridge.CodexResponses.BatchOutcomes
import ImagegenBridge.Runtime.BreakerAttribution
import ImagegenBridge.Runtime.CircuitGating
import ImagegenBridge.Jobs.Isolation
import ImagegenBridge.CodexAppServer.RpcAbandonment
import ImagegenBridge.CodexAppServer.RpcClosing
import ImagegenBridge.CodexAppServer.RpcCorrelation
import ImagegenBridge.CodexAppServer.Threads
import ImagegenBridge.CodexAppServer.TurnReports
import ImagegenBridge.Runtime.FanoutAlgebra
import ImagegenBridge.Runtime.ReportedChanges
import ImagegenBridge.Runtime.DeliveredOutputs
import ImagegenBridge.Runtime.AlphaFormats
import ImagegenBridge.Runtime.EmbeddedRecord
import ImagegenBridge.Artifacts.Inspect
import ImagegenBridge.Artifacts.Names
import ImagegenBridge.Artifacts.Atomicity
import ImagegenBridge.Artifacts.Repair
import ImagegenBridge.Lib.Lines
import ImagegenBridge.Artifacts.MetadataReplacement
import ImagegenBridge.Cli.HandoffSafety
import ImagegenBridge.CodexAppServer.ProcessSupervision
import ImagegenBridge.CodexAppServer.Stickiness
import ImagegenBridge.CodexResponses.CallOutcomes
import ImagegenBridge.CodexResponses.SseAgreement
import ImagegenBridge.Config.Provenance
import ImagegenBridge.Core.NegotiationPanics
import ImagegenBridge.Core.Preset
import ImagegenBridge.Core.RequestContract
import ImagegenBridge.Jobs.LiteralSearch
import ImagegenBridge.Runtime.AdmissionAccounting
import ImagegenBridge.Runtime.FanoutScheduling
import ImagegenBridge.Runtime.IdempotencyEviction
import ImagegenBridge.Runtime.ProviderRace
import ImagegenBridge.Runtime.Quiescence
import ImagegenBridge.Runtime.SafetyRejections
import ImagegenBridge.Server.JobHistory
import ImagegenBridge.Server.StreamProtocol
import ImagegenBridge.Jobs.Retention
import ImagegenBridge.Runtime.Degradation
import ImagegenBridge.Artifacts.RemoteSafety
import ImagegenBridge.Artifacts.ChromaThresholds
import ImagegenBridge.Runtime.DeliveredFacts
import ImagegenBridge.Artifacts.EmbeddingFrame
import ImagegenBridge.CodexAppServer.TurnAccumulation
import ImagegenBridge.Artifacts.CollisionNames
import ImagegenBridge.Cli.ReplacementSafety
import ImagegenBridge.CodexAppServer.RestartBackoff
import ImagegenBridge.Cli.GatewaySafety
import ImagegenBridge.Runtime.RouteAttempts
import ImagegenBridge.Config.UsableConfigs
import ImagegenBridge.Artifacts.ForeignMetadata
import ImagegenBridge.Sdk.StreamAgreement
import ImagegenBridge.Server.Compat
import ImagegenBridge.Runtime.Presets
import ImagegenBridge.Server.PresetPages
