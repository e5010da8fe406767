import Makaio.Foundations.Machine
import Makaio.Foundations.OrderedMap
import Makaio.Foundations.PriorityOrder
import Makaio.Foundations.Traced
import Makaio.Foundations.Json
import Makaio.Foundations.Cycles
import Makaio.Foundations.Counting
import Makaio.Foundations.DoubleInteger
import Makaio.Bus.Subject
import Makaio.Bus.PayloadFilter
import Makaio.Bus.NamespaceRegistry
import Makaio.Bus.HandlerMap
import Makaio.Bus.Subscriptions
import Makaio.Bus.Context
import Makaio.Bus.MergedList
import Makaio.Bus.RequestHandler
import Makaio.Bus.Dispatch
import Makaio.Bus.Bounds
import Makaio.Bus.Silent
import Makaio.Bus.Pair
import Makaio.Bus.Coverage
import Makaio.Bus.Termination
import Makaio.Bus.LevelWalk
import Makaio.Bus.AtMostOnce
import Makaio.Bus.AdvertisedState
import Makaio.Bus.RemoteSubscriptions
import Makaio.Bus.RemoteRegistry
import Makaio.Bus.BusState
import Makaio.Bus.Advertisement
import Makaio.Bus.Confinement
import Makaio.Bus.HostLocal
import Makaio.Bus.Outbound
import Makaio.Bus.LocalSubjects
import Makaio.Bus.DirectChannel
import Makaio.Bus.Once
import Makaio.Bus.ConnectLifecycle
import Makaio.Attempts.Record
import Makaio.Attempts.Decisions
import Makaio.Attempts.Repository
import Makaio.Attempts.Effects
import Makaio.Attempts.WellFormed
import Makaio.Attempts.AttemptView
import Makaio.Attempts.Settlement
import Makaio.Attempts.Fencing
import Makaio.Attempts.Control
import Makaio.Attempts.Gate
import Makaio.Attempts.Preparation
import Makaio.Attempts.Completion
import Makaio.Attempts.Pointer
import Makaio.Attempts.Requests
import Makaio.Ownership.Contract
import Makaio.Ownership.MemoryRows
import Makaio.Ownership.MemoryClaim
import Makaio.Ownership.MemorySettle
import Makaio.Ownership.Effects
import Makaio.Ownership.SettleEffects
import Makaio.Ownership.Rows
import Makaio.Ownership.Exclusivity
import Makaio.Ownership.Refusal
import Makaio.Ownership.Mirror
import Makaio.Ownership.RuntimeIdentity
import Makaio.Ownership.Recovery
import Makaio.Finalization.Storage
import Makaio.Finalization.Publication
import Makaio.Finalization.Decided
import Makaio.Turns.Turn
import Makaio.Turns.SlotRegistry
import Makaio.Turns.Manager
import Makaio.Turns.Admissions
import Makaio.Turns.Routable
import Makaio.Server.ClientRegistry
import Makaio.Server.SubscriptionView
import Makaio.Server.BroadcastAggregator
import Makaio.Server.ResponseRouting
import Makaio.Server.Identities
import Makaio.Server.Handshake
import Makaio.Server.HandshakeInvariant
import Makaio.Server.Transport
import Makaio.Server.TransportInvariant
import Makaio.Server.Admission
import Makaio.Server.Delivery
import Makaio.Foundations.JsonSchema
import Makaio.Artifact.KindPaths
import Makaio.Artifact.KindParts
import Makaio.Artifact.SchemaCoverage
import Makaio.Artifact.Registration
import Makaio.Artifact.PatchEngine
import Makaio.Artifact.PatchArtifact
import Makaio.Artifact.PatchRuns
import Makaio.Extensions.PathSegment
import Makaio.Approval.ToolNames
import Makaio.Approval.FileAccess
import Makaio.Approval.Policy
import Makaio.Approval.Precedence
import Makaio.Approval.FailClosed
import Makaio.Jsonl.Chunking
import Makaio.Jsonl.RpcClient
import Makaio.E2E.Lossless
import Makaio.E2E.RelayConfinement
import Makaio.Materialization.Exclusion
import Makaio.Foundations.KeyAgreement
import Makaio.E2E.RelayAgreement
import Makaio.Context.ForkChains
import Makaio.Artifact.LifecycleHistory
import Makaio.Subagent.Manager
import Makaio.Subagent.Service
import Makaio.Subagent.Effects
import Makaio.Subagent.Lifecycle
import Makaio.Subagent.Limits
import Makaio.TurnStorage.Stores
import Makaio.Bus.DeliveryFilter
import Makaio.Foundations.PointerFragment
import Makaio.Artifact.ReferenceAgreement
import Makaio.Turns.UsageAccumulator
import Makaio.Foundations.JsonPatch
import Makaio.Workflow.StatePatch
import Makaio.Workflow.StateLog
import Makaio.Bus.ErrorCodec
import Makaio.Bus.CorrelationTracker
import Makaio.Workflow.Frames
import Makaio.Workflow.LoopDispatch
import Makaio.Workflow.LoopRounds
import Makaio.Bus.Deadlines
import Makaio.Artifact.PartResolution
import Makaio.Filesystem.EditFile
import Makaio.Artifact.HydrateContext
import Makaio.Git.DiffOutput
