import Aizim.Framework.SortedEntries
import Aizim.Framework.Fallible
import Aizim.Framework.Transition
import Aizim.Framework.Transaction
import Aizim.Framework.JsonPrinter
import Aizim.Framework.JsonReader
import Aizim.Framework.JsonLibrary
import Aizim.Framework.JsonLines
import Aizim.Framework.Program
import Aizim.Framework.Pool
import Aizim.Framework.Utf8
import Aizim.Framework.Datetime
import Aizim.Framework.IsoFormat
import Aizim.Framework.Text
import Aizim.State.EventTypes
import Aizim.Research.RecordSchema
import Aizim.State.Events
import Aizim.State.Projections
import Aizim.State.Store
import Aizim.State.Publications
import Aizim.State.PublicationSpec
import Aizim.State.QueueProtocol
import Aizim.State.Service
import Aizim.State.History
import Aizim.State.AnnouncedPublications
import Aizim.State.Epochs
import Aizim.State.EventPersistence
import Aizim.State.Replay
import Aizim.Knowledge.Contributions
import Aizim.Knowledge.Patches
import Aizim.Knowledge.Artifacts
import Aizim.Knowledge.Deltas
import Aizim.Knowledge.PromotionTypes
import Aizim.Knowledge.PromotionContext
import Aizim.Knowledge.Promotion
import Aizim.Knowledge.PromotionSystem
import Aizim.Knowledge.Reader
import Aizim.Knowledge.EpochChain
import Aizim.Orchestration.KnowledgeStream
import Aizim.Orchestration.KnowledgeDelivery
import Aizim.Orchestration.ControllerSystem
import Aizim.Orchestration.ControllerProtocol
import Aizim.Research.Statement
import Aizim.Orchestration.DispatchOutcome
import Aizim.Cli.ControlDocuments
import Aizim.State.DocumentProtocol
import Aizim.State.Capabilities
import Aizim.Gateway.Capabilities
import Aizim.Gateway.Service
import Aizim.Gateway.TransportFrames
import Aizim.Gateway.Authorization
import Aizim.Framework.PosixPath
import Aizim.Framework.VersionedEdits
import Aizim.Framework.Splice
import Aizim.Domain.Model
import Aizim.State.Documents
import Aizim.State.DocumentView
import Aizim.State.DocumentSpec
import Aizim.Runtime.StateProcess
import Aizim.Runtime.Ownership
import Aizim.State.ControlRecords
import Aizim.State.ControlOperations
import Aizim.Modes.FormalTrace
import Aizim.State.Transactions
import Aizim.Framework.Stretch
import Aizim.Framework.Acyclic
import Aizim.Research.Records
import Aizim.Research.Engine
import Aizim.Research.RecordView
import Aizim.Research.Evidence
import Aizim.Research.Progress
import Aizim.Research.StoreInvariant
import Aizim.Research.EngineStretches
import Aizim.Research.OperatorRequests
import Aizim.Research.EngineSystem
import Aizim.Research.EngineInvariant
import Aizim.Research.SingleTask
import Aizim.Research.ProjectSafety
import Aizim.Research.Recovery
import Aizim.Research.OperatorStop
import Aizim.Framework.DatetimeOrder
import Aizim.State.ClaimTakeover
import Aizim.Framework.Exceptions
import Aizim.Gateway.PeerIdentity
import Aizim.Gateway.SessionBroker
import Aizim.Framework.LeanLexer
import Aizim.Knowledge.SourceScanner
import Aizim.Framework.Lookahead
import Aizim.Knowledge.PatchFreshness
import Aizim.Framework.Hex
import Aizim.Knowledge.Submission
import Aizim.Gateway.Denials
import Aizim.Framework.Metered
import Aizim.Framework.PythonJson
import Aizim.Framework.CanonicalJson
import Aizim.Framework.JsonRoundTrip
import Aizim.State.RpcFrames
import Aizim.Framework.JsonBytes
import Aizim.Orchestration.WireDecisions
import Aizim.Research.FinishedAttempts
import Aizim.State.EventIds
import Aizim.Knowledge.Environment
import Aizim.Domain.BaseEpoch
import Aizim.State.Resubmission
import Aizim.Gateway.RateLimits
import Aizim.Gateway.TransportChannel
import Aizim.Launcher.Cache
import Aizim.Knowledge.PromotionResults
import Aizim.Orchestration.PromotionConsumer
import Aizim.Framework.Toml
import Aizim.Framework.PyPath
import Aizim.Agents.Sandbox
import Aizim.Agents.MacosProfile
import Aizim.Research.SourceDeclarations
import Aizim.Orchestration.SupervisorLoop
import Aizim.Framework.Replace
import Aizim.Framework.Html
import Aizim.Framework.JsonDumps
import Aizim.Research.DashboardPage
import Aizim.Research.Dashboard
import Aizim.Framework.JsonExtent
import Aizim.Framework.JsonBytesExtent
import Aizim.Framework.Pieces
import Aizim.Agents.CodexEvents
import Aizim.Agents.CodexLines
import Aizim.Agents.CodexTranscripts
import Aizim.Documents.Broker
import Aizim.Documents.BrokerCalls
import Aizim.Documents.BrokerProtocol
import Aizim.Documents.BrokerSystem
