import Mathlib.Data.String.Basic
import Mathlib.Tactic.Lemma

/-!
# Event types and projections

The event types of the log, the projections that the reducers maintain, and the two tables that
say which projection an event type writes and which payload field names the entity it writes
there.
-/

namespace Aizim.State

/-! ## Event types -/

/-- The type of an event. -/
inductive EventType
  | projectInitialized
  | runCreated
  | runCompleted
  | runAborted
  | workerRegistered
  | workerStarted
  | workerStopped
  | workerCrashed
  | capabilityMinted
  | capabilityDenied
  | sandboxProbeStarted
  | sandboxProbeDenied
  | sandboxProbePassed
  | sandboxProbeFailed
  | leaseGranted
  | leaseReleased
  | leaseRecovered
  | documentEditPrepared
  | documentEdited
  | documentEditRecovered
  | formalActionRecorded
  | contributionSubmitted
  | contributionRebased
  | contributionEnqueued
  | promotionStateChanged
  | promotionPrepared
  | promotionFailed
  | declarationPublished
  | knowledgeDeltaPublished
  | knowledgeDeltaAcknowledged
  | leanRuntimeStarted
  | leanRuntimeCrashed
  | leanRuntimeRestarted
  | environmentTransitionProposed
  | environmentTransitionApproved
  | environmentTransitionRejected
  | alignmentReviewed
  | interventionRecorded
  | controllerConfigured
  | workerConfigured
  | workerTaskAssigned
  | scheduleProposed
  | workerCursorSaved
  | workerTimedOut
  | agentRunCompleted
  | promotionVerificationRecorded
  | leanRuntimeStopped
  | artifactRegistered
  | formalTraceSealed
  | evaluationTransitionRejected
  | controllerStarted
  | controllerStopped
  | controllerCrashed
  | workerTaskClaimed
  | workerTaskDispatchPlanned
  | workerTaskCompleted
  | workerTaskFailed
  | workerTaskInterrupted
  | researchRecordUpdated
  deriving DecidableEq

namespace EventType

/-- The text of an event type. -/
def text : EventType → String
  | projectInitialized => "ProjectInitialized"
  | runCreated => "RunCreated"
  | runCompleted => "RunCompleted"
  | runAborted => "RunAborted"
  | workerRegistered => "WorkerRegistered"
  | workerStarted => "WorkerStarted"
  | workerStopped => "WorkerStopped"
  | workerCrashed => "WorkerCrashed"
  | capabilityMinted => "CapabilityMinted"
  | capabilityDenied => "CapabilityDenied"
  | sandboxProbeStarted => "SandboxProbeStarted"
  | sandboxProbeDenied => "SandboxProbeDenied"
  | sandboxProbePassed => "SandboxProbePassed"
  | sandboxProbeFailed => "SandboxProbeFailed"
  | leaseGranted => "LeaseGranted"
  | leaseReleased => "LeaseReleased"
  | leaseRecovered => "LeaseRecovered"
  | documentEditPrepared => "DocumentEditPrepared"
  | documentEdited => "DocumentEdited"
  | documentEditRecovered => "DocumentEditRecovered"
  | formalActionRecorded => "FormalActionRecorded"
  | contributionSubmitted => "ContributionSubmitted"
  | contributionRebased => "ContributionRebased"
  | contributionEnqueued => "ContributionEnqueued"
  | promotionStateChanged => "PromotionStateChanged"
  | promotionPrepared => "PromotionPrepared"
  | promotionFailed => "PromotionFailed"
  | declarationPublished => "DeclarationPublished"
  | knowledgeDeltaPublished => "KnowledgeDeltaPublished"
  | knowledgeDeltaAcknowledged => "KnowledgeDeltaAcknowledged"
  | leanRuntimeStarted => "LeanRuntimeStarted"
  | leanRuntimeCrashed => "LeanRuntimeCrashed"
  | leanRuntimeRestarted => "LeanRuntimeRestarted"
  | environmentTransitionProposed => "EnvironmentTransitionProposed"
  | environmentTransitionApproved => "EnvironmentTransitionApproved"
  | environmentTransitionRejected => "EnvironmentTransitionRejected"
  | alignmentReviewed => "AlignmentReviewed"
  | interventionRecorded => "InterventionRecorded"
  | controllerConfigured => "ControllerConfigured"
  | workerConfigured => "WorkerConfigured"
  | workerTaskAssigned => "WorkerTaskAssigned"
  | scheduleProposed => "ScheduleProposed"
  | workerCursorSaved => "WorkerCursorSaved"
  | workerTimedOut => "WorkerTimedOut"
  | agentRunCompleted => "AgentRunCompleted"
  | promotionVerificationRecorded => "PromotionVerificationRecorded"
  | leanRuntimeStopped => "LeanRuntimeStopped"
  | artifactRegistered => "ArtifactRegistered"
  | formalTraceSealed => "FormalTraceSealed"
  | evaluationTransitionRejected => "EvaluationTransitionRejected"
  | controllerStarted => "ControllerStarted"
  | controllerStopped => "ControllerStopped"
  | controllerCrashed => "ControllerCrashed"
  | workerTaskClaimed => "WorkerTaskClaimed"
  | workerTaskDispatchPlanned => "WorkerTaskDispatchPlanned"
  | workerTaskCompleted => "WorkerTaskCompleted"
  | workerTaskFailed => "WorkerTaskFailed"
  | workerTaskInterrupted => "WorkerTaskInterrupted"
  | researchRecordUpdated => "ResearchRecordUpdated"

/-- All event types. -/
def all : List EventType :=
  [projectInitialized, runCreated, runCompleted, runAborted, workerRegistered, workerStarted,
   workerStopped, workerCrashed, capabilityMinted, capabilityDenied, sandboxProbeStarted,
   sandboxProbeDenied, sandboxProbePassed, sandboxProbeFailed, leaseGranted, leaseReleased,
   leaseRecovered, documentEditPrepared, documentEdited, documentEditRecovered,
   formalActionRecorded, contributionSubmitted, contributionRebased, contributionEnqueued,
   promotionStateChanged, promotionPrepared, promotionFailed, declarationPublished,
   knowledgeDeltaPublished, knowledgeDeltaAcknowledged, leanRuntimeStarted, leanRuntimeCrashed,
   leanRuntimeRestarted, environmentTransitionProposed, environmentTransitionApproved,
   environmentTransitionRejected, alignmentReviewed, interventionRecorded, controllerConfigured,
   workerConfigured, workerTaskAssigned, scheduleProposed, workerCursorSaved, workerTimedOut,
   agentRunCompleted, promotionVerificationRecorded, leanRuntimeStopped, artifactRegistered,
   formalTraceSealed, evaluationTransitionRejected, controllerStarted, controllerStopped,
   controllerCrashed, workerTaskClaimed, workerTaskDispatchPlanned, workerTaskCompleted,
   workerTaskFailed, workerTaskInterrupted, researchRecordUpdated]

/-- The event type with a text, if the text is the name of one. -/
def ofText? (text : String) : Option EventType := all.find? fun t => t.text == text

@[simp] lemma ofText?_text (t : EventType) : ofText? t.text = some t := by
  cases t <;> decide +kernel

lemma text_injective {s t : EventType} (h : s.text = t.text) : s = t := by
  simpa using congrArg ofText? h

lemma text_of_ofText? {text : String} {t : EventType} (h : ofText? text = some t) :
    t.text = text := by
  simpa using List.find?_some h

end EventType

/-! ## Projections -/

/-- The projections, the values of `PROJECTION_NAMES`. -/
inductive ProjectionName
  | research
  | project
  | runs
  | artifacts
  | evaluations
  | schedules
  | controller
  | workers
  | workerRoster
  | workerAssignments
  | controllerRuntime
  | workerExecutions
  | workerCursors
  | epochs
  | leases
  | documents
  | formalActions
  | contributions
  | verifiedDeclarations
  | knowledgeDeltas
  | knowledgeAcknowledgements
  | denials
  | resources
  | alignmentReviews
  | interventions
  deriving DecidableEq

/-- The text of a projection name. -/
def ProjectionName.text : ProjectionName → String
  | research => "research"
  | project => "project"
  | runs => "runs"
  | artifacts => "artifacts"
  | evaluations => "evaluations"
  | schedules => "schedules"
  | controller => "controller"
  | workers => "workers"
  | workerRoster => "worker_roster"
  | workerAssignments => "worker_assignments"
  | controllerRuntime => "controller_runtime"
  | workerExecutions => "worker_executions"
  | workerCursors => "worker_cursors"
  | epochs => "epochs"
  | leases => "leases"
  | documents => "documents"
  | formalActions => "formal_actions"
  | contributions => "contributions"
  | verifiedDeclarations => "verified_declarations"
  | knowledgeDeltas => "knowledge_deltas"
  | knowledgeAcknowledgements => "knowledge_acknowledgements"
  | denials => "denials"
  | resources => "resources"
  | alignmentReviews => "alignment_reviews"
  | interventions => "interventions"

/-- `PROJECTION_NAMES` -/
def ProjectionName.all : List ProjectionName :=
  [research, project, runs, artifacts, evaluations, schedules, controller, workers, workerRoster,
   workerAssignments, controllerRuntime, workerExecutions, workerCursors, epochs, leases,
   documents, formalActions, contributions, verifiedDeclarations, knowledgeDeltas,
   knowledgeAcknowledgements, denials, resources, alignmentReviews, interventions]

/-- The projection with a name, if the name is registered. -/
def ProjectionName.ofText? (text : String) : Option ProjectionName :=
  ProjectionName.all.find? fun n => n.text == text

@[simp] lemma ProjectionName.ofText?_text (n : ProjectionName) :
    ProjectionName.ofText? n.text = some n := by
  cases n <;> decide +kernel

lemma ProjectionName.text_injective {a b : ProjectionName} (h : a.text = b.text) : a = b := by
  simpa using congrArg ProjectionName.ofText? h

/-- `AUDIT_PROJECTIONS` -/
def auditProjections : List ProjectionName := [.denials]

/-! ## The tables of the reducers -/

namespace EventType

/-- `_EVENT_PROJECTION`, with `ORCHESTRATION_EVENT_PROJECTIONS`. -/
def projection : EventType → ProjectionName
  | .projectInitialized | .environmentTransitionProposed | .environmentTransitionApproved |
    .environmentTransitionRejected => .project
  | .runCreated | .runCompleted | .runAborted => .runs
  | .workerRegistered | .workerStarted | .workerStopped | .workerCrashed | .workerTimedOut |
    .agentRunCompleted => .workers
  | .capabilityMinted | .sandboxProbeStarted | .sandboxProbePassed | .leanRuntimeStarted |
    .leanRuntimeCrashed | .leanRuntimeRestarted | .leanRuntimeStopped => .resources
  | .capabilityDenied | .sandboxProbeDenied | .sandboxProbeFailed => .denials
  | .leaseGranted | .leaseReleased | .leaseRecovered => .leases
  | .documentEditPrepared | .documentEdited | .documentEditRecovered => .documents
  | .formalActionRecorded => .formalActions
  | .contributionSubmitted | .contributionRebased | .contributionEnqueued |
    .promotionStateChanged | .promotionPrepared | .promotionFailed => .contributions
  | .declarationPublished => .verifiedDeclarations
  | .knowledgeDeltaPublished => .knowledgeDeltas
  | .knowledgeDeltaAcknowledged => .knowledgeAcknowledgements
  | .alignmentReviewed => .alignmentReviews
  | .interventionRecorded => .interventions
  | .controllerConfigured => .controller
  | .workerConfigured => .workerRoster
  | .workerTaskAssigned => .workerAssignments
  | .scheduleProposed => .schedules
  | .workerCursorSaved => .workerCursors
  | .promotionVerificationRecorded | .formalTraceSealed | .evaluationTransitionRejected =>
    .evaluations
  | .artifactRegistered => .artifacts
  | .controllerStarted | .controllerStopped | .controllerCrashed => .controllerRuntime
  | .workerTaskClaimed | .workerTaskDispatchPlanned | .workerTaskCompleted | .workerTaskFailed |
    .workerTaskInterrupted => .workerExecutions
  | .researchRecordUpdated => .research

/-- The event types of `ORCHESTRATION_EVENT_PROJECTIONS`. -/
def isOrchestration : EventType → Bool
  | .controllerStarted | .controllerStopped | .controllerCrashed | .workerTaskClaimed |
    .workerTaskDispatchPlanned | .workerTaskCompleted | .workerTaskFailed |
    .workerTaskInterrupted => true
  | _ => false

/-- `_ENTITY_FIELD`, with `ORCHESTRATION_ENTITY_FIELDS`. -/
def entityField : EventType → Option String
  | .projectInitialized => some "project_id"
  | .workerRegistered | .workerStarted | .workerStopped | .workerCrashed | .workerConfigured |
    .workerTaskAssigned | .workerCursorSaved | .workerTimedOut | .agentRunCompleted =>
    some "worker_id"
  | .capabilityDenied => some "request_id"
  | .sandboxProbeStarted | .sandboxProbeDenied | .sandboxProbePassed | .sandboxProbeFailed =>
    some "probe_id"
  | .leaseGranted | .leaseReleased | .leaseRecovered => some "lease_id"
  | .documentEditPrepared | .documentEdited | .documentEditRecovered => some "document_id"
  | .formalActionRecorded => some "action_id"
  | .contributionSubmitted | .contributionRebased | .contributionEnqueued |
    .promotionStateChanged | .promotionPrepared | .promotionFailed |
    .promotionVerificationRecorded => some "contribution_id"
  | .declarationPublished => some "declaration_id"
  | .knowledgeDeltaPublished => some "delta_id"
  | .knowledgeDeltaAcknowledged => some "acknowledgement_id"
  | .leanRuntimeStarted | .leanRuntimeCrashed | .leanRuntimeRestarted | .leanRuntimeStopped =>
    some "runtime_id"
  | .environmentTransitionProposed | .environmentTransitionApproved |
    .environmentTransitionRejected => some "transition_id"
  | .alignmentReviewed => some "review_id"
  | .interventionRecorded => some "intervention_id"
  | .controllerConfigured | .controllerStarted | .controllerStopped | .controllerCrashed =>
    some "controller_id"
  | .scheduleProposed => some "directive_id"
  | .artifactRegistered => some "content_hash"
  | .evaluationTransitionRejected => some "requested_hash"
  | .workerTaskClaimed | .workerTaskDispatchPlanned | .workerTaskCompleted | .workerTaskFailed |
    .workerTaskInterrupted => some "assignment_id"
  | .researchRecordUpdated => some "record_id"
  | _ => none

end EventType

end Aizim.State
