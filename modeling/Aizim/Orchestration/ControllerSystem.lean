import Aizim.Orchestration.ControllerLifecycle
import Aizim.State.Service

/-!
# Sessions of the controller

The controller over its whole life: requests of the operator, the other operations of the service,
and one session after another, of the supervisor or of the research runner.  A supervisor first
recovers what an earlier session left, then starts, and from then on claims assignments and executes
them.  A session ends by recording its stop, or without a trace: its process died, or one of these
steps raised.

`controller_executions` is what holds in every state of this system: an assignment is executed at
most once, a worker has at most one execution that is not finished, an execution is written only by
the session that owns it, and recovery leaves nothing of an earlier session.
-/

namespace Aizim.Orchestration

open JsonValue JsonObject Domain State TransitionSystem

variable [CharacterDatabase]

/-! ## Steps of an execution -/

/-- What a session does with a claim. -/
inductive ExecutionStep
  | plan (directiveId directiveArtifactHash instructionHash : String)
      (budget timeoutMilliseconds : ℕ)
  | complete (resultHash : String)
  | fail (reasonCode : String)
  | interrupt (reasonCode : String)

namespace ExecutionStep

/-- The tables after a step of an execution. -/
def run (t : Tables) (stamp : Stamp) (claim : ClaimedAssignment) :
    ExecutionStep → Except ControlError Tables
  | plan directiveId artifactHash instructionHash budget timeout =>
    recordDispatchPlanned t stamp claim directiveId artifactHash instructionHash budget timeout
  | complete resultHash => completeAssignment t stamp claim resultHash
  | fail reasonCode => failAssignment t stamp claim reasonCode
  | interrupt reasonCode => interruptAssignment t stamp claim reasonCode

end ExecutionStep

/-! ## Sessions -/

/-- How far a session is with its start.  While it recovers, the records that it still has to look
at. -/
inductive SessionPhase
  | opened
  | recovering (pending : List ProjectionRecord)
  | recovered
  | started

/-- A process that has the state service: the supervisor, or the research runner, which executes no
assignments.  The version is the one of the configuration that it started with. -/
structure Session where
  sessionId : String
  supervises : Bool
  version : ℕ
  phase : SessionPhase
  claims : List ClaimedAssignment

/-- The store and the process that has it. -/
structure ControllerWorld where
  tables : Tables
  session : Option Session

/-- The projections of the control plane. -/
def controlProjections : List ProjectionName :=
  [.controller, .controllerRuntime, .workerRoster, .workerAssignments, .workerExecutions]

/-- The operation writes none of the records of the control plane. -/
def leavesControl (op : StateOp) : Prop :=
  ∀ type ∈ op.eventTypes, type.projection ∉ controlProjections

/-- What happens to the store and its process. -/
inductive ControllerAction
  | operator (stamp : Stamp) (op : ControlOperation)
  | service (op : StateOp)
  | openSession (sessionId : String) (supervises : Bool)
  | recover (stamp : Stamp)
  | interruptNext (stamp : Stamp)
  | finishRecovery
  | start (stamp : Stamp) (controllerVersion : ℕ) (provider : ControllerProviderId)
      (backendVersion executableHash : String)
  | claim (stamp : Stamp) (workerId executionId : String)
  | execute (stamp : Stamp) (claim : ClaimedAssignment) (step : ExecutionStep)
  | stop (stamp : Stamp) (reasonCode : String)
  | crash

/-- The phase after `recover_unclean_controller`. -/
def Session.recoveredPhase (s : Session) (t : Tables) : SessionPhase :=
  if s.supervises then .recovering (projectionsOf t.projections .workerExecutions) else .recovered

/-- The steps that succeed.  One that raises appends nothing. -/
inductive ControllerStep : ControllerWorld → ControllerAction → ControllerWorld → Prop
  | operator {w t stamp op version} (h : op.run w.tables stamp = .ok (t, version)) :
      ControllerStep w (.operator stamp op) { w with tables := t }
  | service {w op} (h : leavesControl op) :
      ControllerStep w (.service op) { w with tables := op.exec w.tables }
  | openSession {t} (sessionId supervises) :
      ControllerStep ⟨t, none⟩ (.openSession sessionId supervises)
        ⟨t, some ⟨sessionId, supervises, 0, .opened, []⟩⟩
  | recover {t t' s stamp crashed} (hphase : s.phase = .opened)
      (h : recoverUncleanController t stamp = .ok (t', crashed)) :
      ControllerStep ⟨t, some s⟩ (.recover stamp) ⟨t', some { s with phase := s.recoveredPhase t' }⟩
  | interruptNext {t t' s stamp record pending} (hphase : s.phase = .recovering (record :: pending))
      (h : interruptRecord t stamp record = .ok t') :
      ControllerStep ⟨t, some s⟩ (.interruptNext stamp)
        ⟨t', some { s with phase := .recovering pending }⟩
  | finishRecovery {t s} (hphase : s.phase = .recovering []) :
      ControllerStep ⟨t, some s⟩ .finishRecovery ⟨t, some { s with phase := .recovered }⟩
  | start {t t' s stamp version provider backendVersion executableHash}
      (hphase : s.phase = .recovered)
      (h : startController t stamp s.sessionId version provider backendVersion executableHash =
        .ok t') :
      ControllerStep ⟨t, some s⟩ (.start stamp version provider backendVersion executableHash)
        ⟨t', some { s with phase := .started, version := version }⟩
  | claim {t t' s stamp workerId executionId claim} (hsupervises : s.supervises = true)
      (hphase : s.phase = .started)
      (h : claimAssignment t stamp workerId s.sessionId s.version executionId = .ok (t', claim)) :
      ControllerStep ⟨t, some s⟩ (.claim stamp workerId executionId)
        ⟨t', some { s with claims := claim :: s.claims }⟩
  | execute {t t' s stamp claim step} (hclaim : claim ∈ s.claims)
      (h : step.run t stamp claim = .ok t') :
      ControllerStep ⟨t, some s⟩ (.execute stamp claim step) ⟨t', some s⟩
  | stop {t t' s stamp reasonCode} (hphase : s.phase = .started)
      (h : recordControllerStop t stamp s.sessionId reasonCode = .ok t') :
      ControllerStep ⟨t, some s⟩ (.stop stamp reasonCode) ⟨t', none⟩
  | crash {t s} : ControllerStep ⟨t, some s⟩ .crash ⟨t, none⟩

/-- The controller, from a new store without a process. -/
def controllerSystem : TransitionSystem ControllerWorld ControllerAction where
  initial w := w = ⟨initialTables, none⟩
  step := ControllerStep

/-! ## Executions -/

/-- The status of an execution is not final. -/
def NonterminalExecution (t : Tables) (assignmentId : String) : Prop :=
  ∃ status ∈ nonterminal,
    fieldOf t.projections .workerExecutions assignmentId "status" = some status

/-- The worker has an execution of the assignment that is not finished. -/
def ActiveExecution (t : Tables) (workerId assignmentId : String) : Prop :=
  fieldOf t.projections .workerExecutions assignmentId "worker_id" = some (.str workerId) ∧
    NonterminalExecution t assignmentId

/-- The session owns the execution, under a version of the controller. -/
def OwnsExecution (t : Tables) (sessionId : String) (version : ℕ) (assignmentId : String) : Prop :=
  fieldOf t.projections .workerExecutions assignmentId "controller_session_id" =
      some (.str sessionId) ∧
    fieldOf t.projections .workerExecutions assignmentId "controller_version" =
      some (.int version)

/-- The record of the runtime says that a session runs. -/
def RuntimeRuns (t : Tables) : Prop :=
  fieldOf t.projections .controllerRuntime controllerId "status" = some (.str "running")

/-- The session runs under a version of the controller, which is the configured one. -/
structure SessionRuns (t : Tables) (sessionId : String) (version : ℕ) : Prop where
  running : RuntimeRuns t
  session : fieldOf t.projections .controllerRuntime controllerId "controller_session_id" =
    some (.str sessionId)
  runtimeVersion : fieldOf t.projections .controllerRuntime controllerId "controller_version" =
    some (.int version)
  configured : (findRecord t.projections .controller controllerId).map (·.version) = some version

/-- An execution was written by the session that owns it and was running then.  If it existed
before, the session owned it before. -/
structure WrittenByOwner (t t' : Tables) (sessionId assignmentId : String) (version : ℕ) :
    Prop where
  runs : SessionRuns t sessionId version
  owns : OwnsExecution t' sessionId version assignmentId
  owned : findRecord t.projections .workerExecutions assignmentId = none ∨
    OwnsExecution t sessionId version assignmentId

/-! ## One append -/

/-- What the append of an event of the controller or of an execution does: the event is merged into
the record of its entity, if the status allows it. -/
structure OrchestrationAppended (t t' : Tables) (type : EventType) (id : String)
    (payload : JsonObject) : Prop where
  appended : ∃ event record, event.eventType = type ∧ entityId event = id ∧
    applyEventMutation t.toEventLog event t.projections = .ok (t'.toEventLog, record)
  queue : t'.publicationQueue = t.publicationQueue
  allowed : (fieldOf t.projections type.projection id "status").getD .null ∈ allowedPrevious type
  same : ∀ row, findRecord t.projections type.projection id = some row →
    fieldOf t.projections type.projection id (executionField type) =
      (getEntry (executionField type) payload).map canonical
  fields : ∀ field, fieldOf t'.projections type.projection id field =
    if field = "status" then some (.str (targetStatus type))
    else ((getEntry field payload).map canonical).or
      (fieldOf t.projections type.projection id field)

lemma appendControl_orchestration {t t' : Tables} {stamp : Stamp} {type : EventType}
    {actor : String} {payload : JsonObject} {id : String}
    (h : appendControl t stamp type actor payload = .ok t') (htype : type.isOrchestration = true)
    (hid : getEntry (type.entityField.getD "") payload = some (.str id)) :
    OrchestrationAppended t t' type id payload := by
  obtain ⟨event, record, rfl, -, rfl, hlog, hqueue⟩ := appendControl_ok h
  have hentity : entityId event = id := by
    have htext := entityId_of_orchestration htype
    rw [EventEnvelope.text?, hid] at htext
    exact (Option.some.inj htext).symm
  obtain ⟨hallowed, hsame, hfields⟩ := merges_of_event hlog htype
  rw [hentity] at hallowed hsame hfields
  exact ⟨⟨event, record, rfl, hentity, hlog⟩, hqueue, hallowed, hsame, hfields⟩

namespace OrchestrationAppended

variable {t t' : Tables} {type : EventType} {id : String} {payload : JsonObject}

lemma findRecord_ne (h : OrchestrationAppended t t' type id payload)
    {projection : ProjectionName} (hprojection : projection ∈ controlProjections) {id' : String}
    (hne : projection ≠ type.projection ∨ id' ≠ id) :
    findRecord t'.projections projection id' = findRecord t.projections projection id' := by
  obtain ⟨event, record, rfl, rfl, hlog⟩ := h.appended
  have hother : projection ≠ .documents ∧ projection ≠ .epochs := by
    revert hprojection
    cases projection <;> decide
  refine findRecord_of_event_ne hlog hother.1 hother.2 ?_
  rintro ⟨hname, hid⟩
  rcases hne with hne | hne
  · exact hne hname
  · exact hne hid

lemma executionRows_ne (h : OrchestrationAppended t t' type id payload) {assignmentId : String}
    (hne : type ∉ executionTypes ∨ assignmentId ≠ id) :
    executionRows t'.toEventLog assignmentId = executionRows t.toEventLog assignmentId := by
  obtain ⟨event, record, rfl, rfl, hlog⟩ := h.appended
  obtain ⟨row, hrow, hrows⟩ := executionRows_of_event hlog assignmentId
  rw [hrows, List.filter_eq_nil_iff.2, List.append_nil]
  intro r hr
  obtain rfl := List.mem_singleton.1 hr
  rw [isExecutionOf_iff hrow]
  rintro ⟨htype, hid⟩
  rcases hne with hne | hne
  · exact hne htype
  · exact hne hid

lemma recorded (h : OrchestrationAppended t t' type id payload) {assignmentId : String}
    (hlog : ExecutionRecorded t.toEventLog assignmentId) :
    ExecutionRecorded t'.toEventLog assignmentId := by
  obtain ⟨event, record, -, -, happend⟩ := h.appended
  exact hlog.append happend

end OrchestrationAppended

end Aizim.Orchestration
