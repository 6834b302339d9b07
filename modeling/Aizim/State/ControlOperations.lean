import Aizim.Domain.Model
import Aizim.State.ControlRecords

/-!
# Control operations

The requests of the operator: to configure the controller, to register a worker and to assign a
task.  Each checks its arguments and the records it depends on, and appends one event.

`appendControl` is how these operations, and those of the controller, append; what it does to the
log is `appendControl_ok`.
-/

namespace Aizim.State

open JsonValue JsonObject Domain TransitionSystem

/-! ## Errors and constants -/

/-- `ControlOperationError`, `ControllerExecutionError`, and what the service raises. -/
inductive ControlError
  | operation (code : String)
  | execution (code : String)
  | state (error : StoreError)

/-- `_CONTROLLER_ID` -/
def controllerId : String := "primary"

/-- `_MAX_TASK_BYTES` -/
def maxTaskBytes : ℕ := 64 * 1024

/-- `_WORKER_ID.fullmatch(worker_id)` -/
def isWorkerId (workerId : String) : Bool :=
  fullmatchIdentifier (fun c => isAsciiLetter c || isAsciiDigit c)
    (fun c => isAsciiLetter c || isAsciiDigit c || c == '_' || c == '-') 63 workerId

/-- `_validate_worker_id` -/
def validateWorkerId (workerId : String) : Except ControlError Unit :=
  require (isWorkerId workerId = true) (.operation "WORKER_ID_INVALID")

/-- `_validate_task` -/
def validateTask (task : String) : Except ControlError Unit :=
  require (isBlank task = false ∧ (encode task).length ≤ maxTaskBytes)
    (.operation "WORKER_TASK_INVALID")

/-- `_projection_version` -/
def projectionVersion (t : Tables) (projection : ProjectionName) (entityId : String) :
    Except ControlError ℕ := do
  let record ← orThrow (findRecord t.projections projection entityId)
    (.operation "CONTROL_STATE_INVALID")
  pure record.version

variable [CharacterDatabase]

/-! ## Appending -/

/-- `append_event` of a command without a run. -/
def appendControl (t : Tables) (stamp : Stamp) (type : EventType) (actor : String)
    (payload : JsonObject) : Except ControlError Tables :=
  (Prod.fst <$> appendEvent t stamp ⟨type.text, actor, none, none, payload⟩).mapError .state

/-- What `append_event` appends. -/
lemma appendControl_ok {t t' : Tables} {stamp : Stamp} {type : EventType} {actor : String}
    {payload : JsonObject} (h : appendControl t stamp type actor payload = .ok t') :
    ∃ event record, event.eventType = type ∧ event.eventId = stamp.eventId ∧
      event.payload = payload ∧
      applyEventMutation t.toEventLog event t.projections = .ok (t'.toEventLog, record) ∧
      t'.publicationQueue = t.publicationQueue := by
  simp only [appendControl, appendEvent, mapError_eq_ok, map_eq_ok, bind_eq_ok, require_eq_ok,
    exists_and_left, exists_const, Prod.exists] at h
  obtain ⟨a, record, ⟨-, event, hevent, happend⟩, rfl⟩ := h
  obtain ⟨hid, htype, -, -, -, -, hpayload⟩ := makeEvent_ok hevent
  obtain ⟨hrun, hqueue⟩ := append_ok happend
  obtain ⟨record', hlog⟩ := hrun.of_singleton
  exact ⟨event, record', EventType.text_injective htype, hid, hpayload, hlog, hqueue⟩

/-- What is appended is valid. -/
lemma validatePayload_of_appendControl {t t' : Tables} {stamp : Stamp} {type : EventType}
    {actor : String} {payload : JsonObject}
    (h : appendControl t stamp type actor payload = .ok t') :
    validatePayload type payload = .ok () := by
  obtain ⟨event, record, rfl, -, rfl, -⟩ := appendControl_ok h
  exact event.payload_valid

/-- The ids of the log after an append. -/
lemma eventIds_appendControl {t t' : Tables} {stamp : Stamp} {type : EventType} {actor : String}
    {payload : JsonObject} (h : appendControl t stamp type actor payload = .ok t') :
    t'.events.map (·.eventId) = t.events.map (·.eventId) ++ [stamp.eventId] := by
  obtain ⟨event, record, -, hid, -, hlog, -⟩ := appendControl_ok h
  obtain ⟨-, hevents, -⟩ := applyEventMutation_ok hlog
  rw [hevents, List.map_append, List.map_singleton, ← hid]
  rfl

/-- A valid event with a new id is appended, if no reducer refuses it. -/
lemma exists_appendControl {t : Tables} {stamp : Stamp} {type : EventType} {actor : String}
    {payload : JsonObject} (hvalid : isUlid stamp.eventId = true)
    (hnew : stamp.eventId ∉ t.events.map (·.eventId)) (hactor : actor ≠ "")
    (htype : type.configures = true) (hpayload : validatePayload type payload = .ok ()) :
    ∃ t', appendControl t stamp type actor payload = .ok t' := by
  have hmake : ∃ event, makeEvent stamp ⟨type.text, actor, none, none, payload⟩ = .ok event :=
    exists_makeEvent hvalid hactor (by simp) (by simp) rfl hpayload
  obtain ⟨event, hevent⟩ := hmake
  obtain ⟨hid, hof, -⟩ := makeEvent_ok hevent
  have hof : event.eventType = type := EventType.text_injective hof
  have hother : type.isOrchestration = false ∧ isLeaseTerminal type = false ∧
      type ≠ .artifactRegistered ∧ type.text ≠ "EnvironmentTransitionApproved" := by
    revert htype
    cases type <;> decide
  obtain ⟨horchestration, hlease, hartifact, hplain⟩ := hother
  obtain ⟨t', record, happend⟩ := exists_append (hid ▸ hnew) (hof ▸ horchestration)
    (hof ▸ hlease) (hof ▸ hartifact)
  refine ⟨t', ?_⟩
  rw [appendControl, mapError_eq_ok, map_eq_ok]
  refine ⟨(t', record), ?_, rfl⟩
  simp only [appendEvent, require_of hplain, ok_bind, hevent]
  exact happend

/-- A valid event of the controller or of an execution is appended, if the status of its record
allows it and the record is of the same execution. -/
lemma exists_appendControl_orchestration {t : Tables} {stamp : Stamp} {type : EventType}
    {actor id : String} {payload : JsonObject} (hvalid : isUlid stamp.eventId = true)
    (hnew : stamp.eventId ∉ t.events.map (·.eventId)) (hactor : actor ≠ "")
    (htype : type.isOrchestration = true) (hpayload : validatePayload type payload = .ok ())
    (hid : getEntry (type.entityField.getD "") payload = some (.str id))
    (hstatus : ∃ status ∈ allowedPrevious type,
      fieldOf t.projections type.projection id "status" = some status)
    (hsame : fieldOf t.projections type.projection id (executionField type) =
      (getEntry (executionField type) payload).map canonical) :
    ∃ t', appendControl t stamp type actor payload = .ok t' := by
  have hmake : ∃ event, makeEvent stamp ⟨type.text, actor, none, none, payload⟩ = .ok event :=
    exists_makeEvent hvalid hactor (by simp) (by simp) rfl hpayload
  obtain ⟨event, hevent⟩ := hmake
  obtain ⟨hstamp, hof, -, -, -, -, hfields⟩ := makeEvent_ok hevent
  have hof : event.eventType = type := EventType.text_injective hof
  have hfields : event.payload = payload := hfields
  subst hof hfields
  have hother : isLeaseTerminal event.eventType = false ∧
      event.eventType ≠ .artifactRegistered ∧
      event.eventType.text ≠ "EnvironmentTransitionApproved" := by
    revert htype
    cases event.eventType <;> decide
  obtain ⟨hlease, hartifact, hplain⟩ := hother
  obtain ⟨status, hallowed, hstatus⟩ := hstatus
  obtain ⟨row, hrow, hfield⟩ := Option.bind_eq_some_iff.1 hstatus
  obtain ⟨previous, hprevious, hentry⟩ := Option.bind_eq_some_iff.1 hfield
  have hrecords : ∃ records, applyEvent t.projections event = .ok records := by
    have htext : event.text? (event.eventType.entityField.getD "") = some id := by
      rw [EventEnvelope.text?, hid]
      rfl
    have hread : previousPayload event.eventType.projection (some row) = .ok (some previous) := by
      obtain ⟨state, hstate, hobject⟩ := Option.bind_eq_some_iff.1 hprevious
      simp only [previousPayload, hstate, hobject, orThrow, ok_bind]
      rfl
    have hexecution : (getEntry (executionField event.eventType) previous).map canonical =
        (getEntry (executionField event.eventType) event.payload).map canonical := by
      rw [← hsame, ← fieldOf_map_canonical]
      simp [fieldOf, hrow, hprevious]
    simp only [applyEvent, projectionPayload, htype, if_true, reduceOrchestrationPayload, htext,
      orThrow, ok_bind, hrow, hread, Option.bind_some, hentry, Option.getD_some,
      require_of hallowed, require_of hexecution]
    exact ⟨_, rfl⟩
  obtain ⟨records, hrecords⟩ := hrecords
  obtain ⟨t', record, happend⟩ := exists_append_of_applyEvent (hstamp ▸ hnew) hrecords hlease
    hartifact
  refine ⟨t', ?_⟩
  rw [appendControl, mapError_eq_ok, map_eq_ok]
  refine ⟨(t', record), ?_, rfl⟩
  simp only [appendEvent, require_of hplain, ok_bind, hevent]
  exact happend

/-- An event that configures is about the entity that its payload names. -/
lemma appendControl_configures {t t' : Tables} {stamp : Stamp} {type : EventType}
    {actor field id : String} {payload : JsonObject}
    (h : appendControl t stamp type actor payload = .ok t') (htype : type.configures = true)
    (hfield : type.entityField = some field) (hid : getEntry field payload = some (.str id)) :
    ∃ event record, event.eventType = type ∧ event.eventId = stamp.eventId ∧
      entityId event = id ∧ event.payload = payload ∧
      applyEventMutation t.toEventLog event t.projections = .ok (t'.toEventLog, record) ∧
      t'.publicationQueue = t.publicationQueue := by
  obtain ⟨event, record, rfl, hstamp, hpayload, hlog⟩ := appendControl_ok h
  obtain ⟨field', hfield', htext⟩ := entityId_of_configures htype
  rw [hfield, Option.some.injEq] at hfield'
  rw [← hfield', EventEnvelope.text?, hpayload, hid] at htext
  exact ⟨event, record, rfl, hstamp, (Option.some.inj htext).symm, hpayload, hlog⟩

/-- The record that was just written has a version. -/
lemma exists_projectionVersion {t t' : Tables} {stamp : Stamp} {type : EventType}
    {actor field id : String} {payload : JsonObject}
    (h : appendControl t stamp type actor payload = .ok t') (htype : type.configures = true)
    (hfield : type.entityField = some field) (hid : getEntry field payload = some (.str id)) :
    ∃ version, projectionVersion t' type.projection id = .ok version := by
  obtain ⟨event, record, rfl, -, rfl, -, hlog, -⟩ := appendControl_configures h htype hfield hid
  have hother : event.eventType.projection ≠ .documents ∧
      event.eventType.projection ≠ .epochs := by
    revert htype
    cases event.eventType <;> decide
  obtain ⟨_, -, hrecord⟩ := findRecord_of_event hlog
  have hwritten := hrecord _ hother.1 hother.2 (entityId event)
  rw [if_pos ⟨rfl, rfl⟩] at hwritten
  simp only [projectionVersion, hwritten, orThrow, ok_bind]
  exact ⟨_, rfl⟩

/-! ## Operations -/

/-- `configure_controller` -/
def configureController (t : Tables) (stamp : Stamp) (provider : String) (model : Option String) :
    Except ControlError (Tables × ℕ) := do
  require (isControllerProviderId provider = true) (.operation "CONTROLLER_PROVIDER_INVALID")
  require (model.any isBlank = false) (.operation "CONTROLLER_MODEL_INVALID")
  let t ← appendControl t stamp .controllerConfigured "operator"
    ([("controller_id", .str controllerId), ("provider", .str provider)] ++
      model.toList.map fun model => ("model", .str model))
  let version ← projectionVersion t .controller controllerId
  pure (t, version)

/-- `register_worker` -/
def registerWorker (t : Tables) (stamp : Stamp) (workerId : String) (role : AgentRole) :
    Except ControlError (Tables × ℕ) := do
  validateWorkerId workerId
  require (findRecord t.projections .workerRoster workerId = none)
    (.operation "WORKER_ALREADY_REGISTERED")
  let t ← appendControl t stamp .workerConfigured "operator"
    [("worker_id", .str workerId), ("role", .str role.text), ("status", .str "idle")]
  let version ← projectionVersion t .workerRoster workerId
  pure (t, version)

/-- The assignment id of a task. -/
def assignmentId (workerId taskHash : String) (taskVersion : ℕ) : String :=
  sha256Json (.dict [("controller_id", .str controllerId), ("worker_id", .str workerId),
    ("task_hash", .str taskHash), ("task_version", .int taskVersion)])

/-- `assign_task` -/
def assignTask (t : Tables) (stamp : Stamp) (workerId task : String) :
    Except ControlError (Tables × ℕ) := do
  validateWorkerId workerId
  validateTask task
  require (findRecord t.projections .controller controllerId ≠ none)
    (.operation "CONTROLLER_NOT_CONFIGURED")
  require (findRecord t.projections .workerRoster workerId ≠ none)
    (.operation "WORKER_NOT_REGISTERED")
  let taskVersion := ((findRecord t.projections .workerAssignments workerId).map
    (·.version + 1)).getD 1
  let taskHash := sha256Text task
  let t ← appendControl t stamp .workerTaskAssigned controllerId
    [("assignment_id", .str (assignmentId workerId taskHash taskVersion)),
     ("controller_id", .str controllerId), ("worker_id", .str workerId), ("task", .str task),
     ("task_hash", .str taskHash), ("task_version", .int taskVersion)]
  let version ← projectionVersion t .workerAssignments workerId
  pure (t, version)

/-- A request of the operator. -/
inductive ControlOperation
  | configureController (provider : String) (model : Option String)
  | registerWorker (workerId : String) (role : AgentRole)
  | assignTask (workerId task : String)

namespace ControlOperation

/-- The tables after a request and the version that it answers with, or what it raises. -/
def run (t : Tables) (stamp : Stamp) : ControlOperation → Except ControlError (Tables × ℕ)
  | configureController provider model => State.configureController t stamp provider model
  | registerWorker workerId role => State.registerWorker t stamp workerId role
  | assignTask workerId task => State.assignTask t stamp workerId task

/-- The type of the event that a request appends. -/
def eventType : ControlOperation → EventType
  | configureController .. => .controllerConfigured
  | registerWorker .. => .workerConfigured
  | assignTask .. => .workerTaskAssigned

/-- The entity that a request is about. -/
def entity : ControlOperation → String
  | configureController .. => controllerId
  | registerWorker workerId _ => workerId
  | assignTask workerId _ => workerId

/-- The payload of the event that a request appends. -/
def payload (t : Tables) : ControlOperation → JsonObject
  | configureController provider model =>
    [("controller_id", .str controllerId), ("provider", .str provider)] ++
      model.toList.map fun model => ("model", .str model)
  | registerWorker workerId role =>
    [("worker_id", .str workerId), ("role", .str role.text), ("status", .str "idle")]
  | assignTask workerId task =>
    let taskVersion := ((findRecord t.projections .workerAssignments workerId).map
      (·.version + 1)).getD 1
    [("assignment_id", .str (assignmentId workerId (sha256Text task) taskVersion)),
     ("controller_id", .str controllerId), ("worker_id", .str workerId), ("task", .str task),
     ("task_hash", .str (sha256Text task)), ("task_version", .int taskVersion)]

omit [CharacterDatabase] in
lemma configures_eventType (op : ControlOperation) : op.eventType.configures = true := by
  cases op <;> rfl

/-- A request appends one event, of its type and about its entity. -/
lemma run_ok {op : ControlOperation} {t t' : Tables} {stamp : Stamp} {version : ℕ}
    (h : op.run t stamp = .ok (t', version)) :
    ∃ event record, event.eventType = op.eventType ∧ event.eventId = stamp.eventId ∧
      entityId event = op.entity ∧ event.payload = op.payload t ∧
      applyEventMutation t.toEventLog event t.projections = .ok (t'.toEventLog, record) ∧
      t'.publicationQueue = t.publicationQueue := by
  cases op with
  | configureController provider model =>
    simp only [run, State.configureController, bind_eq_ok, require_eq_ok, pure_eq_ok,
      exists_and_left, exists_const, Prod.mk.injEq] at h
    obtain ⟨-, -, t₁, happend, _, -, rfl, rfl⟩ := h
    exact appendControl_configures happend rfl rfl rfl
  | registerWorker workerId role =>
    simp only [run, State.registerWorker, bind_eq_ok, require_eq_ok, pure_eq_ok,
      exists_and_left, exists_const, Prod.mk.injEq] at h
    obtain ⟨-, -, -, t₁, happend, _, -, rfl, rfl⟩ := h
    exact appendControl_configures happend rfl rfl rfl
  | assignTask workerId task =>
    simp only [run, State.assignTask, bind_eq_ok, require_eq_ok, pure_eq_ok,
      exists_and_left, exists_const, Prod.mk.injEq] at h
    obtain ⟨-, -, -, -, -, -, t₁, happend, _, -, rfl, rfl⟩ := h
    exact appendControl_configures happend rfl rfl rfl

/-- What a request does to the records: the one it is about has a new version. -/
lemma findRecord_run {op : ControlOperation} {t t' : Tables} {stamp : Stamp} {version : ℕ}
    (h : op.run t stamp = .ok (t', version)) {projection : ProjectionName}
    (hdocuments : projection ≠ .documents) (hepochs : projection ≠ .epochs) (id : String) :
    ∃ state : JsonText, findRecord t'.projections projection id =
      if projection = op.eventType.projection ∧ id = op.entity then
        some ⟨((findRecord t.projections projection id).map (·.version + 1)).getD 1, state⟩
      else findRecord t.projections projection id := by
  obtain ⟨event, record, htype, -, hentity, -, hlog, -⟩ := run_ok h
  obtain ⟨payload, -, hrecord⟩ := findRecord_of_event hlog
  refine ⟨.ofObject (eventState event payload), ?_⟩
  rw [hrecord projection hdocuments hepochs id, htype, hentity]

/-- The record that a request is about has the fields of its event. -/
lemma fieldOf_run {op : ControlOperation} {t t' : Tables} {stamp : Stamp} {version : ℕ}
    (h : op.run t stamp = .ok (t', version)) (field : String) :
    fieldOf t'.projections op.eventType.projection op.entity field =
      (getEntry field (op.payload t)).map canonical := by
  obtain ⟨event, record, htype, -, hentity, hpayload, hlog, -⟩ := run_ok h
  have hfield := fieldOf_of_configures hlog (htype ▸ op.configures_eventType) field
  rw [htype, hentity, hpayload] at hfield
  exact hfield

/-- The ids of the log after a request. -/
lemma eventIds_run {op : ControlOperation} {t t' : Tables} {stamp : Stamp} {version : ℕ}
    (h : op.run t stamp = .ok (t', version)) :
    t'.events.map (·.eventId) = t.events.map (·.eventId) ++ [stamp.eventId] := by
  obtain ⟨event, record, -, hid, -, -, hlog, -⟩ := run_ok h
  obtain ⟨-, hevents, -⟩ := applyEventMutation_ok hlog
  rw [hevents, List.map_append, List.map_singleton, ← hid]
  rfl

/-! ## Requests that succeed -/

/-- The arguments of a request are valid. -/
def isValid : ControlOperation → Bool
  | configureController provider model => isControllerProviderId provider && !model.any isBlank
  | registerWorker workerId _ => isWorkerId workerId
  | assignTask workerId task =>
    isWorkerId workerId && !isBlank task && (encode task).length ≤ maxTaskBytes

/-- A request that is carried out has valid arguments. -/
lemma isValid_of_run {op : ControlOperation} {t t' : Tables} {stamp : Stamp} {version : ℕ}
    (h : op.run t stamp = .ok (t', version)) : op.isValid = true := by
  cases op with
  | configureController provider model =>
    simp only [run, State.configureController, bind_eq_ok, require_eq_ok, exists_and_left,
      exists_const] at h
    simp [isValid, h.1, h.2.1]
  | registerWorker workerId role =>
    simp only [run, State.registerWorker, validateWorkerId, bind_eq_ok, require_eq_ok,
      exists_and_left, exists_const] at h
    exact h.1
  | assignTask workerId task =>
    simp only [run, State.assignTask, validateWorkerId, validateTask, bind_eq_ok, require_eq_ok,
      exists_and_left, exists_const] at h
    simp [isValid, h.1, h.2.1.1, h.2.1.2]

/-- A valid request to configure is carried out. -/
lemma exists_configureController {t : Tables} {stamp : Stamp} {provider : String}
    {model : Option String} (hvalid : isUlid stamp.eventId = true)
    (hnew : stamp.eventId ∉ t.events.map (·.eventId))
    (h : (configureController provider model).isValid = true) :
    ∃ t' version, (configureController provider model).run t stamp = .ok (t', version) := by
  simp only [isValid, Bool.and_eq_true, Bool.not_eq_eq_eq_not, Bool.not_true] at h
  obtain ⟨hprovider, hmodel⟩ := h
  have hpayload : validatePayload .controllerConfigured
      ([("controller_id", .str controllerId), ("provider", .str provider)] ++
        model.toList.map fun model => ("model", .str model)) = .ok () := by
    cases model with
    | none =>
      simp [validatePayload, codec?, PayloadCodec.validate_eq_ok_iff, PayloadCodec.validator,
        fieldValidators, FieldCheck.accepts, textPayload, controllerId, hprovider, keys]
    | some model =>
      have hne : model ≠ "" := by
        rintro rfl
        simp [isBlank] at hmodel
      simp [validatePayload, codec?, PayloadCodec.validate_eq_ok_iff, PayloadCodec.validator,
        fieldValidators, FieldCheck.accepts, textPayload, controllerId, hprovider, keys, hne]
  obtain ⟨t', happend⟩ := exists_appendControl (t := t) hvalid hnew
    (show "operator" ≠ "" by decide) rfl hpayload
  obtain ⟨version, hversion⟩ := exists_projectionVersion happend rfl rfl rfl
  have hversion : projectionVersion t' .controller controllerId = .ok version := hversion
  refine ⟨t', version, ?_⟩
  simp only [run, State.configureController, require_of hprovider, require_of hmodel, ok_bind,
    happend, hversion]
  rfl

/-- A valid request to assign a task is carried out, once the controller is configured and the
worker registered. -/
lemma exists_assignTask {t : Tables} {stamp : Stamp} {workerId task : String}
    (hvalid : isUlid stamp.eventId = true) (hnew : stamp.eventId ∉ t.events.map (·.eventId))
    (h : (assignTask workerId task).isValid = true)
    (hcontroller : findRecord t.projections .controller controllerId ≠ none)
    (hworker : findRecord t.projections .workerRoster workerId ≠ none) :
    ∃ t' version, (assignTask workerId task).run t stamp = .ok (t', version) := by
  simp only [isValid, Bool.and_eq_true, Bool.not_eq_eq_eq_not, Bool.not_true,
    decide_eq_true_eq] at h
  obtain ⟨⟨hid, hblank⟩, hlength⟩ := h
  have hne : workerId ≠ "" ∧ task ≠ "" := by
    refine ⟨?_, ?_⟩
    · rintro rfl
      exact absurd hid (by decide)
    · rintro rfl
      simp [isBlank] at hblank
  have hpayload : ∀ version : ℕ, 0 < version → validatePayload .workerTaskAssigned
      [("assignment_id", .str (assignmentId workerId (sha256Text task) version)),
       ("controller_id", .str controllerId), ("worker_id", .str workerId), ("task", .str task),
       ("task_hash", .str (sha256Text task)), ("task_version", .int version)] = .ok () := by
    intro version hversion
    simp [validatePayload, codec?, PayloadCodec.validate_eq_ok_iff, PayloadCodec.validator,
      fieldValidators, FieldCheck.accepts, textPayload, controllerId, assignmentId, sha256Text,
      isSha256_sha256Json, isSha256_hexdigest, hne.1, hne.2, keys, hversion]
  have hpositive : 0 < ((findRecord t.projections .workerAssignments workerId).map
      (·.version + 1)).getD 1 := by
    cases findRecord t.projections .workerAssignments workerId <;> simp
  obtain ⟨t', happend⟩ := exists_appendControl (t := t) hvalid hnew
    (show controllerId ≠ "" by decide) rfl (hpayload _ hpositive)
  obtain ⟨version, hversion⟩ := exists_projectionVersion happend rfl rfl rfl
  have hversion : projectionVersion t' .workerAssignments workerId = .ok version := hversion
  refine ⟨t', version, ?_⟩
  simp only [run, State.assignTask, validateWorkerId, validateTask, require_of hid,
    require_of (⟨hblank, hlength⟩ : isBlank task = false ∧ (encode task).length ≤ maxTaskBytes),
    require_of hcontroller, require_of hworker, ok_bind, happend, hversion]
  rfl

end ControlOperation

end Aizim.State
