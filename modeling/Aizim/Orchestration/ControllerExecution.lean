import Aizim.State.ControlOperations
import Aizim.State.Documents

/-!
# Executions of assignments

How the controller claims an assignment, plans its dispatch and ends it.  Each function checks the
records and appends one event.  A claim is what the controller keeps of an assignment it claimed;
`validateClaim` compares it with the records before every later event.

`interruptRecord` is one round of the loop with which a new supervisor ends the executions that an
earlier one left.
-/

namespace Aizim.Orchestration

open JsonValue JsonObject Domain State TransitionSystem

/-! ## Payloads -/

/-- `_NONTERMINAL` -/
def nonterminal : List JsonValue := [.str "claimed", .str "planned"]

/-- The error of a record that cannot be read. -/
def executionStateInvalid : ControlError := .execution "EXECUTION_STATE_INVALID"

/-- `_payload`, of each module with its own error. -/
def readPayload (invalid : ControlError) (record : ProjectionRow) :
    Except ControlError JsonObject :=
  orThrow record.payload? invalid

/-- `_text`, of each module with its own error. -/
def readText (invalid : ControlError) (payload : JsonObject) (field : String) :
    Except ControlError String :=
  match getEntry field payload with
  | some (.str s) => if s = "" then .error invalid else .ok s
  | _ => .error invalid

/-- `_payload` -/
def payloadOf (record : ProjectionRow) : Except ControlError JsonObject :=
  readPayload executionStateInvalid record

/-- `_text` -/
def textOf (payload : JsonObject) (field : String) : Except ControlError String :=
  readText executionStateInvalid payload field

/-- `_integer` -/
def integerOf (payload : JsonObject) (field : String) : Except ControlError ℕ :=
  match getEntry field payload with
  | some (.int i) => if 0 < i then .ok i.toNat else .error executionStateInvalid
  | _ => .error executionStateInvalid

/-- `_role` -/
def roleOf (payload : JsonObject) : Except ControlError AgentRole :=
  match getEntry "role" payload with
  | some (.str s) => orThrow (AgentRole.ofText? s) (.execution "WORKER_ROLE_INVALID")
  | _ => .error (.execution "WORKER_ROLE_INVALID")

/-- `_active_for_worker` -/
def activeForWorker (workerId : String) (record : ProjectionRecord) : Except ControlError Bool := do
  let payload ← payloadOf ⟨record.version, record.stateJson⟩
  pure (getEntry "worker_id" payload == some (.str workerId) &&
    (getEntry "status" payload).any nonterminal.contains)

/-! ## Claims -/

/-- `ClaimedAssignment` -/
structure ClaimedAssignment where
  assignmentId : String
  workerId : String
  role : AgentRole
  task : String
  taskVersion : ℕ
  executionId : String
  controllerVersion : ℕ

/-- The payload of the event of a claim. -/
def claimPayload (sessionId : String) (claim : ClaimedAssignment) : JsonObject :=
  [("assignment_id", .str claim.assignmentId), ("controller_id", .str controllerId),
   ("controller_session_id", .str sessionId),
   ("controller_version", .int claim.controllerVersion), ("worker_id", .str claim.workerId),
   ("task_version", .int claim.taskVersion), ("execution_id", .str claim.executionId)]

variable [CharacterDatabase]

/-- `claim_assignment` -/
def claimAssignment (t : Tables) (stamp : Stamp) (workerId sessionId : String)
    (controllerVersion : ℕ) (executionId : String) :
    Except ControlError (Tables × ClaimedAssignment) := do
  let assignment ← orThrow (findRecord t.projections .workerAssignments workerId)
    (.execution "ASSIGNMENT_NOT_FOUND")
  let assignmentPayload ← payloadOf assignment
  let taskVersion ← integerOf assignmentPayload "task_version"
  require (assignment.version = taskVersion) (.execution "TASK_VERSION_STALE")
  require ((findRecord t.projections .controller controllerId).map (·.version) =
    some controllerVersion) (.execution "CONTROLLER_VERSION_STALE")
  let runtime ← orThrow (findRecord t.projections .controllerRuntime controllerId)
    (.execution "CONTROLLER_NOT_RUNNING")
  let runtimePayload ← payloadOf runtime
  require (getEntry "status" runtimePayload = some (.str "running"))
    (.execution "CONTROLLER_NOT_RUNNING")
  require (getEntry "controller_session_id" runtimePayload = some (.str sessionId))
    (.execution "CONTROLLER_SESSION_STALE")
  require (getEntry "controller_version" runtimePayload = some (.int controllerVersion))
    (.execution "CONTROLLER_VERSION_STALE")
  let roster ← orThrow (findRecord t.projections .workerRoster workerId)
    (.execution "WORKER_NOT_REGISTERED")
  let rosterPayload ← payloadOf roster
  let role ← roleOf rosterPayload
  let assignmentId ← textOf assignmentPayload "assignment_id"
  require (findRecord t.projections .workerExecutions assignmentId = none)
    (.execution "ASSIGNMENT_ALREADY_CLAIMED")
  let active ← (projectionsOf t.projections .workerExecutions).anyM (activeForWorker workerId)
  require (active = false) (.execution "WORKER_EXECUTION_ACTIVE")
  let leases ← (activeLeases t.projections).mapError .state
  require (∀ lease ∈ leases, lease.workerId ≠ workerId) (.execution "WORKER_LEASE_ACTIVE")
  let task ← textOf assignmentPayload "task"
  let claim : ClaimedAssignment :=
    ⟨assignmentId, workerId, role, task, taskVersion, executionId, controllerVersion⟩
  let t ← appendControl t stamp .workerTaskClaimed controllerId (claimPayload sessionId claim)
  pure (t, claim)

/-- `_validate_claim` -/
def validateClaim (t : Tables) (claim : ClaimedAssignment) (allowed : List JsonValue) :
    Except ControlError Unit := do
  let current ← orThrow (findRecord t.projections .workerAssignments claim.workerId)
    (.execution "ASSIGNMENT_NOT_FOUND")
  let currentPayload ← payloadOf current
  require (current.version = claim.taskVersion ∧
    getEntry "task_version" currentPayload = some (.int claim.taskVersion) ∧
    getEntry "assignment_id" currentPayload = some (.str claim.assignmentId))
    (.execution "TASK_VERSION_STALE")
  let execution ← orThrow (findRecord t.projections .workerExecutions claim.assignmentId)
    (.execution "EXECUTION_NOT_FOUND")
  let executionPayload ← payloadOf execution
  require (getEntry "execution_id" executionPayload = some (.str claim.executionId))
    (.execution "EXECUTION_ID_STALE")
  require ((findRecord t.projections .controller controllerId).map (·.version) =
    some claim.controllerVersion) (.execution "CONTROLLER_VERSION_STALE")
  let runtime ← orThrow (findRecord t.projections .controllerRuntime controllerId)
    (.execution "CONTROLLER_NOT_RUNNING")
  let runtimePayload ← payloadOf runtime
  require (getEntry "status" runtimePayload = some (.str "running"))
    (.execution "CONTROLLER_NOT_RUNNING")
  let executionSession ← textOf executionPayload "controller_session_id"
  let runtimeSession ← textOf runtimePayload "controller_session_id"
  require (executionSession = runtimeSession) (.execution "CONTROLLER_SESSION_STALE")
  let executionVersion ← integerOf executionPayload "controller_version"
  require (executionVersion = claim.controllerVersion) (.execution "CONTROLLER_VERSION_STALE")
  let runtimeVersion ← integerOf runtimePayload "controller_version"
  require (runtimeVersion = claim.controllerVersion) (.execution "CONTROLLER_VERSION_STALE")
  require ((getEntry "status" executionPayload).any allowed.contains = true)
    (.execution "EXECUTION_TERMINAL")

/-- Append an event of a claim: what `record_dispatch_planned` and `_append_terminal` share. -/
def appendClaimed (t : Tables) (stamp : Stamp) (claim : ClaimedAssignment) (type : EventType)
    (allowed : List JsonValue) (fields : JsonObject) : Except ControlError Tables := do
  validateClaim t claim allowed
  appendControl t stamp type controllerId
    ([("assignment_id", .str claim.assignmentId), ("execution_id", .str claim.executionId)] ++
      fields)

/-- `record_dispatch_planned` -/
def recordDispatchPlanned (t : Tables) (stamp : Stamp) (claim : ClaimedAssignment)
    (directiveId directiveArtifactHash instructionHash : String) (budget timeoutMilliseconds : ℕ) :
    Except ControlError Tables :=
  appendClaimed t stamp claim .workerTaskDispatchPlanned [.str "claimed"]
    [("directive_id", .str directiveId), ("directive_artifact_hash", .str directiveArtifactHash),
     ("instruction_hash", .str instructionHash), ("budget", .int budget),
     ("timeout_milliseconds", .int timeoutMilliseconds)]

/-- `complete_assignment` -/
def completeAssignment (t : Tables) (stamp : Stamp) (claim : ClaimedAssignment)
    (resultHash : String) : Except ControlError Tables :=
  appendClaimed t stamp claim .workerTaskCompleted [.str "planned"]
    [("result_hash", .str resultHash)]

/-- `fail_assignment` -/
def failAssignment (t : Tables) (stamp : Stamp) (claim : ClaimedAssignment) (reasonCode : String) :
    Except ControlError Tables :=
  appendClaimed t stamp claim .workerTaskFailed nonterminal [("reason_code", .str reasonCode)]

/-- `interrupt_assignment` -/
def interruptAssignment (t : Tables) (stamp : Stamp) (claim : ClaimedAssignment)
    (reasonCode : String) : Except ControlError Tables :=
  appendClaimed t stamp claim .workerTaskInterrupted nonterminal
    [("reason_code", .str reasonCode)]

/-- One round of `interrupt_nonterminal_executions`, for a record that was read before the first
round. -/
def interruptRecord (t : Tables) (stamp : Stamp) (record : ProjectionRecord) :
    Except ControlError Tables := do
  let payload ← payloadOf ⟨record.version, record.stateJson⟩
  if (getEntry "status" payload).any nonterminal.contains then
    let assignmentId ← textOf payload "assignment_id"
    let executionId ← textOf payload "execution_id"
    appendControl t stamp .workerTaskInterrupted controllerId
      [("assignment_id", .str assignmentId), ("execution_id", .str executionId),
       ("reason_code", .str "CONTROLLER_RESTART")]
  else pure t

/-! ## What the checks read -/

omit [CharacterDatabase] in
lemma readPayload_eq_ok {invalid : ControlError} {record : ProjectionRow} {payload : JsonObject} :
    readPayload invalid record = .ok payload ↔ record.payload? = some payload := by
  simp [readPayload]

omit [CharacterDatabase] in
lemma payloadOf_eq_ok {record : ProjectionRow} {payload : JsonObject} :
    payloadOf record = .ok payload ↔ record.payload? = some payload :=
  readPayload_eq_ok

omit [CharacterDatabase] in
lemma readText_eq_ok {invalid : ControlError} {payload : JsonObject} {field s : String} :
    readText invalid payload field = .ok s ↔
      s ≠ "" ∧ getEntry field payload = some (.str s) := by
  unfold readText
  split
  · rename_i s' hs
    rw [hs]
    split
    · rename_i hempty
      simp only [reduceCtorEq, false_iff, Option.some.injEq, JsonValue.str.injEq, hempty]
      exact fun h => h.1 h.2.symm
    · rename_i hne
      simp only [Except.ok.injEq, Option.some.injEq, JsonValue.str.injEq]
      exact ⟨fun h => ⟨h ▸ hne, h⟩, fun h => h.2⟩
  · rename_i hne
    simp only [reduceCtorEq, false_iff, not_and]
    exact fun _ h => hne s h

omit [CharacterDatabase] in
lemma textOf_eq_ok {payload : JsonObject} {field s : String} :
    textOf payload field = .ok s ↔ s ≠ "" ∧ getEntry field payload = some (.str s) :=
  readText_eq_ok

omit [CharacterDatabase] in
lemma integerOf_eq_ok {payload : JsonObject} {field : String} {n : ℕ} :
    integerOf payload field = .ok n ↔ 0 < n ∧ getEntry field payload = some (.int n) := by
  unfold integerOf
  split
  · rename_i i hi
    rw [hi]
    split <;> simp_all <;> omega
  · rename_i hne
    simp only [reduceCtorEq, false_iff, not_and]
    exact fun _ h => hne n h

omit [CharacterDatabase] in
/-- Fields of a record that was found and read. -/
lemma fieldOf_eq {table : ProjectionTable} {projection : ProjectionName} {id : String}
    {row : ProjectionRow} {payload : JsonObject} (hrow : findRecord table projection id = some row)
    (hpayload : row.payload? = some payload) (field : String) :
    fieldOf table projection id field = getEntry field payload := by
  simp [fieldOf, hrow, hpayload]

omit [CharacterDatabase] in
/-- A record that has a field can be read. -/
lemma exists_payload_of_fieldOf {table : ProjectionTable} {projection : ProjectionName}
    {id field : String} {v : JsonValue} (h : fieldOf table projection id field = some v) :
    ∃ row payload, findRecord table projection id = some row ∧ row.payload? = some payload := by
  obtain ⟨row, hrow, hfield⟩ := Option.bind_eq_some_iff.1 h
  obtain ⟨payload, hpayload, -⟩ := Option.bind_eq_some_iff.1 hfield
  exact ⟨row, payload, hrow, hpayload⟩

/-- What `_validate_claim` asks of the records. -/
structure ClaimCurrent (t : Tables) (claim : ClaimedAssignment) (allowed : List JsonValue) :
    Prop where
  assignmentVersion : (findRecord t.projections .workerAssignments claim.workerId).map (·.version) =
    some claim.taskVersion
  taskVersion : fieldOf t.projections .workerAssignments claim.workerId "task_version" =
    some (.int claim.taskVersion)
  assignment : fieldOf t.projections .workerAssignments claim.workerId "assignment_id" =
    some (.str claim.assignmentId)
  execution : fieldOf t.projections .workerExecutions claim.assignmentId "execution_id" =
    some (.str claim.executionId)
  configured : (findRecord t.projections .controller controllerId).map (·.version) =
    some claim.controllerVersion
  running : fieldOf t.projections .controllerRuntime controllerId "status" =
    some (.str "running")
  session : ∃ sessionId, sessionId ≠ "" ∧
    fieldOf t.projections .workerExecutions claim.assignmentId "controller_session_id" =
      some (.str sessionId) ∧
    fieldOf t.projections .controllerRuntime controllerId "controller_session_id" =
      some (.str sessionId)
  positive : 0 < claim.controllerVersion
  executionVersion :
    fieldOf t.projections .workerExecutions claim.assignmentId "controller_version" =
      some (.int claim.controllerVersion)
  runtimeVersion : fieldOf t.projections .controllerRuntime controllerId "controller_version" =
    some (.int claim.controllerVersion)
  status : ∃ status ∈ allowed,
    fieldOf t.projections .workerExecutions claim.assignmentId "status" = some status

omit [CharacterDatabase] in
/-- `_validate_claim` passes exactly the claims that the records agree with. -/
lemma validateClaim_eq_ok {t : Tables} {claim : ClaimedAssignment} {allowed : List JsonValue} :
    validateClaim t claim allowed = .ok () ↔ ClaimCurrent t claim allowed := by
  simp only [validateClaim, bind_eq_ok, require_eq_ok, orThrow_eq_ok, payloadOf_eq_ok,
    textOf_eq_ok, integerOf_eq_ok, exists_and_left, exists_const]
  constructor
  · rintro ⟨current, hcurrent, currentPayload, hcurrentPayload, ⟨hversion, htask, hassignment⟩,
      execution, hexecution, executionPayload, hexecutionPayload, hid, hconfigured, runtime,
      hruntime, runtimePayload, hruntimePayload, hrunning, session, ⟨hne, hsession⟩, session',
      ⟨-, hsession'⟩, rfl, version, ⟨hpositive, hversion'⟩, rfl, version', ⟨-, hversion''⟩, rfl,
      hstatus⟩
    have hcurrentField := fieldOf_eq hcurrent hcurrentPayload
    have hexecutionField := fieldOf_eq hexecution hexecutionPayload
    have hruntimeField := fieldOf_eq hruntime hruntimePayload
    obtain ⟨status, hstatus, hallowed⟩ := Option.any_eq_true _ _ |>.1 hstatus
    exact
      { assignmentVersion := by rw [hcurrent, Option.map_some, hversion]
        taskVersion := by rw [hcurrentField, htask]
        assignment := by rw [hcurrentField, hassignment]
        execution := by rw [hexecutionField, hid]
        configured := hconfigured
        running := by rw [hruntimeField, hrunning]
        session := ⟨session, hne, by rw [hexecutionField, hsession], by
          rw [hruntimeField, hsession']⟩
        positive := hpositive
        executionVersion := by rw [hexecutionField, hversion']
        runtimeVersion := by rw [hruntimeField, hversion'']
        status := ⟨status, by simpa using hallowed, by rw [hexecutionField, hstatus]⟩ }
  · intro h
    obtain ⟨session, hne, hsession, hsession'⟩ := h.session
    obtain ⟨status, hallowed, hstatus⟩ := h.status
    obtain ⟨current, currentPayload, hcurrent, hcurrentPayload⟩ :=
      exists_payload_of_fieldOf h.taskVersion
    obtain ⟨execution, executionPayload, hexecution, hexecutionPayload⟩ :=
      exists_payload_of_fieldOf h.execution
    obtain ⟨runtime, runtimePayload, hruntime, hruntimePayload⟩ :=
      exists_payload_of_fieldOf h.running
    have hcurrentField := fieldOf_eq hcurrent hcurrentPayload
    have hexecutionField := fieldOf_eq hexecution hexecutionPayload
    have hruntimeField := fieldOf_eq hruntime hruntimePayload
    have hversion : current.version = claim.taskVersion := by
      simpa [hcurrent] using h.assignmentVersion
    refine ⟨current, hcurrent, currentPayload, hcurrentPayload, ⟨hversion, ?_, ?_⟩, execution,
      hexecution, executionPayload, hexecutionPayload, ?_, h.configured, runtime, hruntime,
      runtimePayload, hruntimePayload, ?_, session, ⟨hne, ?_⟩, session, ⟨hne, ?_⟩, rfl,
      claim.controllerVersion, ⟨h.positive, ?_⟩, rfl, claim.controllerVersion, ⟨h.positive, ?_⟩,
      rfl, ?_⟩
    · rw [← hcurrentField, h.taskVersion]
    · rw [← hcurrentField, h.assignment]
    · rw [← hexecutionField, h.execution]
    · rw [← hruntimeField, h.running]
    · rw [← hexecutionField, hsession]
    · rw [← hruntimeField, hsession']
    · rw [← hexecutionField, h.executionVersion]
    · rw [← hruntimeField, h.runtimeVersion]
    · rw [← hexecutionField, hstatus]
      simpa using hallowed

end Aizim.Orchestration
