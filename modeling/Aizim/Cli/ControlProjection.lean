import Aizim.Orchestration.ControllerSystem

/-!
# What the command line shows of the control plane

`controllerDocument` and `workerDocument` make the documents that the commands print from the
records of the projections.  They check the records once more, with tables of their own, and refuse
what they take to be malformed.
-/

namespace Aizim.Cli

open JsonValue JsonObject State Orchestration

/-! ## Records -/

/-- What the documents raise: `StateClientError`, or the `TypeError` of looking a list or a dict up
in a set. -/
inductive ClientFault
  | stateClient (message : String)
  | typeError
  deriving DecidableEq

/-- `ProjectionDocument` -/
structure ProjectionDocument where
  entityId : String
  projectionName : ProjectionName
  state : JsonObject
  version : ℕ

/-- `_record_document` -/
def recordDocument (record : ProjectionRecord) : Except ClientFault ProjectionDocument := do
  let state ← orThrow record.stateJson.object? (.stateClient "projection state is malformed")
  pure ⟨record.entityId, record.projectionName, state, record.version⟩

/-- `load_projections`, from a state that can be read. -/
def loadProjections (t : Tables) : Except ClientFault (List ProjectionDocument) :=
  (allProjections t.projections).mapM recordDocument

/-- `_payload` -/
def payloadOf (record : ProjectionDocument) : Except ClientFault JsonObject :=
  orThrow (object? (getEntry "payload" record.state))
    (.stateClient "control projection is malformed")

/-- A dict that was filled in the order of a list. -/
def lookup {α : Type} (entries : List (String × α)) (key : String) : Option α :=
  getEntry key entries.reverse

/-- The records of a projection. -/
def recordsOf (records : List ProjectionDocument) (projection : ProjectionName) :
    List ProjectionDocument :=
  records.filter fun record => record.projectionName == projection

/-! ## Checks -/

def malformedController : ClientFault := .stateClient "controller projection is malformed"

def malformedRuntime : ClientFault := .stateClient "controller runtime projection is malformed"

def malformedWorker : ClientFault := .stateClient "worker projection is malformed"

def malformedAssignment : ClientFault := .stateClient "worker assignment projection is malformed"

def malformedExecution : ClientFault := .stateClient "worker execution projection is malformed"

/-- `re.fullmatch` of a prefix, a dash and 32 lowercase hexadecimal digits. -/
def isTrustedId (stem value : String) : Bool :=
  (removePrefix? (stem ++ "-") value).any fun rest =>
    rest.toList.length == 32 && rest.toList.all isLowerHex

/-- A field that holds a text. -/
def textField (payload : JsonObject) (field : String) (fault : ClientFault) :
    Except ClientFault String :=
  match getEntry field payload with
  | some (.str s) => .ok s
  | _ => .error fault

/-- A field that holds a positive integer. -/
def positiveField (payload : JsonObject) (field : String) (fault : ClientFault) :
    Except ClientFault ℕ :=
  match getEntry field payload with
  | some (.int i) => if 0 < i then .ok i.toNat else .error fault
  | _ => .error fault

/-- `value in {...}` for a set of texts. -/
def inTexts (texts : List String) : Option JsonValue → Except ClientFault Bool
  | some (.str s) => .ok (texts.contains s)
  | some (.list _) | some (.dict _) => .error .typeError
  | _ => .ok false

/-- `_FAILED_REASONS` -/
def failedReasons : List String :=
  ["CONTROLLER_BLOCKED", "CONTROLLER_REJECTED", "CONTROLLER_DECISION_INVALID",
   "CONTROLLER_TIMEOUT", "WORKER_FAILED", "WORKER_ROLE_UNSUPPORTED"]

/-- `RuntimeStatus` -/
inductive RuntimeStatus
  | running
  | stopped
  | crashed

/-- `ExecutionStatus` -/
inductive ExecutionStatus
  | claimed
  | planned
  | completed
  | failed
  | interrupted

def RuntimeStatus.text : RuntimeStatus → String
  | running => "running"
  | stopped => "stopped"
  | crashed => "crashed"

def ExecutionStatus.text : ExecutionStatus → String
  | claimed => "claimed"
  | planned => "planned"
  | completed => "completed"
  | failed => "failed"
  | interrupted => "interrupted"

/-- `_runtime_status` -/
def runtimeStatus (value : Option JsonValue) : Except ClientFault RuntimeStatus :=
  match value with
  | some (.str "running") => .ok .running
  | some (.str "stopped") => .ok .stopped
  | some (.str "crashed") => .ok .crashed
  | _ => .error malformedRuntime

/-- The value is `None`: the field is missing or null. -/
def isNone (value : Option JsonValue) : Bool :=
  value == none || value == some .null

/-- The text of a value. -/
def textOrNone : Option JsonValue → Option String
  | some (.str s) => some s
  | _ => none

/-- `_runtime_reason` -/
def runtimeReason (status : RuntimeStatus) (value : Option JsonValue) :
    Except ClientFault (Option String) := do
  let valid ← match status with
    | .running => pure (isNone value)
    | .stopped => inTexts ["OPERATOR_SIGNAL", "PREFLIGHT_FAILED", "CONTROLLER_FAILED"] value
    | .crashed => pure (value == some (.str "UNCLEAN_SHUTDOWN"))
  require (valid = true) malformedRuntime
  pure (textOrNone value)

/-- `_execution_status` -/
def executionStatus (value : Option JsonValue) : Except ClientFault ExecutionStatus :=
  match value with
  | some (.str "claimed") => .ok .claimed
  | some (.str "planned") => .ok .planned
  | some (.str "completed") => .ok .completed
  | some (.str "failed") => .ok .failed
  | some (.str "interrupted") => .ok .interrupted
  | _ => .error malformedExecution

/-- `_execution_reason`; the reasons of failures are a tuple, so nothing is hashed. -/
def executionReason (status : ExecutionStatus) (value : Option JsonValue) :
    Except ClientFault (Option String) := do
  let valid ← match status with
    | .claimed | .planned | .completed => pure (isNone value)
    | .failed => pure ((textOrNone value).any failedReasons.contains)
    | .interrupted => inTexts ["OPERATOR_SIGNAL", "CONTROLLER_RESTART"] value
  require (valid = true) malformedExecution
  pure (textOrNone value)

/-! ## Documents -/

/-- A text or null. -/
def textOrNull : Option String → JsonValue
  | some s => .str s
  | none => .null

/-- `_controller_runtime` -/
def controllerRuntime (records : List ProjectionDocument) (controllerVersion : ℕ)
    (provider : String) : Except ClientFault JsonValue :=
  match recordsOf records .controllerRuntime with
  | [] => pure .null
  | [record] => do
    let payload ← payloadOf record
    let status ← runtimeStatus (getEntry "status" payload)
    require (record.entityId = controllerId) malformedRuntime
    require (getEntry "controller_id" payload = some (.str controllerId)) malformedRuntime
    require (getEntry "provider" payload = some (.str provider)) malformedRuntime
    let sessionId ← textField payload "controller_session_id" malformedRuntime
    require (isTrustedId "controller" sessionId = true) malformedRuntime
    let version ← positiveField payload "controller_version" malformedRuntime
    require (version = controllerVersion) malformedRuntime
    let backendVersion ← textField payload "backend_version" malformedRuntime
    require (backendVersion ≠ "") malformedRuntime
    let reasonCode ← runtimeReason status (getEntry "reason_code" payload)
    pure (.dict ([("backend_version", .str backendVersion),
      ("controller_session_id", .str sessionId), ("controller_version", .int version),
      ("status", .str status.text)] ++
      reasonCode.toList.map fun reason => ("reason_code", .str reason)))
  | _ => .error malformedRuntime

/-- `controller_document` -/
def controllerDocument (records : List ProjectionDocument) : Except ClientFault JsonValue :=
  match records.find? fun record =>
    record.projectionName == .controller && record.entityId == controllerId with
  | none => pure .null
  | some record => do
    let payload ← payloadOf record
    let provider ← textField payload "provider" malformedController
    require (isControllerProviderId provider = true) malformedController
    let model := getEntry "model" payload
    require (isNone model = true ∨ (textOrNone model).isSome = true) malformedController
    let runtime ← controllerRuntime records record.version provider
    pure (.dict [("controller_id", .str controllerId), ("model", textOrNull (textOrNone model)),
      ("provider", .str provider), ("runtime", runtime), ("version", .int record.version)])

/-- `_ExecutionProjection` -/
structure ExecutionProjection where
  assignmentId : String
  executionId : String
  reasonCode : Option String
  status : ExecutionStatus
  taskVersion : ℕ
  workerId : String

/-- `_execution_projection` -/
def executionProjection (record : ProjectionDocument) : Except ClientFault ExecutionProjection := do
  let payload ← payloadOf record
  let status ← executionStatus (getEntry "status" payload)
  let assignmentId ← textField payload "assignment_id" malformedExecution
  require (isSha256 assignmentId = true) malformedExecution
  require (record.entityId = assignmentId) malformedExecution
  require (getEntry "controller_id" payload = some (.str controllerId)) malformedExecution
  let sessionId ← textField payload "controller_session_id" malformedExecution
  require (isTrustedId "controller" sessionId = true) malformedExecution
  let _ ← positiveField payload "controller_version" malformedExecution
  let workerId ← textField payload "worker_id" malformedExecution
  require (workerId ≠ "") malformedExecution
  let taskVersion ← positiveField payload "task_version" malformedExecution
  let executionId ← textField payload "execution_id" malformedExecution
  require (isTrustedId "execution" executionId = true) malformedExecution
  let reasonCode ← executionReason status (getEntry "reason_code" payload)
  pure ⟨assignmentId, executionId, reasonCode, status, taskVersion, workerId⟩

/-- `_execution_document` -/
def executionDocument (execution : ExecutionProjection) : JsonValue :=
  .dict [("assignment_id", .str execution.assignmentId),
    ("execution_id", .str execution.executionId),
    ("reason_code", textOrNull execution.reasonCode), ("status", .str execution.status.text)]

/-- `_assignment_document` -/
def assignmentDocument (record : ProjectionDocument)
    (executions : List (String × ExecutionProjection)) (workerId : String) :
    Except ClientFault JsonValue := do
  let payload ← payloadOf record
  let assignmentId ← textField payload "assignment_id" malformedAssignment
  require (getEntry "controller_id" payload = some (.str controllerId)) malformedAssignment
  let task ← textField payload "task" malformedAssignment
  let taskHash ← textField payload "task_hash" malformedAssignment
  let taskVersion ← positiveField payload "task_version" malformedAssignment
  let execution := lookup executions assignmentId
  require (∀ e ∈ execution, e.assignmentId = assignmentId ∧ e.workerId = workerId ∧
    e.taskVersion = taskVersion) malformedExecution
  pure (.dict [("assignment_id", .str assignmentId), ("controller_id", .str controllerId),
    ("execution", (execution.map executionDocument).getD .null), ("task", .str task),
    ("task_hash", .str taskHash), ("task_version", .int taskVersion)])

/-- The document of a worker's assignment, if it has one. -/
def assignedDocument (assignments : List (String × ProjectionDocument))
    (executions : List (String × ExecutionProjection)) (workerId : String) :
    Except ClientFault JsonValue :=
  match lookup assignments workerId with
  | none => pure .null
  | some assignment => assignmentDocument assignment executions workerId

/-- The document of one worker. -/
def rosterDocument (assignments : List (String × ProjectionDocument))
    (executions : List (String × ExecutionProjection)) (record : ProjectionDocument) :
    Except ClientFault JsonValue := do
  let payload ← payloadOf record
  let role ← textField payload "role" malformedWorker
  let status ← textField payload "status" malformedWorker
  let assignment ← assignedDocument assignments executions record.entityId
  pure (.dict [("assignment", assignment), ("role", .str role), ("status", .str status),
    ("version", .int record.version), ("worker_id", .str record.entityId)])

/-- `worker_document` -/
def workerDocument (records : List ProjectionDocument) : Except ClientFault JsonValue := do
  let assignments := (recordsOf records .workerAssignments).map fun record =>
    (record.entityId, record)
  let parsed ← (recordsOf records .workerExecutions).mapM executionProjection
  let executions := parsed.map fun execution => (execution.assignmentId, execution)
  let roster := (recordsOf records .workerRoster).mergeSort fun a b =>
    decide (a.entityId ≤ b.entityId)
  let workers ← roster.mapM (rosterDocument assignments executions)
  let controller ← controllerDocument records
  pure (.dict [("controller", controller), ("workers", .list workers)])

end Aizim.Cli
