import Aizim.State.ControlOperations
import Aizim.Research.Statement

/-!
# Research records

The records of the research projection: tasks, attempts, and what operators add.  `save` is the only
writer: it checks the record, refuses to change the target of a task, stamps the times and appends
one event.  `operatorChange` is every request of an operator, `frontier` the tasks that may be
attempted.

A dictionary that is read from the store is taken as a record only when it is valid
(`readTask`, `readAttempt`), so the typed records `Task` and `Attempt` lose nothing of it but the two
time stamps, which only `save` writes.
-/

namespace Aizim.Research

open Aizim.JsonValue Aizim.JsonObject State

/-- What the functions of a research run raise. -/
inductive ResearchFailure
  | research (error : ResearchError)
  | state (error : StoreError)
  | key (name : String)
  | unhashable
  | cancelled

/-! ## Checked values -/

/-- `text(value, limit=limit, empty=empty)` -/
def checkText (limit : ℕ) (empty : Bool) (value : Option JsonValue) :
    Except ResearchFailure String := do
  require (text limit empty value = true) (.research "INVALID_TEXT")
  orThrow (str? value) (.research "INVALID_TEXT")

/-- The texts of an array. -/
def strsOf (value : Option JsonValue) : List String :=
  match value with
  | some (.list items) => items.filterMap fun item => str? (some item)
  | _ => []

/-- `texts(value)` -/
def checkTexts (value : Option JsonValue) : Except ResearchFailure (List String) :=
  match value with
  | some (.list items) => do
    require (items.length ≤ 1000) (.research "INVALID_LIST")
    items.mapM fun item => checkText textLimit false (some item)
  | _ => .error (.research "INVALID_LIST")

/-- `object_value(value)` -/
def checkObject (value : Option JsonValue) : Except ResearchFailure JsonObject :=
  orThrow (object? value) (.research "INVALID_OBJECT")

/-- `identifier(value)` -/
def checkIdentifier (value : Option JsonValue) : Except ResearchFailure String := do
  let result ← checkText 48 false value
  require (identifier value = true) (.research "INVALID_IDENTIFIER")
  pure result

/-- `record_id(kind, identity)` -/
def recordKey (kind identity : String) : Except ResearchFailure String := do
  require (kind ∈ kinds) (.research "INVALID_RECORD_KIND")
  let identity ← checkIdentifier (some (.str identity))
  pure (recordId kind identity)

/-! ## Tasks -/

/-- The status of a task. -/
inductive TaskStatus
  | pending
  | running
  | verified
  | blocked
  deriving DecidableEq

/-- The status as a record has it. -/
def TaskStatus.text : TaskStatus → String
  | pending => "pending"
  | running => "running"
  | verified => "verified"
  | blocked => "blocked"

/-- The status that a text of a valid record names. -/
def TaskStatus.ofText (s : String) : TaskStatus :=
  if s = "running" then running
  else if s = "verified" then verified
  else if s = "blocked" then blocked
  else pending

/-- A task record. -/
structure Task where
  taskId : String
  title : String
  statement : String
  author : String
  imports : List String
  dependsOn : List String
  sourceRefs : List String
  maxRounds : ℕ
  maxFailures : ℕ
  timeoutSeconds : ℕ
  status : TaskStatus
  rounds : ℕ
  failures : ℕ
  targetHash : String
  feedback : String
  verifiedDeclarations : List String
  paused : Bool
  deriving DecidableEq

/-- A list of texts. -/
def textList (items : List String) : JsonValue := .list (items.map .str)

/-- The dictionary of a task. -/
def Task.data (task : Task) : JsonObject :=
  [("task_id", .str task.taskId), ("title", .str task.title), ("statement", .str task.statement),
   ("author", .str task.author), ("imports", textList task.imports),
   ("depends_on", textList task.dependsOn), ("source_refs", textList task.sourceRefs),
   ("max_rounds", .int task.maxRounds), ("max_failures", .int task.maxFailures),
   ("timeout_seconds", .int task.timeoutSeconds), ("status", .str task.status.text),
   ("rounds", .int task.rounds), ("failures", .int task.failures),
   ("target_hash", .str task.targetHash), ("feedback", .str task.feedback),
   ("verified_declarations", textList task.verifiedDeclarations), ("paused", .bool task.paused)]

/-- The text of a field of a valid record. -/
def strOf (value : Option JsonValue) : String := (str? value).getD ""

/-- The integer of a field of a valid record. -/
def natOf (value : Option JsonValue) : ℕ :=
  match value with
  | some (.int i) => i.toNat
  | _ => 0

/-- The truth value of a field of a valid record. -/
def boolOf (value : Option JsonValue) : Bool :=
  match value with
  | some (.bool b) => b
  | _ => false

/-- The task of a valid record. -/
def Task.ofData (data : JsonObject) : Task where
  taskId := strOf (getEntry "task_id" data)
  title := strOf (getEntry "title" data)
  statement := strOf (getEntry "statement" data)
  author := strOf (getEntry "author" data)
  imports := strsOf (getEntry "imports" data)
  dependsOn := strsOf (getEntry "depends_on" data)
  sourceRefs := strsOf (getEntry "source_refs" data)
  maxRounds := natOf (getEntry "max_rounds" data)
  maxFailures := natOf (getEntry "max_failures" data)
  timeoutSeconds := natOf (getEntry "timeout_seconds" data)
  status := .ofText (strOf (getEntry "status" data))
  rounds := natOf (getEntry "rounds" data)
  failures := natOf (getEntry "failures" data)
  targetHash := strOf (getEntry "target_hash" data)
  feedback := strOf (getEntry "feedback" data)
  verifiedDeclarations := strsOf (getEntry "verified_declarations" data)
  paused := boolOf (getEntry "paused" data)

/-! ## Attempts -/

/-- The status of an attempt. -/
inductive AttemptStatus
  | running
  | verified
  | failed
  | interrupted
  deriving DecidableEq

/-- The status as a record has it. -/
def AttemptStatus.text : AttemptStatus → String
  | running => "running"
  | verified => "verified"
  | failed => "failed"
  | interrupted => "interrupted"

/-- The status that a text of a valid record names. -/
def AttemptStatus.ofText (s : String) : AttemptStatus :=
  if s = "verified" then verified
  else if s = "failed" then failed
  else if s = "interrupted" then interrupted
  else running

/-- Token counts. -/
structure Usage where
  inputTokens : ℕ
  cachedInputTokens : ℕ
  outputTokens : ℕ
  deriving DecidableEq

/-- Token counts as a record has them. -/
def usageData : Option Usage → JsonValue
  | some usage => .dict [("input_tokens", .int usage.inputTokens),
      ("cached_input_tokens", .int usage.cachedInputTokens),
      ("output_tokens", .int usage.outputTokens)]
  | none => .null

/-- The token counts of a valid record. -/
def usageOf (value : Option JsonValue) : Option Usage :=
  (object? value).map fun usage =>
    ⟨natOf (getEntry "input_tokens" usage), natOf (getEntry "cached_input_tokens" usage),
      natOf (getEntry "output_tokens" usage)⟩

/-- `checked_usage` of token counts. -/
def checkedUsage (usage : Option Usage) : Option Usage :=
  usage.filter fun usage => decide (usage.cachedInputTokens ≤ usage.inputTokens)

/-- An attempt record. -/
structure Attempt where
  id : String
  taskId : String
  workerId : String
  runId : String
  targetHash : String
  round : ℕ
  status : AttemptStatus
  feedback : String
  verifiedDeclarations : List String
  usage : Option Usage
  model : String
  controllerModel : String
  controllerUsage : Option Usage
  inboxIds : List String
  deriving DecidableEq

/-- The dictionary of an attempt. -/
def Attempt.data (attempt : Attempt) : JsonObject :=
  [("id", .str attempt.id), ("task_id", .str attempt.taskId), ("worker_id", .str attempt.workerId),
   ("run_id", .str attempt.runId), ("target_hash", .str attempt.targetHash),
   ("round", .int attempt.round), ("status", .str attempt.status.text),
   ("feedback", .str attempt.feedback),
   ("verified_declarations", textList attempt.verifiedDeclarations),
   ("usage", usageData attempt.usage), ("model", .str attempt.model),
   ("controller_model", .str attempt.controllerModel),
   ("controller_usage", usageData attempt.controllerUsage),
   ("inbox_ids", textList attempt.inboxIds)]

/-- The attempt of a valid record. -/
def Attempt.ofData (data : JsonObject) : Attempt where
  id := strOf (getEntry "id" data)
  taskId := strOf (getEntry "task_id" data)
  workerId := strOf (getEntry "worker_id" data)
  runId := strOf (getEntry "run_id" data)
  targetHash := strOf (getEntry "target_hash" data)
  round := natOf (getEntry "round" data)
  status := .ofText (strOf (getEntry "status" data))
  feedback := strOf (getEntry "feedback" data)
  verifiedDeclarations := strsOf (getEntry "verified_declarations" data)
  usage := usageOf (getEntry "usage" data)
  model := strOf (getEntry "model" data)
  controllerModel := strOf (getEntry "controller_model" data)
  controllerUsage := usageOf (getEntry "controller_usage" data)
  inboxIds := strsOf (getEntry "inbox_ids" data)

variable [CharacterDatabase]

/-! ## Reading -/

/-- The task of a dictionary. -/
def readTask (data : JsonObject) : Except ResearchFailure Task := do
  require (validTask (withoutTimes data) = true) (.research "INVALID_RESEARCH_RECORD")
  pure (.ofData data)

omit [CharacterDatabase] in
/-- The attempt of a dictionary. -/
def readAttempt (data : JsonObject) : Except ResearchFailure Attempt := do
  require (validAttempt (withoutTimes data) = true) (.research "INVALID_RESEARCH_RECORD")
  pure (.ofData data)

/-- `unpack` -/
def unpack (row : ProjectionRow) : Except ResearchFailure JsonObject := do
  let state ← orThrow row.state? (.research "INVALID_OBJECT")
  let payload ← checkObject (getEntry "payload" state)
  checkObject (getEntry "data" payload)

/-- `get` -/
def get (t : Tables) (kind identity : String) : Except ResearchFailure (Option JsonObject) := do
  let key ← recordKey kind identity
  (findRecord t.projections .research key).mapM unpack

/-- `records` -/
def records (t : Tables) (kind : String) : Except ResearchFailure (List JsonObject) :=
  ((projectionsOf t.projections .research).filter fun item =>
    (kind ++ ":").toList.isPrefixOf item.entityId.toList).mapM fun item =>
      unpack ⟨item.version, item.stateJson⟩

/-- `require_task` -/
def requireTask (t : Tables) (identity : String) : Except ResearchFailure Task := do
  let result ← orThrow (← get t "task" identity) (.research "TASK_NOT_FOUND")
  readTask result

/-- The tasks. -/
def taskRecords (t : Tables) : Except ResearchFailure (List Task) := do
  (← records t "task").mapM readTask

/-- The attempts. -/
def attemptRecords (t : Tables) : Except ResearchFailure (List Attempt) := do
  (← records t "attempt").mapM readAttempt

/-! ## Writing -/

/-- What one write takes from outside: the id and time of its event, and the time as a record has
it. -/
structure Draw where
  stamp : Stamp
  now : String

/-- The payload of the event of a record. -/
def recordPayload (key kind : String) (data : JsonObject) : JsonObject :=
  [("record_id", .str key), ("kind", .str kind), ("data", .dict data)]

/-- The fields of a task that `save` never changes. -/
def immutableFields : List String :=
  ["statement", "imports", "depends_on", "source_refs", "author", "target_hash"]

/-- The old record of a task has the target of the new one. -/
def keepsTarget (data old : JsonObject) : Bool :=
  immutableFields.all fun field => getEntry field old == getEntry field data

/-- `save` -/
def save (t : Tables) (draw : Draw) (kind identity : String) (data : JsonObject) (actor : String)
    (runId : Option String) : Except ResearchFailure (Tables × ℕ) := do
  let key ← recordKey kind identity
  require (validRecord (recordPayload key kind data) = true) (.research "INVALID_RESEARCH_RECORD")
  let previous ← get t kind identity
  require (kind = "task" → previous.all (keepsTarget data) = true) (.research "TARGET_IS_IMMUTABLE")
  let createdAt := (previous.bind (getEntry "created_at")).getD (.str draw.now)
  let data := update data [("created_at", createdAt), ("updated_at", .str draw.now)]
  let actor ← checkText 256 false (some (.str actor))
  let (t, _) ← (appendEvent t draw.stamp ⟨"ResearchRecordUpdated", actor, runId, none,
    recordPayload key kind data⟩).mapError .state
  let updated ← orThrow (findRecord t.projections .research key)
    (.research "RESEARCH_STATE_UNAVAILABLE")
  pure (t, updated.version)

/-- The fields of a request to add a task. -/
def requestFields : List String :=
  ["task_id", "title", "statement", "author", "imports", "depends_on", "source_refs", "max_rounds",
   "max_failures", "timeout_seconds"]

/-- `define_task` -/
def defineTask (t : Tables) (draw : Draw) (params : JsonObject) :
    Except ResearchFailure (Tables × ℕ) := do
  require (hasKeys params requestFields = true) (.research "INVALID_TASK_FIELDS")
  let identity ← checkIdentifier (getEntry "task_id" params)
  require ((← get t "task" identity).isNone) (.research "TASK_ALREADY_EXISTS")
  let dependencies ← checkTexts (getEntry "depends_on" params)
  require (dependencies.Nodup ∧ identity ∉ dependencies) (.research "INVALID_DEPENDENCIES")
  let _ ← dependencies.mapM fun dependency => do
    let found ← get t "task" (← checkIdentifier (some (.str dependency)))
    orThrow found (.research "DEPENDENCY_NOT_FOUND")
  let data := update params
    [("status", .str "pending"), ("rounds", .int 0), ("failures", .int 0),
     ("target_hash", .str (taskHash params)), ("feedback", .str ""),
     ("verified_declarations", .list []), ("paused", .bool false)]
  save t draw "task" identity data (← checkText textLimit false (getEntry "author" params)) none

/-! ## Operator requests -/

/-- Membership of a value in a set of texts, which an array or an object does not have. -/
def checkMember (texts : List String) (value : Option JsonValue) (error : ResearchError) :
    Except ResearchFailure Unit :=
  match value with
  | some (.list _) | some (.dict _) => .error .unhashable
  | value => require (oneOf texts value = true) (.research error)

/-- The kind and the data of the record that a request adds. -/
def addedRecord (t : Tables) (action taskId : String) (body : JsonObject) :
    Except ResearchFailure (String × JsonObject) :=
  if action = "inbox.add" then do
    require (hasKeys body ["id", "task_id", "author", "kind", "body"] = true)
      (.research "INVALID_INBOX_FIELDS")
    checkMember ["hint", "question", "constraint"] (getEntry "kind" body) "INVALID_INBOX_KIND"
    pure ("inbox", update body [("consumed_by", .list [])])
  else if action = "memory.add" then do
    require (hasKeys body ["id", "task_id", "author", "kind", "body", "source_refs"] = true)
      (.research "INVALID_MEMORY_FIELDS")
    checkMember memoryKinds (getEntry "kind" body) "INVALID_MEMORY_KIND"
    pure ("memory", update body
      [("origin", .str "operator"), ("worker_id", .str ""), ("verified", .bool false)])
  else if action = "contribution.add" then do
    require (hasKeys body ["id", "task_id", "author", "role", "body", "source_refs"] = true)
      (.research "INVALID_CONTRIBUTION_FIELDS")
    checkMember contributionRoles (getEntry "role" body) "INVALID_CONTRIBUTION_ROLE"
    pure ("contribution", update body [("identity_assurance", .str "operator_declared")])
  else if action = "review.add" then do
    require (hasKeys body ["id", "task_id", "author", "kind", "verdict", "body"] = true)
      (.research "INVALID_REVIEW_FIELDS")
    let task ← requireTask t taskId
    checkMember reviewKinds (getEntry "kind" body) "INVALID_REVIEW"
    checkMember ["accept", "revise", "reject"] (getEntry "verdict" body) "INVALID_REVIEW"
    pure ("review", update body
      [("target_hash", .str task.targetHash),
       ("verified_declarations", textList task.verifiedDeclarations),
       ("identity_assurance", .str "operator_declared")])
  else .error (.research "UNKNOWN_OPERATOR_ACTION")

/-- `operator_change` for a request to pause or to resume a task. -/
def setPaused (t : Tables) (draw : Draw) (action author : String) (body : JsonObject) :
    Except ResearchFailure (Tables × ℕ) := do
  require (hasKeys body ["task_id", "author"] = true) (.research "INVALID_OPERATOR_REQUEST")
  let identity ← checkIdentifier (getEntry "task_id" body)
  let task ← requireTask t identity
  require (task.status ≠ .verified) (.research "TASK_ALREADY_VERIFIED")
  require (¬ (action = "task.resume" ∧ task.status = .blocked))
    (.research "TASK_LIMIT_REACHED_CREATE_A_NEW_TARGET")
  save t draw "task" identity { task with paused := action = "task.pause" }.data author none

/-- `operator_change` for a request to add any other record. -/
def addRecord (t : Tables) (draw : Draw) (action author : String) (body : JsonObject) :
    Except ResearchFailure (Tables × ℕ) := do
  let identity ← checkIdentifier (getEntry "id" body)
  let taskId ← checkText textLimit true (getEntry "task_id" body)
  let _ ← if taskId = "" then pure none else some <$> requireTask t taskId
  let (kind, data) ← addedRecord t action taskId body
  require ((← get t kind identity).isNone) (.research "RECORD_ALREADY_EXISTS")
  save t draw kind identity data author none

/-- `operator_change` -/
def operatorChange (t : Tables) (draw : Draw) (params : JsonObject) :
    Except ResearchFailure (Tables × ℕ) := do
  let action ← checkText textLimit false (getEntry "action" params)
  let body ← checkObject (getEntry "body" params)
  require (hasKeys params ["action", "body"] = true) (.research "INVALID_OPERATOR_REQUEST")
  if action = "task.add" then defineTask t draw body
  else
    let author ← checkText 256 false (getEntry "author" body)
    if action = "task.pause" ∨ action = "task.resume" then setPaused t draw action author body
    else addRecord t draw action author body

/-! ## The frontier -/

/-- A task may be attempted, given the tasks. -/
def eligible (tasks : List Task) (task : Task) : Except ResearchFailure Bool :=
  if task.status = .pending ∧ task.rounds < task.maxRounds ∧ task.failures < task.maxFailures ∧
      task.paused = false then
    task.dependsOn.allM fun dependency => do
      let found ← orThrow (tasks.find? fun task => task.taskId = dependency) (.key dependency)
      pure (found.status = .verified)
  else .ok false

/-- `frontier`; the records come in the order of their ids. -/
def frontier (t : Tables) : Except ResearchFailure (List Task) := do
  let tasks ← taskRecords t
  let answers ← tasks.mapM fun task => do pure (← eligible tasks task, task)
  pure ((answers.filter (·.1)).map (·.2))

end Aizim.Research
