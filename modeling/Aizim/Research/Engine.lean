import Mathlib.Data.List.MinMax
import Aizim.Framework.Stretch
import Aizim.Orchestration.ControllerLifecycle
import Aizim.Research.Records

/-!
# The research engine

The engine begins attempts of the tasks of the frontier, one for each free worker, and settles each
when its executor answers.  It runs in one event loop: what it does from one await to the next is a
`Stretch`, during which nobody else acts but the process may die.  The stretches are `startRun`, from
the start of a run to its first await; `wake` and `poll`, from an await of the loop to the next;
`settleAttempt`, from the answer of an executor to the end of the attempt; and `closeRun`, after the
loop.

What an executor does with a task is not modelled: it answers with any result or raises anything.
-/

namespace Aizim.Research

open Aizim.JsonValue Aizim.JsonObject State Orchestration

/-! ## The process -/

/-- `AttemptResult` -/
structure AttemptResult where
  feedback : String
  declarationIds : List String
  usage : Option Usage
  controllerUsage : Option Usage

/-- How the task of the event loop that carries out an attempt stands: it has not taken its first
step, it awaits its executor, or it has ended. -/
inductive AttemptPhase
  | created
  | executing
  | ended (result : Except ResearchFailure Unit)

/-- An attempt in the set `active`. -/
structure ActiveAttempt where
  task : Task
  attempt : Attempt
  phase : AttemptPhase
  cancelRequested : Bool

/-- The task of the attempt has ended. -/
def ActiveAttempt.isEnded (active : ActiveAttempt) : Bool :=
  match active.phase with
  | .ended _ => true
  | _ => false

/-- `cancel()`, which does nothing to a task that has ended. -/
def ActiveAttempt.cancel (active : ActiveAttempt) : ActiveAttempt :=
  if active.isEnded then active else { active with cancelRequested := true }

/-- Where `run` awaits: the end of an attempt, a stop or the next poll, or the attempts that it
cancelled before it returns or raises. -/
inductive LoopPhase
  | waiting
  | idle
  | closing (result : Except ResearchFailure Unit)
  | ended (result : Except ResearchFailure Unit)

/-- What an engine is created with. -/
structure EngineConfig where
  runId : String
  model : String
  controllerModel : String
  participation : String
  startedAt : String
  workers : ℕ
  controllerVersion : Option ℕ
  watch : Bool
  valid : 1 ≤ workers ∧ workers ≤ 64

/-- An engine, with the random tokens that its process will draw. -/
structure Engine where
  config : EngineConfig
  tokens : ℕ → String
  stop : Bool
  timedOut : Bool
  active : List ActiveAttempt
  phase : LoopPhase

/-- A process that runs an engine over the store, with what its next writes take from outside. -/
structure EngineState where
  tables : Tables
  engine : Engine
  draws : ℕ → Draw

/-- A stretch of the engine's code. -/
abbrev EngineM := Stretch EngineState ResearchFailure

/-- The state after the next write has taken what it needs. -/
def EngineState.drawn (s : EngineState) : EngineState :=
  { s with draws := fun n => s.draws (n + 1) }

/-- Read from the store. -/
def query {α : Type} (f : Tables → Except ResearchFailure α) : EngineM α :=
  Stretch.read fun s => f s.tables

/-- The engine itself. -/
def self : EngineM Engine := Stretch.read fun s => .ok s.engine

/-- Change the engine. -/
def modifyEngine (f : Engine → Engine) : EngineM Unit :=
  Stretch.modify fun s => { s with engine := f s.engine }

/-- `secrets.token_hex(12)` -/
def drawToken : EngineM String := do
  let engine ← self
  modifyEngine fun engine => { engine with tokens := fun n => engine.tokens (n + 1) }
  pure (engine.tokens 0)

variable [CharacterDatabase]

/-- `save` by the supervisor. -/
def saveRecord (kind identity : String) (data : JsonObject) (runId : Option String) :
    EngineM Unit :=
  Stretch.save fun s => do
    let (t, _) ← save s.tables (s.draws 0) kind identity data "research_supervisor" runId
    pure ({ s.drawn with tables := t }, ())

/-! ## Attempts -/

/-- `verified_for_worker` -/
def verifiedForWorker (t : Tables) (runId workerId : String) :
    Except ResearchFailure (List String) := do
  let events ← (queryEvents t.toEventLog (some runId)).mapError .state
  let submitted := events.filter fun event =>
    event.envelope.eventType == .contributionSubmitted &&
      getEntry "worker_id" event.envelope.payload == some (.str workerId)
  let contributed := submitted.map fun event => getEntry "contribution_id" event.envelope.payload
  let published := events.filter fun event =>
    event.envelope.eventType == .declarationPublished &&
      contributed.contains (getEntry "contribution_id" event.envelope.payload)
  published.mapM fun event => do
    let declaration ← orThrow (getEntry "declaration_id" event.envelope.payload)
      (.key "declaration_id")
    checkText textLimit false (some declaration)

/-- The attempt that `_begin` records. -/
def newAttempt (config : EngineConfig) (task : Task) (identity workerId : String)
    (inboxIds : List String) : Attempt where
  id := identity
  taskId := task.taskId
  workerId
  runId := config.runId
  targetHash := task.targetHash
  round := task.rounds + 1
  status := .running
  feedback := ""
  verifiedDeclarations := []
  usage := none
  model := config.model
  controllerModel := config.controllerModel
  controllerUsage := none
  inboxIds

/-- The entries of the inbox that are for the task. -/
def inboxFor (taskId : String) (entries : List JsonObject) : List JsonObject :=
  entries.filter fun entry => ["", taskId].contains (strOf (getEntry "task_id" entry))

/-- `_begin` records that the attempt has read an entry of the inbox. -/
def consume (runId identity : String) (entry : JsonObject) : EngineM Unit := do
  let consumed ← query fun _ => checkTexts (getEntry "consumed_by" entry)
  saveRecord "inbox" (strOf (getEntry "id" entry))
    (set "consumed_by" (textList (consumed ++ [identity])) entry) (some runId)

/-- `_begin` -/
def beginAttempt (task : Task) : EngineM Attempt := do
  let engine ← self
  let identity := "attempt-" ++ (← drawToken)
  let workerId := "worker-" ++ (← drawToken)
  let entries ← query fun t => records t "inbox"
  let inbox := inboxFor task.taskId entries
  let attempt := newAttempt engine.config task identity workerId
    (inbox.map fun entry => strOf (getEntry "id" entry))
  saveRecord "attempt" identity attempt.data (some engine.config.runId)
  saveRecord "task" task.taskId { task with status := .running, rounds := task.rounds + 1 }.data
    (some engine.config.runId)
  Stretch.forEach (consume engine.config.runId identity) inbox
  pure attempt

/-- The feedback that is kept of a result. -/
def keptFeedback (feedback : String) : String :=
  let kept := String.ofList (feedback.toList.take 8192)
  if kept = "" then "No result." else kept

/-- The status that an attempt ends with. -/
def finalStatus (verified interrupted : Bool) : AttemptStatus :=
  if verified then .verified else if interrupted then .interrupted else .failed

/-- The failures of a task after an attempt. -/
def failuresAfter (task : Task) (verified interrupted : Bool) : ℕ :=
  if verified then 0 else task.failures + if interrupted then 0 else 1

/-- The status of a task after an attempt. -/
def statusAfterAttempt (task : Task) (verified interrupted : Bool) : TaskStatus :=
  if verified then .verified
  else if task.maxRounds ≤ task.rounds ∨ task.maxFailures ≤ failuresAfter task verified interrupted
  then .blocked
  else .pending

/-- The attempt that `_finish` saves. -/
def Attempt.finished (attempt : Attempt) (result : AttemptResult) (accepted : List String)
    (interrupted : Bool) : Attempt :=
  { attempt with
    status := finalStatus (!accepted.isEmpty) interrupted
    feedback := keptFeedback result.feedback
    verifiedDeclarations := accepted
    usage := result.usage
    controllerUsage := result.controllerUsage }

/-- The task that `_finish` saves. -/
def Task.finished (task : Task) (result : AttemptResult) (accepted : List String)
    (interrupted : Bool) : Task :=
  { task with
    status := statusAfterAttempt task (!accepted.isEmpty) interrupted
    feedback := keptFeedback result.feedback
    failures := failuresAfter task (!accepted.isEmpty) interrupted
    verifiedDeclarations := accepted }

/-- The id of the memory of an attempt. -/
def memoryId (attemptId : String) : String :=
  "round-" ++ (removePrefix? "attempt-" attemptId).getD attemptId

/-- The memory that `_finish` saves. -/
def memoryData (attempt : Attempt) (feedback : String) (accepted : List String) : JsonObject :=
  [("id", .str (memoryId attempt.id)), ("task_id", .str attempt.taskId),
   ("author", .str attempt.workerId), ("kind", .str "summary"), ("body", .str feedback),
   ("source_refs", textList accepted), ("origin", .str "worker"), ("worker_id", .str ""),
   ("verified", .bool false)]

/-- `_finish` -/
def finishAttempt (attempt : Attempt) (result : AttemptResult) (interrupted : Bool) :
    EngineM Unit := do
  let task ← query fun t => requireTask t attempt.taskId
  let accepted ← query fun t => do
    require (task.targetHash = attempt.targetHash) (.research "TARGET_CHANGED_DURING_ROUND")
    let accepted ← verifiedForWorker t attempt.runId attempt.workerId
    require (∀ id ∈ result.declarationIds, id ∈ accepted)
      (.research "UNTRUSTED_VERIFICATION_RESULT")
    pure accepted
  saveRecord "attempt" attempt.id (attempt.finished result accepted interrupted).data
    (some attempt.runId)
  saveRecord "task" attempt.taskId (task.finished result accepted interrupted).data
    (some attempt.runId)
  let memory ← query fun t => get t "memory" (memoryId attempt.id)
  if memory.isNone then
    saveRecord "memory" (memoryId attempt.id)
      (memoryData attempt (keptFeedback result.feedback) accepted) (some attempt.runId)

/-! ## Recovery -/

/-- The latest of the attempts of a task (`max(candidates, key=...)`). -/
def latestAttempt (attempts : List Attempt) (taskId : String) : Option Attempt :=
  (attempts.filter fun attempt => attempt.taskId = taskId).argmax (·.round)

/-- `recover` settles an attempt that did not end. -/
def recoverAttempt (task : Task) (attempt : Attempt) : EngineM Unit := do
  saveRecord "task" task.taskId { task with rounds := max task.rounds attempt.round }.data none
  let accepted ← query fun t => verifiedForWorker t attempt.runId attempt.workerId
  finishAttempt attempt
    ⟨"Recovered after an interrupted run.", accepted, checkedUsage attempt.usage,
      checkedUsage attempt.controllerUsage⟩ accepted.isEmpty

/-- `recover` for one task. -/
def recoverTask (attempts : List Attempt) (task : Task) : EngineM Unit :=
  match latestAttempt attempts task.taskId with
  | some attempt =>
    if attempt.status ≠ .running ∧ task.status ≠ .running then pure ()
    else recoverAttempt task attempt
  | none => pure ()

/-- `recover` -/
def recover : EngineM Unit := do
  let attempts ← query attemptRecords
  let tasks ← query taskRecords
  Stretch.forEach (recoverTask attempts) tasks

/-! ## The loop -/

omit [CharacterDatabase] in
/-- `validate_control` -/
def validateControl (config : EngineConfig) (t : Tables) : Except ResearchFailure Unit :=
  match config.controllerVersion with
  | none => pure ()
  | some version =>
    require ((findRecord t.projections .controller controllerId).map (·.version) = some version)
      (.research "CONTROLLER_CONFIGURATION_CHANGED_RESTART_REQUIRED")

/-- Begin attempts as long as there are free workers and ready tasks. -/
def fill : ℕ → EngineM Unit
  | 0 => pure ()
  | free + 1 => do
    match ← query frontier with
    | [] => pure ()
    | task :: _ =>
      let attempt ← beginAttempt task
      modifyEngine fun engine =>
        { engine with active := engine.active ++ [⟨task, attempt, .created, false⟩] }
      fill free

/-- One turn of the loop of `run`, up to its await or the end of the loop. -/
def turn : EngineM LoopPhase := do
  let engine ← self
  if engine.stop then pure (.closing (.ok ()))
  else
    query (validateControl engine.config)
    fill (engine.config.workers - engine.active.length)
    let engine ← self
    if engine.active.isEmpty then
      pure (if engine.config.watch then .idle else .closing (.ok ()))
    else pure .waiting

omit [CharacterDatabase] in
/-- Go on to the next await of `run`; the clean-up of `run` cancels what is still active. -/
def enterPhase (phase : LoopPhase) : EngineM Unit :=
  modifyEngine fun engine =>
    match phase with
    | .closing result =>
      { engine with active := engine.active.map ActiveAttempt.cancel, phase := .closing result }
    | phase => { engine with phase }

omit [CharacterDatabase] in
/-- The loop of `run` with its clean-up. -/
def guarded (x : EngineM LoopPhase) : EngineM Unit := do
  let phase ← tryCatchThe ResearchFailure x fun e => pure (.closing (.error e))
  enterPhase phase

/-- The dictionary of the run. -/
def runData (config : EngineConfig) (status finishedAt reason : String) : JsonObject :=
  [("id", .str config.runId), ("status", .str status), ("model", .str config.model),
   ("participation", .str config.participation), ("started_at", .str config.startedAt),
   ("finished_at", .str finishedAt), ("reason", .str reason)]

/-- `run_research` from the record of the run to the first await of the engine. -/
def startRun : EngineM Unit := do
  let engine ← self
  let failed ← tryCatchThe ResearchFailure
    (do
      saveRecord "run" engine.config.runId (runData engine.config "running" "" "")
        (some engine.config.runId)
      recover
      pure none)
    fun e => pure (some e)
  match failed with
  | some e => enterPhase (.ended (.error e))
  | none => guarded turn

/-- The loop goes on after attempts have ended; the exception of one of them is raised. -/
def wake (failure : Option ResearchFailure) : EngineM Unit := do
  modifyEngine fun engine =>
    { engine with active := engine.active.filter fun active => !active.isEnded }
  guarded (match failure with
    | some e => throw e
    | none => turn)

/-- The idle loop goes on. -/
def poll : EngineM Unit := guarded turn

omit [CharacterDatabase] in
/-- The attempts that the clean-up awaited have ended. -/
def closed (result : Except ResearchFailure Unit) : EngineM Unit :=
  modifyEngine fun engine => { engine with active := [], phase := .ended result }

/-! ## The attempts in progress -/

/-- What becomes of the call of the executor. -/
inductive Execution
  | returned (result : AttemptResult)
  | raised (name : String)
  | cancelled

/-- The result that `_attempt` makes of it. -/
def Execution.result : Execution → AttemptResult
  | returned result => result
  | raised name => ⟨"Round failed: " ++ name ++ ".", [], none, none⟩
  | cancelled => ⟨"Interrupted by the operator.", [], none, none⟩

/-- The execution was cancelled. -/
def Execution.isCancelled : Execution → Bool
  | cancelled => true
  | _ => false

omit [CharacterDatabase] in
/-- Change the phase of an active attempt. -/
def setAttemptPhase (attemptId : String) (phase : AttemptPhase) : EngineM Unit :=
  modifyEngine fun engine =>
    { engine with active := engine.active.map fun active =>
        if active.attempt.id = attemptId then { active with phase } else active }

/-- `_attempt` from the answer of the executor to its end. -/
def settleAttempt (attempt : Attempt) (execution : Execution) : EngineM Unit := do
  let result ← tryCatchThe ResearchFailure
    (do
      finishAttempt attempt execution.result execution.isCancelled
      pure (if execution.isCancelled then .error .cancelled else .ok ()))
    fun e => pure (.error e)
  setAttemptPhase attempt.id (.ended result)

omit [CharacterDatabase] in
/-- `request_stop` -/
def requestStop : EngineM Unit :=
  modifyEngine fun engine =>
    { engine with stop := true, active := engine.active.map ActiveAttempt.cancel }

omit [CharacterDatabase] in
/-- The time limit of `run_research` cancels `run`. -/
def timeLimit : EngineM Unit := do
  modifyEngine fun engine => { engine with timedOut := true }
  enterPhase (.closing (.error .cancelled))

/-! ## The end of a run -/

/-- What `run_research` makes of the end of `run`: the status and the reason of the run. -/
def runOutcome (engine : Engine) (result : Except ResearchFailure Unit) : String × String :=
  match result with
  | .ok _ => (if engine.stop then "interrupted" else "finished", "")
  | .error .cancelled => if engine.timedOut then ("interrupted", "time_limit")
      else ("interrupted", "run_interrupted")
  | .error _ => ("interrupted", "run_interrupted")

/-- The reason of the stop of the controller. -/
def stopReason (outcome : String × String) : String :=
  if outcome.1 = "finished" then "RESEARCH_IDLE"
  else if outcome.2 = "time_limit" then "TIME_LIMIT"
  else if outcome.2 ≠ "" then "CONTROLLER_FAILED"
  else "OPERATOR_SIGNAL"

/-- `run_research` after the loop: the stop of the controller and the record of the run. -/
def closeRun (result : Except ResearchFailure Unit) : EngineM Unit := do
  let engine ← self
  let outcome := runOutcome engine result
  Stretch.save fun s => do
    let t ← (recordControllerStop s.tables (s.draws 0).stamp engine.config.runId
      (stopReason outcome)).mapError fun _ => .research "CONTROLLER_STOP_FAILED"
    pure ({ s.drawn with tables := t }, ())
  let finishedAt ← Stretch.read fun s => .ok (s.draws 0).now
  saveRecord "run" engine.config.runId
    (runData engine.config outcome.1 finishedAt outcome.2) (some engine.config.runId)

end Aizim.Research
