import Aizim.Orchestration.ControllerProtocol
import Aizim.Orchestration.ControllerDispatcher

/-!
# The loop of the supervisor

The supervisor takes one assignment after another and executes it, and waits for a wake-up when there
is none to take.  Its loop, the task of the execution, the requests of the operator and the request
to stop share one event loop: each of them runs without interference from one await to the next, and
a `SupervisorAction` is one such stretch.

`loop_never_idles` says that the loop waits only when no assignment is left to take, and that it
takes none and ends once it was asked to stop.
-/

namespace Aizim.Orchestration

open JsonValue JsonObject Domain State Gateway Knowledge Research TransitionSystem

variable [CharacterDatabase]

/-! ## The task of an execution -/

/-- Where `plan_and_execute` awaits. -/
inductive DispatchPoint
  | planning
  | opening
  | running
  /-- closing the host, after the run of the worker ended -/
  | closing (outcome : CallOutcome JsonValue)

/-- The task of an execution. -/
inductive ExecutionTask
  | created
  | awaiting (point : DispatchPoint)
  | done (result : DispatchResult)

/-- The task ends, through the handlers of `plan_and_execute`. -/
def endTask (prepared : PreparedDispatch) (env : DispatchEnvironment)
    (ended : Tables × DispatchResult) : Tables × ExecutionTask :=
  let (t, result) := handle prepared env ended
  (t, .done result)

/-- `_dispatch`, until it awaits the worker host. -/
def planDispatch (t : Tables) (prepared : PreparedDispatch) (decision : DispatchDecision)
    (env : DispatchEnvironment) : Tables × ExecutionTask :=
  let claim := prepared.claim
  let fail code := endTask prepared env (failWith t env.terminalStamp claim code)
  if validDispatch decision prepared.context = false then fail "CONTROLLER_DECISION_INVALID"
  else if controllerWorkerTools claim.role = [] then fail "WORKER_ROLE_UNSUPPORTED"
  else match formalTarget? claim.task with
    | none => fail "FORMAL_TARGET_REQUIRED"
    | some statement =>
      match directiveOf prepared decision statement with
      | .error _ => endTask prepared env (t, .raised)
      | .ok directive =>
        match env.artifact with
        | none => endTask prepared env (t, .raised)
        | some artifact =>
          match recordDispatchPlanned t env.plannedStamp claim directive.directiveId
            artifact.contentHash (sha256Text decision.instruction) directive.budget.toNat
            (max 1 decision.milliseconds).toNat with
          | .error _ => endTask prepared env (t, .raised)
          | .ok t => (t, .awaiting .opening)

/-- `plan_and_execute` from one of its awaits to the next, or to its end. -/
def resumeTask (t : Tables) (prepared : PreparedDispatch) (env : DispatchEnvironment) :
    DispatchPoint → Tables × ExecutionTask
  | .planning =>
    let claim := prepared.claim
    match env.plan.outcome with
    | .decided .blocked =>
      endTask prepared env (failWith t env.terminalStamp claim "CONTROLLER_BLOCKED")
    | .decided .reject =>
      endTask prepared env (failWith t env.terminalStamp claim "CONTROLLER_REJECTED")
    | .decided (.dispatch decision) => planDispatch t prepared decision env
    | .timeout => endTask prepared env (t, .timeout)
    | .backendError => endTask prepared env (t, .backendError)
    | .cancelled => endTask prepared env (t, .cancelled)
    | .raised => endTask prepared env (t, .raised)
  | .opening =>
    match env.opening.outcome with
    | .raised =>
      endTask prepared env (failWith t env.terminalStamp prepared.claim "WORKER_FAILED")
    | .cancelled => endTask prepared env (t, .cancelled)
    | .returned () => (t, .awaiting .running)
  | .running => (t, .awaiting (.closing env.running.outcome))
  | .closing outcome =>
    -- what closing the host raises replaces what the run of the worker raised
    let ended := match env.closing.outcome with
      | .returned () => outcome
      | .raised => .raised
      | .cancelled => .cancelled
    match ended with
    | .raised =>
      endTask prepared env (failWith t env.terminalStamp prepared.claim "WORKER_FAILED")
    | .cancelled => endTask prepared env (t, .cancelled)
    | .returned cursor =>
      endTask prepared env
        (write t (completeAssignment t env.terminalStamp prepared.claim (sha256Json cursor)))

/-- A task that awaits goes on when what it awaits has ended. -/
def continueTask (prepared : PreparedDispatch) (env : DispatchEnvironment)
    (awaited : Tables → Tables) : Tables × ExecutionTask → Tables × ExecutionTask
  | (t, .awaiting point) => resumeTask (awaited t) prepared env point
  | (t, task) => (t, task)

/-- Resume a task whenever what it awaits has ended, until it is done. -/
def runTask (t : Tables) (prepared : PreparedDispatch) (env : DispatchEnvironment) :
    Tables × ExecutionTask :=
  let task := resumeTask (env.plan.wait t) prepared env .planning
  let task := continueTask prepared env env.opening.wait task
  let task := continueTask prepared env env.running.wait task
  continueTask prepared env env.closing.wait task

@[simp]
lemma continueTask_endTask (prepared : PreparedDispatch) (env env' : DispatchEnvironment)
    (awaited : Tables → Tables) (ended : Tables × DispatchResult) :
    continueTask prepared env awaited (endTask prepared env' ended) =
      endTask prepared env' ended := rfl

lemma endTask_eq (prepared : PreparedDispatch) (env : DispatchEnvironment)
    (ended : Tables × DispatchResult) :
    endTask prepared env ended =
      ((handle prepared env ended).1, .done (handle prepared env ended).2) := rfl

/-- A task that opens the worker host ends as `runPlanned` does. -/
lemma continueTask_opening (t : Tables) (prepared : PreparedDispatch) (env : DispatchEnvironment) :
    continueTask prepared env env.closing.wait (continueTask prepared env env.running.wait
      (continueTask prepared env env.opening.wait (t, .awaiting .opening))) =
      endTask prepared env (runPlanned t prepared.claim env) := by
  simp only [continueTask, resumeTask, runPlanned, runHost]
  cases env.opening.outcome with
  | raised => rfl
  | cancelled => rfl
  | returned =>
    simp only
    cases env.closing.outcome with
    | raised => rfl
    | cancelled => rfl
    | returned => cases env.running.outcome <;> rfl

/-- A planned dispatch ends as `_dispatch` does. -/
lemma continueTask_planDispatch (t : Tables) (prepared : PreparedDispatch)
    (decision : DispatchDecision) (env : DispatchEnvironment) :
    continueTask prepared env env.closing.wait (continueTask prepared env env.running.wait
      (continueTask prepared env env.opening.wait (planDispatch t prepared decision env))) =
      endTask prepared env (dispatch t prepared decision env) := by
  simp only [planDispatch, dispatch]
  split_ifs
  · simp only [continueTask_endTask]
  · simp only [continueTask_endTask]
  cases formalTarget? prepared.claim.task with
  | none => simp only [continueTask_endTask]
  | some statement =>
    simp only
    cases directiveOf prepared decision statement with
    | error e => simp only [continueTask_endTask]
    | ok directive =>
      simp only
      cases env.artifact with
      | none => simp only [continueTask_endTask]
      | some artifact =>
        simp only
        cases recordDispatchPlanned t env.plannedStamp prepared.claim directive.directiveId
          artifact.contentHash (sha256Text decision.instruction) directive.budget.toNat
          (max 1 decision.milliseconds).toNat with
        | error e => simp only [continueTask_endTask]
        | ok planned => exact continueTask_opening planned prepared env

/-- Its awaits are those of `plan_and_execute`. -/
theorem runTask_eq (t : Tables) (prepared : PreparedDispatch) (env : DispatchEnvironment) :
    runTask t prepared env =
      ((planAndExecute t prepared env).1, .done (planAndExecute t prepared env).2) := by
  rw [planAndExecute, ← endTask_eq]
  simp only [runTask, resumeTask]
  cases env.plan.outcome with
  | decided decision =>
    cases decision with
    | dispatch decision => exact continueTask_planDispatch _ prepared decision env
    | blocked => simp only [continueTask_endTask]
    | reject => simp only [continueTask_endTask]
  | timeout => simp only [continueTask_endTask]
  | backendError => simp only [continueTask_endTask]
  | cancelled => simp only [continueTask_endTask]
  | raised => simp only [continueTask_endTask]

/-! ## The loop -/

/-- Where the loop awaits, or how it ended. -/
inductive LoopPoint
  | started
  /-- awaits a wake-up -/
  | waiting
  /-- awaits that the task of the execution is entered -/
  | entering
  /-- awaits the task of the execution -/
  | executing
  | ended
  | failed
  deriving DecidableEq

/-- The supervisor with its store. -/
structure Supervisor where
  tables : Tables
  loop : LoopPoint
  /-- `_stop` -/
  stop : Bool
  /-- `_wake` -/
  wake : Bool
  entered : Bool
  task : Option (PreparedDispatch × ExecutionTask)
  /-- `_active` is the task. -/
  active : Bool
  /-- The task was asked to cancel. -/
  cancelled : Bool

/-- `_snapshot` -/
def controllerSnapshot (t : Tables) (version : ℕ) (sessionId : String) :
    Except ControlError ControllerRun := do
  let payloads ← (projectionsOf t.projections .project).mapM fun record =>
    readPayload controllerStateInvalid ⟨record.version, record.stateJson⟩
  match payloads.filter fun payload => (getEntry "project_id" payload).isSome with
  | [] => throw (.execution "PROJECT_IDENTITY_UNAVAILABLE")
  | [identity] => do
    let baseEpoch ← readText controllerStateInvalid identity "base_epoch"
    require (isSha256 baseEpoch = true) (.execution "PROJECT_IDENTITY_INVALID")
    let epoch ← (currentEpoch t.projections).mapError fun _ => .execution "PROJECT_EPOCH_INVALID"
    require (isSha256 epoch.baseEpoch = true) (.execution "PROJECT_EPOCH_INVALID")
    let projectId ← readText controllerStateInvalid identity "project_id"
    pure ⟨version, sessionId, projectId, epoch.baseEpoch, epoch.knowledgeEpoch⟩
  | _ => throw (.execution "PROJECT_IDENTITY_INVALID")

/-- `_trusted_id` -/
def trustedId (kind value : String) : Except ControlError String := do
  require ((removePrefix? (kind ++ "-") value).any (fun rest =>
    rest.toList.length == 32 && rest.toList.all isLowerHex) = true) (.execution "TRUSTED_ID_INVALID")
  pure value

/-- What a turn of the loop does before it awaits: the tables and the claimed assignment, if there is
one to claim. -/
def prepareTurn (t : Tables) (version : ℕ) (sessionId : String) (stamp : Stamp)
    (executionId directiveId : String) :
    Except ControlError (Option (Tables × PreparedDispatch)) := do
  let run ← controllerSnapshot t version sessionId
  let executionId ← trustedId "execution" executionId
  let directiveId ← trustedId "directive" directiveId
  prepareNext t stamp run executionId directiveId

/-- A turn of the loop, until it awaits or ends. -/
def Supervisor.turn (s : Supervisor) (version : ℕ) (sessionId : String) (stamp : Stamp)
    (executionId directiveId : String) : Supervisor :=
  if s.stop then { s with loop := .ended }
  else
    match prepareTurn s.tables version sessionId stamp executionId directiveId with
    | .error _ => { s with wake := false, loop := .failed }
    | .ok none => { s with wake := false, loop := .waiting }
    | .ok (some (t, prepared)) =>
      { s with
        tables := t
        wake := false
        loop := .entering
        entered := false
        task := some (prepared, .created)
        cancelled := false }

/-- The supervisor without the task, which is over. -/
def Supervisor.release (s : Supervisor) : Supervisor :=
  { s with active := false, task := none }

/-- The loop after the task of the execution: what the task raises ends it, unless it was cancelled
by the request to stop. -/
def Supervisor.afterTask (s : Supervisor) (result : DispatchResult) (version : ℕ)
    (sessionId : String) (stamp : Stamp) (executionId directiveId : String) : Supervisor :=
  if result = .returned ∨ result = .cancelled ∧ s.stop = true then
    s.release.turn version sessionId stamp executionId directiveId
  else { s.release with loop := .failed }

/-- What happens from one await to the next. -/
inductive SupervisorAction
  /-- The loop goes on. -/
  | loop (stamp : Stamp) (executionId directiveId : String)
  /-- The task of the execution goes on. -/
  | task (env : DispatchEnvironment)
  | requestStop
  | operator (stamp : Stamp) (op : ControlOperation)
  /-- Another operation of the service, which may be a request that wakes the loop as well. -/
  | service (op : StateOp) (wakes : Bool)

/-- The action is one of the loop. -/
def SupervisorAction.isLoop : SupervisorAction → Bool
  | loop .. => true
  | _ => false

/-- The steps of a supervisor that started a session under a version of its configuration. -/
inductive SupervisorStep (version : ℕ) (sessionId : String) :
    Supervisor → SupervisorAction → Supervisor → Prop
  | start {s} (stamp executionId directiveId) (hloop : s.loop = .started) :
      SupervisorStep version sessionId s (.loop stamp executionId directiveId)
        (s.turn version sessionId stamp executionId directiveId)
  | woken {s} (stamp executionId directiveId) (hloop : s.loop = .waiting) (hwake : s.wake = true) :
      SupervisorStep version sessionId s (.loop stamp executionId directiveId)
        (s.turn version sessionId stamp executionId directiveId)
  | entered {s} (stamp executionId directiveId) (hloop : s.loop = .entering)
      (hentered : s.entered = true) :
      SupervisorStep version sessionId s (.loop stamp executionId directiveId)
        { s with loop := .executing, active := true, cancelled := s.cancelled || s.stop }
  | executed {s prepared result} (stamp executionId directiveId) (hloop : s.loop = .executing)
      (htask : s.task = some (prepared, .done result)) :
      SupervisorStep version sessionId s (.loop stamp executionId directiveId)
        (s.afterTask result version sessionId stamp executionId directiveId)
  | enter {s prepared} (env) (htask : s.task = some (prepared, .created)) :
      SupervisorStep version sessionId s (.task env)
        { s with entered := true, task := some (prepared, .awaiting .planning) }
  | resume {s prepared point} (env) (htask : s.task = some (prepared, .awaiting point)) :
      SupervisorStep version sessionId s (.task env)
        { s with
          tables := (resumeTask s.tables prepared env point).1
          task := some (prepared, (resumeTask s.tables prepared env point).2) }
  | requestStop {s} :
      SupervisorStep version sessionId s .requestStop
        { s with stop := true, wake := true, cancelled := s.cancelled || s.active }
  | operator {s t stamp op result} (h : op.run s.tables stamp = .ok (t, result)) :
      SupervisorStep version sessionId s (.operator stamp op) { s with tables := t, wake := true }
  | service {s op wakes} (h : leavesControl op) :
      SupervisorStep version sessionId s (.service op wakes)
        { s with tables := op.exec s.tables, wake := s.wake || wakes }

/-- The loop of a session, from when it is called.  The ids of the contributions are a primary key
of the store. -/
def supervisorSystem (version : ℕ) (sessionId : String) :
    TransitionSystem Supervisor SupervisorAction where
  initial s := s.loop = .started ∧ s.task = none ∧ s.active = false ∧
    (ids s.tables.publicationQueue).Nodup
  step := SupervisorStep version sessionId


/-! ## Assignments that are left -/

/-- The current assignment of every worker of the roster has an execution. -/
def AllTaken (t : Tables) : Prop :=
  ∀ workerId, findRecord t.projections .workerRoster workerId ≠ none →
    ∀ assignment, findRecord t.projections .workerAssignments workerId = some assignment →
      ∃ assignmentId,
        fieldOf t.projections .workerAssignments workerId "assignment_id" =
          some (.str assignmentId) ∧
        findRecord t.projections .workerExecutions assignmentId ≠ none

lemma taken_of_prepareFirst {t : Tables} {stamp : Stamp} {run : ControllerRun}
    {executionId directiveId : String} {workers : List ProjectionRecord}
    (h : prepareFirst t stamp run executionId directiveId workers = .ok none) :
    ∀ worker ∈ workers, ∀ assignment,
      findRecord t.projections .workerAssignments worker.entityId = some assignment →
      ∃ assignmentId,
        fieldOf t.projections .workerAssignments worker.entityId "assignment_id" =
          some (.str assignmentId) ∧
        findRecord t.projections .workerExecutions assignmentId ≠ none := by
  induction workers with
  | nil => exact fun worker hworker => absurd hworker List.not_mem_nil
  | cons first workers ih =>
    rw [prepareFirst] at h
    intro worker hworker assignment hassignment
    cases hfirst : findRecord t.projections .workerAssignments first.entityId with
    | none =>
      rw [hfirst] at h
      rcases List.mem_cons.1 hworker with rfl | hworker
      · exact absurd (hfirst.symm.trans hassignment) (by simp)
      · exact ih h worker hworker assignment hassignment
    | some row =>
      rw [hfirst] at h
      simp only [bind_eq_ok, payloadOf_eq_ok, textOf_eq_ok] at h
      obtain ⟨payload, hpayload, assignmentId, ⟨-, hid⟩, h⟩ := h
      split at h
      · rename_i htaken
        rcases List.mem_cons.1 hworker with rfl | hworker
        · exact ⟨assignmentId, by rw [fieldOf_eq hfirst hpayload, hid], htaken⟩
        · exact ih h worker hworker assignment hassignment
      · simp only [bind_eq_ok, pure_eq_ok, reduceCtorEq, and_false, exists_false] at h

/-- The loop finds nothing to take only where all is taken. -/
lemma allTaken_of_prepareTurn {t : Tables} {version : ℕ} {sessionId : String} {stamp : Stamp}
    {executionId directiveId : String}
    (h : prepareTurn t version sessionId stamp executionId directiveId = .ok none) :
    AllTaken t := by
  simp only [prepareTurn, prepareNext, bind_eq_ok] at h
  obtain ⟨run, -, execution, -, directive, -, -, -, hfirst⟩ := h
  intro workerId hroster assignment hassignment
  obtain ⟨row, hrow⟩ := Option.ne_none_iff_exists'.1 hroster
  have hworker : (⟨.workerRoster, workerId, row.version, row.stateJson⟩ : ProjectionRecord) ∈
      projectionsOf t.projections .workerRoster := mem_projectionsOf.2 ⟨rfl, hrow⟩
  exact taken_of_prepareFirst hfirst _ hworker assignment hassignment

/-- Operations that leave the control plane leave its records. -/
lemma findRecord_service {t : Tables} {op : StateOp} (hop : leavesControl op)
    (hids : (ids t.publicationQueue).Nodup) {projection : ProjectionName}
    (hprojection : projection ∈ controlProjections) (id : String) :
    findRecord (op.exec t).projections projection id = findRecord t.projections projection id := by
  obtain ⟨events, hrun, htypes⟩ := StateOp.exists_run_exec hids op
  have hother : projection ≠ .documents ∧ projection ≠ .epochs := by
    revert hprojection
    cases projection <;> decide
  refine findRecord_of_run hrun hother.1 hother.2 (fun e he htype => ?_) id
  exact hop _ (htypes e he) (htype ▸ hprojection)

lemma AllTaken.service {t : Tables} (h : AllTaken t) {op : StateOp} (hop : leavesControl op)
    (hids : (ids t.publicationQueue).Nodup) : AllTaken (op.exec t) := by
  have hroster (id : String) : findRecord (op.exec t).projections .workerRoster id =
      findRecord t.projections .workerRoster id := findRecord_service hop hids (by decide) id
  have hassignments (id : String) : findRecord (op.exec t).projections .workerAssignments id =
      findRecord t.projections .workerAssignments id := findRecord_service hop hids (by decide) id
  have hexecutions (id : String) : findRecord (op.exec t).projections .workerExecutions id =
      findRecord t.projections .workerExecutions id := findRecord_service hop hids (by decide) id
  intro workerId hworker assignment hassignment
  rw [hroster] at hworker
  rw [hassignments] at hassignment
  obtain ⟨assignmentId, hid, htaken⟩ := h workerId hworker assignment hassignment
  refine ⟨assignmentId, ?_, ?_⟩
  · rw [fieldOf, hassignments]
    exact hid
  · rw [hexecutions]
    exact htaken

/-! ## How much is left to do -/

/-- The resumptions that are left to a task awaiting here. -/
def DispatchPoint.rank : DispatchPoint → ℕ
  | .planning => 4
  | .opening => 3
  | .running => 2
  | .closing _ => 1

/-- The steps that are left to a task. -/
def ExecutionTask.rank : ExecutionTask → ℕ
  | .created => 5
  | .awaiting point => point.rank
  | .done _ => 0

/-- The steps that are left to a loop that was asked to stop. -/
def LoopPoint.rank : LoopPoint → ℕ
  | .entering => 3
  | .executing => 2
  | .started => 1
  | .waiting => 1
  | .ended => 0
  | .failed => 0

/-- The steps that are left to a supervisor that was asked to stop. -/
def Supervisor.remaining (s : Supervisor) : ℕ :=
  s.loop.rank + (s.task.map fun task => task.2.rank).getD 0

omit [CharacterDatabase] in
lemma Supervisor.remaining_of_task {s : Supervisor} {prepared : PreparedDispatch}
    {task : ExecutionTask} (h : s.task = some (prepared, task)) :
    s.remaining = s.loop.rank + task.rank := by
  rw [remaining, h]
  rfl

omit [CharacterDatabase] in
lemma Supervisor.remaining_of_none {s : Supervisor} (h : s.task = none) :
    s.remaining = s.loop.rank := by
  rw [remaining, h]
  rfl

@[simp]
lemma rank_endTask (prepared : PreparedDispatch) (env : DispatchEnvironment)
    (ended : Tables × DispatchResult) : (endTask prepared env ended).2.rank = 0 := rfl

lemma rank_planDispatch (t : Tables) (prepared : PreparedDispatch) (decision : DispatchDecision)
    (env : DispatchEnvironment) : (planDispatch t prepared decision env).2.rank ≤ 3 := by
  simp only [planDispatch]
  split_ifs
  · simp only [rank_endTask, Nat.zero_le]
  · simp only [rank_endTask, Nat.zero_le]
  cases formalTarget? prepared.claim.task with
  | none => simp only [rank_endTask, Nat.zero_le]
  | some statement =>
    simp only
    cases directiveOf prepared decision statement with
    | error e => simp only [rank_endTask, Nat.zero_le]
    | ok directive =>
      simp only
      cases env.artifact with
      | none => simp only [rank_endTask, Nat.zero_le]
      | some artifact =>
        simp only
        split
        · simp only [rank_endTask, Nat.zero_le]
        · exact le_refl _

/-- A task is done after four resumptions. -/
lemma rank_resumeTask (t : Tables) (prepared : PreparedDispatch) (env : DispatchEnvironment)
    (point : DispatchPoint) : (resumeTask t prepared env point).2.rank < point.rank := by
  cases point with
  | planning =>
    simp only [resumeTask, DispatchPoint.rank]
    cases env.plan.outcome with
    | decided decision =>
      cases decision with
      | dispatch decision =>
        have hplanned := rank_planDispatch t prepared decision env
        simp only
        omega
      | blocked => simp only [rank_endTask, Nat.ofNat_pos]
      | reject => simp only [rank_endTask, Nat.ofNat_pos]
    | timeout => simp only [rank_endTask, Nat.ofNat_pos]
    | backendError => simp only [rank_endTask, Nat.ofNat_pos]
    | cancelled => simp only [rank_endTask, Nat.ofNat_pos]
    | raised => simp only [rank_endTask, Nat.ofNat_pos]
  | opening =>
    simp only [resumeTask, DispatchPoint.rank]
    cases env.opening.outcome with
    | raised => simp only [rank_endTask, Nat.ofNat_pos]
    | cancelled => simp only [rank_endTask, Nat.ofNat_pos]
    | returned => exact Nat.lt_succ_self 2
  | running => exact Nat.lt_succ_self 1
  | closing outcome =>
    simp only [resumeTask, DispatchPoint.rank]
    split <;> simp only [rank_endTask, Nat.one_pos]

/-! ## The queue of the store -/

/-- A write of the control plane leaves the publication queue. -/
lemma queue_appendClaimed {t t' : Tables} {stamp : Stamp} {claim : ClaimedAssignment}
    {type : EventType} {allowed : List JsonValue} {fields : JsonObject}
    (h : appendClaimed t stamp claim type allowed fields = .ok t') :
    t'.publicationQueue = t.publicationQueue := by
  simp only [appendClaimed, bind_eq_ok] at h
  obtain ⟨-, -, happend⟩ := h
  obtain ⟨-, -, -, -, -, -, hqueue⟩ := appendControl_ok happend
  exact hqueue

omit [CharacterDatabase] in
lemma queue_write {t : Tables} {result : Except ControlError Tables}
    (h : ∀ t', result = .ok t' → t'.publicationQueue = t.publicationQueue) :
    (write t result).1.publicationQueue = t.publicationQueue := by
  cases result with
  | ok t' => exact h t' rfl
  | error e => rfl

lemma queue_failWith (t : Tables) (stamp : Stamp) (claim : ClaimedAssignment) (code : String) :
    (failWith t stamp claim code).1.publicationQueue = t.publicationQueue :=
  queue_write fun _ => queue_appendClaimed

lemma queue_endTask {prepared : PreparedDispatch} {env : DispatchEnvironment} {t : Tables}
    {ended : Tables × DispatchResult} (h : ended.1.publicationQueue = t.publicationQueue) :
    (endTask prepared env ended).1.publicationQueue = t.publicationQueue := by
  obtain ⟨t', result⟩ := ended
  cases result with
  | returned => exact h
  | raised => exact h
  | timeout => exact (queue_failWith ..).trans h
  | backendError => exact (queue_failWith ..).trans h
  | cancelled =>
    cases hinterrupt : interruptAssignment t' env.terminalStamp prepared.claim "OPERATOR_SIGNAL" with
    | ok t'' =>
      simp only [endTask, handle, hinterrupt]
      exact (queue_appendClaimed hinterrupt).trans h
    | error e =>
      simp only [endTask, handle, hinterrupt]
      exact h

lemma queue_planDispatch (t : Tables) (prepared : PreparedDispatch) (decision : DispatchDecision)
    (env : DispatchEnvironment) :
    (planDispatch t prepared decision env).1.publicationQueue = t.publicationQueue := by
  unfold planDispatch
  simp only
  split_ifs
  · exact queue_endTask (queue_failWith ..)
  · exact queue_endTask (queue_failWith ..)
  cases formalTarget? prepared.claim.task with
  | none => exact queue_endTask (queue_failWith ..)
  | some statement =>
    simp only
    cases directiveOf prepared decision statement with
    | error e => exact queue_endTask rfl
    | ok directive =>
      simp only
      cases env.artifact with
      | none => exact queue_endTask rfl
      | some artifact =>
        simp only
        split
        · exact queue_endTask rfl
        · rename_i hplanned
          exact queue_appendClaimed hplanned

lemma queue_resumeTask (t : Tables) (prepared : PreparedDispatch) (env : DispatchEnvironment)
    (point : DispatchPoint) :
    (resumeTask t prepared env point).1.publicationQueue = t.publicationQueue := by
  cases point with
  | planning =>
    unfold resumeTask
    simp only
    split
    · exact queue_endTask (queue_failWith ..)
    · exact queue_endTask (queue_failWith ..)
    · exact queue_planDispatch ..
    all_goals exact queue_endTask rfl
  | opening =>
    unfold resumeTask
    simp only
    split
    · exact queue_endTask (queue_failWith ..)
    · exact queue_endTask rfl
    · rfl
  | running => rfl
  | closing outcome =>
    unfold resumeTask
    simp only
    split
    · exact queue_endTask (queue_failWith ..)
    · exact queue_endTask rfl
    · exact queue_endTask (queue_write fun _ => queue_appendClaimed)

lemma queue_prepareFirst {t t' : Tables} {stamp : Stamp} {run : ControllerRun}
    {executionId directiveId : String} {workers : List ProjectionRecord}
    {prepared : PreparedDispatch}
    (h : prepareFirst t stamp run executionId directiveId workers = .ok (some (t', prepared))) :
    t'.publicationQueue = t.publicationQueue := by
  induction workers with
  | nil => simp [prepareFirst] at h
  | cons first workers ih =>
    rw [prepareFirst] at h
    split at h
    · exact ih h
    · simp only [bind_eq_ok] at h
      obtain ⟨payload, -, assignmentId, -, hfound⟩ := h
      split at hfound
      · exact ih hfound
      · simp only [bind_eq_ok, pure_eq_ok, Prod.exists, Option.some.injEq, Prod.mk.injEq] at hfound
        obtain ⟨t₁, claim, hclaim, rfl, -⟩ := hfound
        exact (claimAssignment_ok hclaim).appended.queue

/-! ## What holds on the way -/

/-- The invariant of the supervisor. -/
structure SupervisorInvariant (s : Supervisor) : Prop where
  ids_nodup : (ids s.tables.publicationQueue).Nodup
  settled : s.loop = .waiting → s.wake = false → AllTaken s.tables
  wakes : s.loop = .waiting → s.stop = true → s.wake = true
  entering : s.loop = .entering → ∃ prepared task, s.task = some (prepared, task) ∧
    (s.entered = true ↔ task ≠ .created)
  executing : s.loop = .executing → s.active = true ∧ (s.stop = true → s.cancelled = true) ∧
    ∃ prepared task, s.task = some (prepared, task) ∧ task ≠ .created
  quiet : s.loop ≠ .entering → s.loop ≠ .executing → s.task = none
  active : s.active = true → s.loop = .executing

namespace SupervisorInvariant

variable {s : Supervisor} {version : ℕ} {sessionId executionId directiveId : String} {stamp : Stamp}

omit [CharacterDatabase] in
lemma task_eq_none (h : SupervisorInvariant s) (hloop : s.loop = .started ∨ s.loop = .waiting) :
    s.task = none := by
  apply h.quiet
  · rcases hloop with hloop | hloop <;> simp [hloop]
  · rcases hloop with hloop | hloop <;> simp [hloop]

omit [CharacterDatabase] in
lemma active_eq_false (h : SupervisorInvariant s) (hloop : s.loop ≠ .executing) :
    s.active = false := by
  by_contra hactive
  exact hloop (h.active (by simpa using hactive))

omit [CharacterDatabase] in
/-- The loop has a task only between its taking and its end. -/
lemma loop_of_task (h : SupervisorInvariant s) {task : PreparedDispatch × ExecutionTask}
    (htask : s.task = some task) : s.loop = .entering ∨ s.loop = .executing := by
  by_contra hloop
  rw [not_or] at hloop
  exact absurd ((h.quiet hloop.1 hloop.2).symm.trans htask) (by simp)

lemma of_turn (hids : (ids s.tables.publicationQueue).Nodup) (htask : s.task = none)
    (hactive : s.active = false) :
    SupervisorInvariant (s.turn version sessionId stamp executionId directiveId) := by
  unfold Supervisor.turn
  split
  · exact ⟨hids, by simp, by simp, by simp, by simp, fun _ _ => htask, by simp [hactive]⟩
  rename_i hstop
  split
  · exact ⟨hids, by simp, by simp, by simp, by simp, fun _ _ => htask, by simp [hactive]⟩
  · rename_i hprepared
    refine ⟨hids, fun _ _ => allTaken_of_prepareTurn hprepared, ?_, by simp, by simp,
      fun _ _ => htask, by simp [hactive]⟩
    intro _ hrequested
    exact absurd hrequested hstop
  · rename_i t prepared hprepared
    refine ⟨?_, by simp, by simp, ?_, by simp, by simp, by simp [hactive]⟩
    · simp only [prepareTurn, prepareNext, bind_eq_ok] at hprepared
      obtain ⟨run, -, execution, -, directive, -, -, -, hfirst⟩ := hprepared
      simpa only [queue_prepareFirst hfirst] using hids
    · intro _
      exact ⟨prepared, .created, rfl, by simp⟩

lemma of_afterTask (hids : (ids s.tables.publicationQueue).Nodup) (result : DispatchResult) :
    SupervisorInvariant (s.afterTask result version sessionId stamp executionId directiveId) := by
  unfold Supervisor.afterTask
  split
  · exact of_turn hids rfl rfl
  · exact ⟨hids, by simp, by simp, by simp, by simp, fun _ _ => rfl, by simp [Supervisor.release]⟩

end SupervisorInvariant

lemma resumeTask_ne_created (t : Tables) (prepared : PreparedDispatch) (env : DispatchEnvironment)
    (point : DispatchPoint) : (resumeTask t prepared env point).2 ≠ .created := by
  intro hcreated
  have hlt := rank_resumeTask t prepared env point
  have hpoint : point.rank ≤ 4 := by cases point <;> simp [DispatchPoint.rank]
  simp only [hcreated, ExecutionTask.rank] at hlt
  omega

lemma SupervisorInvariant.step {version : ℕ} {sessionId : String} {s s' : Supervisor}
    {a : SupervisorAction} (h : SupervisorInvariant s)
    (hstep : SupervisorStep version sessionId s a s') : SupervisorInvariant s' := by
  cases hstep with
  | start stamp executionId directiveId hloop =>
    exact of_turn h.ids_nodup (h.task_eq_none (.inl hloop)) (h.active_eq_false (by simp [hloop]))
  | woken stamp executionId directiveId hloop hwake =>
    exact of_turn h.ids_nodup (h.task_eq_none (.inr hloop)) (h.active_eq_false (by simp [hloop]))
  | entered stamp executionId directiveId hloop hentered =>
    obtain ⟨prepared, task, htask, hcreated⟩ := h.entering hloop
    refine ⟨h.ids_nodup, by simp, by simp, by simp, ?_, by simp, by simp⟩
    intro _
    refine ⟨rfl, ?_, prepared, task, htask, hcreated.1 hentered⟩
    intro hstop
    simp only at hstop
    simp [hstop]
  | executed stamp executionId directiveId hloop htask => exact of_afterTask h.ids_nodup _
  | @enter prepared env htask =>
    have hentering : s.loop = .entering := by
      rcases h.loop_of_task htask with hloop | hloop
      · exact hloop
      · obtain ⟨-, -, prepared', task, htask', hcreated⟩ := h.executing hloop
        rw [htask, Option.some.injEq, Prod.mk.injEq] at htask'
        exact absurd htask'.2.symm hcreated
    refine ⟨h.ids_nodup, by simp [hentering], by simp [hentering], ?_, by simp [hentering],
      fun hne => absurd hentering hne, h.active⟩
    intro _
    exact ⟨prepared, .awaiting .planning, rfl, by simp⟩
  | @resume prepared point env htask =>
    have hcreated := resumeTask_ne_created s.tables prepared env point
    have hloop := h.loop_of_task htask
    have hwaiting : s.loop ≠ .waiting := by
      rcases hloop with hloop | hloop <;> simp [hloop]
    refine ⟨by simpa only [queue_resumeTask] using h.ids_nodup, fun hloop => absurd hloop hwaiting,
      fun hloop => absurd hloop hwaiting, ?_, ?_, ?_, h.active⟩
    · intro hentering
      obtain ⟨prepared', task, htask', hentered⟩ := h.entering hentering
      rw [htask, Option.some.injEq, Prod.mk.injEq] at htask'
      obtain ⟨rfl, rfl⟩ := htask'
      refine ⟨prepared, _, rfl, ?_⟩
      simp only [hentered, hcreated, ne_eq, not_false_eq_true, reduceCtorEq]
    · intro hexecuting
      obtain ⟨hactive, hcancelled, -⟩ := h.executing hexecuting
      exact ⟨hactive, hcancelled, prepared, _, rfl, hcreated⟩
    · intro hentering hexecuting
      exact absurd hloop (not_or.2 ⟨hentering, hexecuting⟩)
  | requestStop =>
    refine ⟨h.ids_nodup, by simp, by simp, h.entering, ?_, h.quiet, h.active⟩
    intro hexecuting
    obtain ⟨hactive, -, htask⟩ := h.executing hexecuting
    refine ⟨hactive, ?_, htask⟩
    intro _
    simp only [hactive, Bool.or_true]
  | operator hrun =>
    refine ⟨(keeps_of_operator hrun).1.ids_nodup h.ids_nodup, by simp, by simp, h.entering,
      h.executing, h.quiet, h.active⟩
  | service hop =>
    refine ⟨(keeps_of_service hop h.ids_nodup).1.ids_nodup h.ids_nodup, ?_, ?_, h.entering,
      h.executing, h.quiet, h.active⟩
    · intro hwaiting hwake
      simp only [Bool.or_eq_false_iff] at hwake
      exact (h.settled hwaiting hwake.1).service hop h.ids_nodup
    · intro hwaiting hstop
      simp only [h.wakes hwaiting hstop, Bool.true_or]

lemma supervisorInvariant_of_reachable {version : ℕ} {sessionId : String} {s : Supervisor}
    (h : (supervisorSystem version sessionId).Reachable s) : SupervisorInvariant s := by
  apply h.invariant (fun s hs => ?_) fun s a t hs hstep => hs.step hstep
  obtain ⟨hloop, htask, hactive, hids⟩ := hs
  exact ⟨hids, by simp [hloop], by simp [hloop], by simp [hloop], by simp [hloop],
    fun _ _ => htask, by simp [hactive]⟩

/-! ## After the request to stop -/

/-- The action is a step of the loop or of the task of the execution. -/
def SupervisorAction.advances : SupervisorAction → Bool
  | loop .. => true
  | task .. => true
  | _ => false

/-- A supervisor that was asked to stop: from now on it takes no assignment, and it ends when the
task of the execution it has is done. -/
structure StopsAfterExecution (version : ℕ) (sessionId : String) (s : Supervisor) : Prop where
  /-- Whatever happens, the loop has no task but the one it has now. -/
  takes_none : ∀ actions s', (supervisorSystem version sessionId).Run s actions s' →
    ∀ prepared task', s'.task = some (prepared, task') → ∃ task, s.task = some (prepared, task)
  writes_none : ∀ actions s', (supervisorSystem version sessionId).Run s actions s' →
    ∀ stamp executionId directiveId s'',
      SupervisorStep version sessionId s' (.loop stamp executionId directiveId) s'' →
      s''.tables = s'.tables
  /-- Only so many steps of the loop and the task are left, -/
  bounded : ∀ actions s', (supervisorSystem version sessionId).Run s actions s' →
    actions.countP SupervisorAction.advances + s'.remaining ≤ s.remaining
  /-- and until the end there is one: a step of the loop, or one of the task, which was asked to
  cancel if it awaits. -/
  proceeds : s.loop = .ended ∨ s.loop = .failed ∨
    (∀ stamp executionId directiveId, ∃ s',
      SupervisorStep version sessionId s (.loop stamp executionId directiveId) s') ∨
    ∃ prepared task, s.task = some (prepared, task) ∧
      (task = .created ∨ ∃ point, task = .awaiting point ∧ s.cancelled = true)
  released : s.loop = .ended ∨ s.loop = .failed → s.task = none
  /-- The loop ends only when there is no task or it is done. -/
  waits : ∀ stamp executionId directiveId s',
    SupervisorStep version sessionId s (.loop stamp executionId directiveId) s' →
    s'.loop = .ended ∨ s'.loop = .failed →
    s.task = none ∨ ∃ prepared result, s.task = some (prepared, .done result)

lemma Supervisor.turn_of_stop {s : Supervisor} (h : s.stop = true) (version : ℕ)
    (sessionId : String) (stamp : Stamp) (executionId directiveId : String) :
    s.turn version sessionId stamp executionId directiveId = { s with loop := .ended } :=
  if_pos h

/-- The end of an execution ends a loop that was asked to stop. -/
lemma Supervisor.afterTask_of_stop {s : Supervisor} (h : s.stop = true) (result : DispatchResult)
    (version : ℕ) (sessionId : String) (stamp : Stamp) (executionId directiveId : String) :
    ∃ loop, (loop = .ended ∨ loop = .failed) ∧
      s.afterTask result version sessionId stamp executionId directiveId =
        { s with active := false, task := none, loop := loop } := by
  unfold afterTask
  split
  · refine ⟨.ended, .inl rfl, ?_⟩
    apply turn_of_stop
    exact h
  · exact ⟨.failed, .inr rfl, rfl⟩

/-- What a step does after the request to stop. -/
structure StopsStep (s : Supervisor) (a : SupervisorAction) (s' : Supervisor) : Prop where
  stop : s'.stop = true
  task : ∀ prepared task', s'.task = some (prepared, task') → ∃ task, s.task = some (prepared, task)
  tables : (∃ stamp executionId directiveId, a = .loop stamp executionId directiveId) →
    s'.tables = s.tables
  remaining : (if a.advances then 1 else 0) + s'.remaining ≤ s.remaining

lemma SupervisorInvariant.stopsStep {version : ℕ} {sessionId : String} {s s' : Supervisor}
    {a : SupervisorAction} (h : SupervisorInvariant s) (hstop : s.stop = true)
    (hstep : SupervisorStep version sessionId s a s') : StopsStep s a s' := by
  cases hstep with
  | start stamp executionId directiveId hloop =>
    have htask := h.task_eq_none (.inl hloop)
    rw [Supervisor.turn_of_stop hstop]
    refine ⟨hstop, fun prepared task' h' => ⟨task', h'⟩, fun _ => rfl, ?_⟩
    rw [Supervisor.remaining_of_none htask, Supervisor.remaining_of_none (by exact htask), hloop]
    simp [SupervisorAction.advances, LoopPoint.rank]
  | woken stamp executionId directiveId hloop hwake =>
    have htask := h.task_eq_none (.inr hloop)
    rw [Supervisor.turn_of_stop hstop]
    refine ⟨hstop, fun prepared task' h' => ⟨task', h'⟩, fun _ => rfl, ?_⟩
    rw [Supervisor.remaining_of_none htask, Supervisor.remaining_of_none (by exact htask), hloop]
    simp [SupervisorAction.advances, LoopPoint.rank]
  | entered stamp executionId directiveId hloop hentered =>
    obtain ⟨prepared, task, htask, -⟩ := h.entering hloop
    refine ⟨hstop, fun prepared task' h' => ⟨task', h'⟩, fun _ => rfl, ?_⟩
    rw [Supervisor.remaining_of_task htask, Supervisor.remaining_of_task (by exact htask), hloop]
    simp only [SupervisorAction.advances, LoopPoint.rank, if_true]
    omega
  | @executed prepared result stamp executionId directiveId hloop htask =>
    obtain ⟨loop, hended, heq⟩ := Supervisor.afterTask_of_stop hstop result version sessionId stamp
      executionId directiveId
    rw [heq]
    refine ⟨hstop, by simp, fun _ => rfl, ?_⟩
    rw [Supervisor.remaining_of_task htask, Supervisor.remaining_of_none rfl, hloop]
    rcases hended with rfl | rfl <;>
      simp [SupervisorAction.advances, LoopPoint.rank, ExecutionTask.rank]
  | @enter prepared env htask =>
    refine ⟨hstop, ?_, by simp, ?_⟩
    · intro prepared' task' h'
      simp only [Option.some.injEq, Prod.mk.injEq] at h'
      exact ⟨.created, h'.1 ▸ htask⟩
    · rw [Supervisor.remaining_of_task htask, Supervisor.remaining_of_task rfl]
      simp only [SupervisorAction.advances, ExecutionTask.rank, DispatchPoint.rank, if_true]
      omega
  | @resume prepared point env htask =>
    refine ⟨hstop, ?_, by simp, ?_⟩
    · intro prepared' task' h'
      simp only [Option.some.injEq, Prod.mk.injEq] at h'
      exact ⟨.awaiting point, h'.1 ▸ htask⟩
    · have hlt := rank_resumeTask s.tables prepared env point
      rw [Supervisor.remaining_of_task htask, Supervisor.remaining_of_task rfl]
      simp only [SupervisorAction.advances, ExecutionTask.rank, if_true] at hlt ⊢
      omega
  | requestStop =>
    exact ⟨rfl, fun prepared task' h' => ⟨task', h'⟩, by simp, le_of_eq (Nat.zero_add _)⟩
  | operator hrun =>
    exact ⟨hstop, fun prepared task' h' => ⟨task', h'⟩, by simp, le_of_eq (Nat.zero_add _)⟩
  | service hop =>
    exact ⟨hstop, fun prepared task' h' => ⟨task', h'⟩, by simp, le_of_eq (Nat.zero_add _)⟩

/-- What the steps of a run after the request to stop do together. -/
lemma SupervisorInvariant.stopsRun {version : ℕ} {sessionId : String} {s s' : Supervisor}
    {actions : List SupervisorAction} (h : SupervisorInvariant s) (hstop : s.stop = true)
    (hrun : (supervisorSystem version sessionId).Run s actions s') :
    (SupervisorInvariant s' ∧ s'.stop = true) ∧
      (∀ prepared task', s'.task = some (prepared, task') →
        ∃ task, s.task = some (prepared, task)) ∧
      actions.countP SupervisorAction.advances + s'.remaining ≤ s.remaining := by
  induction hrun with
  | nil => exact ⟨⟨h, hstop⟩, fun prepared task' h' => ⟨task', h'⟩, by simp⟩
  | @snoc t u actions a hrun hstep ih =>
    obtain ⟨⟨hinv, hstopped⟩, htask, hbound⟩ := ih
    have hlast := hinv.stopsStep hstopped hstep
    refine ⟨⟨hinv.step hstep, hlast.stop⟩, ?_, ?_⟩
    · intro prepared task' h'
      obtain ⟨task, ht⟩ := hlast.task prepared task' h'
      exact htask prepared task ht
    · have hremaining := hlast.remaining
      rw [List.countP_append, List.countP_singleton]
      omega

/-- Until its end the loop can go on, or its task can. -/
lemma SupervisorInvariant.proceeds {s : Supervisor} (h : SupervisorInvariant s)
    (hstop : s.stop = true) (version : ℕ) (sessionId : String) :
    s.loop = .ended ∨ s.loop = .failed ∨
      (∀ stamp executionId directiveId, ∃ s',
        SupervisorStep version sessionId s (.loop stamp executionId directiveId) s') ∨
      ∃ prepared task, s.task = some (prepared, task) ∧
        (task = .created ∨ ∃ point, task = .awaiting point ∧ s.cancelled = true) := by
  cases hloop : s.loop with
  | ended => exact .inl rfl
  | failed => exact .inr (.inl rfl)
  | started =>
    refine .inr (.inr (.inl fun stamp executionId directiveId => ?_))
    exact ⟨_, .start stamp executionId directiveId hloop⟩
  | waiting =>
    refine .inr (.inr (.inl fun stamp executionId directiveId => ?_))
    exact ⟨_, .woken stamp executionId directiveId hloop (h.wakes hloop hstop)⟩
  | entering =>
    obtain ⟨prepared, task, htask, hcreated⟩ := h.entering hloop
    by_cases hentered : s.entered = true
    · refine .inr (.inr (.inl fun stamp executionId directiveId => ?_))
      exact ⟨_, .entered stamp executionId directiveId hloop hentered⟩
    · refine .inr (.inr (.inr ⟨prepared, task, htask, .inl ?_⟩))
      by_contra hne
      exact hentered (hcreated.2 hne)
  | executing =>
    obtain ⟨-, hcancelled, prepared, task, htask, hcreated⟩ := h.executing hloop
    cases task with
    | created => exact absurd rfl hcreated
    | awaiting point =>
      exact .inr (.inr (.inr ⟨prepared, _, htask, .inr ⟨point, rfl, hcancelled hstop⟩⟩))
    | done result =>
      refine .inr (.inr (.inl fun stamp executionId directiveId => ?_))
      exact ⟨_, .executed stamp executionId directiveId hloop htask⟩

lemma SupervisorInvariant.stopsAfterExecution {s : Supervisor} (h : SupervisorInvariant s)
    (hstop : s.stop = true) (version : ℕ) (sessionId : String) :
    StopsAfterExecution version sessionId s where
  takes_none actions s' hrun := (h.stopsRun hstop hrun).2.1
  writes_none actions s' hrun stamp executionId directiveId s'' hstep := by
    obtain ⟨⟨hinv, hstopped⟩, -⟩ := h.stopsRun hstop hrun
    exact (hinv.stopsStep hstopped hstep).tables ⟨stamp, executionId, directiveId, rfl⟩
  bounded actions s' hrun := (h.stopsRun hstop hrun).2.2
  proceeds := h.proceeds hstop version sessionId
  released hended := by
    apply h.quiet
    · rcases hended with hended | hended <;> simp [hended]
    · rcases hended with hended | hended <;> simp [hended]
  waits stamp executionId directiveId s' hstep hended := by
    cases hstep with
    | start _ _ _ hloop => exact .inl (h.task_eq_none (.inl hloop))
    | woken _ _ _ hloop hwake => exact .inl (h.task_eq_none (.inr hloop))
    | entered _ _ _ hloop hentered => simp at hended
    | executed _ _ _ hloop htask => exact .inr ⟨_, _, htask⟩

/-- The sample session in an initialized project. -/
def sampleProjectSession : Except ControlError Tables := do
  let t ← sampleSession "prove True"
  pure ((StateOp.appendEvent (controlStamp '8') ⟨"ProjectInitialized", "cli", none, none,
    [("project_id", .str "project"), ("base_epoch", .str controlHash),
     ("knowledge_epoch", .int 0)]⟩).exec t)

/-- The supervisor of the sample session in its first turn. -/
def sampleSupervisor (t : Tables) : Supervisor :=
  (⟨t, .started, false, false, false, none, false, false⟩ : Supervisor).turn 1 "s"
    (controlStamp '9') ("execution-" ++ String.ofList (List.replicate 32 'e'))
    ("directive-" ++ String.ofList (List.replicate 32 'd'))

omit [CharacterDatabase] in
lemma entering_sampleSupervisor :
    letI := asciiDatabase
    sampleProjectSession.toOption.any (fun t =>
      ids t.publicationQueue == [] && (sampleSupervisor t).loop == .entering) = true := by
  decide +kernel

end Aizim.Orchestration
