import Mathlib.Data.Rat.Defs
import Mathlib.Algebra.Order.Ring.Rat
import Aizim.Gateway.Capabilities
import Aizim.Knowledge.Artifacts
import Aizim.Orchestration.ControllerSystem
import Aizim.Research.Statement

/-!
# The dispatcher of the controller

`prepareNext` claims the next assignment; `planAndExecute` asks the controller's backend what to do
with it, carries that out with a worker host, and records how it ended.

The backend, the host and the artifact store are outside: what they answer is given
(`DispatchEnvironment`), and so is what happens to the store while one of them is awaited.  An
exception that one of them raises is an answer too.
-/

namespace Aizim.Orchestration

open JsonValue JsonObject Domain State Gateway Knowledge Research

/-! ## Decisions -/

/-- `MAX_CONTROLLER_INSTRUCTION_BYTES` -/
def maxControllerInstructionBytes : ℕ := 64 * 1024

/-- `MAX_WORKER_BUDGET` -/
def maxWorkerBudget : Int := 12

/-- `MAX_WORKER_TIMEOUT_SECONDS` -/
def maxWorkerTimeoutSeconds : ℚ := 60

/-- `DispatchDecision`.  A timeout that is not finite is no number here; `milliseconds` is
`math.ceil(timeout_seconds * 1_000)`, which is computed in floating point. -/
structure DispatchDecision where
  workerId : String
  instruction : String
  budget : Int
  timeoutSeconds : Option ℚ
  milliseconds : Int

/-- `ControllerDecision`; the dispatcher does not read the reasons of a refusal. -/
inductive ControllerDecision
  | dispatch (decision : DispatchDecision)
  | blocked
  | reject

/-- `ControllerContext` -/
structure ControllerContext where
  assignmentId : String
  taskVersion : ℕ
  task : String
  workerId : String
  role : AgentRole
  projectId : String
  baseEpoch : String
  knowledgeEpoch : Int
  allowedOperations : List String
  maxBudget : Int
  maxTimeoutSeconds : ℚ
  controllerVersion : ℕ

/-- `ControllerRun` -/
structure ControllerRun where
  version : ℕ
  sessionId : String
  projectId : String
  baseEpoch : String
  knowledgeEpoch : Int

/-- `PreparedDispatch` -/
structure PreparedDispatch where
  claim : ClaimedAssignment
  directiveId : String
  context : ControllerContext

/-- `WorkerDirective` -/
structure WorkerDirective where
  directiveId : String
  workerId : String
  role : AgentRole
  initialSource : Bytes
  budget : Int
  timeoutSeconds : Option ℚ
  operations : List GatewayTool

/-! ## Preparation -/

/-- `CONTROLLER_WORKER_TOOLS` -/
def controllerTools : List GatewayTool :=
  [.projectRead, .leanGoal, .leanMultiAttempt, .leanDiagnostics, .documentApply,
   .contributionSubmit, .knowledgeRead]

/-- `WorkerGatewayActions.target_tools()` -/
def targetTools : List GatewayTool :=
  [.leanGoal, .leanMultiAttempt, .leanDiagnostics, .documentApply, .contributionSubmit,
   .knowledgeRead]

/-- `controller_worker_tools` -/
def controllerWorkerTools (role : AgentRole) : List GatewayTool :=
  (advertisedTools role.text).filter fun tool =>
    controllerTools.contains tool && targetTools.contains tool

/-- The context of a claim. -/
def contextOf (run : ControllerRun) (claim : ClaimedAssignment) : ControllerContext where
  assignmentId := claim.assignmentId
  taskVersion := claim.taskVersion
  task := claim.task
  workerId := claim.workerId
  role := claim.role
  projectId := run.projectId
  baseEpoch := run.baseEpoch
  knowledgeEpoch := run.knowledgeEpoch
  allowedOperations := (controllerWorkerTools claim.role).map (·.text)
  maxBudget := maxWorkerBudget
  maxTimeoutSeconds := maxWorkerTimeoutSeconds
  controllerVersion := claim.controllerVersion

section

variable [CharacterDatabase]

/-- The loop of `prepare_next` over the workers of the roster. -/
def prepareFirst (t : Tables) (stamp : Stamp) (run : ControllerRun)
    (executionId directiveId : String) :
    List ProjectionRecord → Except ControlError (Option (Tables × PreparedDispatch))
  | [] => pure none
  | worker :: workers =>
    match findRecord t.projections .workerAssignments worker.entityId with
    | none => prepareFirst t stamp run executionId directiveId workers
    | some assignment => do
      let payload ← payloadOf assignment
      let assignmentId ← textOf payload "assignment_id"
      if findRecord t.projections .workerExecutions assignmentId ≠ none then
        prepareFirst t stamp run executionId directiveId workers
      else
        let (t, claim) ← claimAssignment t stamp worker.entityId run.sessionId run.version
          executionId
        pure (some (t, ⟨claim, directiveId, contextOf run claim⟩))

/-- `prepare_next`; the records of a projection are sorted by their entities. -/
def prepareNext (t : Tables) (stamp : Stamp) (run : ControllerRun)
    (executionId directiveId : String) :
    Except ControlError (Option (Tables × PreparedDispatch)) := do
  require ((findRecord t.projections .controller controllerId).map (·.version) = some run.version)
    (.execution "CONTROLLER_VERSION_STALE")
  prepareFirst t stamp run executionId directiveId (projectionsOf t.projections .workerRoster)

end

/-! ## Awaiting -/

/-- What happens to the store while the dispatcher awaits. -/
inductive EnvironmentStep
  | operator (stamp : Stamp) (op : ControlOperation)
  | service (op : StateOp)

/-- What an awaited call ends with. -/
inductive CallOutcome (α : Type)
  | returned (a : α)
  | raised
  | cancelled

/-- What the planning call ends with. -/
inductive PlanOutcome
  | decided (decision : ControllerDecision)
  | timeout
  | backendError
  | cancelled
  | raised

/-- An awaited call: what happens to the store meanwhile, and what the call ends with. -/
structure Awaited (α : Type) where
  meanwhile : List EnvironmentStep
  outcome : α

/-- What is outside of the dispatcher: the awaited calls, what the artifact store answers for the
directive, and the stamps of the two events.  The worker host runs to a cursor, given in canonical
form. -/
structure DispatchEnvironment where
  plan : Awaited PlanOutcome
  artifact : Option ArtifactReference
  opening : Awaited (CallOutcome Unit)
  running : Awaited (CallOutcome JsonValue)
  closing : Awaited (CallOutcome Unit)
  plannedStamp : Stamp
  terminalStamp : Stamp

/-- What the dispatcher ends with.  Of the exceptions only those that are caught somewhere are told
apart. -/
inductive DispatchResult
  | returned
  | timeout
  | backendError
  | cancelled
  | raised
  deriving DecidableEq

section

variable [CharacterDatabase]

/-- The tables after a step of the environment; a request that is refused changes nothing. -/
def EnvironmentStep.exec (t : Tables) : EnvironmentStep → Tables
  | operator stamp op => settle t (op.run t stamp)
  | service op => op.exec t

/-- The tables when an awaited call has ended. -/
def Awaited.wait {α : Type} (awaited : Awaited α) (t : Tables) : Tables :=
  awaited.meanwhile.foldl EnvironmentStep.exec t

/-! ## Dispatching -/

omit [CharacterDatabase] in
/-- `_valid_dispatch` -/
def validDispatch (decision : DispatchDecision) (context : ControllerContext) : Bool :=
  decision.workerId == context.workerId &&
    0 < (encode decision.instruction).length &&
    (encode decision.instruction).length ≤ maxControllerInstructionBytes &&
    1 ≤ decision.budget && decision.budget ≤ context.maxBudget &&
    decision.timeoutSeconds.any fun seconds => 0 < seconds && seconds ≤ context.maxTimeoutSeconds

/-- The statement of a task that asks for a proof. -/
def formalTarget? (task : String) : Option String :=
  (removePrefix? "prove " task).bind fun rest =>
    if strip rest = "" then none else some (strip rest)

/-- `candidate_name` -/
def candidateName (runId workerId : String) : String :=
  let stem := if workerId = "prover-a" then "a_add_zero"
    else if workerId = "prover-b" then "b_use_a" else "candidate"
  stem ++ "_" ++ String.ofList ((sha256Text (runId ++ "\x00" ++ workerId)).toList.take 16)

/-- The directive of a valid decision. -/
def directiveOf (prepared : PreparedDispatch) (decision : DispatchDecision) (statement : String) :
    Except ResearchError WorkerDirective := do
  let claim := prepared.claim
  let name := candidateName ("task-" ++ claim.executionId) claim.workerId
  let initialSource ← statementSource name statement ["Std"]
  pure ⟨prepared.directiveId, claim.workerId, claim.role, initialSource, decision.budget,
    decision.timeoutSeconds, controllerWorkerTools claim.role⟩

/-- A write of the dispatcher: what it raises is caught nowhere. -/
def write (t : Tables) : Except ControlError Tables → Tables × DispatchResult
  | .ok t' => (t', .returned)
  | .error _ => (t, .raised)

/-- `_fail` -/
def failWith (t : Tables) (stamp : Stamp) (claim : ClaimedAssignment) (code : String) :
    Tables × DispatchResult :=
  write t (failAssignment t stamp claim code)

/-- The worker host is opened, runs the directive, and is closed. -/
def runHost (t : Tables) (env : DispatchEnvironment) : Tables × CallOutcome JsonValue :=
  let t := env.opening.wait t
  match env.opening.outcome with
  | .raised => (t, .raised)
  | .cancelled => (t, .cancelled)
  | .returned () =>
    let t := env.closing.wait (env.running.wait t)
    match env.closing.outcome with
    | .raised => (t, .raised)
    | .cancelled => (t, .cancelled)
    | .returned () => (t, env.running.outcome)

/-- The last part of `_dispatch`, after the dispatch was planned. -/
def runPlanned (t : Tables) (claim : ClaimedAssignment) (env : DispatchEnvironment) :
    Tables × DispatchResult :=
  match runHost t env with
  | (t, .cancelled) => (t, .cancelled)
  | (t, .raised) => failWith t env.terminalStamp claim "WORKER_FAILED"
  | (t, .returned cursor) =>
    write t (completeAssignment t env.terminalStamp claim (sha256Json cursor))

/-- `_dispatch` -/
def dispatch (t : Tables) (prepared : PreparedDispatch) (decision : DispatchDecision)
    (env : DispatchEnvironment) : Tables × DispatchResult :=
  let claim := prepared.claim
  if validDispatch decision prepared.context = false then
    failWith t env.terminalStamp claim "CONTROLLER_DECISION_INVALID"
  else if controllerWorkerTools claim.role = [] then
    failWith t env.terminalStamp claim "WORKER_ROLE_UNSUPPORTED"
  else match formalTarget? claim.task with
    | none => failWith t env.terminalStamp claim "FORMAL_TARGET_REQUIRED"
    | some statement =>
      match directiveOf prepared decision statement with
      | .error _ => (t, .raised)
      | .ok directive =>
        match env.artifact with
        | none => (t, .raised)
        | some artifact =>
          match recordDispatchPlanned t env.plannedStamp claim directive.directiveId
            artifact.contentHash (sha256Text decision.instruction) directive.budget.toNat
            (max 1 decision.milliseconds).toNat with
          | .error _ => (t, .raised)
          | .ok t => runPlanned t claim env

/-- The handlers of `plan_and_execute`. -/
def handle (prepared : PreparedDispatch) (env : DispatchEnvironment) :
    Tables × DispatchResult → Tables × DispatchResult
  | (t, .returned) => (t, .returned)
  | (t, .raised) => (t, .raised)
  | (t, .timeout) => failWith t env.terminalStamp prepared.claim "CONTROLLER_TIMEOUT"
  | (t, .backendError) =>
    failWith t env.terminalStamp prepared.claim "CONTROLLER_DECISION_INVALID"
  | (t, .cancelled) =>
    match interruptAssignment t env.terminalStamp prepared.claim "OPERATOR_SIGNAL" with
    | .ok t => (t, .cancelled)
    | .error _ => (t, .raised)

/-- `plan_and_execute` -/
def planAndExecute (t : Tables) (prepared : PreparedDispatch) (env : DispatchEnvironment) :
    Tables × DispatchResult :=
  let claim := prepared.claim
  let t := env.plan.wait t
  handle prepared env <| match env.plan.outcome with
    | .decided .blocked => failWith t env.terminalStamp claim "CONTROLLER_BLOCKED"
    | .decided .reject => failWith t env.terminalStamp claim "CONTROLLER_REJECTED"
    | .decided (.dispatch decision) => dispatch t prepared decision env
    | .timeout => (t, .timeout)
    | .backendError => (t, .backendError)
    | .cancelled => (t, .cancelled)
    | .raised => (t, .raised)

end

end Aizim.Orchestration
