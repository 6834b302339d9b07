import Aizim.Gateway.Capabilities

/-!
# The gateway

`CapabilityGateway.call` decides on a call of a worker before its first await: it counts the
request, looks the token up, compares what the session claims with what was recorded, and either
refuses, which is an event in the log, or hands an `AuthorizedCall` to the target of the operation.
`CapabilityGateway.decide` is that decision, with the counters of the gateway as its state.
-/

namespace Aizim.Gateway

open JsonValue JsonObject Domain State

/-! ## Limits -/

/-- What the gateway asks of readings of the monotonic clock, which are floating-point numbers. -/
class MonotonicClock (Reading : Type) where
  isFinite : Reading → Bool
  isPositive : Reading → Bool
  /-- `now < started` -/
  before : (now started : Reading) → Bool
  /-- `now - started >= window` -/
  elapsed : (now started window : Reading) → Bool

variable {Reading : Type} [MonotonicClock Reading]

/-- `GatewayLimits`, with the checks of its constructor. -/
structure GatewayLimits (Reading : Type) [MonotonicClock Reading] where
  requestLimit : ℕ
  windowSeconds : Reading
  runBudget : ℕ
  requestLimit_pos : 0 < requestLimit
  windowSeconds_valid : MonotonicClock.isFinite windowSeconds = true ∧
    MonotonicClock.isPositive windowSeconds = true
  runBudget_pos : 0 < runBudget

/-- `CapabilityGateway`: the operations that have a target, the limits and the counters. -/
structure CapabilityGateway (Reading : Type) [MonotonicClock Reading] where
  targets : List GatewayTool
  limits : GatewayLimits Reading
  windowStarted : Reading
  windowCount : ℕ
  runCounts : String → ℕ

/-- `_take_global_request` -/
def CapabilityGateway.takeGlobalRequest (g : CapabilityGateway Reading) (now : Reading) :
    CapabilityGateway Reading × Bool :=
  if MonotonicClock.isFinite now = false then (g, false)
  else
    let g := if MonotonicClock.before now g.windowStarted ||
        MonotonicClock.elapsed now g.windowStarted g.limits.windowSeconds then
      { g with windowStarted := now, windowCount := 0 }
      else g
    if g.limits.requestLimit ≤ g.windowCount then (g, false)
    else ({ g with windowCount := g.windowCount + 1 }, true)

/-- `_take_run_request` -/
def CapabilityGateway.takeRunRequest (g : CapabilityGateway Reading) (runId : String) :
    CapabilityGateway Reading × Bool :=
  if g.limits.runBudget ≤ g.runCounts runId then (g, false)
  else ({ g with runCounts := Function.update g.runCounts runId (g.runCounts runId + 1) }, true)

/-! ## Requests -/

/-- The operation of a call: a tool, or the text of one. -/
inductive RequestedOperation
  | tool (tool : GatewayTool)
  | text (value : String)

/-- The tool that is meant, if there is one. -/
def RequestedOperation.tool? : RequestedOperation → Option GatewayTool
  | .tool t => some t
  | .text value => GatewayTool.ofText? value

/-- A call, with what the gateway reads of its clocks and the id it gives the request. -/
structure GatewayRequest (Reading : Type) where
  session : CapabilitySession
  operation : RequestedOperation
  payload : JsonObject
  requestId : String
  monotonic : Reading
  now : Datetime

/-! ## Denials -/

/-- A character of a token, as `_TOKEN_SHAPED` has it. -/
def isTokenChar (c : Char) : Bool := isAsciiLetter c || isAsciiDigit c || c == '_' || c == '-'

/-- A text has a run of so many characters of a class, of which some were read just before. -/
def hasRunOf (p : Char → Bool) (length : ℕ) : (read : ℕ) → List Char → Bool
  | read, [] => length ≤ read
  | read, c :: cs => length ≤ read || hasRunOf p length (if p c then read + 1 else 0) cs

/-- `_IDENTIFIER.fullmatch` -/
def isGatewayIdentifier (value : String) : Bool :=
  fullmatchIdentifier (fun c => isAsciiLetter c || isAsciiDigit c)
    (fun c => isAsciiLetter c || isAsciiDigit c || c == '_' || c == '.' || c == ':' || c == '-')
    127 value

/-- `_safe_identifier` -/
def safeIdentifier (value : String) : String :=
  if isGatewayIdentifier value && !hasRunOf isTokenChar 32 0 value.toList then value
  else "<redacted>"

/-- `_safe_role` -/
def safeRole (value : String) : String :=
  ((AgentRole.ofText? value).map (·.text)).getD "<redacted>"

/-- `_safe_operation` -/
def safeOperation (operation : RequestedOperation) : String :=
  (operation.tool?.map (·.text)).getD "<redacted>"

/-- The event of `_deny`. -/
def denial (q : GatewayRequest Reading) (reason : String) (persistedRun : Option String) :
    AppendEventCommand :=
  ⟨"CapabilityDenied", "capability_gateway",
    some (safeIdentifier (persistedRun.getD q.session.runId)), none,
    [("reason_code", .str reason), ("role", .str (safeRole q.session.role)),
     ("worker_id", .str (safeIdentifier q.session.workerId)),
     ("operation", .str (safeOperation q.operation)),
     ("request_id", .str (safeIdentifier q.requestId))]⟩

/-! ## Decisions -/

/-- What the gateway decides on a call. -/
inductive GatewayDecision
  | denied (reason : String) (persistedRun : Option String)
  | authorized (call : AuthorizedCall)

/-- `_binding_denial` -/
def bindingDenial (record : CapabilityRecord) (session : CapabilitySession) : Option String :=
  if session.runId ≠ record.runId then some "RUN_MISMATCH"
  else if session.workerId ≠ record.workerId then some "WORKER_MISMATCH"
  else if session.role ≠ record.role then some "ROLE_MISMATCH"
  else if session.leaseId ≠ record.leaseId then some "LEASE_MISMATCH"
  else none

/-- The checks of a call against the record of its token, in their order, with the reason of a
denial as the exception. -/
def authorize (targets : List GatewayTool) (record : CapabilityRecord)
    (q : GatewayRequest Reading) : Except String AuthorizedCall := do
  require (q.now < record.expiresAt) "TOKEN_EXPIRED"
  require (record.revokedAt = none) "TOKEN_REVOKED"
  match bindingDenial record q.session with
  | some reason => throw reason
  | none =>
    let role ← orThrow (AgentRole.ofText? record.role) "UNADVERTISED_OPERATION"
    let operation ← orThrow q.operation.tool? "UNADVERTISED_OPERATION"
    require (operation ∈ advertisedTools role.text) "UNADVERTISED_OPERATION"
    require (operation.text ∈ record.operations) "OPERATION_NOT_MINTED"
    require (operation ∈ targets) "TARGET_UNREGISTERED"
    pure
      { requestId := q.requestId
        runId := record.runId
        workerId := record.workerId
        role
        leaseId := record.leaseId
        operation
        payload := q.payload }

/-- The decision of `call`, with the gateway after it. -/
def CapabilityGateway.decide (g : CapabilityGateway Reading) (t : Tables)
    (q : GatewayRequest Reading) : CapabilityGateway Reading × Except StoreError GatewayDecision :=
  let (g, taken) := g.takeGlobalRequest q.monotonic
  if taken = false then (g, .ok (.denied "REQUEST_RATE_EXCEEDED" none))
  else match q.session.token with
  | none => (g, .ok (.denied "MISSING_TOKEN" none))
  | some token =>
    if token = "" then (g, .ok (.denied "MISSING_TOKEN" none))
    else match capabilityRecord t (sha256Text token) with
    | .error e => (g, .error e)
    | .ok none => (g, .ok (.denied "UNKNOWN_TOKEN" none))
    | .ok (some record) =>
      if record.tokenHash ≠ sha256Text token then (g, .ok (.denied "UNKNOWN_TOKEN" none))
      else
        let (g, taken) := g.takeRunRequest record.runId
        if taken = false then (g, .ok (.denied "RUN_BUDGET_EXHAUSTED" (some record.runId)))
        else (g, .ok (match authorize g.targets record q with
          | .ok call => .authorized call
          | .error reason => .denied reason (some record.runId)))

end Aizim.Gateway
