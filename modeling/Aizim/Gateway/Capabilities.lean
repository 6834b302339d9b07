import Aizim.Framework.JsonPrinter
import Aizim.State.Capabilities

/-!
# Capabilities

The tools of the gateway, which role may use which of them, and what a capability grants.  A grant
carries the checks of its constructor as fields, so a grant beyond the tools of its role cannot be
built; `CapabilityIssuer.mint` records it under the hash of a new token.
-/

namespace Aizim.Gateway

open JsonValue JsonObject Domain State

/-! ## Tools and roles -/

/-- `GatewayTool` -/
inductive GatewayTool
  | stateQuery
  | schedulePropose
  | evidenceQuery
  | searchBrokered
  | evidenceSubmit
  | candidateSubmit
  | auditSubmit
  | projectRead
  | leanGoal
  | leanMultiAttempt
  | leanDiagnostics
  | alignmentSubmit
  | formalGraphRead
  | taskEdgeSubmit
  | documentApply
  | contributionSubmit
  | knowledgeRead
  | traceRead
  | annotationSubmit
  | stateAppend
  | documentResolvePath
  | leanBuild
  | leanVerify
  | promotionEnqueue
  | promotionPublish
  | environmentApprove
  | capabilityMint
  deriving DecidableEq

namespace GatewayTool

/-- The value of a tool. -/
def text : GatewayTool → String
  | stateQuery => "state.query"
  | schedulePropose => "schedule.propose"
  | evidenceQuery => "evidence.query"
  | searchBrokered => "search.brokered"
  | evidenceSubmit => "evidence.submit"
  | candidateSubmit => "candidate.submit"
  | auditSubmit => "audit.submit"
  | projectRead => "project.read"
  | leanGoal => "lean.goal"
  | leanMultiAttempt => "lean.multi_attempt"
  | leanDiagnostics => "lean.diagnostics"
  | alignmentSubmit => "alignment.submit"
  | formalGraphRead => "formal_graph.read"
  | taskEdgeSubmit => "task_edge.submit"
  | documentApply => "document.apply"
  | contributionSubmit => "contribution.submit"
  | knowledgeRead => "knowledge.read"
  | traceRead => "trace.read"
  | annotationSubmit => "annotation.submit"
  | stateAppend => "state.append"
  | documentResolvePath => "document.resolve_path"
  | leanBuild => "lean.build"
  | leanVerify => "lean.verify"
  | promotionEnqueue => "promotion.enqueue"
  | promotionPublish => "promotion.publish"
  | environmentApprove => "environment.approve"
  | capabilityMint => "capability.mint"

/-- All tools. -/
def all : List GatewayTool :=
  [stateQuery, schedulePropose, evidenceQuery, searchBrokered, evidenceSubmit, candidateSubmit,
   auditSubmit, projectRead, leanGoal, leanMultiAttempt, leanDiagnostics, alignmentSubmit,
   formalGraphRead, taskEdgeSubmit, documentApply, contributionSubmit, knowledgeRead, traceRead,
   annotationSubmit, stateAppend, documentResolvePath, leanBuild, leanVerify, promotionEnqueue,
   promotionPublish, environmentApprove, capabilityMint]

/-- The tool with a value, if there is one. -/
def ofText? (value : String) : Option GatewayTool := all.find? fun tool => tool.text == value

@[simp] lemma ofText?_text (tool : GatewayTool) : ofText? tool.text = some tool := by
  cases tool <;> decide +kernel

lemma text_injective {a b : GatewayTool} (h : a.text = b.text) : a = b := by
  simpa using congrArg ofText? h

lemma text_of_ofText? {value : String} {tool : GatewayTool} (h : ofText? value = some tool) :
    tool.text = value := by
  simpa using List.find?_some h

lemma text_ne (tool : GatewayTool) : tool.text ≠ "" := by
  cases tool <;> decide

end GatewayTool

/-- `ROLE_CAPABILITIES` -/
def roleCapabilities : AgentRole → List GatewayTool
  | .researchConductor => [.stateQuery, .schedulePropose]
  | .literatureScout => [.evidenceQuery, .searchBrokered, .evidenceSubmit]
  | .boundaryMapper => [.evidenceQuery, .evidenceSubmit]
  | .conjectureGenerator => [.candidateSubmit]
  | .noveltyAuditor => [.evidenceQuery, .searchBrokered, .auditSubmit]
  | .formalizer => [.projectRead, .leanGoal, .leanMultiAttempt, .leanDiagnostics,
    .candidateSubmit, .alignmentSubmit]
  | .formalPlanner => [.formalGraphRead, .taskEdgeSubmit]
  | .proofExplorer => [.projectRead, .leanGoal, .leanMultiAttempt, .leanDiagnostics,
    .documentApply, .contributionSubmit, .knowledgeRead]
  | .lemmaInventor => [.projectRead, .leanGoal, .leanMultiAttempt, .leanDiagnostics,
    .documentApply, .contributionSubmit, .knowledgeRead]
  | .counterexampleAgent => [.projectRead, .leanGoal, .leanMultiAttempt, .leanDiagnostics,
    .documentApply, .evidenceSubmit, .contributionSubmit, .knowledgeRead]
  | .learningAgent => [.formalGraphRead, .knowledgeRead, .traceRead, .annotationSubmit]

/-- `advertised_tools`, for the value of a role. -/
def advertisedTools (role : String) : List GatewayTool :=
  match AgentRole.ofText? role with
  | some role => roleCapabilities role
  | none => []

lemma advertisedTools_text (role : AgentRole) :
    advertisedTools role.text = roleCapabilities role := by
  simp [advertisedTools]

/-! ## Grants and calls -/

/-- `CapabilityGrant`, with the checks of its constructor. -/
structure CapabilityGrant where
  runId : String
  workerId : String
  role : AgentRole
  leaseId : Option String
  operations : List GatewayTool
  expiresAt : Datetime
  names_ne : runId ≠ "" ∧ workerId ≠ ""
  leaseId_ne : leaseId ≠ some ""
  operations_ne : operations ≠ []
  operations_nodup : operations.Nodup
  operations_advertised : ∀ operation ∈ operations, operation ∈ roleCapabilities role

/-- `CapabilitySession` -/
structure CapabilitySession where
  token : Option String
  runId : String
  workerId : String
  role : String
  leaseId : Option String

/-- `AuthorizedCall` -/
structure AuthorizedCall where
  requestId : String
  runId : String
  workerId : String
  role : AgentRole
  leaseId : Option String
  operation : GatewayTool
  payload : JsonObject

/-! ## Minting -/

lemma role_text_ne (role : AgentRole) : role.text ≠ "" := by
  cases role <;> decide

/-- The record of a grant under a token. -/
def CapabilityGrant.record (grant : CapabilityGrant) (rawToken : String) : CapabilityRecord where
  tokenHash := sha256Text rawToken
  runId := grant.runId
  workerId := grant.workerId
  role := grant.role.text
  leaseId := grant.leaseId
  operations := grant.operations.map (·.text)
  expiresAt := grant.expiresAt
  revokedAt := none
  tokenHash_valid := isSha256_hexdigest _
  names_ne := ⟨grant.names_ne.1, grant.names_ne.2, role_text_ne grant.role⟩
  leaseId_ne := grant.leaseId_ne
  operations_valid := by
    refine ⟨by simpa using grant.operations_ne, ?_, ?_⟩
    · simp [GatewayTool.text_ne]
    · exact grant.operations_nodup.map fun _ _ h => GatewayTool.text_injective h

variable [CharacterDatabase]

/-- `CapabilityIssuer.mint`, for the token that the factory made. -/
def CapabilityIssuer.mint (t : Tables) (stamp : Stamp) (rawToken : String)
    (grant : CapabilityGrant) : Except StoreError (Tables × String) := do
  require (rawToken ≠ "") (.value "token factory must return a non-empty string")
  let (t, _) ← StateService.persistCapability t stamp (grant.record rawToken)
  pure (t, rawToken)

end Aizim.Gateway
