import Aizim.Framework.Datetime
import Aizim.Framework.Text

/-!
# Domain values

The values of the domain model: the epoch a worker started from, the lease of a file, and the roles
of workers.  Epoch pairs and leases carry the checks of their constructors as fields, so a lease
with an empty name or a malformed hash cannot be built.
-/

namespace Aizim.Domain

/-- `EpochPair` -/
structure EpochPair where
  baseEpoch : String
  knowledgeEpoch : ℕ
  baseEpoch_valid : isSha256 baseEpoch = true
  deriving DecidableEq

/-- The constructor of an epoch pair, for an integer that may be negative. -/
def EpochPair.create? (baseEpoch : String) (knowledgeEpoch : Int) : Option EpochPair :=
  if h : isSha256 baseEpoch = true ∧ 0 ≤ knowledgeEpoch then
    some ⟨baseEpoch, knowledgeEpoch.toNat, h.1⟩
  else none

lemma EpochPair.create?_eq_some {baseEpoch : String} {knowledgeEpoch : Int} {pair : EpochPair} :
    create? baseEpoch knowledgeEpoch = some pair ↔
      pair.baseEpoch = baseEpoch ∧ (pair.knowledgeEpoch : Int) = knowledgeEpoch := by
  unfold create?
  constructor
  · intro h
    split at h
    · rename_i hvalid
      obtain rfl := Option.some.inj h
      exact ⟨rfl, Int.toNat_of_nonneg hvalid.2⟩
    · simp at h
  · obtain ⟨base, epoch, hbase⟩ := pair
    rintro ⟨rfl, rfl⟩
    simp [hbase]

/-- `FileLease`, without the recovery metadata, which no operation reads. -/
structure FileLease where
  leaseId : String
  workerId : String
  runId : String
  documentId : String
  virtualDocumentNamespace : String
  epochPair : EpochPair
  fileVersion : ℕ
  contentHash : String
  expiresAt : Datetime
  physicalFile : Option String
  names_ne : leaseId ≠ "" ∧ workerId ≠ "" ∧ runId ≠ "" ∧ documentId ≠ "" ∧
    virtualDocumentNamespace ≠ ""
  contentHash_valid : isSha256 contentHash = true

/-- `AgentRole` -/
inductive AgentRole
  | researchConductor
  | literatureScout
  | boundaryMapper
  | conjectureGenerator
  | noveltyAuditor
  | formalizer
  | formalPlanner
  | proofExplorer
  | lemmaInventor
  | counterexampleAgent
  | learningAgent
  deriving DecidableEq

namespace AgentRole

/-- The value of a role. -/
def text : AgentRole → String
  | researchConductor => "research_conductor"
  | literatureScout => "literature_scout"
  | boundaryMapper => "boundary_mapper"
  | conjectureGenerator => "conjecture_generator"
  | noveltyAuditor => "novelty_auditor"
  | formalizer => "formalizer"
  | formalPlanner => "formal_planner"
  | proofExplorer => "proof_explorer"
  | lemmaInventor => "lemma_inventor"
  | counterexampleAgent => "counterexample_agent"
  | learningAgent => "learning_agent"

/-- All roles. -/
def all : List AgentRole :=
  [researchConductor, literatureScout, boundaryMapper, conjectureGenerator, noveltyAuditor,
   formalizer, formalPlanner, proofExplorer, lemmaInventor, counterexampleAgent, learningAgent]

/-- The role with a value, if there is one. -/
def ofText? (value : String) : Option AgentRole := all.find? fun role => role.text == value

@[simp] lemma ofText?_text (role : AgentRole) : ofText? role.text = some role := by
  cases role <;> decide +kernel

lemma text_of_ofText? {value : String} {role : AgentRole} (h : ofText? value = some role) :
    role.text = value := by
  simpa using List.find?_some h

end AgentRole

end Aizim.Domain
