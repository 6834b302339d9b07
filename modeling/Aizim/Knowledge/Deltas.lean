import Aizim.Knowledge.Artifacts
import Aizim.State.Service

/-!
# Knowledge deltas

A publication moves the project to a new pair of epochs.  `publicationDelta` makes the three
events of one: the preparation, the declaration and the delta, which share their ids.
-/

namespace Aizim.Knowledge

open JsonValue JsonObject Domain State

/-! ## Publications -/

/-- The constructor of an epoch pair, with the exceptions it raises. -/
def newEpochPair (baseEpoch : String) (knowledgeEpoch : Int) : Except StoreError EpochPair := do
  require (isSha256 baseEpoch = true)
    (.contract "base_epoch" "must be a 64-character lowercase hexadecimal hash")
  orThrow (EpochPair.create? baseEpoch knowledgeEpoch)
    (.contract "knowledge_epoch" "must be a non-negative integer")

lemma newEpochPair_eq_ok {baseEpoch : String} {knowledgeEpoch : Int} {pair : EpochPair} :
    newEpochPair baseEpoch knowledgeEpoch = .ok pair ↔
      pair.baseEpoch = baseEpoch ∧ (pair.knowledgeEpoch : Int) = knowledgeEpoch := by
  simp only [newEpochPair, bind_eq_ok, require_eq_ok, orThrow_eq_ok, exists_and_left, exists_const,
    EpochPair.create?_eq_some, and_iff_right_iff_imp]
  rintro ⟨rfl, -⟩
  exact pair.baseEpoch_valid

/-- An epoch pair as JSON. -/
def epochJson (pair : EpochPair) : JsonValue :=
  .dict [("base_epoch", .str pair.baseEpoch), ("knowledge_epoch", .int pair.knowledgeEpoch)]

/-- `_items` -/
def items (values : List String) : JsonValue := .list (values.map .str)

/-- The events of a publication, and the epochs it moves to. -/
structure PublicationDelta where
  newEpoch : EpochPair
  prepared : AppendEventCommand
  declaration : AppendEventCommand
  delta : AppendEventCommand

/-- What a publication records about its declaration. -/
structure PublicationRecord where
  contributionId : String
  moduleName : String
  name : String
  completeType : String
  dependencies : List String
  assumptions : List String
  axioms : List String
  evidenceLinks : List String
  sequence : ℕ

/-- `publication_delta` -/
def publicationDelta (r : PublicationRecord) (runId : String) (current : EpochPair)
    (newBaseEpoch : String) (module : ArtifactReference) : Except StoreError PublicationDelta := do
  let newEpoch ← newEpochPair newBaseEpoch (current.knowledgeEpoch + 1)
  let declarationId := sha256Json
    (.dict [("name", .str r.name), ("module", .str module.contentHash)])
  let deltaId := sha256Json
    (.dict [("declaration", .str declarationId), ("epoch", epochJson newEpoch)])
  pure
    { newEpoch
      prepared := ⟨"PromotionPrepared", "promotion_service", some runId, none,
        [("contribution_id", .str r.contributionId), ("module", .str r.moduleName),
         ("content_hash", .str module.contentHash), ("base_epoch", .str newEpoch.baseEpoch),
         ("knowledge_epoch", .int newEpoch.knowledgeEpoch),
         ("declaration_id", .str declarationId), ("delta_id", .str deltaId)]⟩
      declaration := ⟨"DeclarationPublished", "promotion_service", some runId, none,
        [("declaration_id", .str declarationId), ("name", .str r.name),
         ("type", .str r.completeType), ("content_hash", .str module.contentHash),
         ("contribution_id", .str r.contributionId), ("module", .str r.moduleName),
         ("dependencies", items r.dependencies), ("assumptions", items r.assumptions),
         ("axioms", items r.axioms), ("evidence_links", items r.evidenceLinks),
         ("publication_sequence", .int r.sequence)]⟩
      delta := ⟨"KnowledgeDeltaPublished", "promotion_service", some runId, none,
        [("delta_id", .str deltaId), ("base_epoch", .str newEpoch.baseEpoch),
         ("knowledge_epoch", .int newEpoch.knowledgeEpoch),
         ("declaration_id", .str declarationId), ("contribution_id", .str r.contributionId),
         ("previous_base_epoch", .str current.baseEpoch),
         ("previous_knowledge_epoch", .int current.knowledgeEpoch),
         ("fully_qualified_name", .str r.name), ("complete_type", .str r.completeType),
         ("module", .str r.moduleName), ("dependencies", items r.dependencies),
         ("assumptions", items r.assumptions), ("axioms", items r.axioms),
         ("evidence_links", items r.evidenceLinks), ("publication_sequence", .int r.sequence)]⟩ }

/-- The declaration and the delta of a publication name one module and one declaration. -/
lemma publicationDelta_agree {r : PublicationRecord} {runId newBaseEpoch : String}
    {current : EpochPair} {module : ArtifactReference} {publication : PublicationDelta}
    (h : publicationDelta r runId current newBaseEpoch module = .ok publication) :
    getEntry "module" publication.delta.payload =
        getEntry "module" publication.declaration.payload ∧
      getEntry "declaration_id" publication.delta.payload =
        getEntry "declaration_id" publication.declaration.payload := by
  simp only [publicationDelta, bind_eq_ok, pure_eq_ok] at h
  obtain ⟨newEpoch, -, rfl⟩ := h
  simp [getEntry]

/-- `research_name` -/
def researchName (candidate digest root : String) : String :=
  let stem := candidate.toList.map fun c => if isIdentifierRest c then c else '_'
  let candidatePrefix := if stem.head?.all isAsciiDigit then "candidate_" else ""
  root ++ "." ++ candidatePrefix ++ String.ofList stem ++ "_" ++
    String.ofList (digest.toList.take 16)

end Aizim.Knowledge
