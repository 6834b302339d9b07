import Aizim.Knowledge.PromotionContext

/-!
# The promotion service

`promoteNext` claims the next contribution and takes it through verification, materialization and
publication; `recoverNext` takes over a claim that expired and goes on from the state it is in.
Both are programs: every transaction of the store, every read of it and every awaited call is one
effect, so that what runs beside them can come between any two.

A contribution that fails is quarantined, and one whose epoch or document has moved on is rebased:
a new contribution is submitted in its place.
-/

namespace Aizim.Knowledge

open JsonValue JsonObject Domain State

/-- The configuration of a `PromotionService`, with the checks of its constructor.  `root` is its
`namespace`. -/
structure PromotionService where
  ownerId : String
  allowedImports : List String
  root : String
  ownerId_ne : ownerId ≠ ""
  root_valid : root ∈ ["AizimSmoke.Research", "AizimResearch"]

variable [CharacterDatabase]

namespace PromotionService

/-- The reason that a failed promotion records for an exception. -/
def failureReason : Fault → String
  | .artifact code | .contribution code | .promotion code => code
  | _ => "PROMOTION_FAILED"

/-- `_fail` -/
def failEntry (service : PromotionService) (entry : PublicationQueueEntry) (runId : Option String)
    (reason : String) (evidence : Option PromotionEvidence) : PromotionProgram PromotionOutcome := do
  let quarantined ← quarantineFailure service.ownerId entry.contributionId runId reason
    ((evidence.map fun e => e.diagnostics ++ e.sourceScanWarnings).getD [])
    ((evidence.map PromotionEvidence.axioms).getD [])
  pure ⟨entry.contributionId, quarantined.state, none, none⟩

/-- The fields that a rebase onto a new version of a document changes. -/
def rebasedFields (patch : Option (ArtifactReference × ℕ × String)) : JsonObject :=
  match patch with
  | none => []
  | some (artifact, version, contentHash) =>
    [("payload_hash", .str artifact.contentHash), ("expected_file_version", .int version),
     ("expected_content_hash", .str contentHash)]

/-- The patch of `_rebase`, for a contribution that is one. -/
def rebasedPatch (service : PromotionService) (runId : String) (payload : JsonObject) :
    PromotionProgram (Option (ArtifactReference × ℕ × String)) := do
  let kind ← textField invalidContribution payload "payload_kind"
  if kind = "patch" then do
    let document ← documentFor payload
    match document with
    | none => throw (.promotion "DOCUMENT_NOT_FOUND")
    | some document => some <$> rebasePatch payload document runId service.allowedImports
  else pure none

/-- The id that a contribution is rebased to. -/
def rebasedId (contributionId : String) (current : EpochPair) : String :=
  sha256Json (.dict [("contribution_id", .str contributionId), ("epoch", epochJson current)])

/-- `_rebase` -/
def rebaseEntry (service : PromotionService) (entry : PublicationQueueEntry) (runId : String)
    (payload : JsonObject) (current : EpochPair) : PromotionProgram PromotionOutcome := do
  let patch ← service.rebasedPatch runId payload
  let rebased := rebasedId entry.contributionId current
  let nextPayload := (payload.update
    [("contribution_id", .str rebased), ("base_epoch", .str current.baseEpoch),
     ("knowledge_epoch", .int current.knowledgeEpoch),
     ("rebased_from", .str entry.contributionId)]).update (rebasedFields patch)
  let _ ← rebasePromotion entry.contributionId service.ownerId
    ⟨"ContributionSubmitted", "promotion_service", some runId, none, nextPayload⟩
    ⟨"ContributionRebased", "promotion_service", some runId, none,
      [("contribution_id", .str rebased), ("source_contribution_id", .str entry.contributionId),
       ("base_epoch", .str current.baseEpoch)]⟩
  pure ⟨entry.contributionId, .quarantined, none, some rebased⟩

/-- `materialize` of a stored module. -/
def materializeModule (module : ArtifactReference) (current : EpochPair) (sequence : ℕ) :
    PromotionProgram PromotionMaterialization := do
  let source ← onFiles (loadArtifact module.runId module.category module.contentHash)
  let result ← materialize source current sequence
  require (result.contentHash = Sha256.hexdigest source)
    (Fault.promotion "MATERIALIZATION_HASH_MISMATCH")
  pure result

/-- `_publish` -/
def publish (service : PromotionService) (entry : PublicationQueueEntry) (runId : String)
    (payload : JsonObject) (current : EpochPair) (module : ArtifactReference)
    (materialization : PromotionMaterialization) (evidence : PromotionEvidence) (name : String) :
    PromotionProgram PromotionOutcome := do
  let evidenceLinks ← stringsField payload "evidence_links"
  let publication ← (publicationDelta
    { contributionId := entry.contributionId
      moduleName := materialization.module
      name
      completeType := evidence.completeType
      dependencies := evidence.dependencies
      assumptions := evidence.assumptions
      axioms := evidence.axioms
      evidenceLinks
      sequence := entry.enqueueSequence }
    runId current materialization.baseEpoch module).mapError Fault.store
  let _ ← preparePromotion entry.contributionId service.ownerId publication.prepared
  active entry.contributionId service.ownerId (activate materialization)
  let published ← publishPromotion entry.contributionId service.ownerId publication.declaration
    publication.delta
  pure ⟨entry.contributionId, published.state, some publication.newEpoch, none⟩

/-- Move an entry on from one state to the next, where it is still in the first. -/
def advanceFrom (service : PromotionService) (entry : PublicationQueueEntry)
    (state target : PublicationQueueState) : PromotionProgram PublicationQueueEntry :=
  if entry.state = state then advancePromotion entry.contributionId service.ownerId target
  else pure entry

/-- `_promote` from the verification on. -/
def promoteSource (service : PromotionService) (entry : PublicationQueueEntry) (runId : String)
    (payload : JsonObject) (current : EpochPair) : PromotionProgram PromotionOutcome := do
  let payloadHash ← textField invalidContribution payload "payload_hash"
  let source ← onFiles (loadArtifact runId "contributions" payloadHash)
  let candidateName ← textField invalidContribution payload "candidate_name"
  let completeType ← textField invalidContribution payload "complete_type"
  (validateCandidateSource source candidateName completeType service.allowedImports).mapError
    Fault.contribution
  let name := researchName candidateName payloadHash service.root
  let evidence ← active entry.contributionId service.ownerId (verify source name)
  recordVerification runId entry.contributionId evidence
  if evidence.accepted = false then
    service.failEntry entry (some runId) "LEAN_VERIFICATION_FAILED" (some evidence)
  else do
    let verified ← service.advanceFrom entry .staged .verified
    let module ← onFiles (storeArtifact runId "promotions" (evidence.moduleSource.getD source)
      "text/x-lean")
    let materialized ← service.advanceFrom verified .verified .materialized
    let result ← active entry.contributionId service.ownerId
      (materializeModule module current materialized.enqueueSequence)
    service.publish materialized runId payload current module result evidence name

/-- The body of the `try` of `_promote`. -/
def attempt (service : PromotionService) (entry : PublicationQueueEntry) :
    PromotionProgram PromotionOutcome := do
  let event ← findContribution entry.contributionId
  let current ← currentEpoch
  let runId ← orThrow event.runId invalidContribution
  let stale ← isStale event.payload current
  if stale then service.rebaseEntry entry runId event.payload current
  else service.promoteSource entry runId event.payload current

/-- `_promote` -/
def promote (service : PromotionService) (entry : PublicationQueueEntry) :
    PromotionProgram PromotionOutcome :=
  tryCatch (service.attempt entry) fun fault => do
    let runId ← contributionRunId entry.contributionId
    service.failEntry entry runId (failureReason fault) none

/-- Promote an entry, if there is one. -/
def promoteEntry (service : PromotionService) :
    Option PublicationQueueEntry → PromotionProgram (Option PromotionOutcome)
  | none => pure none
  | some entry => some <$> service.promote entry

/-- `promote_next` -/
def promoteNext (service : PromotionService) : PromotionProgram (Option PromotionOutcome) := do
  let entry ← claimNext service.ownerId
  service.promoteEntry entry

/-- `recover_next`, with the timeout in microseconds. -/
def recoverNext (service : PromotionService) (claimTimeout : ℕ) :
    PromotionProgram (Option PromotionOutcome) := do
  let entry ← recoverExpired service.ownerId claimTimeout
  service.promoteEntry entry

end PromotionService

end Aizim.Knowledge
