import Aizim.Knowledge.Contributions
import Aizim.Knowledge.PromotionTypes

/-!
# What a promotion reads and records

The reads of the store that a promotion makes, each from its own snapshot, the record of a
verification, the record of a failure, and the rebase of a patch onto the current version of its
document.
-/

namespace Aizim.Knowledge

open JsonValue JsonObject Domain State

/-! ## Fields -/

/-- `text_field`, with the exception of the reader. -/
def textField (error : Fault) (payload : JsonObject) (field : String) : Except Fault String :=
  match getEntry field payload with
  | some (.str s) => if s = "" then .error error else .ok s
  | _ => .error error

lemma textField_ne {error : Fault} {payload : JsonObject} {field text : String}
    (h : textField error payload field = .ok text) : text ≠ "" := by
  unfold textField at h
  split at h
  · split at h
    · simp at h
    · rename_i hne
      exact Except.ok.inj h ▸ hne
  · simp at h

/-- `integer_field`, with the exception of the reader. -/
def integerField (error : Fault) (payload : JsonObject) (field : String) : Except Fault ℕ :=
  match getEntry field payload with
  | some (.int i) => if i < 0 then .error error else .ok i.toNat
  | _ => .error error

/-- The exception of a malformed contribution. -/
def invalidContribution : Fault := .promotion "INVALID_CONTRIBUTION"

/-- One item of `strings_field`. -/
def nonEmptyText : JsonValue → Except Fault String
  | .str s => if s = "" then .error invalidContribution else .ok s
  | _ => .error invalidContribution

/-- `strings_field` -/
def stringsField (payload : JsonObject) (field : String) : Except Fault (List String) :=
  match getEntry field payload with
  | some (.list values) => values.mapM nonEmptyText
  | _ => .error invalidContribution

variable [CharacterDatabase]

/-! ## Reads -/

/-- `find_contribution` on a snapshot. -/
def findContributionIn (t : Tables) (contributionId : String) : Except Fault EventEnvelope := do
  let records ← (queryEvents t.toEventLog none).mapError Fault.store
  let submission := records.find? fun record =>
    record.envelope.eventType == .contributionSubmitted &&
      getEntry "contribution_id" record.envelope.payload == some (.str contributionId)
  match submission with
  | some record => pure record.envelope
  | none => throw (.promotion "PROMOTION_NOT_FOUND")

/-- `find_contribution` -/
def findContribution (contributionId : String) : PromotionProgram EventEnvelope := do
  let t ← snapshot
  findContributionIn t contributionId

/-- `contribution_run_id` -/
def contributionRunId (contributionId : String) : PromotionProgram (Option String) := do
  let event ← findContribution contributionId
  pure event.runId

/-- `current_epoch` on a snapshot. -/
def currentEpochIn (t : Tables) : Except Fault EpochPair := do
  let row ← orThrow (findRecord t.projections .epochs "global") (.promotion "EPOCH_MISMATCH")
  let payload ← orThrow row.stateJson.object? (.promotion "EPOCH_MISMATCH")
  let baseEpoch ← textField invalidContribution payload "base_epoch"
  let knowledgeEpoch ← integerField invalidContribution payload "knowledge_epoch"
  (newEpochPair baseEpoch knowledgeEpoch).mapError Fault.store

/-- `current_epoch` -/
def currentEpoch : PromotionProgram EpochPair := do
  let t ← snapshot
  currentEpochIn t

/-- `document_for` on a snapshot: the payload in the document's projection. -/
def documentIn (t : Tables) (documentId : String) : Option JsonObject :=
  (findRecord t.projections .documents documentId).bind fun row =>
    row.stateJson.object?.bind fun state => State.object? (getEntry "payload" state)

/-- `document_for` -/
def documentFor (payload : JsonObject) : PromotionProgram (Option JsonObject) := do
  let documentId ← textField invalidContribution payload "document_id"
  let t ← snapshot
  pure (documentIn t documentId)

/-- `is_stale` -/
def isStale (payload : JsonObject) (current : EpochPair) : PromotionProgram Bool := do
  let baseEpoch ← textField invalidContribution payload "base_epoch"
  let knowledgeEpoch ← integerField invalidContribution payload "knowledge_epoch"
  if (baseEpoch, knowledgeEpoch) ≠ (current.baseEpoch, current.knowledgeEpoch) then pure true
  else do
    let kind ← textField invalidContribution payload "payload_kind"
    if kind ≠ "patch" then pure false
    else do
      let document ← documentFor payload
      match document with
      | none => pure true
      | some document => do
        let version ← integerField invalidContribution document "version"
        let expected ← integerField invalidContribution payload "expected_file_version"
        pure (version != expected)

/-! ## Records -/

/-- A verdict as the log has it. -/
def verdict (passed : Bool) : JsonValue := .str (if passed then "pass" else "failed")

/-- A recorded hash, which is not the empty text, or the hash of a value. -/
def hashOr (recorded : Option String) (value : JsonValue) : String :=
  (recorded.filter (· ≠ "")).getD (sha256Json value)

/-- The event of `record_verification`. -/
def verificationCommand (runId contributionId : String) (evidence : PromotionEvidence) :
    AppendEventCommand :=
  let diagnosticsHash := hashOr evidence.diagnosticsResponseHash
    (.dict [("diagnostics", items evidence.diagnostics)])
  let buildHash := hashOr evidence.buildResponseHash
    (.dict [("success", .bool evidence.buildSuccess)])
  let axiomHash := hashOr evidence.axiomResponseHash (.dict [("axioms", items evidence.axioms)])
  ⟨"PromotionVerificationRecorded", "promotion_service", some runId, none,
    [("contribution_id", .str contributionId), ("diagnostics_hash", .str diagnosticsHash),
     ("diagnostics_verdict", verdict evidence.diagnostics.isEmpty),
     ("build_hash", .str buildHash), ("build_verdict", verdict evidence.buildSuccess),
     ("source_scan_hash", .str axiomHash),
     ("source_scan_verdict", verdict (evidence.axiomResponseHash.isSome &&
       evidence.sourceScanWarnings.isEmpty && evidence.axiomsAllowed)),
     ("axiom_verification_hash", .str axiomHash),
     ("axiom_verification_verdict", verdict evidence.axiomsAllowed)]⟩

/-- `record_verification` -/
def recordVerification (runId contributionId : String) (evidence : PromotionEvidence) :
    PromotionProgram Unit := do
  let _ ← appendEvent (verificationCommand runId contributionId evidence)
  pure ()

/-- `quarantine_failure` -/
def quarantineFailure (owner contributionId : String) (runId : Option String) (reason : String)
    (diagnostics axioms : List String) : PromotionProgram PublicationQueueEntry := do
  let content := encode (canonicalJson (.dict [("reason", .str reason),
    ("diagnostics", items diagnostics), ("axioms", items axioms)]))
  let artifact ← onFiles
    (storeArtifact ((runId.filter (· ≠ "")).getD "unknown") "diagnostics" content
      "application/json")
  failPromotion contributionId owner ⟨"PromotionFailed", "promotion_service", runId, none,
    [("contribution_id", .str contributionId), ("reason_code", .str reason),
     ("artifact_hash", .str artifact.contentHash)]⟩

/-! ## Rebase -/

/-- The exception of a malformed list of edits. -/
def invalidPatchEdits : Fault := .promotion "INVALID_PATCH_EDITS"

/-- The value of a hexadecimal digit. -/
def hexValue (c : Char) : Option ℕ :=
  if isAsciiDigit c then some (c.toNat - '0'.toNat)
  else if 'a' ≤ c && c ≤ 'f' then some (c.toNat - 'a'.toNat + 10)
  else if 'A' ≤ c && c ≤ 'F' then some (c.toNat - 'A'.toNat + 10)
  else none

/-- ASCII whitespace, which `bytes.fromhex` skips between bytes. -/
def isAsciiSpace (c : Char) : Bool := (9 ≤ c.toNat && c.toNat ≤ 13) || c.toNat == 32

/-- `bytes.fromhex`; `high` is the first digit of a byte whose second is to come. -/
def fromHex : (high : Option ℕ) → List Char → Option Bytes
  | none, [] => some []
  | some _, [] => none
  | none, c :: cs =>
    if isAsciiSpace c then fromHex none cs
    else (hexValue c).bind fun high => fromHex (some high) cs
  | some high, c :: cs =>
    (hexValue c).bind fun low => (fromHex none cs).map fun bytes => (16 * high + low) :: bytes

/-- One item of `_edits`. -/
def editOf : JsonValue → Except Fault ByteEdit
  | .dict item => do
    require (hasKeys item ["start_byte", "end_byte", "replacement_hex"] = true) invalidPatchEdits
    let hex ← textField invalidPatchEdits item "replacement_hex"
    let replacement ← orThrow (fromHex none hex.toList) invalidPatchEdits
    let start ← integerField invalidPatchEdits item "start_byte"
    let stop ← integerField invalidPatchEdits item "end_byte"
    (ByteEdit.create start stop replacement).mapError Fault.contribution
  | _ => .error invalidPatchEdits

/-- `_edits` -/
def editsOf (payload : JsonObject) : Except Fault (List ByteEdit) :=
  match getEntry "edits" payload with
  | some (.list values) => values.mapM editOf
  | _ => .error invalidPatchEdits

/-- `rebase_patch` -/
def rebasePatch (payload document : JsonObject) (runId : String) (allowedImports : List String) :
    PromotionProgram (ArtifactReference × ℕ × String) := do
  let version ← integerField invalidPatchEdits document "version"
  let contentHash ← textField invalidPatchEdits document "content_hash"
  let source ← onFiles (loadArtifact runId "documents" contentHash)
  let edits ← editsOf payload
  let patch ← (PatchPayload.create version contentHash edits).mapError Fault.contribution
  let rebased ← (patch.apply source).mapError Fault.contribution
  let candidateName ← textField invalidPatchEdits payload "candidate_name"
  let completeType ← textField invalidPatchEdits payload "complete_type"
  (validateCandidateSource rebased candidateName completeType allowedImports).mapError
    Fault.contribution
  let artifact ← onFiles (storeArtifact runId "contributions" rebased "text/x-lean")
  pure (artifact, version, contentHash)

end Aizim.Knowledge
