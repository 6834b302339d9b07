import Aizim.Domain.Model
import Aizim.Framework.PosixPath
import Aizim.State.Store

/-!
# Documents and leases

The document operations of the store and of the service above it.  A lease and a document are read
back from the payload of the event that wrote their record; both are read by `leaseFields`, and a
document is a lease that may carry the id of a prepared edit.

Each operation checks the records it reads and ends with one event (`appendRevoking`).  The service
builds that event from its arguments, and the operation compares the event with what it read.
-/

namespace Aizim.State

open JsonValue JsonObject Domain

/-! ## Leases and documents -/

/-- The error of a record that cannot be read, or of an event that does not fit it. -/
def invalidDocumentState : StoreError := .document "INVALID_DOCUMENT_STATE"

/-- `LeaseState` -/
structure LeaseState where
  leaseId : String
  workerId : String
  runId : String
  documentId : String
  relativePath : PosixPath
  virtualDocumentNamespace : String
  epochPair : EpochPair
  fileVersion : ℕ
  contentHash : String
  expiresAt : Datetime
  active : Bool
  deriving DecidableEq

/-- `LeaseState.payload` -/
def LeaseState.payload (lease : LeaseState) : JsonObject :=
  [("lease_id", .str lease.leaseId), ("worker_id", .str lease.workerId),
   ("document_id", .str lease.documentId), ("relative_path", .str lease.relativePath.asPosix),
   ("virtual_document_namespace", .str lease.virtualDocumentNamespace),
   ("base_epoch", .str lease.epochPair.baseEpoch),
   ("knowledge_epoch", .int lease.epochPair.knowledgeEpoch), ("version", .int lease.fileVersion),
   ("content_hash", .str lease.contentHash), ("expires_at", .str lease.expiresAt.text)]

/-- `LeaseState.validate_access` -/
def LeaseState.validateAccess (lease : LeaseState) (runId workerId documentId : String)
    (now : Datetime) (epochPair : EpochPair) : Except StoreError Unit := do
  require (lease.active = true) (.document "LEASE_INACTIVE")
  require (lease.runId = runId) (.document "LEASE_RUN_MISMATCH")
  require (lease.workerId = workerId) (.document "LEASE_OWNER_MISMATCH")
  require (lease.documentId = documentId) (.document "LEASE_DOCUMENT_MISMATCH")
  require (now < lease.expiresAt) (.document "LEASE_EXPIRED")
  require (lease.epochPair = epochPair) (.document "EPOCH_MISMATCH")

/-- `DocumentState` -/
structure DocumentState where
  documentId : String
  runId : String
  workerId : String
  leaseId : String
  relativePath : PosixPath
  virtualDocumentNamespace : String
  epochPair : EpochPair
  fileVersion : ℕ
  contentHash : String
  expiresAt : Datetime
  preparedEventId : Option String
  deriving DecidableEq

/-- The lease whose payload a document has. -/
def DocumentState.lease (document : DocumentState) : LeaseState where
  leaseId := document.leaseId
  workerId := document.workerId
  runId := document.runId
  documentId := document.documentId
  relativePath := document.relativePath
  virtualDocumentNamespace := document.virtualDocumentNamespace
  epochPair := document.epochPair
  fileVersion := document.fileVersion
  contentHash := document.contentHash
  expiresAt := document.expiresAt
  active := true

/-- The document of a lease. -/
def LeaseState.document (lease : LeaseState) (preparedEventId : Option String) :
    DocumentState where
  documentId := lease.documentId
  runId := lease.runId
  workerId := lease.workerId
  leaseId := lease.leaseId
  relativePath := lease.relativePath
  virtualDocumentNamespace := lease.virtualDocumentNamespace
  epochPair := lease.epochPair
  fileVersion := lease.fileVersion
  contentHash := lease.contentHash
  expiresAt := lease.expiresAt
  preparedEventId

/-- `DocumentState.payload` -/
def DocumentState.payload (document : DocumentState) : JsonObject := document.lease.payload

/-- `DocumentState.validate_expected` -/
def DocumentState.validateExpected (document : DocumentState) (version : Int)
    (contentHash : String) : Except StoreError Unit := do
  require ((document.fileVersion : Int) = version) (.document "DOCUMENT_VERSION_MISMATCH")
  require (document.contentHash = contentHash) (.document "DOCUMENT_HASH_MISMATCH")

/-- `DocumentPreparation` -/
structure DocumentPreparation where
  preparationId : String
  document : DocumentState

/-- `lease_payload` -/
def leasePayload (lease : FileLease) (relativePath : String) : JsonObject :=
  LeaseState.payload
    ⟨lease.leaseId, lease.workerId, lease.runId, lease.documentId, PosixPath.ofText relativePath,
      lease.virtualDocumentNamespace, lease.epochPair, lease.fileVersion, lease.contentHash,
      lease.expiresAt, true⟩

/-! ## Reading records -/

/-- `_text` -/
def textField (payload : JsonObject) (name : String) : Except StoreError String := do
  let value ← orThrow (Research.str? (getEntry name payload)) invalidDocumentState
  require (value ≠ "") invalidDocumentState
  pure value

/-- `_integer` -/
def integerField (payload : JsonObject) (name : String) : Except StoreError ℕ :=
  match getEntry name payload with
  | some (.int i) => if 0 ≤ i then .ok i.toNat else .error invalidDocumentState
  | _ => .error invalidDocumentState

/-- `_hash` -/
def hashField (payload : JsonObject) (name : String) :
    Except StoreError { hash : String // isSha256 hash = true } := do
  let value ← textField payload name
  if h : isSha256 value = true then .ok ⟨value, h⟩ else .error invalidDocumentState

/-- `_timestamp` of the field `expires_at`. -/
def timestampField (payload : JsonObject) : Except StoreError Datetime :=
  orThrow ((Research.str? (getEntry "expires_at" payload)).bind Datetime.parse?)
    invalidDocumentState

/-- The fields that leases and documents are read from. -/
def leaseFields (runId : String) (active : Bool) (payload : JsonObject) :
    Except StoreError LeaseState := do
  let leaseId ← textField payload "lease_id"
  let workerId ← textField payload "worker_id"
  let documentId ← textField payload "document_id"
  let relativePath ← textField payload "relative_path"
  let virtualDocumentNamespace ← textField payload "virtual_document_namespace"
  let baseEpoch ← hashField payload "base_epoch"
  let knowledgeEpoch ← integerField payload "knowledge_epoch"
  let version ← integerField payload "version"
  let contentHash ← hashField payload "content_hash"
  let expiresAt ← timestampField payload
  pure ⟨leaseId, workerId, runId, documentId, .ofText relativePath, virtualDocumentNamespace,
    ⟨baseEpoch.1, knowledgeEpoch, baseEpoch.2⟩, version, contentHash.1, expiresAt, active⟩

/-- A text or null. -/
def optionalTextField : Option JsonValue → Except StoreError (Option String)
  | none | some .null => .ok none
  | some (.str s) => .ok (some s)
  | some _ => .error invalidDocumentState

/-- `projection_payload` -/
def recordPayload (row : ProjectionRow) :
    Except StoreError (String × Option String × JsonObject) := do
  let raw ← orThrow row.state? invalidDocumentState
  let eventType ← orThrow (Research.str? (getEntry "event_type" raw)) invalidDocumentState
  let runId ← optionalTextField (getEntry "run_id" raw)
  let payload ← orThrow (object? (getEntry "payload" raw)) invalidDocumentState
  pure (eventType, runId, payload)

/-- `_DOCUMENT_STATE_EVENT_TYPES` -/
def documentStateEventTypes : List String :=
  ["LeaseGranted", "DocumentEditPrepared", "DocumentEdited", "DocumentEditRecovered"]

/-- `is_document_state_projection` -/
def isDocumentStateProjection (row : ProjectionRow) : Except StoreError Bool := do
  let (eventType, _, _) ← recordPayload row
  pure (documentStateEventTypes.contains eventType)

/-- `is_active_document_lease_projection` -/
def isActiveDocumentLeaseProjection (row : ProjectionRow) : Except StoreError Bool := do
  let (eventType, _, _) ← recordPayload row
  pure (eventType == "LeaseGranted")

/-- `lease_from_projection` -/
def leaseFromProjection (row : ProjectionRow) : Except StoreError LeaseState := do
  let (eventType, run, payload) ← recordPayload row
  let runId ← orThrow run invalidDocumentState
  leaseFields runId (eventType == "LeaseGranted") payload

/-- `document_from_projection` -/
def documentFromProjection (row : ProjectionRow) : Except StoreError DocumentState := do
  let (eventType, run, payload) ← recordPayload row
  let runId ← orThrow run invalidDocumentState
  let eventId ← orThrow (row.state?.bind fun raw => Research.str? (getEntry "event_id" raw))
    invalidDocumentState
  let lease ← leaseFields runId true payload
  pure (lease.document (if eventType = "DocumentEditPrepared" then some eventId else none))

/-- `epoch_from_projection` -/
def epochFromProjection (row : ProjectionRow) : Except StoreError EpochPair :=
  match row.state?.bind (getEntry "base_epoch"), row.state?.bind (getEntry "knowledge_epoch") with
  | some (.str base), some (.int epoch) =>
    orThrow (EpochPair.create? base epoch) (.document "EPOCH_MISMATCH")
  | _, _ => .error (.document "EPOCH_MISMATCH")

/-! ## Queries -/

/-- The rows of a projection, in the order of their entities. -/
def rowsOf (snapshots : ProjectionTable) (projection : ProjectionName) : List ProjectionRow :=
  (snapshots.entries.filter fun e => e.1.projection == projection).map (·.2)

/-- `_epoch` -/
def currentEpoch (snapshots : ProjectionTable) : Except StoreError EpochPair := do
  let row ← orThrow (findRecord snapshots .epochs "global") (.document "EPOCH_MISMATCH")
  epochFromProjection row

/-- `_lease` -/
def findLease (snapshots : ProjectionTable) (leaseId : String) : Except StoreError LeaseState := do
  let row ← orThrow (findRecord snapshots .leases leaseId) (.document "LEASE_NOT_FOUND")
  leaseFromProjection row

/-- `_document` -/
def findDocument (snapshots : ProjectionTable) (documentId : String) :
    Except StoreError DocumentState := do
  let row ← orThrow (findRecord snapshots .documents documentId) (.document "DOCUMENT_NOT_FOUND")
  documentFromProjection row

/-- The lease of a row, if it is active. -/
def activeLease (row : ProjectionRow) : Except StoreError (Option LeaseState) := do
  let active ← isActiveDocumentLeaseProjection row
  if active then some <$> leaseFromProjection row else pure none

/-- `_active_leases` -/
def activeLeases (snapshots : ProjectionTable) : Except StoreError (List LeaseState) :=
  List.reduceOption <$> (rowsOf snapshots .leases).mapM activeLease

/-- The document of a row, if it is the record of a document state. -/
def documentState (row : ProjectionRow) : Except StoreError (Option DocumentState) := do
  let isState ← isDocumentStateProjection row
  if isState then some <$> documentFromProjection row else pure none

/-- The documents with a prepared edit. -/
def preparedDocuments (snapshots : ProjectionTable) : Except StoreError (List DocumentState) :=
  (fun documents => (List.reduceOption documents).filter fun d => d.preparedEventId.any (· ≠ "")) <$>
    (rowsOf snapshots .documents).mapM documentState

/-- The first document with this prepared edit, reading no further. -/
def firstPrepared (preparationId : String) : List ProjectionRow → Except StoreError DocumentState
  | [] => .error (.document "DOCUMENT_PREPARATION_MISMATCH")
  | row :: rows =>
    match documentState row with
    | .error e => .error e
    | .ok (some document) =>
      if document.preparedEventId = some preparationId then .ok document
      else firstPrepared preparationId rows
    | .ok none => firstPrepared preparationId rows

/-- `_prepared` -/
def prepared (snapshots : ProjectionTable) (preparationId : String) :
    Except StoreError DocumentState :=
  firstPrepared preparationId (rowsOf snapshots .documents)

/-- `AccessDocument` -/
structure AccessDocument where
  runId : String
  workerId : String
  leaseId : String
  documentId : String
  now : Datetime

/-- `_access` -/
def accessDocument (snapshots : ProjectionTable) (access : AccessDocument) :
    Except StoreError DocumentState := do
  let lease ← findLease snapshots access.leaseId
  let epoch ← currentEpoch snapshots
  lease.validateAccess access.runId access.workerId access.documentId access.now epoch
  let document ← findDocument snapshots access.documentId
  require (document.preparedEventId = none) (.document "DOCUMENT_EDIT_IN_PROGRESS")
  require (document.leaseId = lease.leaseId) (.document "LEASE_DOCUMENT_MISMATCH")
  pure document

/-- `_validate_document_lease` -/
def validateDocumentLease (snapshots : ProjectionTable) (document : DocumentState)
    (now : Datetime) : Except StoreError Unit := do
  let lease ← findLease snapshots document.leaseId
  let epoch ← currentEpoch snapshots
  lease.validateAccess document.runId document.workerId document.documentId now epoch

variable [CharacterDatabase]

/-! ## Store operations -/

/-- `_validate_grant` -/
def validateGrant (snapshots : ProjectionTable) (lease : FileLease) (relativePath : String)
    (now : Datetime) (event : EventEnvelope) : Except StoreError Unit := do
  require (lease.physicalFile = none) invalidDocumentState
  let epoch ← currentEpoch snapshots
  require (lease.epochPair = epoch) (.document "EPOCH_MISMATCH")
  require (now < lease.expiresAt) (.document "LEASE_EXPIRED")
  require (event.runId = some lease.runId) (.document "LEASE_RUN_MISMATCH")
  let leases ← activeLeases snapshots
  require (∀ l ∈ leases, l.leaseId ≠ lease.leaseId) (.document "LEASE_ID_COLLISION")
  require (∀ l ∈ leases, l.documentId ≠ lease.documentId) (.document "DOCUMENT_ALREADY_LEASED")
  require (∀ l ∈ leases, l.relativePath.asPosix ≠ relativePath)
    (.document "DOCUMENT_ALREADY_LEASED")
  require (findRecord snapshots .documents lease.documentId = none)
    (.document "DOCUMENT_ID_COLLISION")
  require (canonicalEntries event.payload = canonicalEntries (leasePayload lease relativePath))
    invalidDocumentState

/-- The payload of a document at a version and a hash. -/
def DocumentState.payloadAt (document : DocumentState) (version : ℕ) (contentHash : String) :
    JsonObject :=
  set "content_hash" (.str contentHash) (set "version" (.int version) document.payload)

/-- The payload that `_event_matches` expects of an event. -/
def expectedPayload (document : DocumentState) (eventType : EventType) (version : ℕ)
    (contentHash : String) : JsonObject :=
  if eventType = .documentEditPrepared then
    update (document.payloadAt version contentHash)
      [("expected_version", .int version), ("expected_hash", .str contentHash)]
  else document.payloadAt version contentHash

/-- `_event_matches` -/
def eventMatches (document : DocumentState) (event : EventEnvelope) (version : ℕ)
    (contentHash : Option String) : Except StoreError Unit := do
  let candidate ← orThrow (contentHash.or (event.text? "content_hash")) invalidDocumentState
  require (event.runId = some document.runId ∧ canonicalEntries event.payload =
    canonicalEntries (expectedPayload document event.eventType version candidate))
    invalidDocumentState

/-- `GrantLease` -/
def grantLease (t : Tables) (lease : FileLease) (relativePath : String) (now : Datetime)
    (event : EventEnvelope) : Except StoreError (Tables × EventRecord) := do
  validateGrant t.projections lease relativePath now event
  appendRevoking t event

/-- `PrepareEdit` -/
def prepareEdit (t : Tables) (access : AccessDocument) (expectedVersion : Int)
    (expectedHash : String) (event : EventEnvelope) :
    Except StoreError (Tables × DocumentPreparation) := do
  let document ← accessDocument t.projections access
  document.validateExpected expectedVersion expectedHash
  eventMatches document event document.fileVersion (some document.contentHash)
  let (t, _) ← appendRevoking t event
  pure (t, ⟨event.eventId, document⟩)

/-- `CommitEdit` -/
def commitEdit (t : Tables) (preparationId : String) (now : Datetime) (event : EventEnvelope) :
    Except StoreError (Tables × EventRecord) := do
  let document ← prepared t.projections preparationId
  require (event.causationId = some preparationId) (.document "DOCUMENT_PREPARATION_MISMATCH")
  validateDocumentLease t.projections document now
  eventMatches document event (document.fileVersion + 1) none
  appendRevoking t event

/-- `RecoverEdit` -/
def recoverEdit (t : Tables) (preparationId : String) (event : EventEnvelope) :
    Except StoreError (Tables × EventRecord) := do
  let document ← prepared t.projections preparationId
  require (event.causationId = some preparationId) (.document "DOCUMENT_PREPARATION_MISMATCH")
  eventMatches document event document.fileVersion (some document.contentHash)
  appendRevoking t event

/-- `TerminateLease` -/
def terminateLease (t : Tables) (runId : String) (workerId : Option String) (leaseId : String)
    (event : EventEnvelope) : Except StoreError (Tables × EventRecord) := do
  let lease ← findLease t.projections leaseId
  require (lease.active = true) (.document "LEASE_INACTIVE")
  require (lease.runId = runId) (.document "LEASE_RUN_MISMATCH")
  require (∀ worker ∈ workerId, lease.workerId = worker) (.document "LEASE_OWNER_MISMATCH")
  appendRevoking t event

/-! ## Service operations -/

/-- `grant_document_lease` -/
def grantDocumentLease (t : Tables) (stamp : Stamp) (lease : FileLease)
    (relativePath : PosixPath) : Except StoreError (Tables × EventRecord) := do
  let event ← makeEvent stamp ⟨"LeaseGranted", "document_broker", some lease.runId, none,
    leasePayload lease relativePath.asPosix⟩
  grantLease t lease relativePath.asPosix event.occurredAt event

/-- `prepare_document_edit` -/
def prepareDocumentEdit (t : Tables) (stamp : Stamp) (access : AccessDocument)
    (expectedVersion : Int) (expectedHash : String) :
    Except StoreError (Tables × DocumentPreparation) := do
  let document ← accessDocument t.projections access
  let event ← makeEvent stamp ⟨"DocumentEditPrepared", "document_broker", some access.runId, none,
    set "expected_hash" (.str expectedHash)
      (set "expected_version" (.int expectedVersion) document.payload)⟩
  prepareEdit t access expectedVersion expectedHash event

/-- `commit_document_edit` -/
def commitDocumentEdit (t : Tables) (stamp : Stamp) (now : Datetime)
    (preparation : DocumentPreparation) (replacementHash : String) :
    Except StoreError (Tables × EventRecord) := do
  let document := preparation.document
  let event ← makeEvent stamp ⟨"DocumentEdited", "document_broker", some document.runId,
    some preparation.preparationId,
    document.payloadAt (document.fileVersion + 1) replacementHash⟩
  commitEdit t preparation.preparationId now event

/-- `recover_document_edit` -/
def recoverDocumentEdit (t : Tables) (stamp : Stamp) (preparation : DocumentPreparation) :
    Except StoreError (Tables × EventRecord) := do
  let event ← makeEvent stamp ⟨"DocumentEditRecovered", "document_broker",
    some preparation.document.runId, some preparation.preparationId, preparation.document.payload⟩
  recoverEdit t preparation.preparationId event

/-- `release_document_lease` -/
def releaseDocumentLease (t : Tables) (stamp : Stamp) (runId workerId leaseId : String) :
    Except StoreError (Tables × EventRecord) := do
  let event ← makeEvent stamp ⟨"LeaseReleased", "document_broker", some runId, none,
    [("lease_id", .str leaseId), ("reason_code", .str "RELEASED")]⟩
  terminateLease t runId (some workerId) leaseId event

/-- `recover_document_lease` -/
def recoverDocumentLease (t : Tables) (stamp : Stamp) (lease : LeaseState) :
    Except StoreError (Tables × EventRecord) := do
  let event ← makeEvent stamp ⟨"LeaseRecovered", "document_broker", some lease.runId, none,
    [("lease_id", .str lease.leaseId), ("reason_code", .str "BROKER_RECOVERY")]⟩
  terminateLease t lease.runId none lease.leaseId event

end Aizim.State
