import Aizim.Framework.Transition
import Aizim.State.Projections

/-!
# The event store

The tables of the database, the mutations a transaction is made of, and the operations of the
store that are not about publication or documents.  An operation is a function on the tables that
may raise; the tables of an operation that raised are the ones it started from.

Every write to the log and the projections goes through `applyEventMutation`.  `eventLogSystem`
is that one mutation as a transition system: what an operation does to the log is a run of it, and
`Run` lemmas carry facts about single appends to whole transactions and histories.
-/

namespace Aizim.State

open JsonValue JsonObject TransitionSystem

/-! ## Tables -/

/-- The tables `events` and `projections`. -/
structure EventLog where
  events : List EventRow
  projections : ProjectionTable
  deriving DecidableEq

/-- The state of a publication. -/
inductive PublicationQueueState
  | queued
  | staged
  | verified
  | materialized
  | published
  | quarantined
  deriving DecidableEq

/-- The text of a publication state. -/
def PublicationQueueState.text : PublicationQueueState → String
  | queued => "queued"
  | staged => "staged"
  | verified => "verified"
  | materialized => "materialized"
  | published => "published"
  | quarantined => "quarantined"

/-- A row of the table `publication_queue`. -/
structure PublicationQueueRow where
  enqueueSequence : ℕ
  contributionId : String
  state : PublicationQueueState
  stateVersion : ℕ
  claimedBy : Option String
  claimedAt : Option String
  deriving DecidableEq

/-- A row of the table `capability_tokens`. -/
structure CapabilityRow where
  tokenHash : String
  runId : String
  workerId : String
  role : String
  leaseId : Option String
  operationsJson : JsonText
  expiresAt : String
  revokedAt : Option String
  deriving DecidableEq

/-- A row of the table `artifacts`. -/
structure ArtifactRow where
  contentHash : String
  runId : String
  relativePath : String
  mediaType : String
  byteLength : Int
  deriving DecidableEq

/-- A row of the table `artifact_associations`. -/
structure ArtifactAssociation where
  runId : String
  artifactName : String
  relativePath : String
  contentHash : String
  mediaType : String
  byteLength : Int
  deriving DecidableEq

/-- The database.  Rows of tables with an automatic key stand in the order of that key. -/
structure Tables extends EventLog where
  publicationQueue : List PublicationQueueRow
  capabilityTokens : List CapabilityRow
  artifacts : List ArtifactRow
  artifactAssociations : List ArtifactAssociation
  deriving DecidableEq

/-- The projections of a new database. -/
def initialProjections : ProjectionTable :=
  Table.empty.upsert ⟨.epochs, "global"⟩ ⟨0, .ofObject [("knowledge_epoch", .int 0)]⟩

/-- The log of a new database. -/
def initialLog : EventLog := ⟨[], initialProjections⟩

/-- A new database. -/
def initialTables : Tables := ⟨initialLog, [], [], [], []⟩

/-- The key that an automatic integer key takes next.  Rows are never deleted. -/
def nextSequence (sequences : List ℕ) : ℕ := sequences.foldl max 0 + 1

variable [CharacterDatabase]

/-! ## Mutations -/

/-- `apply_event_mutation`, with the snapshots its caller has read. -/
def applyEventMutation (log : EventLog) (event : EventEnvelope) (snapshots : ProjectionTable) :
    Except StoreError (EventLog × EventRecord) := do
  require (event.eventId ∉ log.events.map (·.eventId)) (.integrity "events.event_id")
  let sequence := nextSequence (log.events.map (·.sequence))
  let records ← applyEvent snapshots event
  pure (⟨log.events ++ [EventRow.ofEvent sequence event],
    records.foldl upsertRecord log.projections⟩, ⟨sequence, event⟩)

/-- `_artifact_text` -/
def artifactText (value : Option String) : Except StoreError String :=
  orThrow value (.authority "artifacts" "artifact registration is incomplete")

/-- `_artifact_integer` -/
def artifactInteger (value : Option JsonValue) : Except StoreError Int :=
  match value with
  | some (.int i) => .ok i
  | _ => .error (.authority "artifacts" "artifact registration is incomplete")

/-- `INSERT OR IGNORE INTO artifacts` -/
def insertArtifact (rows : List ArtifactRow) (row : ArtifactRow) : List ArtifactRow :=
  if rows.any (fun r => r.contentHash == row.contentHash || r.relativePath == row.relativePath) ||
      row.byteLength < 0 then rows
  else rows ++ [row]

/-- `INSERT OR IGNORE INTO artifact_associations` -/
def insertAssociation (rows : List ArtifactAssociation) (row : ArtifactAssociation) :
    List ArtifactAssociation :=
  if rows.any (fun r => r.runId == row.runId &&
      (r.relativePath == row.relativePath || r.artifactName == row.artifactName)) ||
      row.byteLength < 0 then rows
  else rows ++ [row]

/-- `register_artifact` -/
def registerArtifact (t : Tables) (event : EventEnvelope) : Except StoreError Tables :=
  if event.eventType ≠ .artifactRegistered then pure t
  else do
    let runId ← artifactText event.runId
    let artifactName ← artifactText (event.text? "artifact_name")
    let contentHash ← artifactText (event.text? "content_hash")
    let relativePath ← artifactText (event.text? "relative_path")
    let mediaType ← artifactText (event.text? "media_type")
    let byteLength ← artifactInteger (getEntry "byte_length" event.payload)
    let artifacts := insertArtifact t.artifacts
      ⟨contentHash, runId, relativePath, mediaType, byteLength⟩
    let row := artifacts.find? fun r => r.contentHash == contentHash
    require (row.map (fun r => (r.mediaType, r.byteLength)) = some (mediaType, byteLength))
      (.authority "artifacts" "artifact registration conflicts with stored hash")
    let association : ArtifactAssociation :=
      ⟨runId, artifactName, relativePath, contentHash, mediaType, byteLength⟩
    let associations := insertAssociation t.artifactAssociations association
    let stored := associations.find? fun r => r.runId == runId && r.relativePath == relativePath
    require (stored = some association)
      (.authority "artifacts" "run artifact registration conflicts")
    pure { t with artifacts := artifacts, artifactAssociations := associations }

/-- The lease events after which the capabilities of the lease are void. -/
def isLeaseTerminal : EventType → Bool
  | .leaseReleased | .leaseRecovered => true
  | _ => false

/-- `UPDATE capability_tokens SET revoked_at=? WHERE ... AND revoked_at IS NULL` -/
def revokeWhere (rows : List CapabilityRow) (p : CapabilityRow → Bool) (revokedAt : Datetime) :
    List CapabilityRow :=
  rows.map fun r =>
    if p r && r.revokedAt.isNone then { r with revokedAt := some revokedAt.text } else r

/-- `revoke_lease_capabilities` -/
def revokeLeaseCapabilities (t : Tables) (event : EventEnvelope) : Except StoreError Tables :=
  if isLeaseTerminal event.eventType = false then pure t
  else do
    let runId ← orThrow event.runId (.authority "run_id" "lease terminal event requires a run")
    let leaseId ← orThrow (event.text? "lease_id")
      (.authority "lease_id" "lease terminal event requires a lease")
    let rows := revokeWhere t.capabilityTokens
      (fun r => r.runId == runId && r.leaseId == some leaseId) event.occurredAt
    pure { t with capabilityTokens := rows }

/-! ## Capabilities -/

/-- A capability (`CapabilityRecord`), with the checks of its constructor. -/
structure CapabilityRecord where
  tokenHash : String
  runId : String
  workerId : String
  role : String
  leaseId : Option String
  operations : List String
  expiresAt : Datetime
  revokedAt : Option Datetime
  tokenHash_valid : isSha256 tokenHash = true
  names_ne : runId ≠ "" ∧ workerId ≠ "" ∧ role ≠ ""
  leaseId_ne : leaseId ≠ some ""
  operations_valid : operations ≠ [] ∧ "" ∉ operations ∧ operations.Nodup

/-- `capability_row` -/
def capabilityRow (c : CapabilityRecord) : CapabilityRow where
  tokenHash := c.tokenHash
  runId := c.runId
  workerId := c.workerId
  role := c.role
  leaseId := c.leaseId
  operationsJson := .ofValue (.list (c.operations.map .str))
  expiresAt := c.expiresAt.text
  revokedAt := c.revokedAt.map (·.text)

/-- `insert_capability` -/
def insertCapability (t : Tables) (c : CapabilityRecord) : Except StoreError Tables := do
  require (c.tokenHash ∉ t.capabilityTokens.map (·.tokenHash))
    (.integrity "capability_tokens.token_hash")
  pure { t with capabilityTokens := t.capabilityTokens ++ [capabilityRow c] }

/-- The exceptions that a violated constraint becomes. -/
def constraintError (eventId projection : String) : StoreError → StoreError
  | .integrity constraint =>
    if constraint = "events.event_id" then .duplicateEvent eventId
    else .authority projection "database constraint rejected mutation"
  | e => e

/-! ## Operations -/

/-- The mutations of `_append`. -/
def appendMutation (t : Tables) (event : EventEnvelope) :
    Except StoreError (Tables × EventRecord) := do
  let (log, record) ← applyEventMutation t.toEventLog event t.projections
  let t ← registerArtifact { t with toEventLog := log } event
  let t ← revokeLeaseCapabilities t event
  pure (t, record)

/-- `_append` -/
def append (t : Tables) (event : EventEnvelope) : Except StoreError (Tables × EventRecord) :=
  (appendMutation t event).mapError (constraintError event.eventId "unknown")

/-- Append an event and revoke the capabilities of a lease that it ends: `_append` of the
publication store, and the end of every document operation. -/
def appendRevoking (t : Tables) (event : EventEnvelope) :
    Except StoreError (Tables × EventRecord) := do
  let (log, record) ← applyEventMutation t.toEventLog event t.projections
  let t ← revokeLeaseCapabilities { t with toEventLog := log } event
  pure (t, record)

/-- `persist_capability` -/
def persistCapability (t : Tables) (c : CapabilityRecord) (event : EventEnvelope) :
    Except StoreError (Tables × EventRecord) :=
  (do
    let t ← insertCapability t c
    let (log, record) ← applyEventMutation t.toEventLog event t.projections
    pure ({ t with toEventLog := log }, record) : Except StoreError (Tables × EventRecord)).mapError
    (constraintError event.eventId "capability_tokens")

/-- `revoke_capability` -/
def revokeCapability (t : Tables) (tokenHash : String) (revokedAt : Datetime) : Tables × Bool :=
  ({ t with capabilityTokens :=
      revokeWhere t.capabilityTokens (fun r => r.tokenHash == tokenHash) revokedAt },
    t.capabilityTokens.any fun r => r.tokenHash == tokenHash && r.revokedAt.isNone)

/-! ## Queries -/

/-- `query_events` -/
def queryEvents (log : EventLog) (runId : Option String) : Except StoreError (List EventRecord) :=
  (match runId with
    | none => log.events
    | some run => log.events.filter fun row => row.runId == some run).mapM EventRow.record

/-- `query_projection`, which refuses a name that is not registered. -/
def queryProjection (log : EventLog) (name entityId : String) :
    Except StoreError (Option ProjectionRow) := do
  let projection ← orThrow (ProjectionName.ofText? name) (.authority name "name is not registered")
  pure (findRecord log.projections projection entityId)

/-- `projections()` -/
def allProjections (table : ProjectionTable) : List ProjectionRecord :=
  table.entries.map fun e => ⟨e.1.projection, e.1.entityId, e.2.version, e.2.stateJson⟩

/-- `projections(name)` of a registered name. -/
def projectionsOf (table : ProjectionTable) (projection : ProjectionName) :
    List ProjectionRecord :=
  (allProjections table).filter fun r => r.projectionName == projection

/-- `_projection_json`; the text of a state is itself a string in it. -/
def projectionJson (records : List ProjectionRecord) : String :=
  canonicalJson (.list (records.map fun r => .dict
    [("entity_id", .str r.entityId), ("projection_name", .str r.projectionName.text),
     ("state_json", .str (canonicalJson r.stateJson.value)), ("version", .int r.version)]))

/-- `_sandbox_probe_audit` -/
def sandboxProbeAudit (r : ProjectionRecord) : Bool :=
  r.projectionName == .resources &&
    (r.stateJson.object?.bind (getEntry "event_type")).any fun v =>
      v == .str "SandboxProbeStarted" || v == .str "SandboxProbePassed"

/-- `_logical_digest` -/
def logicalDigest (records : List ProjectionRecord) : String :=
  sha256Text (projectionJson
    (records.filter fun r => !auditProjections.contains r.projectionName && !sandboxProbeAudit r))

/-- `ReplayVerification` -/
structure ReplayVerification where
  matched : Bool
  projectionJson : String
  logicalDigest : String

/-- `replay_verify`: append the persisted events to a temporary database and compare.  The
database itself is only read. -/
def replayVerify (t : Tables) : Except StoreError ReplayVerification := do
  let expectedJson := projectionJson (allProjections t.projections)
  let expectedDigest := logicalDigest (allProjections t.projections)
  let records ← queryEvents t.toEventLog none
  let replay ← records.foldlM (fun replay record => Prod.fst <$> append replay record.envelope)
    initialTables
  let actual := allProjections replay.projections
  let actualJson := projectionJson actual
  let actualDigest := logicalDigest actual
  pure ⟨actualJson == expectedJson && actualDigest == expectedDigest, actualJson, actualDigest⟩

/-! ## The log as a transition system -/

/-- Appending one event to the log. -/
def eventLogSystem : TransitionSystem EventLog EventEnvelope where
  initial log := log = initialLog
  step log event log' := ∃ record, applyEventMutation log event log.projections = .ok (log', record)

/-- What an append changes. -/
lemma applyEventMutation_ok {log log' : EventLog} {event : EventEnvelope}
    {snapshots : ProjectionTable} {record : EventRecord}
    (h : applyEventMutation log event snapshots = .ok (log', record)) :
    event.eventId ∉ log.events.map (·.eventId) ∧
      log'.events = log.events ++
        [EventRow.ofEvent (nextSequence (log.events.map (·.sequence))) event] ∧
      (∃ records, applyEvent snapshots event = .ok records ∧
        log'.projections = records.foldl upsertRecord log.projections) ∧
      record = ⟨nextSequence (log.events.map (·.sequence)), event⟩ := by
  simp only [applyEventMutation, bind_eq_ok, require_eq_ok, pure_eq_ok, exists_and_left,
    exists_const, Prod.mk.injEq] at h
  obtain ⟨hid, records, hrecords, rfl, rfl⟩ := h
  exact ⟨hid, rfl, ⟨records, hrecords, rfl⟩, rfl⟩

/-- The rows of a run are the rows before it and one row for each event. -/
lemma events_of_run {log log' : EventLog} {es : List EventEnvelope}
    (h : eventLogSystem.Run log es log') :
    ∃ rows : List EventRow, log'.events = log.events ++ rows ∧
      rows.map (fun r => (r.eventId, r.eventType, r.runId, r.causationId, r.payloadJson)) =
        es.map fun e => (e.eventId, e.eventType, e.runId, e.causationId, .ofObject e.payload) := by
  induction h with
  | nil => exact ⟨[], by simp⟩
  | snoc _ hstep ih =>
    obtain ⟨rows, hrows, hmap⟩ := ih
    obtain ⟨record, hstep⟩ := hstep
    obtain ⟨-, hevents, -⟩ := applyEventMutation_ok hstep
    exact ⟨rows ++ [_], by rw [hevents, hrows, List.append_assoc], by
      simp [hmap, EventRow.ofEvent]⟩

/-- The transaction appended these events and left the artifacts.  A lease event among them named
its run and its lease, so that the capabilities of the lease could be revoked. -/
structure Appends (t t' : Tables) (events : List EventEnvelope) : Prop where
  run : eventLogSystem.Run t.toEventLog events t'.toEventLog
  artifacts : t'.artifacts = t.artifacts
  associations : t'.artifactAssociations = t.artifactAssociations
  revocable : ∀ e ∈ events, isLeaseTerminal e.eventType = true →
    e.runId.isSome ∧ (e.text? "lease_id").isSome

lemma Appends.refl (t : Tables) : Appends t t [] :=
  ⟨.nil _, rfl, rfl, by simp⟩

lemma Appends.trans {t₁ t₂ t₃ : Tables} {es fs : List EventEnvelope} (h₁ : Appends t₁ t₂ es)
    (h₂ : Appends t₂ t₃ fs) : Appends t₁ t₃ (es ++ fs) where
  run := h₁.run.append h₂.run
  artifacts := h₂.artifacts.trans h₁.artifacts
  associations := h₂.associations.trans h₁.associations
  revocable e he := by
    rcases List.mem_append.1 he with he | he
    · exact h₁.revocable e he
    · exact h₂.revocable e he

/-- Registering an artifact leaves the log and the queue. -/
lemma registerArtifact_frame {t t' : Tables} {event : EventEnvelope}
    (h : registerArtifact t event = .ok t') :
    t'.toEventLog = t.toEventLog ∧ t'.publicationQueue = t.publicationQueue := by
  unfold registerArtifact at h
  split at h
  · obtain rfl := pure_eq_ok.1 h
    exact ⟨rfl, rfl⟩
  · simp only [bind_eq_ok, require_eq_ok, pure_eq_ok] at h
    obtain ⟨-, -, -, -, -, -, -, -, -, -, -, -, -, -, -, -, rfl⟩ := h
    exact ⟨rfl, rfl⟩

/-- Revoking capabilities leaves everything but the capabilities. -/
lemma revokeLeaseCapabilities_frame {t t' : Tables} {event : EventEnvelope}
    (h : revokeLeaseCapabilities t event = .ok t') :
    ∃ rows, t' = { t with capabilityTokens := rows } := by
  unfold revokeLeaseCapabilities at h
  split at h
  · obtain rfl := pure_eq_ok.1 h
    exact ⟨_, rfl⟩
  · simp only [bind_eq_ok, pure_eq_ok] at h
    obtain ⟨-, -, -, -, rfl⟩ := h
    exact ⟨_, rfl⟩

lemma revokeLeaseCapabilities_revocable {t t' : Tables} {event : EventEnvelope}
    (h : revokeLeaseCapabilities t event = .ok t') (hterminal : isLeaseTerminal event.eventType) :
    event.runId.isSome ∧ (event.text? "lease_id").isSome := by
  unfold revokeLeaseCapabilities at h
  rw [if_neg (by simp [hterminal])] at h
  simp only [bind_eq_ok, orThrow_eq_ok] at h
  obtain ⟨run, hrun, lease, hlease, -⟩ := h
  simp [hrun, hlease]

/-- `_append` appends the event and leaves the queue. -/
lemma append_ok {t t' : Tables} {event : EventEnvelope} {record : EventRecord}
    (h : append t event = .ok (t', record)) :
    eventLogSystem.Run t.toEventLog [event] t'.toEventLog ∧
      t'.publicationQueue = t.publicationQueue := by
  simp only [append, mapError_eq_ok, appendMutation, bind_eq_ok, pure_eq_ok, Prod.mk.injEq,
    Prod.exists] at h
  obtain ⟨log, record', hlog, t₁, hartifact, t₂, hrevoke, rfl, rfl⟩ := h
  obtain ⟨hlog₁, hqueue₁⟩ := registerArtifact_frame hartifact
  obtain ⟨rows, rfl⟩ := revokeLeaseCapabilities_frame hrevoke
  obtain rfl : t₁.toEventLog = log := hlog₁
  exact ⟨.single ⟨record', hlog⟩, hqueue₁⟩

/-- An event that the reducers accept is appended when its id is new. -/
lemma exists_append_of_applyEvent {t : Tables} {event : EventEnvelope}
    {records : List ProjectionRecord} (hid : event.eventId ∉ t.events.map (·.eventId))
    (hrecords : applyEvent t.projections event = .ok records)
    (hlease : isLeaseTerminal event.eventType = false)
    (hartifact : event.eventType ≠ .artifactRegistered) :
    ∃ t' record, append t event = .ok (t', record) := by
  have hlog : ∃ result, applyEventMutation t.toEventLog event t.projections = .ok result := by
    simp only [applyEventMutation, require_of hid, ok_bind, hrecords]
    exact ⟨_, rfl⟩
  obtain ⟨⟨log, record⟩, hlog⟩ := hlog
  refine ⟨{ t with toEventLog := log }, record, ?_⟩
  rw [append, mapError_eq_ok]
  simp only [appendMutation, hlog, ok_bind, registerArtifact, if_pos hartifact,
    revokeLeaseCapabilities, if_pos hlease]
  rfl

/-- Events that no reducer refuses are appended when their id is new. -/
lemma exists_append {t : Tables} {event : EventEnvelope}
    (hid : event.eventId ∉ t.events.map (·.eventId))
    (horchestration : event.eventType.isOrchestration = false)
    (hlease : isLeaseTerminal event.eventType = false)
    (hartifact : event.eventType ≠ .artifactRegistered) :
    ∃ t' record, append t event = .ok (t', record) := by
  have hpayload : projectionPayload t.projections event = .ok event.payload := by
    unfold projectionPayload
    rw [if_neg (by simp [horchestration])]
    split
    · rename_i h
      simp [h, isLeaseTerminal] at hlease
    · rename_i h
      simp [h, isLeaseTerminal] at hlease
    · rfl
  have hrecords : applyEvent t.projections event =
      .ok (changes t.projections event event.payload) := by
    simp only [applyEvent, hpayload, ok_bind]
    rfl
  exact exists_append_of_applyEvent hid hrecords hlease hartifact

/-- `appendRevoking` appends the event and changes nothing else but capabilities. -/
lemma appendRevoking_ok {t t' : Tables} {event : EventEnvelope} {record : EventRecord}
    (h : appendRevoking t event = .ok (t', record)) :
    Appends t t' [event] ∧ t'.publicationQueue = t.publicationQueue ∧
      ∃ record, applyEventMutation t.toEventLog event t.projections =
        .ok (t'.toEventLog, record) := by
  simp only [appendRevoking, bind_eq_ok, pure_eq_ok, Prod.exists, Prod.mk.injEq] at h
  obtain ⟨log, record', hlog, t₁, hrevoke, rfl, rfl⟩ := h
  obtain ⟨rows, rfl⟩ := revokeLeaseCapabilities_frame hrevoke
  refine ⟨⟨.single ⟨record', hlog⟩, rfl, rfl, ?_⟩, rfl, record', hlog⟩
  simpa using revokeLeaseCapabilities_revocable hrevoke

/-- `persist_capability` appends its event and leaves the queue. -/
lemma persistCapability_ok {t t' : Tables} {c : CapabilityRecord} {event : EventEnvelope}
    {record : EventRecord} (h : persistCapability t c event = .ok (t', record)) :
    eventLogSystem.Run t.toEventLog [event] t'.toEventLog ∧
      t'.publicationQueue = t.publicationQueue ∧ t'.artifacts = t.artifacts ∧
      t'.artifactAssociations = t.artifactAssociations := by
  simp only [persistCapability, insertCapability, mapError_eq_ok, bind_eq_ok, require_eq_ok,
    pure_eq_ok, Prod.mk.injEq, Prod.exists] at h
  obtain ⟨t₁, ⟨-, -, rfl⟩, log, record', hlog, rfl, rfl⟩ := h
  exact ⟨.single ⟨record', hlog⟩, rfl, rfl, rfl⟩

end Aizim.State
