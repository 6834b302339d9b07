import Aizim.Framework.Transaction
import Aizim.State.Documents
import Aizim.State.Publications

/-!
# The operations of the store as database programs

The operations of `Aizim.State.Store`, `Aizim.State.Documents` and `Aizim.State.Publications` are
functions on the tables, in which a transaction that raises has no result.  Here they are the
programs that compute these functions: statement by statement, with the checks between the
statements, and with the `BEGIN`, `COMMIT` and `ROLLBACK` of each exit where the source has them.

Each program is connected to the function of its name by `Realizes`: it commits what the function
computes, or raises what the function raises and leaves the connection as it was.  `StoreOp` puts
all operations together and `StoreOp.realizes` says so of each of them; `failed_operation` is the
consequence for a store under any sequence of operations.
-/

namespace Aizim.State

open Sql Domain

/-- A program over the database of a store. -/
abbrev StoreSql (α : Type) := Sql Tables StoreError α

instance : TransactionErrors StoreError where
  nested := .value "cannot start a transaction within a transaction"
  inactive := .value "no transaction is active"

variable [CharacterDatabase]

namespace Transactions

/-! ## Mutations -/

/-- `INSERT INTO events` -/
def insertEvent (event : EventEnvelope) : StoreSql ℕ := statement fun t => do
  require (event.eventId ∉ t.events.map (·.eventId)) (.integrity "events.event_id")
  let sequence := nextSequence (t.events.map (·.sequence))
  pure ({ t with events := t.events ++ [EventRow.ofEvent sequence event] }, sequence)

/-- `INSERT INTO projections ... ON CONFLICT DO UPDATE` -/
def upsertProjection (record : ProjectionRecord) : StoreSql PUnit :=
  write fun t => { t with projections := upsertRecord t.projections record }

/-- `apply_event_mutation` -/
def applyMutation (event : EventEnvelope) (snapshots : ProjectionTable) :
    StoreSql EventRecord := do
  let sequence ← insertEvent event
  let changes ← check (applyEvent snapshots event)
  forEach upsertProjection changes
  pure ⟨sequence, event⟩

/-- `register_artifact` -/
def registerArtifact (event : EventEnvelope) : StoreSql PUnit :=
  if event.eventType ≠ .artifactRegistered then pure ⟨⟩
  else do
    let runId ← check (artifactText event.runId)
    let artifactName ← check (artifactText (event.text? "artifact_name"))
    let contentHash ← check (artifactText (event.text? "content_hash"))
    let relativePath ← check (artifactText (event.text? "relative_path"))
    let mediaType ← check (artifactText (event.text? "media_type"))
    let byteLength ← check (artifactInteger (getEntry "byte_length" event.payload))
    let artifact : ArtifactRow := ⟨contentHash, runId, relativePath, mediaType, byteLength⟩
    write fun t => { t with artifacts := insertArtifact t.artifacts artifact }
    let row ← query fun t => t.artifacts.find? fun r => r.contentHash == contentHash
    check (require (row.map (fun r => (r.mediaType, r.byteLength)) = some (mediaType, byteLength))
      (.authority "artifacts" "artifact registration conflicts with stored hash"))
    let association : ArtifactAssociation :=
      ⟨runId, artifactName, relativePath, contentHash, mediaType, byteLength⟩
    write fun t =>
      { t with artifactAssociations := insertAssociation t.artifactAssociations association }
    let stored ← query fun t =>
      t.artifactAssociations.find? fun r => r.runId == runId && r.relativePath == relativePath
    check (require (stored = some association)
      (.authority "artifacts" "run artifact registration conflicts"))

/-- `revoke_lease_capabilities` -/
def revokeLeaseCapabilities (event : EventEnvelope) : StoreSql PUnit :=
  if isLeaseTerminal event.eventType = false then pure ⟨⟩
  else do
    let runId ← check (orThrow event.runId
      (.authority "run_id" "lease terminal event requires a run"))
    let leaseId ← check (orThrow (event.text? "lease_id")
      (.authority "lease_id" "lease terminal event requires a lease"))
    let isOfLease := fun r : CapabilityRow => r.runId == runId && r.leaseId == some leaseId
    write fun t =>
      { t with capabilityTokens := revokeWhere t.capabilityTokens isOfLease event.occurredAt }

omit [CharacterDatabase] in
lemma computes_upsertProjection (record : ProjectionRecord) :
    Computes (upsertProjection record) fun t =>
      .ok ({ t with projections := upsertRecord t.projections record }, PUnit.unit) :=
  .write _

/-- The mutations compute the functions of the same name. -/
lemma computes_applyMutation (event : EventEnvelope) (snapshots : ProjectionTable) :
    Computes (applyMutation event snapshots) fun t =>
      (fun r => ({ t with toEventLog := r.1 }, r.2)) <$>
        applyEventMutation t.toEventLog event snapshots := by
  have hupserts := Computes.forEach computes_upsertProjection
  refine ((Computes.statement _).bind fun sequence => (Computes.check _).bind fun changes =>
    (hupserts changes).bind fun _ => .pure _).congr fun t => ?_
  have hfold : ∀ (changes : List ProjectionRecord) (t : Tables),
      changes.foldl (fun t record => { t with projections := upsertRecord t.projections record }) t =
        { t with projections := changes.foldl upsertRecord t.projections } := by
    intro changes
    induction changes with
    | nil => exact fun _ => rfl
    | cons record changes ih => exact fun t => ih _
  by_cases hid : event.eventId ∈ t.events.map (·.eventId)
  · simp [applyEventMutation, require, hid]
  · cases hchanges : applyEvent snapshots event with
    | error e => simp [applyEventMutation, require, hid, hchanges]
    | ok changes => simp [applyEventMutation, require, hid, hchanges, hfold]

/-- The program performs the function, which has no result but the tables. -/
def Performs (p : StoreSql PUnit) (f : Tables → Except StoreError Tables) : Prop :=
  Computes p fun t => (·, PUnit.unit) <$> f t

lemma performs_registerArtifact (event : EventEnvelope) :
    Performs (registerArtifact event) fun t => State.registerArtifact t event := by
  by_cases h : event.eventType ≠ .artifactRegistered
  · rw [registerArtifact, if_pos h]
    refine (Computes.pure _).congr fun t => ?_
    simp only [State.registerArtifact, if_pos h]
    rfl
  · rw [registerArtifact, if_neg h]
    refine ((Computes.check _).bind fun runId => (Computes.check _).bind fun artifactName =>
      (Computes.check _).bind fun contentHash => (Computes.check _).bind fun relativePath =>
      (Computes.check _).bind fun mediaType => (Computes.check _).bind fun byteLength =>
      (Computes.write _).bind fun _ => (Computes.query _).bind fun row =>
      (Computes.check _).bind fun _ => (Computes.write _).bind fun _ =>
      (Computes.query _).bind fun stored => Computes.check _).congr fun t => ?_
    simp [State.registerArtifact, if_neg h]

lemma performs_revokeLeaseCapabilities (event : EventEnvelope) :
    Performs (revokeLeaseCapabilities event) fun t => State.revokeLeaseCapabilities t event := by
  by_cases h : isLeaseTerminal event.eventType = false
  · rw [revokeLeaseCapabilities, if_pos h]
    refine (Computes.pure _).congr fun t => ?_
    simp only [State.revokeLeaseCapabilities, if_pos h]
    rfl
  · rw [revokeLeaseCapabilities, if_neg h]
    refine ((Computes.check _).bind fun runId => (Computes.check _).bind fun leaseId =>
      Computes.write _).congr fun t => ?_
    simp [State.revokeLeaseCapabilities, if_neg h, bind_ok_eq_map]

/-! ## Log and capabilities -/

/-- `_append` of the store -/
def append (event : EventEnvelope) : StoreSql EventRecord :=
  mapError (constraintError event.eventId "unknown") do
    begin_
    withConnection do
      let snapshots ← query (·.projections)
      let record ← applyMutation event snapshots
      registerArtifact event
      revokeLeaseCapabilities event
      pure record

/-- `insert_capability` -/
def insertCapability (c : CapabilityRecord) : StoreSql PUnit :=
  statement fun t => (·, PUnit.unit) <$> State.insertCapability t c

/-- `persist_capability` -/
def persistCapability (c : CapabilityRecord) (event : EventEnvelope) : StoreSql EventRecord :=
  mapError (constraintError event.eventId "capability_tokens") do
    begin_
    withConnection do
      insertCapability c
      let snapshots ← query (·.projections)
      applyMutation event snapshots

/-- `revoke_capability` -/
def revokeCapability (tokenHash : String) (revokedAt : Datetime) : StoreSql Bool := do
  begin_
  withConnection (statement fun t => .ok (State.revokeCapability t tokenHash revokedAt))

lemma realizes_append (event : EventEnvelope) :
    Realizes (append event) fun t => State.append t event := by
  refine (Realizes.mapError (Realizes.withConnection ((Computes.query _).bind fun snapshots =>
    (computes_applyMutation event snapshots).bind fun record =>
    (performs_registerArtifact event).bind fun _ =>
    (performs_revokeLeaseCapabilities event).bind fun _ => .pure record)) _).congr fun t => ?_
  simp [State.append, appendMutation, bind_ok_eq_map]

lemma realizes_persistCapability (c : CapabilityRecord) (event : EventEnvelope) :
    Realizes (persistCapability c event) fun t => State.persistCapability t c event := by
  refine (Realizes.mapError (Realizes.withConnection ((Computes.statement _).bind fun _ =>
    (Computes.query _).bind fun snapshots => computes_applyMutation event snapshots)) _).congr
    fun t => ?_
  simp [State.persistCapability]

omit [CharacterDatabase] in
lemma realizes_revokeCapability (tokenHash : String) (revokedAt : Datetime) :
    Realizes (revokeCapability tokenHash revokedAt) fun t =>
      .ok (State.revokeCapability t tokenHash revokedAt) :=
  Realizes.withConnection (.statement _)

/-! ## Documents -/

/-- A document operation: checks on the projections, an event, and the capabilities it voids. -/
def documentTransaction {α β : Type} (validate : ProjectionTable → Except StoreError α)
    (event : EventEnvelope) (result : EventRecord → α → β) : StoreSql β := do
  begin_
  withConnection do
    let snapshots ← query (·.projections)
    let a ← check (validate snapshots)
    let record ← applyMutation event snapshots
    revokeLeaseCapabilities event
    pure (result record a)

lemma realizes_documentTransaction {α β : Type} (validate : ProjectionTable → Except StoreError α)
    (event : EventEnvelope) (result : EventRecord → α → β) :
    Realizes (documentTransaction validate event result) fun t =>
      validate t.projections >>= fun a =>
        (fun r => (r.1, result r.2 a)) <$> appendRevoking t event := by
  refine (Realizes.withConnection ((Computes.query _).bind fun snapshots =>
    (Computes.check _).bind fun a => (computes_applyMutation event snapshots).bind fun record =>
    (performs_revokeLeaseCapabilities event).bind fun _ => .pure _)).congr fun t => ?_
  simp [appendRevoking, bind_ok_eq_map]

/-- `GrantLease` -/
def grantLease (lease : FileLease) (relativePath : String) (now : Datetime)
    (event : EventEnvelope) : StoreSql EventRecord :=
  documentTransaction (fun s => validateGrant s lease relativePath now event) event
    fun record _ => record

/-- `PrepareEdit` -/
def prepareEdit (access : AccessDocument) (expectedVersion : Int) (expectedHash : String)
    (event : EventEnvelope) : StoreSql DocumentPreparation :=
  documentTransaction (fun s => do
    let document ← accessDocument s access
    document.validateExpected expectedVersion expectedHash
    eventMatches document event document.fileVersion (some document.contentHash)
    pure document) event fun _ document => ⟨event.eventId, document⟩

/-- `CommitEdit` -/
def commitEdit (preparationId : String) (now : Datetime) (event : EventEnvelope) :
    StoreSql EventRecord :=
  documentTransaction (fun s => do
    let document ← prepared s preparationId
    require (event.causationId = some preparationId) (.document "DOCUMENT_PREPARATION_MISMATCH")
    validateDocumentLease s document now
    eventMatches document event (document.fileVersion + 1) none) event fun record _ => record

/-- `RecoverEdit` -/
def recoverEdit (preparationId : String) (event : EventEnvelope) : StoreSql EventRecord :=
  documentTransaction (fun s => do
    let document ← prepared s preparationId
    require (event.causationId = some preparationId) (.document "DOCUMENT_PREPARATION_MISMATCH")
    eventMatches document event document.fileVersion (some document.contentHash)) event
    fun record _ => record

/-- `TerminateLease` -/
def terminateLease (runId : String) (workerId : Option String) (leaseId : String)
    (event : EventEnvelope) : StoreSql EventRecord :=
  documentTransaction (fun s => do
    let lease ← findLease s leaseId
    require (lease.active = true) (.document "LEASE_INACTIVE")
    require (lease.runId = runId) (.document "LEASE_RUN_MISMATCH")
    require (∀ worker ∈ workerId, lease.workerId = worker) (.document "LEASE_OWNER_MISMATCH"))
    event fun record _ => record

lemma realizes_grantLease (lease : FileLease) (relativePath : String) (now : Datetime)
    (event : EventEnvelope) : Realizes (grantLease lease relativePath now event) fun t =>
      State.grantLease t lease relativePath now event :=
  (realizes_documentTransaction _ event _).congr fun t => by
    simp [State.grantLease]

lemma realizes_prepareEdit (access : AccessDocument) (expectedVersion : Int)
    (expectedHash : String) (event : EventEnvelope) :
    Realizes (prepareEdit access expectedVersion expectedHash event) fun t =>
      State.prepareEdit t access expectedVersion expectedHash event :=
  (realizes_documentTransaction _ event _).congr fun t => by
    simp [State.prepareEdit]

lemma realizes_commitEdit (preparationId : String) (now : Datetime) (event : EventEnvelope) :
    Realizes (commitEdit preparationId now event) fun t =>
      State.commitEdit t preparationId now event :=
  (realizes_documentTransaction _ event _).congr fun t => by
    simp [State.commitEdit]

lemma realizes_recoverEdit (preparationId : String) (event : EventEnvelope) :
    Realizes (recoverEdit preparationId event) fun t => State.recoverEdit t preparationId event :=
  (realizes_documentTransaction _ event _).congr fun t => by
    simp [State.recoverEdit]

lemma realizes_terminateLease (runId : String) (workerId : Option String) (leaseId : String)
    (event : EventEnvelope) : Realizes (terminateLease runId workerId leaseId event) fun t =>
      State.terminateLease t runId workerId leaseId event :=
  (realizes_documentTransaction _ event _).congr fun t => by
    simp [State.terminateLease]

/-! ## Publication -/

/-- The transaction of a publication operation: a failing rollback is suppressed. -/
def publicationTransaction {α : Type} (body : StoreSql α) : StoreSql α := do
  begin_
  onError body (suppress rollback)

/-- `_append` of the publication store -/
def appendPublication (event : EventEnvelope) : StoreSql PUnit := do
  let snapshots ← query (·.projections)
  let _ ← applyMutation event snapshots
  revokeLeaseCapabilities event

/-- `INSERT INTO publication_queue`, with the key that the row takes. -/
def insertQueued (contributionId : String) : StoreSql ℕ := statement fun t => do
  let t' ← State.insertQueued t contributionId
  pure (t', (queuedRow t.publicationQueue contributionId).enqueueSequence)

/-- `_update` -/
def updateEntry (current : PublicationQueueEntry) (owner : String) (claimedAt : Datetime)
    (target : PublicationQueueState) : StoreSql PublicationQueueEntry := do
  let rowcount ← statement fun t => .ok
    ({ t with
        publicationQueue := t.publicationQueue.map fun row =>
          if isCurrent current row then updatedRow row owner claimedAt target else row },
      t.publicationQueue.countP (isCurrent current))
  check (require (rowcount = 1) (.value "PROMOTION_CLAIM_DENIED"))
  check (PublicationQueueEntry.create current.contributionId current.enqueueSequence target
    (current.stateVersion + 1) (some owner) (some claimedAt))

/-- `_append(connection, reducer, event(..., _run(...), ...))` -/
def appendChange (entry : PublicationQueueEntry) (formerOwner : Option String)
    (event : EventFactory) : StoreSql PUnit := do
  let run ← reading fun t => runOf t.toEventLog entry.contributionId
  let change ← check (event entry.contributionId entry.state entry.stateVersion run formerOwner)
  appendPublication change

lemma performs_appendPublication (event : EventEnvelope) :
    Performs (appendPublication event) fun t => State.appendPublication t event := by
  refine ((Computes.query _).bind fun snapshots => (computes_applyMutation event snapshots).bind
    fun _ => performs_revokeLeaseCapabilities event).congr fun t => ?_
  simp [State.appendPublication, appendRevoking]

omit [CharacterDatabase] in
lemma computes_insertQueued (contributionId : String) :
    Computes (insertQueued contributionId) fun t =>
      (·, (queuedRow t.publicationQueue contributionId).enqueueSequence) <$>
        State.insertQueued t contributionId :=
  (Computes.statement _).congr fun _ => bind_ok_eq_map _ _

omit [CharacterDatabase] in
lemma computes_updateEntry (current : PublicationQueueEntry) (owner : String)
    (claimedAt : Datetime) (target : PublicationQueueState) :
    Computes (updateEntry current owner claimedAt target) fun t =>
      State.updateEntry t current owner claimedAt target := by
  refine ((Computes.statement _).bind fun rowcount => (Computes.check _).bind fun _ =>
    Computes.check _).congr fun t => ?_
  simp [State.updateEntry]

lemma performs_appendChange (entry : PublicationQueueEntry) (formerOwner : Option String)
    (event : EventFactory) : Performs (appendChange entry formerOwner event) fun t =>
      State.appendChange t entry formerOwner event := by
  refine ((Computes.reading _).bind fun run => (Computes.check _).bind fun change =>
    performs_appendPublication change).congr fun t => ?_
  simp [State.appendChange]

omit [CharacterDatabase] in
/-- A mutation without a result, and what follows it. -/
lemma closes_performs {α : Type} {p : StoreSql PUnit} {f : Tables → Except StoreError Tables}
    {q : StoreSql α} {g : Tables → Except StoreError (Tables × α)} {t s : Tables}
    (hp : Performs p f) (hq : ∀ s', f s = .ok s' → Closes q (g s') ⟨t, some s'⟩) :
    Closes (do p; q) (f s >>= g) ⟨t, some s⟩ := by
  have hbind : (f s >>= g) = ((·, PUnit.unit) <$> f s) >>= fun r => g r.1 := by simp
  rw [hbind]
  refine Closes.bind hp fun s' _ hf => ?_
  obtain ⟨s'', hs, heq⟩ := map_eq_ok.1 hf
  obtain ⟨rfl, -⟩ := Prod.mk.inj heq
  exact hq _ hs

/-- `claim_next` -/
def claimNext (owner : String) (claimedAt : Datetime) (event : EventFactory) :
    StoreSql (Option PublicationQueueEntry) := publicationTransaction do
  if ← query fun t => active t.publicationQueue then
    commit
    pure none
  else
    match ← query fun t =>
        firstBySequence (t.publicationQueue.filter fun row => row.state == .queued) with
    | none =>
      commit
      pure none
    | some row =>
      let current ← check (entryOfRow row)
      let claimed ← updateEntry current owner claimedAt .staged
      appendChange claimed none event
      commit
      pure (some claimed)

lemma realizes_claimNext (owner : String) (claimedAt : Datetime) (event : EventFactory) :
    Realizes (claimNext owner claimedAt event) fun t => State.claimNext t owner claimedAt event := by
  refine Realizes.transaction fun t => Closes.query ?_
  unfold State.claimNext
  by_cases hactive : active t.publicationQueue = true
  · rw [if_pos hactive, hactive]
    exact Closes.commit none t t
  · rw [if_neg hactive, Bool.eq_false_iff.2 hactive]
    refine Closes.query ?_
    cases hrow : firstBySequence (t.publicationQueue.filter fun row => row.state == .queued) with
    | none => exact Closes.commit none t t
    | some row =>
      refine Closes.check fun current _ => ?_
      refine Closes.bind (computes_updateEntry current owner claimedAt .staged) fun t₁ claimed _ => ?_
      refine closes_performs (performs_appendChange claimed none event) fun t₂ _ => ?_
      exact Closes.commit (some claimed) t t₂

/-- The transaction of `enqueue`: the entry found, or the key of the new row. -/
def enqueueTransaction (contributionId : String) (submitted queued : EventEnvelope) :
    StoreSql (PublicationQueueEntry ⊕ ℕ) := publicationTransaction do
  match ← query fun t => findRow t.publicationQueue contributionId with
  | some existing =>
    let same ← query fun t => sameSubmission t.toEventLog submitted
    check (require (same = true) (.value "DUPLICATE_CONTRIBUTION_MISMATCH"))
    commit
    let entry ← check (entryOfRow existing)
    pure (.inl entry)
  | none =>
    appendPublication submitted
    let sequence ← insertQueued contributionId
    appendPublication queued
    commit
    pure (.inr sequence)

/-- `enqueue` -/
def enqueue (submitted queued : EventEnvelope) : StoreSql PublicationQueueEntry := do
  let contributionId ← check (contributionIdOf submitted "INVALID_CONTRIBUTION_ENQUEUE")
  check (require (queued.eventType = .contributionEnqueued) (.value "INVALID_CONTRIBUTION_ENQUEUE"))
  let queuedId ← check (contributionIdOf queued "INVALID_CONTRIBUTION_ENQUEUE")
  check (require (queuedId = contributionId) (.value "INVALID_CONTRIBUTION_ENQUEUE"))
  let found ← enqueueTransaction contributionId submitted queued
  check (match found with
    | .inl entry => .ok entry
    | .inr sequence => PublicationQueueEntry.create contributionId sequence .queued 0 none none)

/-- `advance` -/
def advance (contributionId owner : String) (target : PublicationQueueState)
    (changedAt : Datetime) (event : EventFactory) : StoreSql PublicationQueueEntry := do
  check (require (target ≠ .published) (.value "PUBLISHED_REQUIRES_PREPARATION"))
  publicationTransaction do
    let current ← reading fun t => currentEntry t contributionId
    check (require (current.claimedBy = some owner) (.value "PROMOTION_CLAIM_DENIED"))
    check (require (current.state.canTransition target = true)
      (.value "INVALID_PROMOTION_TRANSITION"))
    let changed ← updateEntry current owner changedAt target
    appendChange changed none event
    commit
    pure changed

/-- `heartbeat` -/
def heartbeat (contributionId owner : String) (changedAt : Datetime) (event : EventFactory) :
    StoreSql PublicationQueueEntry := publicationTransaction do
  let current ← reading fun t => currentEntry t contributionId
  check (require (current.claimedBy = some owner ∧ current.state.isActive = true)
    (.value "PROMOTION_CLAIM_DENIED"))
  let refreshed ← updateEntry current owner changedAt current.state
  appendChange refreshed none event
  commit
  pure refreshed

/-- `prepare` -/
def prepare (contributionId owner : String) (prepared : EventEnvelope) :
    StoreSql PublicationQueueEntry := publicationTransaction do
  let current ← reading fun t => currentEntry t contributionId
  check (require (current.claimedBy = some owner ∧ current.state = .materialized)
    (.value "INVALID_PROMOTION_TRANSITION"))
  check (require (prepared.eventType = .promotionPrepared ∧
    prepared.text? "contribution_id" = some contributionId)
    (.value "INVALID_PROMOTION_PREPARATION"))
  match ← query fun t => preparationRow t.toEventLog contributionId with
  | none =>
    appendPublication prepared
    commit
    pure current
  | some existing =>
    check (require (existing.payloadJson = .ofObject prepared.payload)
      (.value "PROMOTION_PREPARATION_MISMATCH"))
    commit
    pure current

/-- `publish_promotion` -/
def publishPromotion (contributionId owner : String) (changedAt : Datetime)
    (declaration delta : EventEnvelope) (event : EventFactory) :
    StoreSql PublicationQueueEntry := publicationTransaction do
  let current ← reading fun t => currentEntry t contributionId
  check (require (current.claimedBy = some owner ∧
    current.state.canTransition .published = true) (.value "INVALID_PROMOTION_TRANSITION"))
  reading fun t => require
    (isPrepared t.toEventLog (expectedPreparation contributionId declaration delta) = true)
    (.value "PROMOTION_NOT_PREPARED")
  let published ← updateEntry current owner changedAt .published
  appendPublication declaration
  appendPublication delta
  let change ← check (event published.contributionId published.state published.stateVersion
    declaration.runId none)
  appendPublication change
  commit
  pure published

/-- `fail_promotion` -/
def failPromotion (contributionId owner : String) (changedAt : Datetime)
    (failure : EventEnvelope) (event : EventFactory) :
    StoreSql PublicationQueueEntry := publicationTransaction do
  let current ← reading fun t => currentEntry t contributionId
  check (require (current.claimedBy = some owner ∧
    current.state.canTransition .quarantined = true) (.value "INVALID_PROMOTION_TRANSITION"))
  let quarantined ← updateEntry current owner changedAt .quarantined
  appendPublication failure
  let change ← check (event quarantined.contributionId quarantined.state
    quarantined.stateVersion failure.runId none)
  appendPublication change
  commit
  pure quarantined

/-- `recover_expired_promotion` -/
def recoverExpiredPromotion (owner : String) (now staleBefore : Datetime) (event : EventFactory) :
    StoreSql (Option PublicationQueueEntry) := publicationTransaction do
  match ← query fun t => firstBySequence (t.publicationQueue.filter (isExpired staleBefore)) with
  | none =>
    commit
    pure none
  | some row =>
    let current ← check (entryOfRow row)
    let recovered ← updateEntry current owner now current.state
    appendChange recovered current.claimedBy event
    commit
    pure (some recovered)

/-- `rebase` -/
def rebase (contributionId owner : String) (changedAt : Datetime)
    (submitted queued rebased : EventEnvelope) (event : EventFactory) :
    StoreSql (PublicationQueueEntry × PublicationQueueEntry) := publicationTransaction do
  let current ← reading fun t => currentEntry t contributionId
  let newId ← check (contributionIdOf submitted "INVALID_PROMOTION_REBASE")
  check (require (current.claimedBy = some owner ∧ current.state.isActive = true ∧
    queued.eventType = .contributionEnqueued) (.value "INVALID_PROMOTION_REBASE"))
  let queuedId ← check (contributionIdOf queued "INVALID_PROMOTION_REBASE")
  check (require (queuedId = newId ∧ rebased.eventType = .contributionRebased ∧
    rebased.text? "contribution_id" = some newId ∧
    rebased.text? "source_contribution_id" = some contributionId)
    (.value "INVALID_PROMOTION_REBASE"))
  reading fun t => require (findRow t.publicationQueue newId = none)
    (.value "DUPLICATE_CONTRIBUTION_MISMATCH")
  let quarantined ← updateEntry current owner changedAt .quarantined
  let run ← reading fun t => runOf t.toEventLog contributionId
  let change ← check (event contributionId quarantined.state quarantined.stateVersion run none)
  appendPublication change
  appendPublication submitted
  let sequence ← insertQueued newId
  appendPublication queued
  appendPublication rebased
  commit
  let entry ← check (PublicationQueueEntry.create newId sequence .queued 0 none none)
  pure (quarantined, entry)

lemma realizes_advance (contributionId owner : String) (target : PublicationQueueState)
    (changedAt : Datetime) (event : EventFactory) :
    Realizes (advance contributionId owner target changedAt event) fun t =>
      State.advance t contributionId owner target changedAt event := by
  refine Realizes.check fun _ _ => Realizes.transaction fun t => ?_
  refine Closes.reading fun current _ => Closes.check fun _ _ => Closes.check fun _ _ => ?_
  refine Closes.bind (computes_updateEntry current owner changedAt target) fun t₁ changed _ => ?_
  refine closes_performs (performs_appendChange changed none event) fun t₂ _ => ?_
  exact Closes.commit changed t t₂

lemma realizes_heartbeat (contributionId owner : String) (changedAt : Datetime)
    (event : EventFactory) : Realizes (heartbeat contributionId owner changedAt event) fun t =>
      State.heartbeat t contributionId owner changedAt event := by
  refine Realizes.transaction fun t => ?_
  refine Closes.reading fun current _ => Closes.check fun _ _ => ?_
  refine Closes.bind (computes_updateEntry current owner changedAt current.state)
    fun t₁ refreshed _ => ?_
  refine closes_performs (performs_appendChange refreshed none event) fun t₂ _ => ?_
  exact Closes.commit refreshed t t₂

lemma realizes_prepare (contributionId owner : String) (prepared : EventEnvelope) :
    Realizes (prepare contributionId owner prepared) fun t =>
      State.prepare t contributionId owner prepared := by
  refine Realizes.transaction fun t => ?_
  refine Closes.reading fun current _ => Closes.check fun _ _ => Closes.check fun _ _ => ?_
  refine Closes.query ?_
  cases hrow : preparationRow t.toEventLog contributionId with
  | none =>
    refine closes_performs (performs_appendPublication prepared) fun t₁ _ => ?_
    exact Closes.commit current t t₁
  | some existing =>
    refine Closes.check fun _ _ => ?_
    exact Closes.commit current t t

lemma realizes_publishPromotion (contributionId owner : String) (changedAt : Datetime)
    (declaration delta : EventEnvelope) (event : EventFactory) :
    Realizes (publishPromotion contributionId owner changedAt declaration delta event) fun t =>
      State.publishPromotion t contributionId owner changedAt declaration delta event := by
  refine Realizes.transaction fun t => ?_
  refine Closes.reading fun current _ => Closes.check fun _ _ => Closes.reading fun _ _ => ?_
  refine Closes.bind (computes_updateEntry current owner changedAt .published)
    fun t₁ published _ => ?_
  refine closes_performs (performs_appendPublication declaration) fun t₂ _ => ?_
  refine closes_performs (performs_appendPublication delta) fun t₃ _ => ?_
  refine Closes.check fun change _ => ?_
  refine closes_performs (performs_appendPublication change) fun t₄ _ => ?_
  exact Closes.commit published t t₄

lemma realizes_failPromotion (contributionId owner : String) (changedAt : Datetime)
    (failure : EventEnvelope) (event : EventFactory) :
    Realizes (failPromotion contributionId owner changedAt failure event) fun t =>
      State.failPromotion t contributionId owner changedAt failure event := by
  refine Realizes.transaction fun t => ?_
  refine Closes.reading fun current _ => Closes.check fun _ _ => ?_
  refine Closes.bind (computes_updateEntry current owner changedAt .quarantined)
    fun t₁ quarantined _ => ?_
  refine closes_performs (performs_appendPublication failure) fun t₂ _ => ?_
  refine Closes.check fun change _ => ?_
  refine closes_performs (performs_appendPublication change) fun t₃ _ => ?_
  exact Closes.commit quarantined t t₃

lemma realizes_recoverExpiredPromotion (owner : String) (now staleBefore : Datetime)
    (event : EventFactory) :
    Realizes (recoverExpiredPromotion owner now staleBefore event) fun t =>
      State.recoverExpiredPromotion t owner now staleBefore event := by
  refine Realizes.transaction fun t => Closes.query ?_
  unfold State.recoverExpiredPromotion
  cases hrow : firstBySequence (t.publicationQueue.filter (isExpired staleBefore)) with
  | none => exact Closes.commit none t t
  | some row =>
    refine Closes.check fun current _ => ?_
    refine Closes.bind (computes_updateEntry current owner now current.state)
      fun t₁ recovered _ => ?_
    refine closes_performs (performs_appendChange recovered current.claimedBy event) fun t₂ _ => ?_
    exact Closes.commit (some recovered) t t₂

omit [CharacterDatabase] in
/-- The entry of a contribution that was queued is made without an exception. -/
lemma exists_create_queued {contributionId : String} (h : contributionId ≠ "")
    (queue : List PublicationQueueRow) : ∃ entry,
      PublicationQueueEntry.create contributionId
        (queuedRow queue contributionId).enqueueSequence .queued 0 none none = .ok entry := by
  have hpos : 1 ≤ (queuedRow queue contributionId).enqueueSequence := by
    simp [queuedRow, nextSequence]
  exact ⟨_, dif_pos ⟨h, hpos, by simp⟩⟩

lemma contributionIdOf_ne {event : EventEnvelope} {code contributionId : String}
    (h : contributionIdOf event code = .ok contributionId) : contributionId ≠ "" := by
  simp only [contributionIdOf, bind_eq_ok, require_eq_ok, pure_eq_ok] at h
  obtain ⟨value, -, -, hne, rfl⟩ := h
  exact hne

lemma realizes_rebase (contributionId owner : String) (changedAt : Datetime)
    (submitted queued rebased : EventEnvelope) (event : EventFactory) :
    Realizes (rebase contributionId owner changedAt submitted queued rebased event) fun t =>
      State.rebase t contributionId owner changedAt submitted queued rebased event := by
  refine Realizes.transaction fun t => ?_
  refine Closes.reading fun current _ => Closes.check fun newId hnew => Closes.check fun _ _ =>
    Closes.check fun queuedId _ => Closes.check fun _ _ => Closes.reading fun _ _ => ?_
  refine Closes.bind (computes_updateEntry current owner changedAt .quarantined)
    fun t₁ quarantined _ => ?_
  refine Closes.reading fun run _ => Closes.check fun change _ => ?_
  refine closes_performs (performs_appendPublication change) fun t₂ _ => ?_
  refine closes_performs (performs_appendPublication submitted) fun t₃ _ => ?_
  have hinsert : ∀ g : Tables → Except StoreError
      (Tables × PublicationQueueEntry × PublicationQueueEntry),
      (State.insertQueued t₃ newId >>= g) =
        ((·, (queuedRow t₃.publicationQueue newId).enqueueSequence) <$>
          State.insertQueued t₃ newId) >>= fun r => g r.1 := by
    intro g
    simp
  rw [hinsert]
  refine Closes.bind (computes_insertQueued newId) fun t₄ sequence hsequence => ?_
  obtain ⟨_, -, heq⟩ := map_eq_ok.1 hsequence
  obtain ⟨rfl, rfl⟩ := Prod.mk.inj heq
  refine closes_performs (performs_appendPublication queued) fun t₅ _ => ?_
  refine closes_performs (performs_appendPublication rebased) fun t₆ _ => ?_
  obtain ⟨entry, hentry⟩ := exists_create_queued (contributionIdOf_ne hnew) t₃.publicationQueue
  rw [hentry]
  exact Closes.commit (quarantined, entry) t t₆

/-- What the transaction of `enqueue` computes. -/
def enqueueFound (contributionId : String) (submitted queued : EventEnvelope) (t : Tables) :
    Except StoreError (Tables × (PublicationQueueEntry ⊕ ℕ)) :=
  match findRow t.publicationQueue contributionId with
  | some existing => do
    require (sameSubmission t.toEventLog submitted = true) (.value "DUPLICATE_CONTRIBUTION_MISMATCH")
    let entry ← entryOfRow existing
    pure (t, .inl entry)
  | none => do
    let t₁ ← State.appendPublication t submitted
    let (t₂, sequence) ← (·, (queuedRow t₁.publicationQueue contributionId).enqueueSequence) <$>
      State.insertQueued t₁ contributionId
    let t₃ ← State.appendPublication t₂ queued
    pure (t₃, .inr sequence)

lemma realizes_enqueueTransaction (contributionId : String) (submitted queued : EventEnvelope) :
    Realizes (enqueueTransaction contributionId submitted queued)
      (enqueueFound contributionId submitted queued) := by
  refine Realizes.transaction fun t => Closes.query ?_
  unfold enqueueFound
  cases hrow : findRow t.publicationQueue contributionId with
  | some existing =>
    refine Closes.query (Closes.check fun _ _ => ?_)
    -- the entry is read after the commit, which has nothing to commit
    cases hentry : entryOfRow existing with
    | error e => exact ⟨none, rfl⟩
    | ok entry => rfl
  | none =>
    refine closes_performs (performs_appendPublication submitted) fun t₁ _ => ?_
    refine Closes.bind (computes_insertQueued contributionId) fun t₂ sequence _ => ?_
    refine closes_performs (performs_appendPublication queued) fun t₃ _ => ?_
    exact Closes.commit (Sum.inr sequence) t t₃

/-- The key that the transaction of `enqueue` returns is one of a new row. -/
lemma enqueueFound_inr {contributionId : String} {submitted queued : EventEnvelope}
    {t t' : Tables} {sequence : ℕ}
    (h : enqueueFound contributionId submitted queued t = .ok (t', .inr sequence)) :
    ∃ queue, sequence = (queuedRow queue contributionId).enqueueSequence := by
  unfold enqueueFound at h
  split at h
  · simp only [bind_eq_ok, pure_eq_ok, Prod.mk.injEq, reduceCtorEq, and_false, exists_false] at h
  · simp only [bind_eq_ok, map_eq_ok, pure_eq_ok, Prod.mk.injEq, Sum.inr.injEq] at h
    obtain ⟨t₁, -, ⟨t₂, key⟩, ⟨-, -, -, rfl⟩, t₃, -, -, rfl⟩ := h
    exact ⟨_, rfl⟩

lemma realizes_enqueue (submitted queued : EventEnvelope) :
    Realizes (enqueue submitted queued) fun t => State.enqueue t submitted queued := by
  unfold enqueue State.enqueue
  refine Realizes.check fun contributionId hid => Realizes.check fun _ _ =>
    Realizes.check fun queuedId _ => Realizes.check fun _ _ => ?_
  have htransaction := realizes_enqueueTransaction contributionId submitted queued
  refine (htransaction.bind_check fun t t' found hfound => ?_).congr fun t => ?_
  · cases found with
    | inl entry => exact ⟨entry, rfl⟩
    | inr sequence =>
      obtain ⟨queue, rfl⟩ := enqueueFound_inr hfound
      exact exists_create_queued (contributionIdOf_ne hid) queue
  · unfold enqueueFound
    cases findRow t.publicationQueue contributionId with
    | some existing => simp [bind_ok_eq_map]
    | none => simp

end Transactions

/-! ## All operations -/

/-- The operations of the store. -/
inductive StoreOp
  | append (event : EventEnvelope)
  | persistCapability (capability : CapabilityRecord) (event : EventEnvelope)
  | revokeCapability (tokenHash : String) (revokedAt : Datetime)
  | accessDocument (access : AccessDocument)
  | activeLeases
  | preparedDocuments
  | grantLease (lease : FileLease) (relativePath : String) (now : Datetime) (event : EventEnvelope)
  | prepareEdit (access : AccessDocument) (expectedVersion : Int) (expectedHash : String)
      (event : EventEnvelope)
  | commitEdit (preparationId : String) (now : Datetime) (event : EventEnvelope)
  | recoverEdit (preparationId : String) (event : EventEnvelope)
  | terminateLease (runId : String) (workerId : Option String) (leaseId : String)
      (event : EventEnvelope)
  | enqueue (submitted queued : EventEnvelope)
  | claimNext (owner : String) (claimedAt : Datetime) (event : EventFactory)
  | advance (contributionId owner : String) (target : PublicationQueueState)
      (changedAt : Datetime) (event : EventFactory)
  | heartbeat (contributionId owner : String) (changedAt : Datetime) (event : EventFactory)
  | prepare (contributionId owner : String) (prepared : EventEnvelope)
  | publish (contributionId owner : String) (changedAt : Datetime)
      (declaration delta : EventEnvelope) (event : EventFactory)
  | fail (contributionId owner : String) (changedAt : Datetime) (failure : EventEnvelope)
      (event : EventFactory)
  | recover (owner : String) (now staleBefore : Datetime) (event : EventFactory)
  | rebase (contributionId owner : String) (changedAt : Datetime)
      (submitted queued rebased : EventEnvelope) (event : EventFactory)

/-- What an operation returns. -/
inductive StoreResult
  | record (record : EventRecord)
  | revoked (changed : Bool)
  | document (document : DocumentState)
  | leases (leases : List LeaseState)
  | documents (documents : List DocumentState)
  | preparation (preparation : DocumentPreparation)
  | entry (entry : PublicationQueueEntry)
  | claimed (entry : Option PublicationQueueEntry)
  | rebased (entries : PublicationQueueEntry × PublicationQueueEntry)

namespace StoreOp

/-- The program of an operation. -/
def run : StoreOp → StoreSql StoreResult
  | append event => .record <$> Transactions.append event
  | persistCapability capability event =>
    .record <$> Transactions.persistCapability capability event
  | revokeCapability tokenHash revokedAt =>
    .revoked <$> Transactions.revokeCapability tokenHash revokedAt
  | accessDocument access =>
    .document <$> reading fun t => State.accessDocument t.projections access
  | activeLeases => .leases <$> reading fun t => State.activeLeases t.projections
  | preparedDocuments => .documents <$> reading fun t => State.preparedDocuments t.projections
  | grantLease lease relativePath now event =>
    .record <$> Transactions.grantLease lease relativePath now event
  | prepareEdit access expectedVersion expectedHash event =>
    .preparation <$> Transactions.prepareEdit access expectedVersion expectedHash event
  | commitEdit preparationId now event =>
    .record <$> Transactions.commitEdit preparationId now event
  | recoverEdit preparationId event => .record <$> Transactions.recoverEdit preparationId event
  | terminateLease runId workerId leaseId event =>
    .record <$> Transactions.terminateLease runId workerId leaseId event
  | enqueue submitted queued => .entry <$> Transactions.enqueue submitted queued
  | claimNext owner claimedAt event => .claimed <$> Transactions.claimNext owner claimedAt event
  | advance contributionId owner target changedAt event =>
    .entry <$> Transactions.advance contributionId owner target changedAt event
  | heartbeat contributionId owner changedAt event =>
    .entry <$> Transactions.heartbeat contributionId owner changedAt event
  | prepare contributionId owner prepared =>
    .entry <$> Transactions.prepare contributionId owner prepared
  | publish contributionId owner changedAt declaration delta event =>
    .entry <$> Transactions.publishPromotion contributionId owner changedAt declaration delta event
  | fail contributionId owner changedAt failure event =>
    .entry <$> Transactions.failPromotion contributionId owner changedAt failure event
  | recover owner now staleBefore event =>
    .claimed <$> Transactions.recoverExpiredPromotion owner now staleBefore event
  | rebase contributionId owner changedAt submitted queued rebased event =>
    .rebased <$>
      Transactions.rebase contributionId owner changedAt submitted queued rebased event

/-- The function of an operation. -/
def compute (op : StoreOp) (t : Tables) : Except StoreError (Tables × StoreResult) :=
  match op with
  | append event => Prod.map id .record <$> State.append t event
  | persistCapability capability event =>
    Prod.map id .record <$> State.persistCapability t capability event
  | revokeCapability tokenHash revokedAt =>
    .ok (Prod.map id .revoked (State.revokeCapability t tokenHash revokedAt))
  | accessDocument access => (t, .document ·) <$> State.accessDocument t.projections access
  | activeLeases => (t, .leases ·) <$> State.activeLeases t.projections
  | preparedDocuments => (t, .documents ·) <$> State.preparedDocuments t.projections
  | grantLease lease relativePath now event =>
    Prod.map id .record <$> State.grantLease t lease relativePath now event
  | prepareEdit access expectedVersion expectedHash event =>
    Prod.map id .preparation <$> State.prepareEdit t access expectedVersion expectedHash event
  | commitEdit preparationId now event =>
    Prod.map id .record <$> State.commitEdit t preparationId now event
  | recoverEdit preparationId event =>
    Prod.map id .record <$> State.recoverEdit t preparationId event
  | terminateLease runId workerId leaseId event =>
    Prod.map id .record <$> State.terminateLease t runId workerId leaseId event
  | enqueue submitted queued => Prod.map id .entry <$> State.enqueue t submitted queued
  | claimNext owner claimedAt event =>
    Prod.map id .claimed <$> State.claimNext t owner claimedAt event
  | advance contributionId owner target changedAt event =>
    Prod.map id .entry <$> State.advance t contributionId owner target changedAt event
  | heartbeat contributionId owner changedAt event =>
    Prod.map id .entry <$> State.heartbeat t contributionId owner changedAt event
  | prepare contributionId owner prepared =>
    Prod.map id .entry <$> State.prepare t contributionId owner prepared
  | publish contributionId owner changedAt declaration delta event =>
    Prod.map id .entry <$>
      State.publishPromotion t contributionId owner changedAt declaration delta event
  | fail contributionId owner changedAt failure event =>
    Prod.map id .entry <$> State.failPromotion t contributionId owner changedAt failure event
  | recover owner now staleBefore event =>
    Prod.map id .claimed <$> State.recoverExpiredPromotion t owner now staleBefore event
  | rebase contributionId owner changedAt submitted queued rebased event =>
    Prod.map id .rebased <$>
      State.rebase t contributionId owner changedAt submitted queued rebased event

/-- Every operation commits what its function computes, or raises what it raises and leaves the
connection unchanged. -/
theorem realizes (op : StoreOp) : Realizes op.run op.compute := by
  cases op with
  | append event => exact (Transactions.realizes_append event).map _
  | persistCapability capability event => exact (Transactions.realizes_persistCapability capability event).map _
  | revokeCapability tokenHash revokedAt =>
    exact (Transactions.realizes_revokeCapability tokenHash revokedAt).map _
  | accessDocument access =>
    exact ((Realizes.reading _).map _).congr fun t => by simp [compute, Prod.map]
  | activeLeases => exact ((Realizes.reading _).map _).congr fun t => by simp [compute, Prod.map]
  | preparedDocuments =>
    exact ((Realizes.reading _).map _).congr fun t => by simp [compute, Prod.map]
  | grantLease lease relativePath now event =>
    exact (Transactions.realizes_grantLease lease relativePath now event).map _
  | prepareEdit access expectedVersion expectedHash event =>
    exact (Transactions.realizes_prepareEdit access expectedVersion expectedHash event).map _
  | commitEdit preparationId now event => exact (Transactions.realizes_commitEdit preparationId now event).map _
  | recoverEdit preparationId event => exact (Transactions.realizes_recoverEdit preparationId event).map _
  | terminateLease runId workerId leaseId event =>
    exact (Transactions.realizes_terminateLease runId workerId leaseId event).map _
  | enqueue submitted queued => exact (Transactions.realizes_enqueue submitted queued).map _
  | claimNext owner claimedAt event => exact (Transactions.realizes_claimNext owner claimedAt event).map _
  | advance contributionId owner target changedAt event =>
    exact (Transactions.realizes_advance contributionId owner target changedAt event).map _
  | heartbeat contributionId owner changedAt event =>
    exact (Transactions.realizes_heartbeat contributionId owner changedAt event).map _
  | prepare contributionId owner prepared =>
    exact (Transactions.realizes_prepare contributionId owner prepared).map _
  | publish contributionId owner changedAt declaration delta event =>
    exact (Transactions.realizes_publishPromotion contributionId owner changedAt declaration delta event).map _
  | fail contributionId owner changedAt failure event =>
    exact (Transactions.realizes_failPromotion contributionId owner changedAt failure event).map _
  | recover owner now staleBefore event =>
    exact (Transactions.realizes_recoverExpiredPromotion owner now staleBefore event).map _
  | rebase contributionId owner changedAt submitted queued rebased event =>
    exact (Transactions.realizes_rebase contributionId owner changedAt submitted queued rebased event).map _

end StoreOp

/-- A new store under any sequence of operations, whether they return or raise. -/
def storeSystem : TransitionSystem (Connection Tables) StoreOp :=
  .ofFunction ⟨initialTables, none⟩ fun c op => (op.run c).2

/-- Between two operations no transaction is open. -/
lemma pending_of_reachable {c : Connection Tables} (h : storeSystem.Reachable c) :
    c.pending = none := by
  refine h.invariant (P := fun c => c.pending = none) ?_ ?_
  · rintro c rfl
    rfl
  · rintro ⟨t, pending⟩ op c hpending rfl
    obtain rfl : pending = none := hpending
    exact op.realizes.pending t

/-- **Atomicity.** In every store that operations lead to, an operation that raises leaves the
tables as they were and no transaction open, and whatever operation comes next acts as if the
failed one had not been called. -/
theorem failed_operation {c c' : Connection Tables} {op : StoreOp} {e : StoreError}
    (hc : storeSystem.Reachable c) (h : op.run c = (.error e, c')) :
    c'.committed = c.committed ∧ c'.pending = none ∧ c.pending = none ∧
      ∀ next : StoreOp, next.run c' = next.run c := by
  have hpending := pending_of_reachable hc
  obtain ⟨t, pending⟩ := c
  obtain rfl : pending = none := hpending
  obtain rfl := op.realizes.eq_of_error h
  exact ⟨rfl, rfl, rfl, fun _ => rfl⟩

omit [CharacterDatabase] in
theorem failed_operation_sample : letI := asciiDatabase
    ∃ (event : EventEnvelope) (e : StoreError) (c' : Connection Tables),
      (StoreOp.append event).run ⟨initialTables, none⟩ = (.error e, c') ∧
        c'.committed = initialTables ∧ c'.pending = none := by
  let := asciiDatabase
  -- an artifact is registered without a run: the event is inserted before the check fails
  have hevent : ∃ event, makeEvent
      ⟨"01ARZ3NDEKTSV4RRFFQ69G5FAV", ⟨2026, 1, 1, 12, 0, 0, 0, datetimeValid_noon⟩⟩
      ⟨"ArtifactRegistered", "a", none, none,
        [("artifact_name", .str "n"),
         ("content_hash", .str (String.ofList (List.replicate 64 '0'))),
         ("relative_path", .str "p"), ("media_type", .str "m"), ("byte_length", .int 1)]⟩ =
        .ok event :=
    exists_makeEvent (by decide) (by decide) (by decide) (by decide)
      (show "ArtifactRegistered" = EventType.artifactRegistered.text from rfl) (by decide)
  obtain ⟨event, hevent⟩ := hevent
  obtain ⟨-, htype, -, -, hrun, -⟩ := makeEvent_ok hevent
  have htype' : event.eventType = .artifactRegistered := by
    have hof := EventType.ofText?_text event.eventType
    rw [htype] at hof
    exact (Option.some.inj hof).symm
  have hraise : ∃ e, (StoreOp.append event).compute initialTables = .error e := by
    cases hcompute : State.append initialTables event with
    | error e => exact ⟨e, by rw [StoreOp.compute, hcompute]; rfl⟩
    | ok r =>
      simp only [State.append, mapError_eq_ok, appendMutation, bind_eq_ok] at hcompute
      obtain ⟨_, -, t₁, hregister, -⟩ := hcompute
      simp only [registerArtifact, htype', ne_eq, not_true_eq_false, if_false, hrun] at hregister
      simp [artifactText, orThrow] at hregister
  obtain ⟨e, he⟩ := hraise
  have hfails := (StoreOp.append event).realizes.error he
  obtain ⟨hcommitted, hpending, -⟩ := failed_operation (.of_initial rfl) hfails
  exact ⟨event, e, _, hfails, hcommitted, hpending⟩

end Aizim.State
