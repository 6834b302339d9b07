import Aizim.Documents.Storage
import Aizim.State.DocumentProtocol

/-!
# The document broker

The broker gives each worker a document under a lease: it creates the file and grants the lease,
reads the document, replaces its content when the caller knows its version and hash
(`compare_and_swap`), and ends the lease.  An edit is prepared in the state service, then the file
is replaced, then the edit is committed; what fails half way is compensated at once, and what a
process that died left behind is recovered by the next broker before its first operation.

Between its awaits, which return at once as no other task holds its locks over an await, each
operation is one stretch.  `BrokerStep` puts any number of brokers of one process over one store,
with the other operations of the state service between their calls, and lets the process die in any
call, after any write.
-/

namespace Aizim.Documents

open Domain State Knowledge TransitionSystem

/-! ## Calls of the state service -/

/-- The exceptions of the state service, as the broker tells them apart. -/
def storeFault : StoreError → BrokerFault
  | .document code => .state code
  | _ => .other

/-- A query of the state service. -/
def stateQuery {α : Type} (f : BrokerDraw → Tables → Except StoreError α) : BrokerM α :=
  Stretch.call fun draw s =>
    match draw.weather with
    | .fair => (none, (f draw s.store.tables).mapError storeFault)
    | _ => (none, .error .other)

/-- An operation of the state service: a transaction that is made or not. -/
def stateCall {α : Type} (f : BrokerDraw → Tables → Except StoreError (Tables × α)) : BrokerM α :=
  Stretch.call fun draw s =>
    match draw.weather, f draw s.store.tables with
    | .fair, .ok (tables, a) => (some ⟨⟨tables, s.store.files, s.store.snapshots⟩, s.memory⟩, .ok a)
    | .fair, .error e => (none, .error (storeFault e))
    | _, _ => (none, .error .other)

variable [CharacterDatabase]

/-! ## Values -/

/-- `DocumentSnapshot` -/
structure DocumentSnapshot where
  documentId : String
  displayName : PosixPath
  epochPair : EpochPair
  fileVersion : ℕ
  contentHash : String
  content : Bytes

/-- The check of the constructor of a snapshot. -/
def DocumentSnapshot.isValid (snapshot : DocumentSnapshot) : Bool :=
  snapshot.documentId ≠ "" && snapshot.displayName.root == .relative &&
    snapshot.displayName.parts ≠ [] &&
    snapshot.displayName.parts.all (fun part => part ≠ ['.', '.'] && !part.contains '\x00') &&
    isSha256 snapshot.contentHash && sha256Bytes snapshot.content == snapshot.contentHash

/-- `_snapshot` -/
def documentSnapshot (document : DocumentState) (body : Bytes) :
    Except BrokerFault DocumentSnapshot := do
  let snapshot : DocumentSnapshot := ⟨document.documentId, document.relativePath,
    document.epochPair, document.fileVersion, document.contentHash, body⟩
  require (snapshot.isValid = true) (.broker "INVALID_DOCUMENT_SNAPSHOT")
  pure snapshot

/-- `_committed` -/
def committed (document : DocumentState) (contentHash : String) : DocumentState :=
  document.withContent (document.fileVersion + 1) contentHash none

/-- What a lease is made of, with the check of its constructor. -/
def createFileLease (leaseId workerId runId documentId virtualDocumentNamespace : String)
    (epochPair : EpochPair) (contentHash : String) (expiresAt : Datetime) :
    Except BrokerFault FileLease :=
  if h : (leaseId ≠ "" ∧ workerId ≠ "" ∧ runId ≠ "" ∧ documentId ≠ "" ∧
      virtualDocumentNamespace ≠ "") ∧ isSha256 contentHash = true then
    .ok ⟨leaseId, workerId, runId, documentId, virtualDocumentNamespace, epochPair, 0, contentHash,
      expiresAt, none, h.1, h.2⟩
  else .error .other

/-- `_lease` -/
def makeLease (runId workerId : String) (epochPair : EpochPair) (contentHash : String) :
    BrokerM FileLease := do
  let namespaceHash :=
    String.ofList ((sha256Bytes (encode (runId ++ "\x00" ++ workerId))).toList.take 20)
  let leaseId ← observe fun draw _ => .ok draw.opaqueId
  let documentId ← observe fun draw _ => .ok draw.opaqueId
  let expiresAt ← observe fun draw _ => .ok draw.expiresAt
  check (createFileLease leaseId workerId runId documentId ("AizimSmoke.Workers.W_" ++ namespaceHash)
    epochPair contentHash expiresAt)

/-- The exception that an operation raises for one of the storage or the state. -/
def raised (otherwise : String) : BrokerFault → BrokerFault
  | .io code | .path code | .state code => .broker code
  | _ => .broker otherwise

/-! ## Recovery -/

/-- `_ensure_recovered` for one prepared document. -/
def recoverDocument (smoke : Bool) (document : DocumentState) : BrokerM Unit := do
  register smoke document
  restore smoke document
  let _ ← stateCall fun draw t => recoverDocumentEdit t (draw.stamp t)
    ⟨document.preparedEventId.getD "", document⟩

/-- `_ensure_recovered` for one active lease. -/
def recoverLease (lease : LeaseState) : BrokerM Unit := do
  let _ ← stateCall fun draw t => recoverDocumentLease t (draw.stamp t) lease

/-- What `_ensure_recovered` tries. -/
def recoverAll (smoke : Bool) : BrokerM Unit := do
  let documents ← stateQuery fun _ t => preparedDocuments t.projections
  Stretch.forEach (recoverDocument smoke) documents
  let leases ← stateQuery fun _ t => activeLeases t.projections
  Stretch.forEach recoverLease leases

/-- `_ensure_recovered` -/
def ensureRecovered (smoke : Bool) : BrokerM Unit := do
  let recovered ← Stretch.look fun s => .ok s.memory.recovered
  if recovered then pure ()
  else
    tryCatchThe BrokerFault (recoverAll smoke) fun fault =>
      throw (raised "DOCUMENT_RECOVERY_FAILED" fault)
    Stretch.assign fun s => ⟨s.store, ⟨s.memory.allowed, true⟩⟩

/-! ## Operations -/

/-- `_discard_or_raise` -/
def discardOrRaise (runId : String) (relative : PosixPath) : BrokerM Unit :=
  tryCatchThe BrokerFault (discardDocumentFile runId relative) fun _ =>
    throw (.broker "DOCUMENT_RECOVERY_FAILED")

/-- Unlink what is left at the path of a new document, if no active lease is for it. -/
def discardStale (runId : String) (relative : PosixPath) : BrokerM Unit := do
  let leases ← stateQuery fun _ t => activeLeases t.projections
  if leases.any fun lease => lease.runId = runId ∧ lease.relativePath = relative then pure ()
  else discardDocumentFile runId relative

/-- `create_document` -/
def createDocument (smoke : Bool) (runId workerId : String) (relative : PosixPath)
    (initialContent : Bytes) (epochPair : EpochPair) : BrokerM FileLease := do
  ensureRecovered smoke
  let canonical ← check
    ((canonicalDocument smoke runId workerId relative).mapError (raised "DOCUMENT_PATH_DENIED"))
  let current ← stateQuery fun _ t => .ok (currentEpoch t.projections)
  check (require (current.toOption = some epochPair) (.broker "EPOCH_MISMATCH"))
  let promotionEpoch ← observe fun draw _ => .ok draw.promotionEpoch
  check (require (epochPair.baseEpoch = promotionEpoch) (.broker "EPOCH_MISMATCH"))
  discardStale runId canonical
  let bodyHash ← tryCatchThe BrokerFault (createDocumentFile runId canonical initialContent)
    fun fault => throw (raised "DOCUMENT_CREATION_FAILED" fault)
  tryCatchThe BrokerFault
    (do
      let lease ← makeLease runId workerId epochPair bodyHash
      let _ ← stateCall fun draw t => grantDocumentLease t (draw.stamp t) lease canonical
      pure lease)
    fun fault => do
      discardOrRaise runId canonical
      throw (raised "DOCUMENT_CREATION_FAILED" fault)

/-- `read_document` -/
def readDocument (smoke : Bool) (runId workerId leaseId documentId : String) :
    BrokerM DocumentSnapshot := do
  ensureRecovered smoke
  let (document, body) ← tryCatchThe BrokerFault
    (do
      let document ← stateQuery fun draw t =>
        accessDocument t.projections ⟨runId, workerId, leaseId, documentId, draw.now⟩
      let body ← readDocumentFile smoke document
      pure (document, body))
    fun fault => throw (raised "DOCUMENT_READ_FAILED" fault)
  check (require (sha256Bytes body = document.contentHash) (.broker "DOCUMENT_CONTENT_MISMATCH"))
  check (documentSnapshot document body)

/-- `_compensate` of an edit that was prepared. -/
def compensate (smoke : Bool) (preparation : DocumentPreparation) (replaced : Bool) :
    BrokerM Unit := do
  if replaced then restore smoke preparation.document
  let _ ← stateCall fun draw t => recoverDocumentEdit t (draw.stamp t) preparation

/-- `_compensate_or_raise` -/
def compensateOrRaise (smoke : Bool) (preparation : DocumentPreparation) (replaced : Bool) :
    BrokerM Unit :=
  tryCatchThe BrokerFault (compensate smoke preparation replaced) fun _ =>
    throw (.broker "DOCUMENT_RECOVERY_FAILED")

/-- The exception that `compare_and_swap` raises for one of its body. -/
def swapFault : BrokerFault → BrokerFault
  | .broker code => .broker code
  | fault => raised "DOCUMENT_STATE_COMMIT_FAILED" fault

/-- `compare_and_swap` up to the first change of the file: the content that is replaced and its
replacement are stored as snapshots. -/
def storeContents (smoke : Bool) (document : DocumentState) (replacement : Bytes) :
    BrokerM Unit := do
  let previous ← readDocumentFile smoke document
  check (require (sha256Bytes previous = document.contentHash)
    (.broker "DOCUMENT_CONTENT_MISMATCH"))
  storeSnapshot document.runId document.contentHash previous
  storeSnapshot document.runId (sha256Bytes replacement) replacement

/-- `compare_and_swap` from the change of the file to the commit. -/
def replaceAndCommit (smoke : Bool) (preparation : DocumentPreparation) (replacement : Bytes) :
    BrokerM DocumentSnapshot := do
  replaceDocumentFile smoke preparation.document replacement
  let snapshot ← check (documentSnapshot
    (committed preparation.document (sha256Bytes replacement)) replacement)
  let _ ← stateCall fun draw t =>
    commitDocumentEdit t (draw.stamp t) draw.now preparation (sha256Bytes replacement)
  pure snapshot

/-- `compare_and_swap` -/
def compareAndSwap (smoke : Bool) (runId workerId leaseId documentId : String)
    (expectedVersion : Int) (expectedHash : String) (replacement : Bytes) :
    BrokerM DocumentSnapshot := do
  ensureRecovered smoke
  let preparation ← tryCatchThe BrokerFault
    (stateCall fun draw t => prepareDocumentEdit t (draw.stamp t)
      ⟨runId, workerId, leaseId, documentId, draw.now⟩ expectedVersion expectedHash)
    fun fault => throw (swapFault fault)
  tryCatchThe BrokerFault (storeContents smoke preparation.document replacement) fun fault => do
    compensateOrRaise smoke preparation false
    throw (swapFault fault)
  tryCatchThe BrokerFault (replaceAndCommit smoke preparation replacement) fun fault => do
    compensateOrRaise smoke preparation true
    throw (swapFault fault)

/-- `release_lease` -/
def releaseLease (smoke : Bool) (runId workerId leaseId : String) : BrokerM Unit := do
  ensureRecovered smoke
  tryCatchThe BrokerFault
    (do
      let _ ← stateCall fun draw t => releaseDocumentLease t (draw.stamp t) runId workerId leaseId)
    fun fault => throw (raised "DOCUMENT_RELEASE_FAILED" fault)

/-- `_trusted_runtime_document` -/
def trustedRuntimeDocument (smoke : Bool) (runId workerId leaseId documentId : String) :
    BrokerM (DocumentState × PosixPath) := do
  ensureRecovered smoke
  tryCatchThe BrokerFault
    (do
      let document ← stateQuery fun draw t =>
        accessDocument t.projections ⟨runId, workerId, leaseId, documentId, draw.now⟩
      let path ← resolvedPath smoke document
      pure (document, path))
    fun fault => throw (match fault with
      | .io code | .path code | .state code => .broker code
      | fault => fault)

/-! ## The system -/

/-- A call of a broker. -/
inductive BrokerCall
  | recover
  | createDocument (runId workerId : String) (relative : PosixPath) (initialContent : Bytes)
      (epochPair : EpochPair)
  | readDocument (runId workerId leaseId documentId : String)
  | compareAndSwap (runId workerId leaseId documentId : String) (expectedVersion : Int)
      (expectedHash : String) (replacement : Bytes)
  | releaseLease (runId workerId leaseId : String)
  | trustedRuntimeDocument (runId workerId leaseId documentId : String)

/-- What a call runs. -/
def BrokerCall.stretch (smoke : Bool) : BrokerCall → BrokerM Unit
  | recover => ensureRecovered smoke
  | createDocument runId workerId relative initialContent epochPair =>
    discard (Documents.createDocument smoke runId workerId relative initialContent epochPair)
  | readDocument runId workerId leaseId documentId =>
    discard (Documents.readDocument smoke runId workerId leaseId documentId)
  | compareAndSwap runId workerId leaseId documentId expectedVersion expectedHash replacement =>
    discard (Documents.compareAndSwap smoke runId workerId leaseId documentId expectedVersion
      expectedHash replacement)
  | releaseLease runId workerId leaseId => Documents.releaseLease smoke runId workerId leaseId
  | trustedRuntimeDocument runId workerId leaseId documentId =>
    discard (Documents.trustedRuntimeDocument smoke runId workerId leaseId documentId)

/-- A store, and the process that works on it with its brokers. -/
structure BrokerWorld where
  store : ProjectStore
  brokers : ℕ → BrokerMemory

/-- A new project. -/
def BrokerWorld.initial : BrokerWorld where
  store := ⟨initialTables, fun _ => ∅, fun _ _ => none⟩
  brokers _ := .fresh

/-- What happens to the process. -/
inductive BrokerAction
  | call (broker : ℕ) (call : BrokerCall) (draws : ℕ → BrokerDraw)
  | die (broker : ℕ) (call : BrokerCall)
  | operation (op : StateOp)

/-- The steps of the process: a broker completes a call, the process dies after some write of a call
or before the first and starts anew, or the state service carries out an operation that is not about
documents. -/
inductive BrokerStep (smoke : Bool) : BrokerWorld → BrokerAction → BrokerWorld → Prop
  | call (w : BrokerWorld) (broker : ℕ) (call : BrokerCall) (draws : ℕ → BrokerDraw) :
      BrokerStep smoke w (.call broker call draws)
        ⟨(call.stretch smoke ⟨⟨w.store, w.brokers broker⟩, draws⟩).state.state.store,
          Function.update w.brokers broker
            (call.stretch smoke ⟨⟨w.store, w.brokers broker⟩, draws⟩).state.state.memory⟩
  | dieIdle (w : BrokerWorld) (broker : ℕ) (call : BrokerCall) :
      BrokerStep smoke w (.die broker call) ⟨w.store, fun _ => .fresh⟩
  | die (w : BrokerWorld) (broker : ℕ) (call : BrokerCall) (draws : ℕ → BrokerDraw)
      {u : Drawing BrokerState BrokerDraw}
      (saved : u ∈ (call.stretch smoke ⟨⟨w.store, w.brokers broker⟩, draws⟩).saved) :
      BrokerStep smoke w (.die broker call) ⟨u.state.store, fun _ => .fresh⟩
  | operation (w : BrokerWorld) {op : StateOp} (other : op.writesDocuments = false) :
      BrokerStep smoke w (.operation op)
        ⟨⟨op.exec w.store.tables, w.store.files, w.store.snapshots⟩, w.brokers⟩

/-- The brokers of a project. -/
def brokerSystem (smoke : Bool) : TransitionSystem BrokerWorld BrokerAction where
  initial w := w = .initial
  step := BrokerStep smoke

end Aizim.Documents
