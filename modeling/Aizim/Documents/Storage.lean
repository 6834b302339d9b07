import Mathlib.Data.List.AList
import Aizim.Framework.Drawing
import Aizim.Knowledge.Artifacts
import Aizim.State.Documents

/-!
# The files of documents

A document of a worker is a file in the copy of the project that its run works on, and its contents
are stored once more, as snapshots under their hashes.  `DocumentStorage` creates, reads, replaces,
restores and discards these files.  It lets a run use only the paths it has allowed, and it refuses
two paths that differ in case only.

What outlives the process are the tables of the state service, the files and the snapshots
(`ProjectStore`); what a broker holds in memory are the allowed paths of each run and whether it has
recovered.  Every call to the system takes the `Weather` from outside: the call may raise before or
after its effect.  A file is replaced, linked or unlinked in one step, but the file that
`create_relative` writes may be seen half written.
-/

namespace Aizim.Documents

open Domain State Knowledge

/-! ## The store and the broker's memory -/

/-- A regular file. -/
structure StoredFile where
  body : Bytes
  mode : ℕ
  deriving DecidableEq

/-- What outlives the process. -/
structure ProjectStore where
  tables : Tables
  /-- The files of the copy of the project of each run. -/
  files : String → AList fun _ : PosixPath => StoredFile
  /-- The snapshots of each run, under their hashes. -/
  snapshots : String → String → Option StoredFile

/-- The file of a run at a path. -/
def ProjectStore.file (store : ProjectStore) (runId : String) (path : PosixPath) :
    Option StoredFile :=
  (store.files runId).lookup path

/-- What a broker holds in memory. -/
structure BrokerMemory where
  /-- `_allowed` -/
  allowed : String → List PosixPath
  /-- `_recovered` -/
  recovered : Bool

/-- The memory of a new broker. -/
def BrokerMemory.fresh : BrokerMemory := ⟨fun _ => [], false⟩

/-- A process with one of its brokers. -/
structure BrokerState where
  store : ProjectStore
  memory : BrokerMemory

/-! ## Exceptions and weather -/

/-- The exceptions that the broker tells apart: those of the file system, of the path policy, of the
state service and its own. -/
inductive BrokerFault
  | io (code : String)
  | path (code : String)
  | state (code : String)
  | broker (code : String)
  | other
  deriving DecidableEq

/-- The exceptions of calls to the system. -/
inductive SystemFault
  | io (code : String)
  | path (code : String)
  | other

/-- The exception of the broker. -/
def SystemFault.fault : SystemFault → BrokerFault
  | io code => .io code
  | path code => .path code
  | other => .other

/-- How a call to the system ends: as it should, or it raises before or after its effect. -/
inductive Weather
  | fair
  | refused (fault : SystemFault)
  | late (fault : SystemFault)

/-- What one call takes from outside. -/
structure BrokerDraw where
  weather : Weather
  /-- The id and the time of an event that is added to this log. -/
  stamp : Tables → Stamp
  now : Datetime
  /-- The id of a new lease or document. -/
  opaqueId : String
  /-- The time at which a lease that is granted now expires. -/
  expiresAt : Datetime
  /-- What of a new file has been written when the process dies. -/
  written : Bytes
  /-- `promotion_epoch` -/
  promotionEpoch : String

/-- A stretch of the broker's code. -/
abbrev BrokerM := Stretch (Drawing BrokerState BrokerDraw) BrokerFault

/-- `DocumentIoError("DOCUMENT_PATH_DENIED")` -/
def ioDenied : BrokerFault := .io "DOCUMENT_PATH_DENIED"

/-- `LeanPathError("DOCUMENT_PATH_DENIED")` -/
def pathDenied : BrokerFault := .path "DOCUMENT_PATH_DENIED"

/-- `DocumentIoError("DOCUMENT_SNAPSHOT_MISMATCH")` -/
def snapshotMismatch : BrokerFault := .io "DOCUMENT_SNAPSHOT_MISMATCH"

/-! ## Calls -/

/-- A computation that needs nothing from outside. -/
def check {α : Type} (x : Except BrokerFault α) : BrokerM α := Stretch.look fun _ => x

/-- A call to the system that reads. -/
def observe {α : Type} (f : BrokerDraw → ProjectStore → Except BrokerFault α) : BrokerM α :=
  Stretch.call fun draw s =>
    match draw.weather with
    | .fair => (none, f draw s.store)
    | .refused fault | .late fault => (none, .error fault.fault)

/-- A call to the system that writes. -/
def effect (f : BrokerDraw → ProjectStore → Except BrokerFault ProjectStore) : BrokerM Unit :=
  Stretch.call fun draw s =>
    match draw.weather, f draw s.store with
    | .fair, .ok store => (some { s with store }, .ok ())
    | .fair, .error fault => (none, .error fault)
    | .refused fault, _ => (none, .error fault.fault)
    | .late fault, .ok store => (some { s with store }, .error fault.fault)
    | .late fault, .error _ => (none, .error fault.fault)

/-- Change the allowed paths of a run. -/
def BrokerState.mapAllowed (s : BrokerState) (runId : String)
    (f : List PosixPath → List PosixPath) : BrokerState :=
  ⟨s.store, ⟨Function.update s.memory.allowed runId (f (s.memory.allowed runId)),
    s.memory.recovered⟩⟩

/-- `set.add` of the allowed paths of a run. -/
def allow (runId : String) (path : PosixPath) : BrokerM Unit :=
  Stretch.assign fun s => s.mapAllowed runId fun allowed => allowed.insert path

/-- `set.discard` of the allowed paths of a run. -/
def disallow (runId : String) (path : PosixPath) : BrokerM Unit :=
  Stretch.assign fun s => s.mapAllowed runId fun allowed => allowed.filter (· ≠ path)

/-- The allowed paths of a run. -/
def allowedOf (runId : String) : BrokerM (List PosixPath) :=
  Stretch.look fun s => .ok (s.memory.allowed runId)

/-! ## Paths -/

/-- `worker_path` -/
def workerPath (smoke : Bool) (runId workerId : String) : PosixPath :=
  .ofText (String.intercalate "/"
    [if smoke then "AizimSmoke" else "AizimResearch", "Workers", runId, workerId ++ ".lean"])

/-- `_identifier` -/
def identifier (value : String) : Except BrokerFault Unit :=
  require (isIdentifier value = true) pathDenied

/-- `validate_relative_path` -/
def validateRelativePath (relative : PosixPath) : Except BrokerFault PosixPath := do
  require (relative.root = .relative) pathDenied
  require (relative.parts ≠ []) pathDenied
  require (∀ part ∈ relative.parts, part ≠ ['.', '.'] ∧ '\x00' ∉ part) pathDenied
  pure relative

/-- `canonical_document` -/
def canonicalDocument (smoke : Bool) (runId workerId : String) (relative : PosixPath) :
    Except BrokerFault PosixPath := do
  identifier runId
  identifier workerId
  let canonical ← validateRelativePath relative
  require (canonical = workerPath smoke runId workerId) pathDenied
  pure canonical

/-- `casefold` of a text of ASCII characters, which is all that the paths of documents hold. -/
def casefold (cs : List Char) : List Char := cs.map Char.toLower

/-- `_reject_collision` -/
def rejectCollision (allowed : List PosixPath) (relative : PosixPath) : Except BrokerFault Unit :=
  require (∀ item ∈ allowed, casefold item.posixChars = casefold relative.posixChars →
    item = relative) (.path "DOCUMENT_PATH_COLLISION")

/-- `LeanPathPolicy.register` -/
def registerPath (registered : List PosixPath) (relative : PosixPath) :
    Except BrokerFault (List PosixPath) := do
  let canonical ← validateRelativePath relative
  rejectCollision registered canonical
  pure (registered.insert canonical)

/-- `_policy`: bring the run's copy of the project up to date and allow these paths. -/
def openPolicy (runId : String) (allowed : List PosixPath) : BrokerM (List PosixPath) := do
  check (identifier runId)
  observe fun _ _ => .ok ()
  check (allowed.foldlM registerPath [])

/-- `LeanPathPolicy.resolve` -/
def resolve (runId : String) (registered : List PosixPath) (relative : PosixPath) :
    BrokerM Unit := do
  let canonical ← check (validateRelativePath relative)
  check (require (canonical ∈ registered) pathDenied)
  observe fun _ store => discard (orThrow (store.file runId canonical) pathDenied)

/-! ## Files -/

/-- Write a file of a run. -/
def ProjectStore.write (store : ProjectStore) (runId : String) (path : PosixPath)
    (file : StoredFile) : ProjectStore :=
  { store with files := Function.update store.files runId ((store.files runId).insert path file) }

/-- Remove a file of a run. -/
def ProjectStore.remove (store : ProjectStore) (runId : String) (path : PosixPath) :
    ProjectStore :=
  { store with files := Function.update store.files runId ((store.files runId).erase path) }

/-- `_reject_casefold_collision`: no other file in the directory has the name of this one. -/
def rejectCasefoldCollision (store : ProjectStore) (runId : String) (relative : PosixPath) :
    Except BrokerFault Unit :=
  require (∀ entry ∈ (store.files runId).keys,
    entry.parts.dropLast = relative.parts.dropLast →
    entry.parts.getLast?.map casefold = relative.parts.getLast?.map casefold →
    entry.parts.getLast? = relative.parts.getLast?) ioDenied

/-- `read_relative` -/
def readRelative (runId : String) (relative : PosixPath) : BrokerM Bytes :=
  observe fun _ store => StoredFile.body <$> orThrow (store.file runId relative) ioDenied

/-- `replace_relative`: the name goes over to a file that is written already. -/
def replaceRelative (runId : String) (relative : PosixPath) (body : Bytes) : BrokerM Unit :=
  effect fun _ store => do
    discard (orThrow (store.file runId relative) ioDenied)
    pure (store.write runId relative ⟨body, 0o600⟩)

/-- `unlink_relative` -/
def unlinkRelative (runId : String) (relative : PosixPath) : BrokerM Unit :=
  effect fun _ store => do
    discard (orThrow (store.file runId relative) ioDenied)
    pure (store.remove runId relative)

/-- `create_relative` -/
def createRelative (runId : String) (relative : PosixPath) (body : Bytes) : BrokerM Unit := do
  effect fun _ store => do
    rejectCasefoldCollision store runId relative
    require (store.file runId relative = none) ioDenied
    pure (store.write runId relative ⟨[], 0o600⟩)
  tryCatchThe BrokerFault
    (do
      observe fun _ store => rejectCasefoldCollision store runId relative
      effect fun draw store => pure (store.write runId relative ⟨draw.written, 0o600⟩)
      effect fun _ store => pure (store.write runId relative ⟨body, 0o600⟩))
    fun fault => do
      -- only an `OSError` is handled: the file is unlinked, if that does not fail
      if fault ≠ .other then
        tryCatchThe BrokerFault
          (effect fun _ store => pure (store.remove runId relative))
          fun _ => pure ()
      throw fault

/-! ## Snapshots -/

/-- `_artifact_descriptor` -/
def artifactDescriptor (runId : String) : BrokerM Unit := do
  check (identifier runId)
  observe fun _ _ => .ok ()

/-- `read_relative` of a snapshot. -/
def readSnapshot (runId contentHash : String) : BrokerM Bytes :=
  observe fun _ store => StoredFile.body <$> orThrow (store.snapshots runId contentHash) ioDenied

/-- `mode_relative` of a snapshot. -/
def modeSnapshot (runId contentHash : String) : BrokerM ℕ :=
  observe fun _ store => StoredFile.mode <$> orThrow (store.snapshots runId contentHash) ioDenied

/-- Store a snapshot under its hash. -/
def ProjectStore.storeSnapshot (store : ProjectStore) (runId contentHash : String)
    (file : StoredFile) : ProjectStore :=
  ⟨store.tables, store.files, Function.update store.snapshots runId
    (Function.update (store.snapshots runId) contentHash (some file))⟩

/-- `create_content_addressed`: the link to a file that is written already, unless there is one. -/
def createContentAddressed (runId contentHash : String) (body : Bytes) : BrokerM Unit :=
  effect fun _ store => pure <|
    if (store.snapshots runId contentHash).isSome then store
    else store.storeSnapshot runId contentHash ⟨body, 0o600⟩

/-- `sha256_bytes` -/
def sha256Bytes (body : Bytes) : String := Sha256.hexdigest body

/-- `store_snapshot` -/
def storeSnapshot (runId contentHash : String) (body : Bytes) : BrokerM Unit := do
  check (require (sha256Bytes body = contentHash) snapshotMismatch)
  artifactDescriptor runId
  let existing ← tryCatchThe BrokerFault (readSnapshot runId contentHash) fun fault =>
    match fault with
    | .io _ => do
      createContentAddressed runId contentHash body
      readSnapshot runId contentHash
    | fault => throw fault
  check (require (existing = body ∧ sha256Bytes existing = contentHash) snapshotMismatch)
  let mode ← modeSnapshot runId contentHash
  check (require (mode = 0o600) snapshotMismatch)

/-! ## The storage -/

/-- `_validate_document` -/
def validateDocument (smoke : Bool) (document : DocumentState) : Except BrokerFault Unit :=
  discard (canonicalDocument smoke document.runId document.workerId document.relativePath)

/-- `register` -/
def register (smoke : Bool) (document : DocumentState) : BrokerM Unit := do
  check (validateDocument smoke document)
  let allowed ← allowedOf document.runId
  check (rejectCollision allowed document.relativePath)
  allow document.runId document.relativePath

/-- What `read`, `resolved_path` and `replace` begin with: allow the document and open the policy
of its run. -/
def openDocument (smoke : Bool) (document : DocumentState) : BrokerM (List PosixPath) := do
  register smoke document
  let allowed ← allowedOf document.runId
  openPolicy document.runId allowed

/-- `read` -/
def readDocumentFile (smoke : Bool) (document : DocumentState) : BrokerM Bytes := do
  let registered ← openDocument smoke document
  resolve document.runId registered document.relativePath
  readRelative document.runId document.relativePath

/-- `resolved_path` -/
def resolvedPath (smoke : Bool) (document : DocumentState) : BrokerM PosixPath := do
  let registered ← openDocument smoke document
  resolve document.runId registered document.relativePath
  pure document.relativePath

/-- `replace` -/
def replaceDocumentFile (smoke : Bool) (document : DocumentState) (body : Bytes) :
    BrokerM Unit := do
  let _ ← openDocument smoke document
  replaceRelative document.runId document.relativePath body

/-- `restore` -/
def restore (smoke : Bool) (document : DocumentState) : BrokerM Unit := do
  check (validateDocument smoke document)
  artifactDescriptor document.runId
  let body ← readSnapshot document.runId document.contentHash
  let mode ← modeSnapshot document.runId document.contentHash
  check (require (sha256Bytes body = document.contentHash ∧ mode = 0o600) snapshotMismatch)
  replaceDocumentFile smoke document body

/-- `discard` -/
def discardDocumentFile (runId : String) (relative : PosixPath) : BrokerM Unit := do
  tryCatchThe BrokerFault
    (do
      let _ ← openPolicy runId [relative]
      unlinkRelative runId relative)
    fun fault =>
      match fault with
      | .io _ | .path _ => pure ()
      | fault => do
        disallow runId relative
        throw fault
  disallow runId relative

/-- `create` -/
def createDocumentFile (runId : String) (relative : PosixPath) (body : Bytes) :
    BrokerM String := do
  let allowed ← allowedOf runId
  check (require (relative ∉ allowed) (.io "DOCUMENT_ALREADY_LEASED"))
  check (rejectCollision allowed relative)
  allow runId relative
  tryCatchThe BrokerFault
    (do
      let _ ← openPolicy runId (allowed.insert relative)
      createRelative runId relative body)
    fun fault => do
      disallow runId relative
      throw fault
  let contentHash := sha256Bytes body
  tryCatchThe BrokerFault (storeSnapshot runId contentHash body) fun fault => do
    discardDocumentFile runId relative
    throw fault
  pure contentHash

end Aizim.Documents
