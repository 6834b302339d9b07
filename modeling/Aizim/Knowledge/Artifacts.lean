import Aizim.Framework.Program
import Aizim.Framework.Sha256
import Aizim.Framework.Text
import Aizim.Framework.Utf8
import Aizim.State.Schema

/-!
# The artifact store

Contents are kept in files named by their digest, below a run and a category.  `store` writes a
content once and checks what is on the disk afterwards; `load` reads a content and checks it
against its digest.  The disk itself is outside: each file operation is an effect, answered by a
value or by `DocumentIoError`, and nothing is assumed of the answers.
-/

namespace Aizim.Knowledge

/-- The exceptions of the knowledge services: three of its own, those of file operations and of
the store, and all others. -/
inductive Fault
  | artifact (code : String)
  | contribution (code : String)
  | promotion (code : String)
  | documentIo (code : String)
  | store (error : State.StoreError)
  | other (description : String)

/-! ## Files -/

/-- The file operations, on paths relative to the project root. -/
inductive FileEffect
  | ensureTree (parts : List String)
  | readRelative (path : List String)
  | isPrivate (path : List String)
  | createContentAddressed (path : List String) (content : Bytes)

/-- What a file operation answers; `isPrivate` compares the mode of a file with `0o600`. -/
def FileAnswer : FileEffect → Type
  | .ensureTree _ => Unit
  | .readRelative _ => Bytes
  | .isPrivate _ => Bool
  | .createContentAddressed _ _ => Unit

/-- A program over files. -/
abbrev FileProgram (α : Type) := Program FileEffect FileAnswer Fault α

/-- `ensure_tree` -/
def ensureTree (parts : List String) : FileProgram Unit :=
  Program.request (FileEffect.ensureTree parts)

/-- `read_relative` -/
def readRelative (path : List String) : FileProgram Bytes :=
  Program.request (FileEffect.readRelative path)

/-- `mode_relative(...) == 0o600` -/
def isPrivate (path : List String) : FileProgram Bool := Program.request (FileEffect.isPrivate path)

/-- `create_content_addressed` -/
def createContentAddressed (path : List String) (content : Bytes) : FileProgram Unit :=
  Program.request (FileEffect.createContentAddressed path content)

/-! ## References -/

/-- `[A-Za-z0-9][A-Za-z0-9_-]{0,63}` -/
def isIdentifier (value : String) : Bool :=
  fullmatchIdentifier (fun c => isAsciiLetter c || isAsciiDigit c)
    (fun c => isIdentifierRest c || c == '-') 63 value

/-- The path of a content. -/
def artifactPath (runId category digest : String) : List String :=
  [".aizim", "artifacts", runId, category, digest]

/-- A reference to a stored content, with the checks of its constructor. -/
structure ArtifactReference where
  runId : String
  category : String
  contentHash : String
  mediaType : String
  byteLength : ℕ
  names_valid : isIdentifier runId = true ∧ isIdentifier category = true
  contentHash_valid : isSha256 contentHash = true
  mediaType_ne : mediaType ≠ ""

/-- The constructor of a reference. -/
def ArtifactReference.create (runId category contentHash mediaType : String) (byteLength : ℕ) :
    Except Fault ArtifactReference :=
  if h : (isIdentifier runId = true ∧ isIdentifier category = true) ∧
      isSha256 contentHash = true ∧ mediaType ≠ "" then
    .ok ⟨runId, category, contentHash, mediaType, byteLength, h.1, h.2.1, h.2.2⟩
  else .error (.artifact "INVALID_ARTIFACT_REFERENCE")

lemma ArtifactReference.create_ok {runId category contentHash mediaType : String}
    {byteLength : ℕ} {reference : ArtifactReference}
    (h : create runId category contentHash mediaType byteLength = .ok reference) :
    reference.runId = runId ∧ reference.category = category ∧
      reference.contentHash = contentHash := by
  unfold create at h
  split at h
  · obtain rfl := Except.ok.inj h
    exact ⟨rfl, rfl, rfl⟩
  · simp at h

/-! ## Operations -/

/-- The file of a content, created when it cannot be read. -/
def readOrCreate (path : List String) (content : Bytes) : FileProgram Bytes :=
  tryCatch (readRelative path) fun fault =>
    match fault with
    | .documentIo _ => do
      createContentAddressed path content
      readRelative path
    | fault => throw fault

/-- `ArtifactStore.store` -/
def storeArtifact (runId category : String) (content : Bytes) (mediaType : String) :
    FileProgram ArtifactReference := do
  require (isIdentifier runId = true) (Fault.artifact "INVALID_ARTIFACT_REQUEST")
  require (isIdentifier category = true) (Fault.artifact "INVALID_ARTIFACT_REQUEST")
  require (mediaType ≠ "") (Fault.artifact "INVALID_ARTIFACT_REQUEST")
  let digest := Sha256.hexdigest content
  let path := artifactPath runId category digest
  ensureTree [".aizim", "artifacts", runId, category]
  let existing ← readOrCreate path content
  require (existing = content) (Fault.artifact "ARTIFACT_INTEGRITY_MISMATCH")
  let privateFile ← isPrivate path
  require (privateFile = true) (Fault.artifact "ARTIFACT_INTEGRITY_MISMATCH")
  ArtifactReference.create runId category digest mediaType content.length

/-- `ArtifactStore.load` -/
def loadArtifact (runId category contentHash : String) : FileProgram Bytes := do
  require (isIdentifier runId = true) (Fault.artifact "INVALID_ARTIFACT_REFERENCE")
  require (isIdentifier category = true) (Fault.artifact "INVALID_ARTIFACT_REFERENCE")
  require (isSha256 contentHash = true) (Fault.artifact "INVALID_ARTIFACT_REFERENCE")
  let path := artifactPath runId category contentHash
  let body ← readRelative path
  let privateFile ← isPrivate path
  require (privateFile = true ∧ Sha256.hexdigest body = contentHash)
    (Fault.artifact "ARTIFACT_INTEGRITY_MISMATCH")
  pure body

end Aizim.Knowledge
