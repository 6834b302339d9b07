import Mathlib.Algebra.Group.Int.Defs
import Aizim.Framework.Exceptions
import Aizim.Framework.JsonPrinter

/-!
# Peer identities

Who is at the other end of a local socket: the effective user, and the hash of the image that its
process runs.  A verifier asks the system; each answer is a field of `LinuxPeer` or `DarwinPeer`,
nothing where the call raises `OSError`.

The broker catches a fixed list of exceptions around its verifier.  A `PeerVerifier` is one that
raises no other; both platforms have one (`linuxVerifier`, `darwinVerifier`).
-/

namespace Aizim.Gateway

/-! ## Exceptions -/

/-- The built-in exceptions that a verifier may meet; `PeerIdentityError` is a `RuntimeError`. -/
inductive PeerFault
  | os
  | runtime
  | unicode
  | value
  | attribute
  deriving DecidableEq

/-- The exceptions that the broker catches around its verifier. -/
def PeerFault.caught : List PeerFault := [os, runtime, unicode, value]

/-! ## Identities -/

/-- A lowercase SHA-256 in hexadecimal. -/
abbrev ImageHash := { value : String // isSha256 value = true }

/-- `sha256(...).hexdigest()` -/
def imageHash (content : Bytes) : ImageHash := ⟨Sha256.hexdigest content, isSha256_hexdigest content⟩

/-- `PeerIdentity` -/
structure PeerIdentity where
  euid : ℤ
  executableSha256 : ImageHash
  deriving DecidableEq

/-- A callable that names the peer of a socket, and raises nothing that the broker does not catch. -/
structure PeerVerifier (Socket : Type) where
  identity : Socket → Except PeerFault PeerIdentity
  raises : ∀ socket, Raises PeerFault.caught (identity socket)

/-! ## The answers of the system -/

/-- What `getsockopt` returns. -/
inductive SocketOption
  | bytes (raw : Bytes)
  | number (value : ℤ)

/-- An open file: what `fstat`, the reads and `close` answer. -/
structure Descriptor where
  regular : Option Bool
  content : Option Bytes
  close : Option Unit

/-- `_hash_regular_descriptor` -/
def hashRegularDescriptor (descriptor : Descriptor) : Except PeerFault ImageHash := do
  let regular ← orThrow descriptor.regular .os
  require (regular = true) .runtime
  let content ← orThrow descriptor.content .os
  pure (imageHash content)

/-- A `finally` that closes the file: where that raises, it replaces the outcome. -/
def finallyClose {α : Type} (descriptor : Descriptor) (outcome : Except PeerFault α) :
    Except PeerFault α := do
  let _ ← orThrow descriptor.close .os
  outcome

/-- The unsigned word of four bytes, in the byte order of the machines it runs on. -/
def unsignedWord : Bytes → ℕ
  | [a, b, c, d] => a + 256 * (b + 256 * (c + 256 * d))
  | _ => 0

/-- The signed word of four bytes. -/
def signedWord (raw : Bytes) : ℤ :=
  if unsignedWord raw < 2 ^ 31 then unsignedWord raw else unsignedWord raw - 2 ^ 32

/-- The four bytes of a word of a packed structure. -/
def wordAtIndex (raw : Bytes) (i : ℕ) : Bytes := (raw.drop (4 * i)).take 4

/-! ## Linux -/

/-- What the system says of the peer of a socket. -/
structure LinuxPeer where
  credentials : Option SocketOption
  processImage : ℤ → Option Descriptor

/-- `_peer_credentials` of Linux. -/
def LinuxPeer.peerCredentials (peer : LinuxPeer) : Except PeerFault (ℤ × ℤ) := do
  let raw ← orThrow peer.credentials .os
  match raw with
  | .bytes raw =>
    require (raw.length = 12) .runtime
    require (0 < signedWord (wordAtIndex raw 0) ∧ 0 ≤ signedWord (wordAtIndex raw 1)) .runtime
    pure (signedWord (wordAtIndex raw 0), signedWord (wordAtIndex raw 1))
  | .number _ => throw .runtime

/-- `LinuxPeerIdentityVerifier.__call__`: the file is closed after the `except` clause. -/
def LinuxPeer.identity (platform : String) (peer : LinuxPeer) : Except PeerFault PeerIdentity := do
  require (platform = "linux") .runtime
  match peer.peerCredentials with
  | .error fault => rescue [.os, .attribute] (.error fault) (throw .runtime)
  | .ok (pid, euid) =>
    match peer.processImage pid with
    | none => rescue [.os, .attribute] (.error .os) (throw .runtime)
    | some descriptor =>
      finallyClose descriptor (rescue [.os, .attribute] (do
        let image ← hashRegularDescriptor descriptor
        pure ⟨euid, image⟩) (throw .runtime))

/-! ## Darwin -/

/-- What the system says of the peer of a socket.  `proc_pidpath_audittoken` gives its result and
its buffer; the library or the function may be missing. -/
structure DarwinPeer where
  credentials : Option SocketOption
  auditToken : Option SocketOption
  library : Option Unit
  procPidpath : Option (Bytes → ℤ × Bytes)
  openFile : String → Option Descriptor

/-- `_peer_credentials` of Darwin. -/
def DarwinPeer.peerCredentials (peer : DarwinPeer) : Except PeerFault ℕ := do
  let raw ← orThrow peer.credentials .os
  match raw with
  | .bytes raw =>
    require (8 ≤ raw.length) .runtime
    require (unsignedWord (wordAtIndex raw 0) = 0) .runtime
    pure (unsignedWord (wordAtIndex raw 1))
  | .number _ => throw .runtime

/-- `_audit_token` -/
def DarwinPeer.audit (peer : DarwinPeer) : Except PeerFault (Bytes × ℕ) := do
  let raw ← orThrow peer.auditToken .os
  match raw with
  | .bytes raw =>
    require (raw.length = 32) .runtime
    pure (raw, unsignedWord (wordAtIndex raw 1))
  | .number _ => throw .runtime

/-- `value.rstrip(b"\0")` -/
def stripZeros (value : Bytes) : Bytes := (value.reverse.dropWhile (· == 0)).reverse

/-- `_process_image_path` -/
def DarwinPeer.processImagePath (peer : DarwinPeer) (rawToken : Bytes) :
    Except PeerFault String := do
  let _ ← orThrow peer.library .os
  let function ← orThrow peer.procPidpath .attribute
  let (result, buffer) := function rawToken
  require (0 < result) .runtime
  orThrow (decode (stripZeros (buffer.take result.toNat))) .runtime

/-- `_hash_regular_file`: a path with a zero character is a `ValueError`. -/
def DarwinPeer.hashRegularFile (peer : DarwinPeer) (path : String) :
    Except PeerFault ImageHash := do
  require (Char.ofNat 0 ∉ path.toList) .value
  let descriptor ← orThrow (peer.openFile path) .os
  finallyClose descriptor (hashRegularDescriptor descriptor)

/-- The body of `DarwinPeerIdentityVerifier.__call__`. -/
def DarwinPeer.image (peer : DarwinPeer) : Except PeerFault PeerIdentity := do
  let euid ← peer.peerCredentials
  let (rawToken, tokenEuid) ← peer.audit
  require (tokenEuid = euid) .runtime
  let path ← peer.processImagePath rawToken
  let image ← peer.hashRegularFile path
  pure ⟨euid, image⟩

/-- `DarwinPeerIdentityVerifier.__call__` -/
def DarwinPeer.identity (platform : String) (peer : DarwinPeer) : Except PeerFault PeerIdentity := do
  require (platform = "darwin") .runtime
  rescue [.os, .attribute] peer.image (throw .runtime)

/-! ## What the verifiers raise -/

section

variable {faults : List PeerFault}

lemma raises_hashRegularDescriptor (descriptor : Descriptor) :
    Raises [.os, .runtime] (hashRegularDescriptor descriptor) := by
  apply Raises.bind (raises_orThrow fun _ => by simp)
  intro regular _
  apply Raises.bind (raises_require (by simp))
  intro _ _
  apply Raises.bind (raises_orThrow fun _ => by simp)
  intro content _
  exact raises_pure _

lemma raises_finallyClose {α : Type} {descriptor : Descriptor} {outcome : Except PeerFault α}
    (hos : PeerFault.os ∈ faults) (houtcome : Raises faults outcome) :
    Raises faults (finallyClose descriptor outcome) :=
  (raises_orThrow fun _ => hos).bind fun _ _ => houtcome

lemma LinuxPeer.raises_peerCredentials (peer : LinuxPeer) :
    Raises [.os, .runtime] peer.peerCredentials := by
  apply Raises.bind (raises_orThrow fun _ => by simp)
  intro raw _
  cases raw with
  | bytes raw =>
    apply Raises.bind (raises_require (by simp))
    intro _ _
    apply Raises.bind (raises_require (by simp))
    intro _ _
    exact raises_pure _
  | number value => exact raises_throw (by simp)

/-- The Linux verifier raises its own error, or what closing the image raises. -/
lemma LinuxPeer.raises_identity (platform : String) (peer : LinuxPeer) :
    Raises [.os, .runtime] (peer.identity platform) := by
  apply Raises.bind (raises_require (by simp))
  intro _ _
  have hcaught : ∀ {outcome : Except PeerFault PeerIdentity}, Raises [.os, .runtime] outcome →
      Raises [.os, .runtime] (rescue [.os, .attribute] outcome (throw .runtime)) := by
    intro outcome houtcome
    apply Raises.rescue
    · exact houtcome.mono (by simp)
    · exact raises_throw (by simp)
  cases hcredentials : peer.peerCredentials with
  | error fault =>
    apply hcaught
    rintro _ ⟨⟩
    exact peer.raises_peerCredentials fault hcredentials
  | ok credentials =>
    cases himage : peer.processImage credentials.1 with
    | none =>
      simp only [himage]
      exact hcaught (raises_throw (by simp))
    | some descriptor =>
      simp only [himage]
      apply raises_finallyClose (by simp)
      apply hcaught
      exact (raises_hashRegularDescriptor descriptor).bind fun _ _ => raises_pure _

lemma DarwinPeer.raises_peerCredentials (peer : DarwinPeer) :
    Raises [.os, .runtime] peer.peerCredentials := by
  apply Raises.bind (raises_orThrow fun _ => by simp)
  intro raw _
  cases raw with
  | bytes raw =>
    apply Raises.bind (raises_require (by simp))
    intro _ _
    apply Raises.bind (raises_require (by simp))
    intro _ _
    exact raises_pure _
  | number value => exact raises_throw (by simp)

lemma DarwinPeer.raises_audit (peer : DarwinPeer) : Raises [.os, .runtime] peer.audit := by
  apply Raises.bind (raises_orThrow fun _ => by simp)
  intro raw _
  cases raw with
  | bytes raw =>
    apply Raises.bind (raises_require (by simp))
    intro _ _
    exact raises_pure _
  | number value => exact raises_throw (by simp)

lemma DarwinPeer.raises_processImagePath (peer : DarwinPeer) (rawToken : Bytes) :
    Raises [.os, .runtime, .attribute] (peer.processImagePath rawToken) := by
  apply Raises.bind (raises_orThrow fun _ => by simp)
  intro _ _
  apply Raises.bind (raises_orThrow fun _ => by simp)
  intro function _
  apply Raises.bind (raises_require (by simp))
  intro _ _
  exact raises_orThrow fun _ => by simp

lemma DarwinPeer.raises_hashRegularFile (peer : DarwinPeer) (path : String) :
    Raises [.os, .runtime, .value] (peer.hashRegularFile path) := by
  apply Raises.bind (raises_require (by simp))
  intro _ _
  apply Raises.bind (raises_orThrow fun _ => by simp)
  intro descriptor _
  apply raises_finallyClose (by simp)
  exact (raises_hashRegularDescriptor descriptor).mono (by simp)

/-- The Darwin verifier raises its own error, or that of a path which no file can have. -/
lemma DarwinPeer.raises_identity (platform : String) (peer : DarwinPeer) :
    Raises [.runtime, .value] (peer.identity platform) := by
  apply Raises.bind (raises_require (by simp))
  intro _ _
  apply Raises.rescue
  · apply Raises.bind (peer.raises_peerCredentials.mono (by simp))
    intro euid _
    apply Raises.bind (peer.raises_audit.mono (by simp))
    rintro ⟨rawToken, tokenEuid⟩ _
    apply Raises.bind (raises_require (by simp))
    intro _ _
    apply Raises.bind ((peer.raises_processImagePath rawToken).mono (by simp))
    intro path _
    apply Raises.bind ((peer.raises_hashRegularFile path).mono (by simp))
    intro image _
    exact raises_pure _
  · exact raises_throw (by simp)

end

/-! ## The verifiers -/

/-- `LinuxPeerIdentityVerifier` -/
def linuxVerifier (platform : String) : PeerVerifier LinuxPeer where
  identity := LinuxPeer.identity platform
  raises peer := (LinuxPeer.raises_identity platform peer).mono (by simp [PeerFault.caught])

/-- `DarwinPeerIdentityVerifier` -/
def darwinVerifier (platform : String) : PeerVerifier DarwinPeer where
  identity := DarwinPeer.identity platform
  raises peer := (DarwinPeer.raises_identity platform peer).mono (by simp [PeerFault.caught])

end Aizim.Gateway
