import Aizim.Framework.Fallible
import Aizim.Framework.PyPath

/-!
# Sandbox requests

What a worker may see and write.  `normalizeSandboxRequest` takes a request to the canonical roots
that a profile is compiled from: the file system is asked for each of them, the roots that the
worker writes are private and away from the project, and each root that it may read is named once
and overlaps none of these.  What a normalized request keeps is `Normalized`.

A call of the file system may raise an `OSError`, or a `ValueError` for a text that the system does
not take; the second one, and both from `stat`, escape.
-/

namespace Aizim

/-! ## Requests -/

/-- `ProviderEnvironmentPolicy` -/
inductive ProviderEnvironmentPolicy
  | none
  | filteredParent
  deriving DecidableEq

/-- `SandboxRequest` -/
structure SandboxRequest where
  projectRoot : PyPath
  viewRoot : PyPath
  scratchRoot : PyPath
  command : List PyText
  parentEnv : List (PyText × PyText)
  runtimeReadRoots : List PyPath
  providerEnvironment : ProviderEnvironmentPolicy
  providerNetworkDomains : List PyText
  deriving DecidableEq

/-- An exception that is no `SandboxContractError`. -/
inductive SandboxFault
  | osError
  | valueError
  | indexError
  deriving DecidableEq

/-- How a function of the sandbox fails. -/
inductive SandboxFailure
  /-- `SandboxContractError` -/
  | contract (message : String)
  | escaped (fault : SandboxFault)
  deriving DecidableEq

/-- The metadata that `lstat` and `stat` return. -/
structure FileStat where
  mode : ℕ
  uid : ℕ

/-- `stat.S_ISLNK` -/
def FileStat.isLink (s : FileStat) : Bool := s.mode &&& 0o170000 == 0o120000

/-- `stat.S_ISDIR` -/
def FileStat.isDirectory (s : FileStat) : Bool := s.mode &&& 0o170000 == 0o040000

/-- An absolute path with a single root, as the file system resolves one. -/
structure CanonicalPath where
  path : PyPath
  root_eq : path.root = .absolute

/-- What the file system answers. -/
structure SandboxFiles where
  lstat : PyPath → Except SandboxFault FileStat
  /-- `resolve(strict=True)` -/
  resolve : PyPath → Except SandboxFault CanonicalPath
  stat : PyPath → Except SandboxFault FileStat
  uid : ℕ

/-! ## Normalization -/

/-- `canonical_directory` -/
def SandboxFiles.canonicalDirectory (files : SandboxFiles) (path : PyPath) (label : String)
    (requireExact : Bool) : Except SandboxFailure PyPath := do
  require path.isAbsolute (SandboxFailure.contract (label ++ " must be absolute"))
  let unavailable : SandboxFault → SandboxFailure
    | .osError => .contract (label ++ " is unavailable")
    | fault => .escaped fault
  let metadata ← (files.lstat path).mapError unavailable
  let resolved ← (files.resolve path).mapError unavailable
  require (¬ metadata.isLink ∧ metadata.isDirectory ∧ (requireExact → resolved.path = path))
    (SandboxFailure.contract (label ++ " is not canonical"))
  pure resolved.path

/-- `private_ephemeral_root` -/
def SandboxFiles.privateEphemeralRoot (files : SandboxFiles) (path : PyPath) (namePrefix : String) :
    Except SandboxFailure PyPath := do
  let resolved ← files.canonicalDirectory path "ephemeral root" false
  let parentMetadata ← (files.stat resolved.parent).mapError .escaped
  let metadata ← (files.stat resolved).mapError .escaped
  require (pyString namePrefix <+: resolved.name ∧ metadata.mode &&& 0o777 = 0o700 ∧
      parentMetadata.uid = files.uid ∧ parentMetadata.mode &&& 0o077 = 0)
    (SandboxFailure.contract "sandbox roots must use a private temporary parent")
  pure resolved

/-- `paths_overlap` -/
def pathsOverlap (left right : PyPath) : Bool :=
  left == right || left.isParentOf right || right.isParentOf left

/-- `_PROVIDER_ENVIRONMENT_KEYS` -/
def providerEnvironmentKeys : List PyText :=
  ["ANTHROPIC_API_KEY", "CLAUDE_CODE_OAUTH_TOKEN", "OPENAI_API_KEY", "CODEX_HOME",
    "CLAUDE_CONFIG_DIR", "SSL_CERT_FILE", "SSL_CERT_DIR", "HOME", "PATH", "LANG", "LC_ALL",
    "TMPDIR"].map pyString

/-- `_BASELINE_ENVIRONMENT_KEYS` -/
def baselineEnvironmentKeys : List PyText := ["PATH", "LANG", "LC_ALL", "TMPDIR"].map pyString

/-- `_validate_provider_environment` -/
def SandboxFiles.validateProviderEnvironment (files : SandboxFiles) (request : SandboxRequest) :
    Except SandboxFailure Unit := do
  let environment := request.parentEnv
  let temporary := (environment.lookup (pyString "TMPDIR")).getD []
  require (temporary ≠ []) (SandboxFailure.contract "invalid provider temporary directory")
  let temporaryRoot ← files.canonicalDirectory (.ofText temporary)
    "provider temporary directory" true
  let keys := environment.map Prod.fst
  require (baselineEnvironmentKeys ⊆ keys ∧ keys ⊆ providerEnvironmentKeys ∧
      request.scratchRoot.contains temporaryRoot ∧ ∀ e ∈ environment, e.2 ≠ [])
    (SandboxFailure.contract "invalid provider environment")

/-- A small letter. -/
def isHostLetter : PyChar → Bool
  | .char c => 'a' ≤ c && c ≤ 'z'
  | .surrogate _ => false

/-- A small letter or a digit. -/
def isHostChar : PyChar → Bool
  | .char c => ('a' ≤ c && c ≤ 'z') || ('0' ≤ c && c ≤ '9')
  | .surrogate _ => false

/-- `re.fullmatch(r"[a-z0-9]+(?:[.-][a-z0-9]+)*\.[a-z]{2,}", host)`: the last label holds letters
only, so the last dot is the one before it. -/
def isProviderHost (host : PyText) : Bool :=
  match (host.splitOn (.char '.')).reverse with
  | last :: label :: labels =>
    2 ≤ last.length && last.all isHostLetter &&
      (label :: labels).all fun l =>
        (l.splitOn (.char '-')).all fun part => !part.isEmpty && part.all isHostChar
  | _ => false

/-- One step of the loop over the runtime roots. -/
def SandboxFiles.addRuntimeRoot (files : SandboxFiles) (guarded : List PyPath)
    (roots : List PyPath) (root : PyPath) : Except SandboxFailure (List PyPath) := do
  let canonical ← files.canonicalDirectory root "runtime read root" true
  require (∀ p ∈ guarded, ¬ pathsOverlap canonical p)
    (SandboxFailure.contract "runtime read root overlaps a protected root")
  pure (if canonical ∈ roots then roots else roots ++ [canonical])

/-- `normalize_sandbox_request` -/
def normalizeSandboxRequest (files : SandboxFiles) (request : SandboxRequest)
    (forbiddenProjectRoots : List PyPath) : Except SandboxFailure SandboxRequest := do
  let project ← files.canonicalDirectory request.projectRoot "project root" false
  require (∀ root ∈ forbiddenProjectRoots, root ≠ project ∧ ¬ root.isParentOf project)
    (SandboxFailure.contract "canonical project cannot use a shared temporary root")
  let view ← files.privateEphemeralRoot request.viewRoot "aizim-view-"
  let scratch ← files.privateEphemeralRoot request.scratchRoot "aizim-scratch-"
  require (view.parent = scratch.parent)
    (SandboxFailure.contract "sandbox roots must share one private parent")
  require (∀ root ∈ [view, scratch], ¬ pathsOverlap project root)
    (SandboxFailure.contract "sandbox roots cannot overlap the canonical project")
  require (request.command.head?.any fun executable => (PyPath.ofText executable).isAbsolute)
    (SandboxFailure.contract "sandbox command must use an absolute executable")
  let _ ← (if request.providerEnvironment = .filteredParent then
    files.validateProviderEnvironment request else .ok ())
  require (∀ host ∈ request.providerNetworkDomains, isProviderHost host)
    (SandboxFailure.contract "invalid provider network domains")
  require (request.providerNetworkDomains ≠ [] → request.providerEnvironment = .filteredParent)
    (SandboxFailure.contract "provider network requires a filtered transport environment")
  let runtimeRoots ← request.runtimeReadRoots.foldlM
    (files.addRuntimeRoot [project, view, scratch]) []
  pure { request with
    projectRoot := project
    viewRoot := view
    scratchRoot := scratch
    runtimeReadRoots := runtimeRoots }

/-! ## What a normalized request keeps -/

lemma root_of_canonicalDirectory {files : SandboxFiles} {path resolved : PyPath} {label : String}
    {requireExact : Bool}
    (h : files.canonicalDirectory path label requireExact = .ok resolved) :
    resolved.root = .absolute := by
  simp only [SandboxFiles.canonicalDirectory, bind_eq_ok, pure_eq_ok] at h
  obtain ⟨_, -, _, -, canonical, -, _, -, rfl⟩ := h
  exact canonical.root_eq

/-- A private root is canonical and has a name of its kind. -/
lemma privateEphemeralRoot_ok {files : SandboxFiles} {path resolved : PyPath} {namePrefix : String}
    (h : files.privateEphemeralRoot path namePrefix = .ok resolved) :
    resolved.root = .absolute ∧ pyString namePrefix <+: resolved.name := by
  simp only [SandboxFiles.privateEphemeralRoot, bind_eq_ok, require_eq_ok, pure_eq_ok] at h
  obtain ⟨canonical, hcanonical, _, -, _, -, _, hprivate, rfl⟩ := h
  exact ⟨root_of_canonicalDirectory hcanonical, hprivate.1⟩

/-- Of two paths that do not overlap neither contains the other. -/
lemma not_contains_of_pathsOverlap {p q : PyPath} (h : pathsOverlap p q = false) :
    p.contains q = false ∧ q.contains p = false := by
  simp only [pathsOverlap, Bool.or_eq_false_iff, beq_eq_false_iff_ne] at h
  obtain ⟨⟨hne, hpq⟩, hqp⟩ := h
  constructor
  · by_contra hcontains
    rcases PyPath.eq_or_isParentOf_of_contains (Bool.not_eq_false _ ▸ hcontains) with heq | hparent
    · exact hne heq
    · simp [hpq] at hparent
  · by_contra hcontains
    rcases PyPath.eq_or_isParentOf_of_contains (Bool.not_eq_false _ ▸ hcontains) with heq | hparent
    · exact hne heq.symm
    · simp [hqp] at hparent

/-- What the loop keeps of the runtime roots. -/
structure RuntimeRoots (guarded roots : List PyPath) : Prop where
  nodup : roots.Nodup
  absolute : ∀ root ∈ roots, root.root = .absolute
  apart : ∀ root ∈ roots, ∀ p ∈ guarded, pathsOverlap root p = false

lemma RuntimeRoots.addRuntimeRoot {files : SandboxFiles} {guarded roots roots' : List PyPath}
    {root : PyPath} (hroots : RuntimeRoots guarded roots)
    (h : files.addRuntimeRoot guarded roots root = .ok roots') : RuntimeRoots guarded roots' := by
  simp only [SandboxFiles.addRuntimeRoot, bind_eq_ok, require_eq_ok, pure_eq_ok] at h
  obtain ⟨canonical, hcanonical, _, hapart, rfl⟩ := h
  simp only [Bool.not_eq_true] at hapart
  split_ifs with hnew
  · exact hroots
  · refine ⟨?_, ?_, ?_⟩
    · apply List.nodup_append.2
      refine ⟨hroots.nodup, List.pairwise_singleton _ _, fun a ha b hb hab => ?_⟩
      rw [List.mem_singleton.1 hb] at hab
      exact hnew (hab ▸ ha)
    · intro p hp
      rcases List.mem_append.1 hp with hp | hp
      · exact hroots.absolute p hp
      · rw [List.mem_singleton.1 hp]
        exact root_of_canonicalDirectory hcanonical
    · intro p hp
      rcases List.mem_append.1 hp with hp | hp
      · exact hroots.apart p hp
      · rw [List.mem_singleton.1 hp]
        exact hapart

lemma RuntimeRoots.foldlM {files : SandboxFiles} {guarded requested roots roots' : List PyPath}
    (hroots : RuntimeRoots guarded roots)
    (h : requested.foldlM (files.addRuntimeRoot guarded) roots = .ok roots') :
    RuntimeRoots guarded roots' := by
  induction requested generalizing roots with
  | nil =>
    obtain rfl := Except.ok.inj h
    exact hroots
  | cons root requested ih =>
    rw [List.foldlM_cons, bind_eq_ok] at h
    obtain ⟨next, hnext, h⟩ := h
    exact ih (hroots.addRuntimeRoot hnext) h

/-- What a normalized request keeps. -/
structure Normalized (request : SandboxRequest) : Prop where
  project : request.projectRoot.root = .absolute
  view : request.viewRoot.root = .absolute
  scratch : request.scratchRoot.root = .absolute
  viewName : pyString "aizim-view-" <+: request.viewRoot.name
  scratchName : pyString "aizim-scratch-" <+: request.scratchRoot.name
  apart : ∀ root ∈ [request.viewRoot, request.scratchRoot],
    pathsOverlap request.projectRoot root = false
  command : ∃ executable arguments, request.command = executable :: arguments ∧
    (PyPath.ofText executable).isAbsolute = true
  runtime : RuntimeRoots [request.projectRoot, request.viewRoot, request.scratchRoot]
    request.runtimeReadRoots

/-- A normalized request has canonical roots apart from each other. -/
theorem normalized_of_ok {files : SandboxFiles} {request normalized : SandboxRequest}
    {forbiddenProjectRoots : List PyPath}
    (h : normalizeSandboxRequest files request forbiddenProjectRoots = .ok normalized) :
    Normalized normalized := by
  simp only [normalizeSandboxRequest, bind_eq_ok, require_eq_ok, pure_eq_ok] at h
  obtain ⟨project, hproject, _, -, view, hview, scratch, hscratch, _, -, _, hapart, h⟩ := h
  obtain ⟨_, hcommand, _, -, _, -, _, -, roots, hroots, rfl⟩ := h
  have hview := privateEphemeralRoot_ok hview
  have hscratch := privateEphemeralRoot_ok hscratch
  simp only [Bool.not_eq_true] at hapart
  have hempty : RuntimeRoots [project, view, scratch] [] := ⟨List.nodup_nil, by simp, by simp⟩
  refine ⟨root_of_canonicalDirectory hproject, hview.1, hscratch.1, hview.2, hscratch.2, hapart, ?_,
    hempty.foldlM hroots⟩
  cases hlist : request.command with
  | nil => simp [hlist] at hcommand
  | cons executable arguments =>
    rw [hlist] at hcommand
    exact ⟨executable, arguments, rfl, hcommand⟩

end Aizim
