import Mathlib.Data.List.Nodup
import Aizim.Agents.Sandbox
import Aizim.Framework.Toml

/-!
# The profile of a worker on macOS

The launcher passes a permission profile to the sandbox as overrides of a TOML configuration.
`compileMacosProfile` writes the paths of a request into them with the printer of JSON, and
`validateMacosProfile` reads the profile back with the reader of TOML.

The two grammars of strings differ in one character.  The printer leaves the delete character as it
is and TOML forbids it, so a request with such a path has no profile that is read; and TOML forbids
a key that occurs twice, so neither has one whose developer root is another of its paths.  These are
the only ones (`macos_profile_holds_iff`): the profile of any other request is read as the table of
its paths and is accepted.
-/

namespace Aizim.MacosProfile

open Toml

/-- `SandboxLaunchSpec` -/
structure SandboxLaunchSpec where
  platformId : String
  argv : List PyText
  cwd : PyPath
  parentEnv : List (PyText × PyText)
  shellEnv : List (PyText × PyText)
  viewRoot : PyPath
  scratchRoot : PyPath
  profileId : PyText
  policyHash : String

/-! ## Constants -/

/-- `_PROFILE_ID` -/
def profileId : PyText := pyString "aizim-worker"

/-- `_BASE_PATH` -/
def basePath : PyText := pyString "/usr/bin:/bin:/usr/sbin:/sbin"

/-- The option that turns the network off. -/
def disableNetwork : PyText := pyString "--sandbox-state-disable-network"

/-- `_FIXED_LAUNCH_POLICY` -/
def fixedLaunchPolicy : List PyText :=
  [pyString "sandbox", pyString "--permission-profile", profileId, disableNetwork,
    pyString "--log-denials", pyString "-C"]

/-- What a profile allows for a path. -/
inductive Permission
  | read
  | write
  | deny

/-- The word of a permission. -/
def Permission.text : Permission → PyText
  | read => pyString "read"
  | write => pyString "write"
  | deny => pyString "deny"

/-! ## The compiler -/

/-- `\uXXXX` -/
def unicodeEscape (n : ℕ) : PyText :=
  pyText ('\\' :: 'u' :: (Sha256.hexByte (n / 256) ++ Sha256.hexByte (n % 256)))

/-- A character as the printer writes it that writes ASCII only. -/
def escapeAscii : PyChar → PyText
  | .char c =>
    if c.toNat < 127 then escape (.char c)
    else if c.toNat < 0x10000 then unicodeEscape c.toNat
    else unicodeEscape (0xd800 + (c.toNat - 0x10000) / 0x400) ++
      unicodeEscape (0xdc00 + (c.toNat - 0x10000) % 0x400)
  | .surrogate n => unicodeEscape (0xd800 + n)

/-- `network_policy` -/
def networkPolicy (domains : List PyText) : PyText :=
  if domains = [] then pyString "\x7benabled=false\x7d"
  else
    pyString "\x7benabled=true,domains=\x7b" ++
      (pyString ",").intercalate (domains.map fun host =>
        pyString "\"" ++ host.flatMap escapeAscii ++ pyString "\"=\"allow\"") ++
      pyString "\x7d,proxy_url=\"http://127.0.0.1:0\",enable_socks5=false," ++
      pyString "allow_upstream_proxy=false,allow_local_binding=false\x7d"

/-- `network_launch_policy` -/
def networkLaunchPolicy (fixed domains : List PyText) : List PyText :=
  if domains = [] then fixed
  else pyString "-c" :: pyString "features.network_proxy=true" ::
    fixed.filter fun item => item ≠ disableNetwork

/-- `project_root / ".aizim"` -/
def stateRoot (request : SandboxRequest) : PyPath :=
  request.projectRoot.child (pyString ".aizim") (by decide)

/-- Every path below a directory. -/
def below (p : PyPath) : PyPath := p.child (pyString "**") (by decide)

/-- The table of `_permission_override`. -/
def filesystemEntries (request : SandboxRequest) (developerRoot : PyPath) :
    List (PyText × PyText) :=
  (pyString ":minimal", Permission.read.text) ::
  (developerRoot.text, Permission.read.text) ::
  (request.runtimeReadRoots.map fun root => (root.text, Permission.read.text)) ++
  [(request.viewRoot.text, Permission.read.text),
    (request.scratchRoot.text, Permission.write.text),
    ((stateRoot request).text, Permission.deny.text),
    ((below (stateRoot request)).text, Permission.deny.text),
    (request.projectRoot.text, Permission.deny.text),
    ((below request.projectRoot).text, Permission.deny.text)]

/-- `_permission_override` -/
def permissionOverride (request : SandboxRequest) (developerRoot : PyPath) : PyText :=
  pyString "permissions." ++ profileId ++ pyString "=\x7bfilesystem=\x7b" ++
    pairsText (filesystemEntries request developerRoot) ++ pyString "\x7d,network=" ++
    networkPolicy request.providerNetworkDomains ++ pyString "\x7d"

/-- `_environment_override` -/
def environmentOverride (filtered : Bool) (environment : List (PyText × PyText)) : PyText :=
  if filtered then
    pyString "shell_environment_policy=\x7binherit=\"all\",ignore_default_excludes=true\x7d"
  else
    pyString "shell_environment_policy=" ++
      pyString "\x7binherit=\"none\",ignore_default_excludes=false,set=\x7b" ++
      (pyString ",").intercalate (environment.map fun e => e.1 ++ .char '=' :: quote e.2) ++
      pyString "\x7d\x7d"

/-- `_shell_environment`, for a scratch root. -/
def shellEnvironment (scratchRoot : PyPath) : List (PyText × PyText) :=
  [(pyString "PATH", basePath), (pyString "LANG", pyString "C.UTF-8"),
    (pyString "LC_ALL", pyString "C.UTF-8"), (pyString "TMPDIR", scratchRoot.text)]

/-- The first two overrides. -/
def fixedOverrides : List PyText :=
  [pyString "default_permissions=" ++ quote profileId, pyString "approval_policy=\"never\""]

/-- A path of the contract that the hash is taken of. -/
def contractPath (name : String) : PyPath := .ofText (pyString ("/__aizim_contract__/" ++ name))

/-- The texts of `_policy_contract_hash`. -/
def policyContract (filtered : Bool) (domains : List PyText) : List PyText :=
  let request : SandboxRequest := {
    projectRoot := contractPath "project"
    viewRoot := contractPath "view"
    scratchRoot := contractPath "scratch"
    command := []
    parentEnv := []
    runtimeReadRoots := [contractPath "runtime-python", contractPath "runtime-codex"]
    providerEnvironment := .none
    providerNetworkDomains := domains }
  fixedOverrides ++
    [permissionOverride request (contractPath "developer"),
      environmentOverride filtered (shellEnvironment (contractPath "scratch"))] ++
    networkLaunchPolicy fixedLaunchPolicy domains

/-- The text that the hash is taken of. -/
def policyBody (filtered : Bool) (domains : List PyText) : PyText :=
  .char '[' ::
    ((pyString ",").intercalate ((policyContract filtered domains).map quote) ++ [.char ']'])

/-- `_policy_contract_hash`.  A surrogate is not encoded. -/
def policyContractHash (filtered : Bool) (domains : List PyText) :
    Except SandboxFailure String := do
  let body ← orThrow (plainChars? (policyBody filtered domains))
    (SandboxFailure.escaped .valueError)
  pure (sha256Text (String.ofList body))

/-- Each override after its flag. -/
def overrideArguments (overrides : List PyText) : List PyText :=
  overrides.flatMap fun item => [pyString "-c", item]

/-- Whether a request filters the environment of its provider. -/
def isFiltered (request : SandboxRequest) : Bool := request.providerEnvironment == .filteredParent

/-- The specification of `compile_macos_profile`, with its hash. -/
def launchSpec (codexExecutable : PyPath) (request : SandboxRequest) (developerRoot : PyPath)
    (policyHash : String) : SandboxLaunchSpec :=
  let shellEnv := shellEnvironment request.scratchRoot
  let overrides := fixedOverrides ++
    [permissionOverride request developerRoot, environmentOverride (isFiltered request) shellEnv]
  { platformId := "darwin"
    argv := codexExecutable.text :: (overrideArguments overrides ++
      networkLaunchPolicy fixedLaunchPolicy request.providerNetworkDomains ++
      request.viewRoot.text :: request.command)
    cwd := request.viewRoot
    parentEnv := request.parentEnv
    shellEnv := shellEnv
    viewRoot := request.viewRoot
    scratchRoot := request.scratchRoot
    profileId := profileId
    policyHash := policyHash }

/-- `compile_macos_profile` -/
def compileMacosProfile (codexExecutable : PyPath) (request : SandboxRequest)
    (developerRoot : PyPath) : Except SandboxFailure SandboxLaunchSpec := do
  let policyHash ← policyContractHash (isFiltered request) request.providerNetworkDomains
  pure (launchSpec codexExecutable request developerRoot policyHash)

/-! ## The validator -/

/-- `a == b` of two dictionaries. -/
def sameDict (a b : List (PyText × PyText)) : Bool :=
  a.length == b.length && a.all fun e => b.lookup e.1 == some e.2

/-- `a == b` of two specifications. -/
def SandboxLaunchSpec.same (a b : SandboxLaunchSpec) : Bool :=
  a.platformId == b.platformId && a.argv == b.argv && a.cwd == b.cwd &&
    sameDict a.parentEnv b.parentEnv && sameDict a.shellEnv b.shellEnv &&
    a.viewRoot == b.viewRoot && a.scratchRoot == b.scratchRoot && a.profileId == b.profileId &&
    a.policyHash == b.policyHash

/-- `d[key] = value` -/
def dictSet (d : List (PyText × PyText)) (key value : PyText) : List (PyText × PyText) :=
  if key ∈ d.map Prod.fst then d.map fun e => if e.1 = key then (key, value) else e
  else d ++ [(key, value)]

/-- A dictionary display. -/
def dictOf (pairs : List (PyText × PyText)) : List (PyText × PyText) :=
  pairs.foldl (fun d p => dictSet d p.1 p.2) []

/-- The text of a value, if it is one. -/
def text? : TomlValue → Option PyText
  | .text s => some s
  | _ => none

/-- `table == expected` -/
def sameTable (t : TomlTable) (expected : List (PyText × PyText)) : Bool :=
  t.length == expected.length &&
    t.all fun e => (text? e.2).any fun s => expected.lookup e.1 == some s

/-- `value[key]`, which raises unless the value is a table that has the key. -/
def item? : TomlValue → PyText → Option TomlValue
  | .table _ t, key => TomlTable.get? t key
  | _, _ => none

/-- `value == {"enabled": False}` -/
def isDisabled : TomlValue → Bool
  | .table _ [(key, .bool false)] => key == pyString "enabled"
  | _ => false

/-- The table that `_permission_is_strict` expects. -/
def expectedFilesystem (spec : SandboxLaunchSpec) (projectRoot developerRoot : PyPath)
    (runtimeReadRoots : List PyPath) : List (PyText × PyText) :=
  let project := projectRoot.text
  dictOf <|
    (pyString ":minimal", Permission.read.text) ::
    (developerRoot.text, Permission.read.text) ::
    (runtimeReadRoots.map fun root => (root.text, Permission.read.text)) ++
    [(spec.viewRoot.text, Permission.read.text),
      (spec.scratchRoot.text, Permission.write.text),
      (project ++ pyString "/.aizim", Permission.deny.text),
      (project ++ pyString "/.aizim/**", Permission.deny.text),
      (project, Permission.deny.text),
      (project ++ pyString "/**", Permission.deny.text)]

/-- `_permission_is_strict` -/
def permissionIsStrict (value : PyText) (spec : SandboxLaunchSpec)
    (projectRoot developerRoot : PyPath) (runtimeReadRoots : List PyPath) : Bool :=
  let profile? := do
    let document ← loads value
    let permissions ← document.get? (pyString "permissions")
    item? permissions profileId
  match profile? with
  | some (.table _ profile) =>
    match TomlTable.get? profile (pyString "filesystem"),
        TomlTable.get? profile (pyString "network") with
    | some (.table _ filesystem), some network =>
      profile.length == 2 && isDisabled network &&
        sameTable filesystem
          (expectedFilesystem spec projectRoot developerRoot runtimeReadRoots)
    | _, _ => false
  | _ => false

/-- Every second item. -/
def everySecond : List PyText → List PyText
  | a :: _ :: items => a :: everySecond items
  | items => items

/-- `validate_macos_profile` -/
def validateMacosProfile (spec : SandboxLaunchSpec) (projectRoot developerRoot : PyPath)
    (runtimeReadRoots : List PyPath) (providerRequest : Option SandboxRequest) :
    Except SandboxFailure Unit :=
  match providerRequest.filter fun request => request.providerNetworkDomains ≠ [] with
  | some request => do
    let executable ← orThrow spec.argv.head? (SandboxFailure.escaped .indexError)
    let compiled ← compileMacosProfile (.ofText executable) request developerRoot
    require (spec.same compiled)
      (SandboxFailure.contract "invalid macOS provider transport profile")
  | none => do
    let overrides := everySecond ((spec.argv.drop 2).take 7)
    let filtered := overrides.length == 4 && overrides[3]? == some (environmentOverride true [])
    require (spec.profileId = profileId ∧ spec.cwd = spec.viewRoot ∧ projectRoot.isAbsolute ∧
        developerRoot.isAbsolute ∧
        sameDict spec.shellEnv (shellEnvironment spec.scratchRoot) ∧
        17 ≤ spec.argv.length ∧
        (spec.argv[0]?.any fun executable => (PyPath.ofText executable).isAbsolute) ∧
        (spec.argv.drop 9).take 6 = fixedLaunchPolicy ∧
        spec.argv[15]? = some spec.viewRoot.text ∧
        (spec.argv[16]?.any fun executable => (PyPath.ofText executable).isAbsolute) ∧
        everySecond ((spec.argv.drop 1).take 8) = List.replicate 4 (pyString "-c"))
      (SandboxFailure.contract "invalid macOS sandbox profile")
    let policyHash ← policyContractHash filtered []
    require (overrides.take 2 = fixedOverrides ∧
        overrides[3]? = some (environmentOverride filtered spec.shellEnv) ∧
        spec.policyHash = policyHash ∧
        (overrides[2]?.any fun value =>
          permissionIsStrict value spec projectRoot developerRoot runtimeReadRoots))
      (SandboxFailure.contract "invalid macOS sandbox profile")

/-! ## What is read back -/

/-- The table that a profile with the network disabled stands for. -/
def permissionDocument (request : SandboxRequest) (developerRoot : PyPath) : TomlTable :=
  [(pyString "permissions", .table false [(profileId, .table true
    [(pyString "filesystem", .table true (textEntries (filesystemEntries request developerRoot))),
      (pyString "network", .table true [(pyString "enabled", .bool false)])])])]

/-- What follows the table of the paths. -/
def networkText : PyText := pyString "network=\x7benabled=false\x7d\x7d"

lemma readInline_networkText (n : ℕ) {seen : TomlTable}
    (h : pyString "network" ∉ seen.map Prod.fst) :
    readInline (n + 5) seen networkText =
      some (seen ++
        [(pyString "network", .table true [(pyString "enabled", .bool false)])], []) := by
  have hkey : readKey (n + 4) networkText =
      some ([pyString "network"], .char '=' :: pyString "\x7benabled=false\x7d\x7d") :=
    readKey_bare (k := pyString "network") (by decide) (by decide) (n + 3) _
  have hinner : readKey (n + 2) (pyString "enabled=false\x7d\x7d") =
      some ([pyString "enabled"], .char '=' :: pyString "false\x7d\x7d") :=
    readKey_bare (k := pyString "enabled") (by decide) (by decide) (n + 1) _
  have hfalse : readValue (n + 2) (skipBlanks (pyString "false\x7d\x7d")) =
      some (.bool false, .char '\x7d' :: [.char '\x7d']) := rfl
  have hempty : pyString "enabled" ∉ ([] : TomlTable).map Prod.fst := List.not_mem_nil
  have htable := readInline_last hinner hfalse hempty
  have hvalue : readValue (n + 4) (skipBlanks (pyString "\x7benabled=false\x7d\x7d")) =
      some (.table true [(pyString "enabled", .bool false)], .char '\x7d' :: []) := by
    show readValue (n + 4) (.char '\x7b' :: pyString "enabled=false\x7d\x7d") = _
    rw [readValue_openBrace rfl (by decide), htable]
    rfl
  exact readInline_last hkey hvalue h

/-- A profile whose paths were read. -/
def profileTable (filesystem : TomlTable) : TomlValue :=
  .table true [(pyString "filesystem", .table true filesystem),
    (pyString "network", .table true [(pyString "enabled", .bool false)])]

/-- The value of the profile is read if the row of its paths is. -/
lemma readValue_profile {pairs : List (PyText × PyText)} (hne : pairs ≠ []) {n : ℕ}
    (hlength : (pairsText pairs).length + 8 < n) :
    readValue n (pyString "\x7bfilesystem=\x7b" ++ (pairsText pairs ++
        .char '\x7d' :: .char ',' :: networkText)) =
      (pairs.foldlM TomlTable.addQuoted []).map fun t => (profileTable t, []) := by
  obtain ⟨n, rfl⟩ : ∃ m, n = m + 8 := ⟨n - 8, by omega⟩
  have hkey : readKey (n + 6) (pyString "filesystem=\x7b" ++ (pairsText pairs ++
      .char '\x7d' :: .char ',' :: networkText)) = some ([pyString "filesystem"], .char '=' ::
        .char '\x7b' :: (pairsText pairs ++ .char '\x7d' :: .char ',' :: networkText)) :=
    readKey_bare (k := pyString "filesystem") (by decide) (by decide) (n + 5) _
  have hvalue : readValue (n + 6) (skipBlanks (.char '\x7b' :: (pairsText pairs ++
      .char '\x7d' :: .char ',' :: networkText))) =
      (pairs.foldlM TomlTable.addQuoted []).map fun t =>
        (.table true t, .char ',' :: networkText) := by
    rw [Toml.skipBlanks_cons rfl]
    exact readValue_pairsText hne (by omega) _
  have hbrace : readValue (n + 8) (pyString "\x7bfilesystem=\x7b" ++ (pairsText pairs ++
      .char '\x7d' :: .char ',' :: networkText)) =
      (readInline (n + 7) [] (pyString "filesystem=\x7b" ++ (pairsText pairs ++
        .char '\x7d' :: .char ',' :: networkText))).map fun r => (.table true r.1, r.2) := by
    apply readValue_openBrace rfl
    show some (PyChar.char 'f') ≠ some (.char '\x7d')
    decide
  rw [hbrace]
  cases hfold : pairs.foldlM TomlTable.addQuoted [] with
  | none =>
    rw [hfold] at hvalue
    rw [readInline_of_value_none hkey hvalue]
    rfl
  | some t =>
    rw [hfold] at hvalue
    have hfresh : pyString "network" ∉
        [(pyString "filesystem", TomlValue.table true t)].map Prod.fst := by
      show pyString "network" ∉ [pyString "filesystem"]
      decide
    have hnetwork := readInline_networkText (n + 1) hfresh
    have hempty : pyString "filesystem" ∉ ([] : TomlTable).map Prod.fst := List.not_mem_nil
    have hnext := readInline_next hkey hvalue hempty
    have hread := hnext.trans hnetwork
    rw [hread]
    rfl

lemma permissionOverride_eq {request : SandboxRequest} {developerRoot : PyPath}
    (h : request.providerNetworkDomains = []) :
    permissionOverride request developerRoot =
      pyString "permissions" ++ .char '.' :: (profileId ++ .char '=' ::
        (pyString "\x7bfilesystem=\x7b" ++ (pairsText (filesystemEntries request developerRoot) ++
          .char '\x7d' :: .char ',' :: networkText))) := by
  simp only [permissionOverride, networkPolicy, h, if_true]
  simp [pyString, pyText, networkText]

lemma return_notMem_permissionOverride {request : SandboxRequest} {developerRoot : PyPath}
    (h : request.providerNetworkDomains = []) :
    .char '\r' ∉ permissionOverride request developerRoot := by
  have hpairs := return_notMem_pairsText (filesystemEntries request developerRoot)
  have hfirst : .char '\r' ∉ pyString "permissions" := by decide
  have hprofile : .char '\r' ∉ profileId := by decide
  have hopen : .char '\r' ∉ pyString "\x7bfilesystem=\x7b" := by decide
  have hnetwork : .char '\r' ∉ networkText := by decide
  simp [permissionOverride_eq h, hpairs, hfirst, hprofile, hopen, hnetwork]

lemma filesystemEntries_ne_nil (request : SandboxRequest) (developerRoot : PyPath) :
    filesystemEntries request developerRoot ≠ [] := by
  simp [filesystemEntries]

/-- The override is read if the row of its paths is. -/
lemma loads_permissionOverride {request : SandboxRequest} {developerRoot : PyPath}
    (h : request.providerNetworkDomains = []) :
    loads (permissionOverride request developerRoot) =
      ((filesystemEntries request developerRoot).foldlM TomlTable.addQuoted []).map fun t =>
        [(pyString "permissions", .table false [(profileId, profileTable t)])] := by
  have hlength : (pairsText (filesystemEntries request developerRoot)).length + 12 <
      (permissionOverride request developerRoot).length := by
    have hname : (pyString "permissions").length = 11 := by decide
    rw [permissionOverride_eq h]
    simp only [List.length_append, List.length_cons, hname]
    omega
  obtain ⟨n, hn⟩ : ∃ n, 2 * (permissionOverride request developerRoot).length + 2 = n + 3 :=
    ⟨2 * (permissionOverride request developerRoot).length - 1, by omega⟩
  have hkey := readKey_dotted (k := pyString "permissions") (l := profileId) (by decide)
    (by decide) (by decide) (by decide) n (pyString "\x7bfilesystem=\x7b" ++
      (pairsText (filesystemEntries request developerRoot) ++
        .char '\x7d' :: .char ',' :: networkText))
  have hvalue := readValue_profile (filesystemEntries_ne_nil request developerRoot) (n := n + 2)
    (by omega)
  have hread := readStatements_single (c := .char 'p') (by decide) hkey
    (hvalue.trans (Option.map_map (fun v => (v, [])) profileTable _).symm)
  rw [loads, replaceNewlines_of_notMem (return_notMem_permissionOverride h), hn,
    permissionOverride_eq h]
  refine hread.trans ?_
  cases (filesystemEntries request developerRoot).foldlM TomlTable.addQuoted [] <;> rfl

/-- The override is read as the table of its paths if TOML can hold them. -/
theorem loads_of_addable {request : SandboxRequest} {developerRoot : PyPath}
    (hdomains : request.providerNetworkDomains = [])
    (h : Addable [] (filesystemEntries request developerRoot)) :
    loads (permissionOverride request developerRoot) =
      some (permissionDocument request developerRoot) := by
  rw [loads_permissionOverride hdomains, foldlM_addQuoted_of_addable h]
  rfl

/-- No other override is read. -/
theorem loads_of_not_addable {request : SandboxRequest} {developerRoot : PyPath}
    (hdomains : request.providerNetworkDomains = [])
    (h : ¬ Addable [] (filesystemEntries request developerRoot)) :
    loads (permissionOverride request developerRoot) = none := by
  rw [loads_permissionOverride hdomains]
  cases hfold : (filesystemEntries request developerRoot).foldlM TomlTable.addQuoted [] with
  | none => rfl
  | some t => exact absurd (addable_of_foldlM hfold) h

/-! ## The paths that TOML can hold -/

/-- The paths that a worker may read or write, and the project. -/
def sandboxRoots (request : SandboxRequest) : List PyPath :=
  request.runtimeReadRoots ++ [request.viewRoot, request.scratchRoot]

/-- The paths that are denied. -/
def deniedPaths (request : SandboxRequest) : List PyPath :=
  [stateRoot request, below (stateRoot request), request.projectRoot, below request.projectRoot]

/-- A developer root with which the paths of a request can be written: none of them holds a delete
character, and it is none of them. -/
structure Writable (request : SandboxRequest) (developerRoot : PyPath) : Prop where
  plain : ∀ p ∈ developerRoot :: request.projectRoot :: sandboxRoots request, delete ∉ p.text
  apart : developerRoot ∉ sandboxRoots request ++ deniedPaths request

lemma project_contains_denied {request : SandboxRequest} {p : PyPath}
    (h : p ∈ deniedPaths request) : request.projectRoot.contains p = true := by
  have hstate := request.projectRoot.contains_child (pyString ".aizim") (by decide)
  have hself := request.projectRoot.contains_self
  have hstateBelow := (stateRoot request).contains_child (pyString "**") (by decide)
  have hbelow := request.projectRoot.contains_child (pyString "**") (by decide)
  simp only [deniedPaths, List.mem_cons, List.not_mem_nil, or_false] at h
  rcases h with rfl | rfl | rfl | rfl
  · exact hstate
  · exact PyPath.contains_trans hstate hstateBelow
  · exact hself
  · exact hbelow

lemma nodup_deniedPaths (request : SandboxRequest) : (deniedPaths request).Nodup := by
  apply List.Nodup.of_map PyPath.parts
  have hname : pyString ".aizim" ≠ pyString "**" := by decide
  simp [deniedPaths, stateRoot, below, PyPath.child, hname]

lemma keys_filesystemEntries (request : SandboxRequest) (developerRoot : PyPath) :
    (filesystemEntries request developerRoot).map Prod.fst = pyString ":minimal" ::
      (developerRoot :: (sandboxRoots request ++ deniedPaths request)).map PyPath.text := by
  simp [filesystemEntries, sandboxRoots, deniedPaths]

lemma delete_notMem_permission {request : SandboxRequest} {developerRoot : PyPath}
    {e : PyText × PyText} (he : e ∈ filesystemEntries request developerRoot) : delete ∉ e.2 := by
  have htext : ∀ permission : Permission, delete ∉ permission.text := by
    intro permission
    cases permission <;> decide
  simp only [filesystemEntries, List.mem_cons, List.mem_append, List.mem_map, List.not_mem_nil,
    or_false, List.cons_append] at he
  rcases he with rfl | rfl | ⟨root, -, rfl⟩ | rfl | rfl | rfl | rfl | rfl | rfl <;>
    first | exact htext .read | exact htext .write | exact htext .deny

section

variable {request : SandboxRequest} (h : Normalized request)

include h

/-- The project contains none of the roots. -/
lemma project_contains_root {root : PyPath} (hroot : root ∈ sandboxRoots request) :
    request.projectRoot.contains root = false := by
  rcases List.mem_append.1 hroot with hroot | hroot
  · exact (not_contains_of_pathsOverlap (h.runtime.apart root hroot _ (by simp))).2
  · exact (not_contains_of_pathsOverlap (h.apart root hroot)).1

lemma project_parts_ne_nil : request.projectRoot.parts ≠ [] := by
  intro hparts
  have hmem : request.viewRoot ∈ sandboxRoots request := by simp [sandboxRoots]
  have hview := project_contains_root h hmem
  have hcontains : request.projectRoot.contains request.viewRoot = true := by
    rw [PyPath.contains_iff, hparts]
    exact ⟨h.project.trans h.view.symm, List.nil_prefix⟩
  simp [hcontains] at hview

/-- The names of the two private roots begin differently. -/
lemma viewRoot_ne_scratchRoot : request.viewRoot ≠ request.scratchRoot := by
  intro heq
  have hview := h.viewName
  rw [heq] at hview
  have hfalse : ¬ (pyString "aizim-view-" <+: pyString "aizim-scratch-" ∨
      pyString "aizim-scratch-" <+: pyString "aizim-view-") := by decide
  exact hfalse (List.prefix_or_prefix_of_prefix hview h.scratchName)

/-- No path of a normalized request occurs twice. -/
lemma nodup_paths : (sandboxRoots request ++ deniedPaths request).Nodup := by
  have hprivate : [request.viewRoot, request.scratchRoot].Nodup := by
    simpa using viewRoot_ne_scratchRoot h
  have hroots : (sandboxRoots request).Nodup := by
    apply List.nodup_append.2
    refine ⟨h.runtime.nodup, hprivate, fun root hroot p hp heq => ?_⟩
    have hapart := h.runtime.apart root hroot p (List.mem_cons_of_mem _ hp)
    have hself := (not_contains_of_pathsOverlap hapart).1
    rw [heq, PyPath.contains_self] at hself
    cases hself
  apply List.nodup_append.2
  refine ⟨hroots, nodup_deniedPaths request, fun root hroot p hp heq => ?_⟩
  have hcontains := project_contains_denied hp
  rw [← heq, project_contains_root h hroot] at hcontains
  cases hcontains

/-- Every path of a normalized request is absolute. -/
lemma isAbsolute_of_mem {p : PyPath} (hp : p ∈ sandboxRoots request ++ deniedPaths request) :
    p.isAbsolute = true := by
  have habs : p.root = .absolute := by
    rcases List.mem_append.1 hp with hp | hp
    · rcases List.mem_append.1 hp with hp | hp
      · exact h.runtime.absolute p hp
      · simp only [List.mem_cons, List.not_mem_nil, or_false] at hp
        rcases hp with rfl | rfl
        · exact h.view
        · exact h.scratch
    · exact (PyPath.contains_iff.1 (project_contains_denied hp)).1.symm.trans h.project
  simp [PyPath.isAbsolute, habs]

lemma project_isAbsolute : request.projectRoot.isAbsolute = true :=
  isAbsolute_of_mem h (by simp [deniedPaths])

lemma text_stateRoot : (stateRoot request).text =
    request.projectRoot.text ++ pyString "/.aizim" :=
  PyPath.text_child (project_isAbsolute h) (project_parts_ne_nil h) _ _

lemma text_below_stateRoot : (below (stateRoot request)).text =
    request.projectRoot.text ++ pyString "/.aizim/**" := by
  have hparts : (stateRoot request).parts ≠ [] := by simp [stateRoot, PyPath.child]
  have htext := PyPath.text_child (p := stateRoot request) (project_isAbsolute h) hparts
    (pyString "**") (by decide)
  rw [text_stateRoot h, List.append_assoc] at htext
  exact htext

lemma text_below_projectRoot : (below request.projectRoot).text =
    request.projectRoot.text ++ pyString "/**" :=
  PyPath.text_child (project_isAbsolute h) (project_parts_ne_nil h) _ _

/-- A denied path holds the delete character exactly if the project does. -/
lemma delete_mem_denied {p : PyPath} (hp : p ∈ deniedPaths request) :
    delete ∈ p.text ↔ delete ∈ request.projectRoot.text := by
  have hstate : delete ∉ pyString "/.aizim" := by decide
  have hstateBelow : delete ∉ pyString "/.aizim/**" := by decide
  have hbelow : delete ∉ pyString "/**" := by decide
  simp only [deniedPaths, List.mem_cons, List.not_mem_nil, or_false] at hp
  rcases hp with rfl | rfl | rfl | rfl
  · simp [text_stateRoot h, hstate]
  · simp [text_below_stateRoot h, hstateBelow]
  · rfl
  · simp [text_below_projectRoot h, hbelow]

/-- TOML can hold the paths of a normalized request exactly if they are writable. -/
lemma addable_iff {developerRoot : PyPath} (hdeveloper : developerRoot.isAbsolute = true) :
    Addable [] (filesystemEntries request developerRoot) ↔ Writable request developerRoot := by
  have hkeys := keys_filesystemEntries request developerRoot
  have habsolute : ∀ p ∈ developerRoot :: (sandboxRoots request ++ deniedPaths request),
      p.isAbsolute = true :=
    List.forall_mem_cons.2 ⟨hdeveloper, fun p hp => isAbsolute_of_mem h hp⟩
  have hminimal : pyString ":minimal" ∉
      (developerRoot :: (sandboxRoots request ++ deniedPaths request)).map PyPath.text := by
    intro hmem
    obtain ⟨p, hp, htext⟩ := List.mem_map.1 hmem
    have hhead := PyPath.head_text_of_isAbsolute (habsolute p hp)
    rw [htext] at hhead
    exact absurd hhead (by decide)
  have hplain : (∀ e ∈ filesystemEntries request developerRoot, delete ∉ e.1 ∧ delete ∉ e.2) ↔
      ∀ p ∈ developerRoot :: request.projectRoot :: sandboxRoots request, delete ∉ p.text := by
    constructor
    · intro hentries p hp
      have hp' : p ∈ developerRoot :: (sandboxRoots request ++ deniedPaths request) := by
        simp only [List.mem_cons, List.mem_append, deniedPaths] at hp ⊢
        tauto
      have hkey : p.text ∈ (filesystemEntries request developerRoot).map Prod.fst := by
        rw [hkeys]
        exact List.mem_cons_of_mem _ (List.mem_map_of_mem hp')
      obtain ⟨e, he, heq⟩ := List.mem_map.1 hkey
      rw [← heq]
      exact (hentries e he).1
    · intro hpaths e he
      refine ⟨?_, delete_notMem_permission he⟩
      have hkey : e.1 ∈ (filesystemEntries request developerRoot).map Prod.fst :=
        List.mem_map_of_mem he
      rw [hkeys] at hkey
      rcases List.mem_cons.1 hkey with heq | hkey
      · rw [heq]
        decide
      obtain ⟨p, hp, heq⟩ := List.mem_map.1 hkey
      rw [← heq]
      rcases List.mem_cons.1 hp with rfl | hp
      · exact hpaths p List.mem_cons_self
      rcases List.mem_append.1 hp with hp | hp
      · exact hpaths p (List.mem_cons_of_mem _ (List.mem_cons_of_mem _ hp))
      · rw [delete_mem_denied h hp]
        exact hpaths request.projectRoot (List.mem_cons_of_mem _ List.mem_cons_self)
  constructor
  · intro hadd
    refine ⟨hplain.1 hadd.plain, fun hmem => ?_⟩
    have hnodup := hadd.nodup
    rw [hkeys] at hnodup
    exact (List.nodup_cons.1 (List.nodup_cons.1 hnodup).2).1 (List.mem_map_of_mem hmem)
  · intro hwritable
    refine ⟨hplain.2 hwritable.plain, ?_, fun e _ hmem => by cases hmem⟩
    rw [hkeys]
    have hpaths : (developerRoot :: (sandboxRoots request ++ deniedPaths request)).Nodup :=
      List.nodup_cons.2 ⟨hwritable.apart, nodup_paths h⟩
    exact List.nodup_cons.2 ⟨hminimal, hpaths.map fun _ _ => PyPath.text_injective⟩

end

/-! ## What the validator accepts -/

lemma lookup_of_nodup {pairs : List (PyText × PyText)} (h : (pairs.map Prod.fst).Nodup)
    {p : PyText × PyText} (hp : p ∈ pairs) : pairs.lookup p.1 = some p.2 := by
  induction pairs with
  | nil => cases hp
  | cons q pairs ih =>
    have hhead := List.nodup_cons.1 h
    rcases List.mem_cons.1 hp with rfl | hp
    · exact List.lookup_cons_self
    · have hne : p.1 ≠ q.1 := fun heq => hhead.1 (heq ▸ List.mem_map_of_mem hp)
      rw [List.lookup_cons, beq_eq_false_iff_ne.2 hne]
      exact ih hhead.2 hp

lemma foldl_dictSet_of_nodup {pairs d : List (PyText × PyText)}
    (h : ((d ++ pairs).map Prod.fst).Nodup) :
    pairs.foldl (fun d p => dictSet d p.1 p.2) d = d ++ pairs := by
  induction pairs generalizing d with
  | nil => simp
  | cons p pairs ih =>
    have hnew : p.1 ∉ d.map Prod.fst := by
      intro hmem
      rw [List.map_append, List.map_cons] at h
      exact (List.nodup_append.1 h).2.2 p.1 hmem p.1 List.mem_cons_self rfl
    have hset : dictSet d p.1 p.2 = d ++ [p] := by
      rw [dictSet, if_neg hnew]
    have hnext := ih (d := d ++ [p]) (by simpa using h)
    rw [List.foldl_cons, hset, hnext]
    simp

/-- A display without a key that occurs twice has its pairs. -/
lemma dictOf_of_nodup {pairs : List (PyText × PyText)} (h : (pairs.map Prod.fst).Nodup) :
    dictOf pairs = pairs :=
  foldl_dictSet_of_nodup (d := []) h

lemma sameTable_textEntries {pairs : List (PyText × PyText)} (h : (pairs.map Prod.fst).Nodup) :
    sameTable (textEntries pairs) pairs = true := by
  simp only [sameTable, textEntries, List.length_map, beq_self_eq_true, Bool.true_and,
    List.all_map, List.all_eq_true]
  intro p hp
  simp [text?, lookup_of_nodup h hp]

lemma sameDict_self {d : List (PyText × PyText)} (h : (d.map Prod.fst).Nodup) :
    sameDict d d = true := by
  simp only [sameDict, beq_self_eq_true, Bool.true_and, List.all_eq_true]
  intro p hp
  simp [lookup_of_nodup h hp]

/-- The expected table is that of the compiler. -/
lemma expectedFilesystem_eq {request : SandboxRequest} (h : Normalized request)
    (spec : SandboxLaunchSpec) (hview : spec.viewRoot = request.viewRoot)
    (hscratch : spec.scratchRoot = request.scratchRoot) (developerRoot : PyPath) :
    expectedFilesystem spec request.projectRoot developerRoot request.runtimeReadRoots =
      dictOf (filesystemEntries request developerRoot) := by
  simp only [expectedFilesystem, filesystemEntries, hview, hscratch, text_stateRoot h,
    text_below_stateRoot h, text_below_projectRoot h]

/-- The validator finds the table it expects in the compiled override. -/
lemma permissionIsStrict_permissionOverride {request : SandboxRequest} (h : Normalized request)
    (hdomains : request.providerNetworkDomains = []) {developerRoot : PyPath}
    (hadd : Addable [] (filesystemEntries request developerRoot)) (spec : SandboxLaunchSpec)
    (hview : spec.viewRoot = request.viewRoot)
    (hscratch : spec.scratchRoot = request.scratchRoot) :
    permissionIsStrict (permissionOverride request developerRoot) spec request.projectRoot
      developerRoot request.runtimeReadRoots = true := by
  have hexpected := expectedFilesystem_eq h spec hview hscratch developerRoot
  rw [dictOf_of_nodup hadd.nodup] at hexpected
  have hname : (pyString "filesystem" == pyString "network") = false := by decide
  have hsame := sameTable_textEntries hadd.nodup
  simp [permissionIsStrict, loads_of_addable hdomains hadd, permissionDocument, item?,
    TomlTable.get?, hname, hexpected, hsame, isDisabled]

/-- What is joined has no surrogates where neither the texts have any nor the separator. -/
lemma surrogate_notMem_intercalate {sep : PyText} {texts : List PyText} {n : Fin 2048}
    (hsep : PyChar.surrogate n ∉ sep) (htexts : ∀ t ∈ texts, PyChar.surrogate n ∉ t) :
    PyChar.surrogate n ∉ sep.intercalate texts := by
  induction texts with
  | nil => simp [List.intercalate]
  | cons t texts ih =>
    have hrest := ih fun u hu => htexts u (List.mem_cons_of_mem _ hu)
    have ht := htexts t List.mem_cons_self
    cases texts with
    | nil => simpa [List.intercalate] using ht
    | cons u us =>
      rw [List.intercalate_cons_cons]
      simp only [List.mem_append, not_or]
      exact ⟨⟨ht, hsep⟩, hrest⟩

lemma surrogate_notMem_pyText (n : Fin 2048) (cs : List Char) : PyChar.surrogate n ∉ pyText cs := by
  simp [pyText]

lemma surrogate_mem_quote {n : Fin 2048} {s : PyText} :
    PyChar.surrogate n ∈ quote s ↔ PyChar.surrogate n ∈ s := by
  simp only [quote, List.mem_cons, reduceCtorEq, List.mem_append, List.mem_flatMap,
    List.not_mem_nil, or_false, false_or]
  constructor
  · rintro ⟨c, hc, hn⟩
    cases c with
    | char c => exact absurd hn (surrogate_notMem_pyText n _)
    | surrogate m =>
      obtain rfl := PyChar.surrogate.inj (List.mem_singleton.1 hn)
      exact hc
  · exact fun hn => ⟨_, hn, List.mem_singleton_self _⟩

/-- A text without surrogates is encoded. -/
lemma isSome_plainChars? {s : PyText} (h : ∀ n, PyChar.surrogate n ∉ s) :
    (plainChars? s).isSome = true := by
  induction s with
  | nil => rfl
  | cons c s ih =>
    cases c with
    | surrogate n => exact absurd List.mem_cons_self (h n)
    | char c =>
      simpa [plainChars?] using ih fun n hn => h n (List.mem_cons_of_mem _ hn)

lemma surrogate_notMem_text {p : PyPath} {n : Fin 2048}
    (h : ∀ part ∈ p.parts, PyChar.surrogate n ∉ part) : PyChar.surrogate n ∉ p.text := by
  rw [PyPath.text]
  split
  · exact surrogate_notMem_pyText n _
  · rw [List.mem_append, not_or]
    exact ⟨surrogate_notMem_pyText n _, surrogate_notMem_intercalate (by simp) h⟩

/-- The names below the root of the contract. -/
lemma parts_contractPath : ∀ name ∈ ["project", "view", "scratch", "runtime-python",
      "runtime-codex", "developer"],
    (contractPath name).parts = [pyString "__aizim_contract__", pyString name] := by
  decide

lemma surrogate_notMem_pairsText {n : Fin 2048} {pairs : List (PyText × PyText)}
    (h : ∀ p ∈ pairs, PyChar.surrogate n ∉ p.1 ∧ PyChar.surrogate n ∉ p.2) :
    PyChar.surrogate n ∉ pairsText pairs := by
  refine surrogate_notMem_intercalate (by simp) fun t ht => ?_
  obtain ⟨p, hp, rfl⟩ := List.mem_map.1 ht
  obtain ⟨h1, h2⟩ := h p hp
  simp [surrogate_mem_quote, h1, h2]

lemma surrogate_notMem_child {p : PyPath} {name : PyText} {h : isPathName name = true}
    {n : Fin 2048} (hp : ∀ part ∈ p.parts, PyChar.surrogate n ∉ part)
    (hname : PyChar.surrogate n ∉ name) :
    ∀ part ∈ (p.child name h).parts, PyChar.surrogate n ∉ part := by
  intro part hpart
  rcases List.mem_append.1 hpart with hpart | hpart
  · exact hp part hpart
  · rwa [List.mem_singleton.1 hpart]

lemma surrogate_notMem_filesystemEntries {request : SandboxRequest} {developerRoot : PyPath}
    {n : Fin 2048}
    (hroots : ∀ root ∈ developerRoot :: request.viewRoot :: request.scratchRoot ::
      request.projectRoot :: request.runtimeReadRoots, ∀ part ∈ root.parts,
        PyChar.surrogate n ∉ part) :
    ∀ p ∈ filesystemEntries request developerRoot,
      PyChar.surrogate n ∉ p.1 ∧ PyChar.surrogate n ∉ p.2 := by
  have hword : ∀ s, PyChar.surrogate n ∉ pyString s := fun s => surrogate_notMem_pyText n _
  have hpermission : ∀ p : Permission, PyChar.surrogate n ∉ p.text := by
    intro p
    cases p <;> exact hword _
  simp only [List.forall_mem_cons] at hroots
  obtain ⟨hdeveloper, hview, hscratch, hproject, hruntime⟩ := hroots
  have hstate : ∀ part ∈ (stateRoot request).parts, PyChar.surrogate n ∉ part :=
    surrogate_notMem_child hproject (hword ".aizim")
  simp only [filesystemEntries, List.cons_append, List.forall_mem_cons, List.forall_mem_append,
    List.forall_mem_map, hword, hpermission, not_false_eq_true, and_true, true_and,
    List.not_mem_nil, false_implies, implies_true]
  refine ⟨surrogate_notMem_text hdeveloper,
    fun root hroot => surrogate_notMem_text (hruntime root hroot),
    surrogate_notMem_text hview, surrogate_notMem_text hscratch, surrogate_notMem_text hstate, ?_,
    surrogate_notMem_text hproject, ?_⟩
  · exact surrogate_notMem_text (surrogate_notMem_child hstate (hword "**"))
  · exact surrogate_notMem_text (surrogate_notMem_child hproject (hword "**"))

/-- The text that the hash is taken of has no surrogates. -/
lemma surrogate_notMem_policyBody (filtered : Bool) (n : Fin 2048) :
    PyChar.surrogate n ∉ policyBody filtered [] := by
  have hword : ∀ s, PyChar.surrogate n ∉ pyString s := fun s => surrogate_notMem_pyText n _
  have hpath : ∀ name ∈ ["project", "view", "scratch", "runtime-python", "runtime-codex",
      "developer"], ∀ part ∈ (contractPath name).parts, PyChar.surrogate n ∉ part := by
    intro name hname part hpart
    rw [parts_contractPath name hname] at hpart
    simp only [List.mem_cons, List.not_mem_nil, or_false] at hpart
    rcases hpart with rfl | rfl <;> exact hword _
  have hscratch := surrogate_notMem_text (hpath "scratch" (by simp))
  have henvironment : PyChar.surrogate n ∉
      environmentOverride filtered (shellEnvironment (contractPath "scratch")) := by
    cases filtered with
    | true => exact hword _
    | false =>
      simp only [environmentOverride, Bool.false_eq_true, if_false, List.mem_append, hword,
        or_false, false_or]
      refine surrogate_notMem_intercalate (hword _) ?_
      simp [shellEnvironment, basePath, hword, surrogate_mem_quote, hscratch]
  have hentries : ∀ p ∈ filesystemEntries ⟨contractPath "project", contractPath "view",
      contractPath "scratch", [], [], [contractPath "runtime-python", contractPath "runtime-codex"],
      .none, []⟩ (contractPath "developer"),
      PyChar.surrogate n ∉ p.1 ∧ PyChar.surrogate n ∉ p.2 := by
    apply surrogate_notMem_filesystemEntries
    simp only [List.forall_mem_cons, List.not_mem_nil, false_implies, implies_true, and_true]
    exact ⟨hpath "developer" (by simp), hpath "view" (by simp), hpath "scratch" (by simp),
      hpath "project" (by simp), hpath "runtime-python" (by simp), hpath "runtime-codex" (by simp)⟩
  have hpolicy := surrogate_notMem_pairsText hentries
  simp only [policyBody, List.mem_cons, reduceCtorEq, List.mem_append, List.not_mem_nil, or_false,
    false_or]
  refine surrogate_notMem_intercalate (hword _) fun t ht => ?_
  obtain ⟨u, hu, rfl⟩ := List.mem_map.1 ht
  rw [surrogate_mem_quote]
  simp only [policyContract, fixedOverrides, networkLaunchPolicy, if_true, fixedLaunchPolicy,
    profileId, disableNetwork, List.mem_append, List.mem_cons, List.not_mem_nil, or_false] at hu
  rcases hu with ((rfl | rfl) | rfl | rfl) | rfl | rfl | rfl | rfl | rfl | rfl <;>
    simp [surrogate_mem_quote, hword, permissionOverride, profileId, networkPolicy, hpolicy,
      henvironment]

/-- The contract without domains has a hash. -/
lemma exists_policyContractHash (filtered : Bool) :
    ∃ hash, policyContractHash filtered [] = .ok hash := by
  have hplain := isSome_plainChars? (surrogate_notMem_policyBody filtered)
  obtain ⟨cs, hcs⟩ := Option.isSome_iff_exists.1 hplain
  exact ⟨_, bind_eq_ok.2 ⟨cs, orThrow_eq_ok.2 hcs, rfl⟩⟩

lemma environmentOverride_ne (environment : List (PyText × PyText)) :
    environmentOverride false environment ≠ environmentOverride true [] := by
  intro heq
  have hprefix := congrArg (List.take 36) heq
  have hwords : pyString "shell_environment_policy=\x7binherit=\"n" =
      pyString "shell_environment_policy=\x7binherit=\"a" := hprefix
  exact absurd hwords (by decide)

/-- What the validator reads of a compiled specification. -/
lemma argv_launchSpec (codexExecutable : PyPath) {request : SandboxRequest}
    (hdomains : request.providerNetworkDomains = []) (developerRoot : PyPath) (hash : String) :
    (launchSpec codexExecutable request developerRoot hash).argv =
      [codexExecutable.text, pyString "-c", pyString "default_permissions=" ++ quote profileId,
        pyString "-c", pyString "approval_policy=\"never\"",
        pyString "-c", permissionOverride request developerRoot, pyString "-c",
        environmentOverride (isFiltered request) (shellEnvironment request.scratchRoot),
        pyString "sandbox", pyString "--permission-profile", profileId, disableNetwork,
        pyString "--log-denials", pyString "-C", request.viewRoot.text] ++ request.command := by
  simp only [launchSpec, networkLaunchPolicy, hdomains, if_true]
  rfl

lemma filtered_launchSpec (request : SandboxRequest) (environment : List (PyText × PyText)) :
    (some (environmentOverride (isFiltered request) environment) ==
      some (environmentOverride true [])) = isFiltered request := by
  cases isFiltered request with
  | true => exact beq_self_eq_true _
  | false =>
    apply beq_eq_false_iff_ne.2
    intro heq
    exact environmentOverride_ne environment (Option.some.inj heq)

lemma filter_domains {providerRequest : Option SandboxRequest}
    (h : ∀ r ∈ providerRequest, r.providerNetworkDomains = []) :
    (providerRequest.filter fun r => r.providerNetworkDomains ≠ []) = none := by
  cases providerRequest with
  | none => rfl
  | some r => simp [Option.filter, h r rfl]

/-- The validator accepts the profile of a request whose paths TOML can hold. -/
theorem validate_launchSpec {request : SandboxRequest} (h : Normalized request)
    (hdomains : request.providerNetworkDomains = []) {codexExecutable developerRoot : PyPath}
    (hcodex : codexExecutable.isAbsolute = true) (hdeveloper : developerRoot.isAbsolute = true)
    (hadd : Addable [] (filesystemEntries request developerRoot)) {hash : String}
    (hhash : policyContractHash (isFiltered request) [] = .ok hash)
    {providerRequest : Option SandboxRequest}
    (hprovider : ∀ r ∈ providerRequest, r.providerNetworkDomains = []) :
    validateMacosProfile (launchSpec codexExecutable request developerRoot hash)
      request.projectRoot developerRoot request.runtimeReadRoots providerRequest = .ok () := by
  have hargv := argv_launchSpec codexExecutable hdomains developerRoot hash
  obtain ⟨executable, arguments, hcommand, hexecutable⟩ := h.command
  rw [hcommand] at hargv
  have hstrict := permissionIsStrict_permissionOverride h hdomains hadd
    (launchSpec codexExecutable request developerRoot hash) rfl rfl
  have hoverrides : everySecond
      (((launchSpec codexExecutable request developerRoot hash).argv.drop 2).take 7) =
      fixedOverrides ++ [permissionOverride request developerRoot,
        environmentOverride (isFiltered request) (shellEnvironment request.scratchRoot)] := by
    rw [hargv]
    rfl
  have hfiltered := filtered_launchSpec request (shellEnvironment request.scratchRoot)
  have hshell : sameDict (shellEnvironment request.scratchRoot)
      (shellEnvironment request.scratchRoot) = true := by
    apply sameDict_self
    show [pyString "PATH", pyString "LANG", pyString "LC_ALL", pyString "TMPDIR"].Nodup
    decide
  have hcodexText : (PyPath.ofText codexExecutable.text).isAbsolute = true := by
    rw [PyPath.ofText_text, hcodex]
  have hflag : (fixedOverrides ++ [permissionOverride request developerRoot,
      environmentOverride (isFiltered request)
        (shellEnvironment request.scratchRoot)]).length = 4 := rfl
  unfold validateMacosProfile
  rw [filter_domains hprovider]
  simp only [hoverrides]
  have hfilteredFlag : ((fixedOverrides ++ [permissionOverride request developerRoot,
      environmentOverride (isFiltered request)
        (shellEnvironment request.scratchRoot)]).length == 4 &&
      (fixedOverrides ++ [permissionOverride request developerRoot,
        environmentOverride (isFiltered request)
          (shellEnvironment request.scratchRoot)])[3]? == some (environmentOverride true [])) =
      isFiltered request := hfiltered
  rw [hfilteredFlag, hhash]
  refine bind_eq_ok.2 ⟨⟨⟩, require_eq_ok.2 ?_, bind_eq_ok.2 ⟨hash, rfl, require_eq_ok.2 ?_⟩⟩
  · have hfirst : (launchSpec codexExecutable request developerRoot hash).argv[0]? =
        some codexExecutable.text := by
      rw [hargv]
      rfl
    have hcommandText : (launchSpec codexExecutable request developerRoot hash).argv[16]? =
        some executable := by
      rw [hargv]
      rfl
    rw [hfirst, hcommandText, Option.any_some, Option.any_some, hargv]
    refine ⟨rfl, rfl, project_isAbsolute h, hdeveloper, hshell, ?_, hcodexText, rfl, rfl,
      hexecutable, rfl⟩
    simp
  · have hpermission : (fixedOverrides ++ [permissionOverride request developerRoot,
        environmentOverride (isFiltered request)
          (shellEnvironment request.scratchRoot)])[2]? =
        some (permissionOverride request developerRoot) := rfl
    rw [hpermission, Option.any_some]
    exact ⟨rfl, rfl, rfl, hstrict⟩

/-- The validator rejects the profile of any other request. -/
theorem validate_launchSpec_of_not_addable {request : SandboxRequest}
    (hdomains : request.providerNetworkDomains = []) {codexExecutable developerRoot : PyPath}
    (hadd : ¬ Addable [] (filesystemEntries request developerRoot)) (hash : String)
    {providerRequest : Option SandboxRequest}
    (hprovider : ∀ r ∈ providerRequest, r.providerNetworkDomains = []) :
    validateMacosProfile (launchSpec codexExecutable request developerRoot hash)
      request.projectRoot developerRoot request.runtimeReadRoots providerRequest ≠ .ok () := by
  intro hok
  have hstrict : permissionIsStrict (permissionOverride request developerRoot)
      (launchSpec codexExecutable request developerRoot hash) request.projectRoot developerRoot
      request.runtimeReadRoots = false := by
    simp [permissionIsStrict, loads_of_not_addable hdomains hadd]
  have hpermission : (everySecond
      (((launchSpec codexExecutable request developerRoot hash).argv.drop 2).take 7))[2]? =
      some (permissionOverride request developerRoot) := by
    rw [argv_launchSpec codexExecutable hdomains]
    rfl
  unfold validateMacosProfile at hok
  rw [filter_domains hprovider] at hok
  obtain ⟨_, -, hok⟩ := bind_eq_ok.1 hok
  obtain ⟨_, -, hok⟩ := bind_eq_ok.1 hok
  have haccepted := (require_eq_ok.1 hok).2.2.2
  rw [hpermission, Option.any_some, hstrict] at haccepted
  cases haccepted

/-- The override of a request is read as its table and its specification is accepted. -/
def ProfileHolds (codexExecutable : PyPath) (request : SandboxRequest) (developerRoot : PyPath)
    (providerRequest : Option SandboxRequest) : Prop :=
  loads (permissionOverride request developerRoot) =
      some (permissionDocument request developerRoot) ∧
    ∃ spec, compileMacosProfile codexExecutable request developerRoot = .ok spec ∧
      validateMacosProfile spec request.projectRoot developerRoot request.runtimeReadRoots
        providerRequest = .ok ()

lemma profileHolds_iff {request : SandboxRequest} (h : Normalized request)
    (hdomains : request.providerNetworkDomains = []) {codexExecutable developerRoot : PyPath}
    (hcodex : codexExecutable.isAbsolute = true) (hdeveloper : developerRoot.isAbsolute = true)
    {providerRequest : Option SandboxRequest}
    (hprovider : ∀ r ∈ providerRequest, r.providerNetworkDomains = []) :
    ProfileHolds codexExecutable request developerRoot providerRequest ↔
      Writable request developerRoot := by
  rw [← addable_iff h hdeveloper]
  constructor
  · rintro ⟨hread, -⟩
    by_contra hadd
    rw [loads_of_not_addable hdomains hadd] at hread
    cases hread
  · intro hadd
    obtain ⟨hash, hhash⟩ := exists_policyContractHash (isFiltered request)
    have hcompile : compileMacosProfile codexExecutable request developerRoot =
        .ok (launchSpec codexExecutable request developerRoot hash) := by
      rw [compileMacosProfile, hdomains, hhash]
      rfl
    exact ⟨loads_of_addable hdomains hadd, _, hcompile,
      validate_launchSpec h hdomains hcodex hdeveloper hadd hhash hprovider⟩

/-- **The profile of a normalized request without domains is the table of its paths, and is
accepted, exactly if the paths are writable:** none of them holds a delete character, and the
developer root is none of them. -/
theorem macos_profile_holds_iff {files : SandboxFiles} {requested request : SandboxRequest}
    {forbiddenProjectRoots : List PyPath}
    (h : normalizeSandboxRequest files requested forbiddenProjectRoots = .ok request)
    (hdomains : request.providerNetworkDomains = []) {codexExecutable developerRoot : PyPath}
    (hcodex : codexExecutable.isAbsolute = true) (hdeveloper : developerRoot.isAbsolute = true)
    {providerRequest : Option SandboxRequest}
    (hprovider : ∀ r ∈ providerRequest, r.providerNetworkDomains = []) :
    ProfileHolds codexExecutable request developerRoot providerRequest ↔
      Writable request developerRoot :=
  profileHolds_iff (normalized_of_ok h) hdomains hcodex hdeveloper hprovider

/-! ## Two requests -/

/-- A path of a program text. -/
def samplePath (path : String) : PyPath := .ofText (pyString path)

/-- A file system of private directories. -/
def sampleFiles : SandboxFiles where
  lstat _ := .ok ⟨0o040700, 501⟩
  resolve p := .ok ⟨{ p with root := .absolute }, rfl⟩
  stat _ := .ok ⟨0o040700, 501⟩
  uid := 501

/-- A request for a project. -/
def sampleRequest (project : PyPath) : SandboxRequest where
  projectRoot := project
  viewRoot := samplePath "/private/t/aizim-view-1"
  scratchRoot := samplePath "/private/t/aizim-scratch-1"
  command := [pyString "/bin/worker"]
  parentEnv := []
  runtimeReadRoots := [samplePath "/opt/python"]
  providerEnvironment := .none
  providerNetworkDomains := []

/-- A project whose name has quotes and a backslash. -/
def quotedProject : PyPath := samplePath "/home/a \"b\" \\c"

/-- A project whose name has a delete character. -/
def deletedProject : PyPath := samplePath "/home/a\x7fb"

/-- Both are normalized as they are. -/
lemma normalize_sampleRequest :
    normalizeSandboxRequest sampleFiles (sampleRequest quotedProject) [] =
        .ok (sampleRequest quotedProject) ∧
      normalizeSandboxRequest sampleFiles (sampleRequest deletedProject) [] =
        .ok (sampleRequest deletedProject) := by
  decide

/-- The executable of the provider on a host. -/
def sampleCodex : PyPath := samplePath "/opt/codex"

/-- The developer root of a host. -/
def sampleDeveloper : PyPath := samplePath "/Library/Developer"

lemma sample_absolute : sampleCodex.isAbsolute = true ∧ sampleDeveloper.isAbsolute = true := by
  decide

/-- The profile of the first project is its table and is accepted. -/
theorem macos_profile_holds_quoted :
    ProfileHolds sampleCodex (sampleRequest quotedProject) sampleDeveloper none := by
  have hwritable : Writable (sampleRequest quotedProject) sampleDeveloper :=
    ⟨by decide +kernel, by decide +kernel⟩
  exact (macos_profile_holds_iff normalize_sampleRequest.1 rfl sample_absolute.1 sample_absolute.2
    (by simp)).2 hwritable

/-- The profile of the second project is not. -/
theorem not_macos_profile_holds :
    ¬ ∀ (files : SandboxFiles) (requested request : SandboxRequest)
      (forbiddenProjectRoots : List PyPath) (codexExecutable developerRoot : PyPath),
      normalizeSandboxRequest files requested forbiddenProjectRoots = .ok request →
      request.providerNetworkDomains = [] → codexExecutable.isAbsolute = true →
      developerRoot.isAbsolute = true →
      ProfileHolds codexExecutable request developerRoot none := by
  intro h
  have hholds := h sampleFiles (sampleRequest deletedProject) (sampleRequest deletedProject) []
    sampleCodex sampleDeveloper normalize_sampleRequest.2 rfl sample_absolute.1 sample_absolute.2
  have hnormalized := normalized_of_ok normalize_sampleRequest.2
  have hwritable := (profileHolds_iff hnormalized rfl sample_absolute.1 sample_absolute.2
    (by simp)).1 hholds
  have hdelete : delete ∈ (sampleRequest deletedProject).projectRoot.text := by decide +kernel
  exact hwritable.plain _ (List.mem_cons_of_mem _ List.mem_cons_self) hdelete

end Aizim.MacosProfile
