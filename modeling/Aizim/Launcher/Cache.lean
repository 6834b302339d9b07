import Aizim.Framework.Fallible
import Aizim.Framework.Framing
import Aizim.Framework.Hex

/-!
# The runtime cache

A managed runtime is told from others by a key and the schema version.  `CacheLayout.withSchema`
joins the parts of a key into a path below the cache root, with a lock file and staging directories
beside the runtime.  `CacheLayout.cleanupStaging` removes from that directory what has a name that
starts as those of the staging directories do.

A part may be any text of letters, digits, dots, underscores and dashes, also a single dot, which the
components of a path leave out, or a text that looks like the name of a staging directory.
`identities_separate_iff` says for which two identities the paths are different and a cleanup of one
leaves the other alone.
-/

namespace Aizim.Launcher

/-! ## Paths -/

/-- A component of an absolute path.  The library leaves out single dots. -/
inductive Component
  | rootDir
  | parentDir
  | normal (name : String)
  deriving DecidableEq

/-- A path, as the texts that were joined; none of them holds a separator. -/
structure PathBuf where
  absolute : Bool
  segments : List String
  deriving DecidableEq

namespace PathBuf

/-- The segments that say something. -/
def names (p : PathBuf) : List String := p.segments.filter fun s => s ≠ "" ∧ s ≠ "."

/-- The component of a segment. -/
def component (name : String) : Component := if name = ".." then .parentDir else .normal name

/-- `components` of an absolute path. -/
def components (p : PathBuf) : List Component := .rootDir :: p.names.map component

/-- `join` -/
def join (p : PathBuf) (segment : String) : PathBuf := { p with segments := p.segments ++ [segment] }

/-- `parent` -/
def parent (p : PathBuf) : Option PathBuf :=
  if p.names = [] then none else some ⟨p.absolute, p.names.dropLast⟩

/-- `file_name` -/
def fileName (p : PathBuf) : Option String := p.names.getLast?.filter (· ≠ "..")

/-- `==`, which compares components. -/
def Same (p q : PathBuf) : Prop := p.absolute = q.absolute ∧ p.components = q.components

end PathBuf

/-- `LauncherError`, by its kind and code. -/
inductive LauncherError
  | configuration (code : String)
  | integrity (code : String)
  | internal (code : String)
  deriving DecidableEq

/-- The components that `normalize_absolute` has pushed, when it meets another. -/
def normalizeComponents : (normalized : List String) → List Component →
    Except LauncherError (List String)
  | normalized, [] => .ok normalized
  | _, .rootDir :: rest => normalizeComponents [] rest
  | normalized, .normal name :: rest => normalizeComponents (normalized ++ [name]) rest
  | normalized, .parentDir :: rest =>
    if normalized = [] then .error (.configuration "CACHE_ROOT_INVALID")
    else normalizeComponents normalized.dropLast rest

/-- `normalize_absolute` -/
def normalizeAbsolute (p : PathBuf) : Except LauncherError PathBuf := do
  require (p.absolute = true) (.configuration "CACHE_ROOT_INVALID")
  let normalized ← normalizeComponents [] p.components
  pure ⟨true, normalized⟩

/-- `CacheEnvironment` -/
structure CacheEnvironment where
  platform : String
  home : Option PathBuf
  xdgCacheHome : Option PathBuf
  overrideRoot : Option PathBuf

/-- `root_path` -/
def CacheEnvironment.rootPath (e : CacheEnvironment) : Except LauncherError PathBuf :=
  match e.overrideRoot with
  | some root => normalizeAbsolute root
  | none =>
    if e.platform = "darwin" then do
      let home ← orThrow e.home (.configuration "CACHE_ROOT_INVALID")
      normalizeAbsolute (((home.join "Library").join "Caches").join "aizim")
    else if e.platform = "linux" then
      match e.xdgCacheHome with
      | some root => normalizeAbsolute (root.join "aizim")
      | none => do
        let home ← orThrow e.home (.configuration "CACHE_ROOT_INVALID")
        normalizeAbsolute ((home.join ".cache").join "aizim")
    else .error (.configuration "CACHE_ROOT_INVALID")

/-- What the file system has at a path, or answers to its creation. -/
inductive DirectoryStatus
  | directory
  | other
  | created
  | failed

/-- The components that `ensure_directory_tree` has pushed, when it meets another. -/
def ensureComponents (fs : List String → DirectoryStatus) :
    (current : List String) → List Component → Except LauncherError Unit
  | _, [] => .ok ()
  | current, .rootDir :: rest => ensureComponents fs current rest
  | current, .normal name :: rest =>
    match fs (current ++ [name]) with
    | .directory | .created => ensureComponents fs (current ++ [name]) rest
    | .other | .failed => .error (.integrity "CACHE_LAYOUT_INVALID")
  | _, .parentDir :: _ => .error (.configuration "CACHE_ROOT_INVALID")

/-- `ensure_directory_tree` -/
def ensureDirectoryTree (fs : List String → DirectoryStatus) (p : PathBuf) :
    Except LauncherError Unit :=
  ensureComponents fs [] p.components

/-! ## Keys -/

/-- `CacheKey` -/
structure CacheKey where
  aizimVersion : String
  target : String
  wheelSha256 : String
  pythonVersion : String
  deriving DecidableEq

/-- A letter or a digit of ASCII. -/
def isAsciiAlphanumeric (c : Char) : Bool :=
  ('a' ≤ c && c ≤ 'z') || ('A' ≤ c && c ≤ 'Z') || ('0' ≤ c && c ≤ '9')

/-- A character of a part of a key. -/
def isKeyChar (c : Char) : Bool := isAsciiAlphanumeric c || c == '.' || c == '_' || c == '-'

/-- `safe_component` -/
def safeComponent (value : String) : Bool :=
  value ≠ "" && value.utf8ByteSize ≤ 80 && value.toList.all isKeyChar

/-- `validate_key` -/
def validateKey (key : CacheKey) : Except LauncherError Unit := do
  require ([key.aizimVersion, key.target, key.pythonVersion, key.wheelSha256].all safeComponent =
    true) (.configuration "CACHE_ROOT_INVALID")
  require (key.wheelSha256.utf8ByteSize = 64 ∧ key.wheelSha256.toList.all isLowerHex = true)
    (.configuration "CACHE_ROOT_INVALID")

/-- The bytes that `fingerprint` hashes. -/
def fingerprintInput (key : CacheKey) (schemaVersion : ℕ) : Bytes :=
  terminated 0 ([toString schemaVersion, key.aizimVersion, key.target, key.wheelSha256,
    key.pythonVersion].map encode)

/-! ## Layouts -/

/-- `CacheLayout` -/
structure CacheLayout where
  root : PathBuf
  managedPythonRoot : PathBuf
  uvCacheRoot : PathBuf
  runtimeRoot : PathBuf
  lockPath : PathBuf
  schemaVersion : ℕ

/-- The runtime directory of a key. -/
def runtimeRootOf (root : PathBuf) (key : CacheKey) (schemaVersion : ℕ) : PathBuf :=
  (((((root.join "runtime").join ("v" ++ toString schemaVersion)).join key.aizimVersion).join
    key.target).join key.wheelSha256).join ("py" ++ key.pythonVersion)

namespace CacheLayout

/-- `with_schema` -/
def withSchema (fs : List String → DirectoryStatus) (environment : CacheEnvironment)
    (key : CacheKey) (schemaVersion : ℕ) : Except LauncherError CacheLayout := do
  validateKey key
  require (schemaVersion ≠ 0) (.configuration "CACHE_ROOT_INVALID")
  let root ← environment.rootPath
  ensureDirectoryTree fs root
  let managedPythonRoot := root.join "python"
  let uvCacheRoot := root.join "uv"
  ensureDirectoryTree fs managedPythonRoot
  ensureDirectoryTree fs uvCacheRoot
  let runtimeRoot := runtimeRootOf root key schemaVersion
  let runtimeParent ← orThrow runtimeRoot.parent (.internal "CACHE_LAYOUT_INVALID")
  ensureDirectoryTree fs runtimeParent
  let leaf ← orThrow runtimeRoot.fileName (.internal "CACHE_LAYOUT_INVALID")
  pure
    { root, managedPythonRoot, uvCacheRoot, runtimeRoot
      lockPath := runtimeParent.join ("." ++ leaf ++ ".lock")
      schemaVersion }

/-- `runtime_parent` -/
def runtimeParent (l : CacheLayout) : Except LauncherError PathBuf :=
  orThrow l.runtimeRoot.parent (.internal "CACHE_LAYOUT_INVALID")

/-- `staging_prefix` -/
def stagingPrefix (l : CacheLayout) : Except LauncherError String := do
  let leaf ← orThrow l.runtimeRoot.fileName (.internal "CACHE_LAYOUT_INVALID")
  pure ("." ++ leaf ++ ".staging-")

/-- The directory that `create_staging` makes, from the process and the counter. -/
def createStaging (l : CacheLayout) (process counter : ℕ) : Except LauncherError PathBuf := do
  let parent ← l.runtimeParent
  let stagingPrefix ← l.stagingPrefix
  pure (parent.join (stagingPrefix ++ toString process ++ "-" ++ toString counter))

/-- `starts_with` -/
def startsWith (name start : String) : Bool := start.toList.isPrefixOf name.toList

/-- The entries of its directory that `cleanup_staging` removes, with all below them. -/
def cleanupStaging (l : CacheLayout) (entries : List String) :
    Except LauncherError (List PathBuf) := do
  let parent ← l.runtimeParent
  let stagingPrefix ← l.stagingPrefix
  pure ((entries.filter fun name => startsWith name stagingPrefix).map parent.join)

end CacheLayout

/-! ## Names -/

section names

variable {p : PathBuf} {s t : String} {n m : ℕ}

lemma toString_nat_injective (h : toString n = toString m) : n = m := by
  have hdigits : Nat.toDigits 10 n = Nat.toDigits 10 m := by
    rw [← Nat.toList_repr, ← Nat.toList_repr]
    exact congrArg String.toList h
  rw [← Nat.ofDigitChars_ten_toDigits (n := n), hdigits, Nat.ofDigitChars_ten_toDigits]

lemma append_left_injective {start : String} (h : start ++ s = start ++ t) : s = t := by
  have hlist := congrArg String.toList h
  rw [String.toList_append, String.toList_append] at hlist
  exact String.toList_injective (List.append_cancel_left hlist)

lemma startsWith_iff {name start : String} :
    CacheLayout.startsWith name start = true ↔ start.toList <+: name.toList :=
  List.isPrefixOf_iff_prefix

namespace PathBuf

lemma component_injective : Function.Injective component := by
  intro s t h
  unfold component at h
  split at h <;> split at h
  · next hs ht => rw [hs, ht]
  · cases h
  · cases h
  · exact Component.normal.inj h

/-- Paths are compared by their names. -/
lemma same_iff {p q : PathBuf} : p.Same q ↔ p.absolute = q.absolute ∧ p.names = q.names := by
  unfold Same components
  rw [List.cons_inj_right, (List.map_injective_iff.2 component_injective).eq_iff]

lemma ne_of_two_le {s : String} (h : 2 ≤ s.toList.length) : s ≠ "" ∧ s ≠ "." := by
  constructor
  · rintro rfl
    exact absurd h (by decide)
  · rintro rfl
    exact absurd h (by decide)

lemma names_join (p : PathBuf) (s : String) :
    (p.join s).names = p.names ++ if s ≠ "" ∧ s ≠ "." then [s] else [] := by
  rw [names, join, List.filter_append, names]
  congr 1
  by_cases h : s ≠ "" ∧ s ≠ "."
  · rw [if_pos h]
    exact List.filter_cons_of_pos (decide_eq_true h)
  · rw [if_neg h]
    exact List.filter_cons_of_neg (by rw [decide_eq_true_iff]; exact h)

lemma names_join_of (p : PathBuf) {s : String} (h : 2 ≤ s.toList.length) :
    (p.join s).names = p.names ++ [s] := by
  rw [names_join, if_pos (ne_of_two_le h)]

lemma names_parent {q : PathBuf} (h : p.parent = some q) :
    q.absolute = p.absolute ∧ q.names = p.names.dropLast := by
  unfold parent at h
  split at h
  · cases h
  · cases h
    refine ⟨rfl, List.filter_eq_self.2 fun a ha => ?_⟩
    exact (List.mem_filter.1 ((List.dropLast_sublist _).subset ha)).2

end PathBuf

end names

/-! ## Dotted names -/

section dotted

variable {s t a b c x y : List Char}

lemma prefix_of_append_dot (hs : '.' ∉ s) (h : s ++ x = c ++ '.' :: y) : s <+: c := by
  rcases List.append_eq_append_iff.1 h with ⟨rest, hc, -⟩ | ⟨rest, hsc, hrest⟩
  · exact ⟨rest, hc.symm⟩
  · cases rest with
    | nil => exact ⟨[], by rw [List.append_nil, hsc, List.append_nil]⟩
    | cons d rest =>
      obtain ⟨rfl, -⟩ := List.cons.inj hrest
      exact absurd (hsc ▸ List.mem_append_right c List.mem_cons_self) hs

/-- Two texts, each before a dotted ending, of which the first is the start of the second: the texts
are equal, or the one with its ending is the start of the other. -/
lemma dotted_prefix (hs : '.' ∉ s) (ht : '.' ∉ t) (h : a ++ '.' :: s <+: b ++ '.' :: t ++ x) :
    a = b ∨ a ++ '.' :: s <+: b ∨ b ++ '.' :: t <+: a := by
  obtain ⟨y, hy⟩ := h
  rw [List.append_assoc, List.append_assoc] at hy
  rcases List.append_eq_append_iff.1 hy with ⟨c, rfl, hc⟩ | ⟨c, rfl, hc⟩
  · cases c with
    | nil => exact .inl (List.append_nil a).symm
    | cons d c =>
      obtain ⟨rfl, htail⟩ := List.cons.inj hc
      refine .inr (.inl ((List.prefix_append_right_inj a).2 (List.cons_prefix_cons.2 ⟨rfl, ?_⟩)))
      exact prefix_of_append_dot hs htail
  · cases c with
    | nil => exact .inl (List.append_nil b)
    | cons d c =>
      obtain ⟨rfl, htail⟩ := List.cons.inj hc
      refine .inr (.inr ((List.prefix_append_right_inj b).2 (List.cons_prefix_cons.2 ⟨rfl, ?_⟩)))
      exact prefix_of_append_dot ht htail

end dotted

/-! ## The entries of a runtime -/

/-- The name of the runtime directory. -/
def leafName (key : CacheKey) : String := "py" ++ key.pythonVersion

/-- The name of the lock file. -/
def lockName (key : CacheKey) : String := "." ++ leafName key ++ ".lock"

/-- How the names of the staging directories start. -/
def stagingStart (key : CacheKey) : String := "." ++ leafName key ++ ".staging-"

/-- The names of the entries. -/
inductive IsEntryName (key : CacheKey) : String → Prop
  | runtime : IsEntryName key (leafName key)
  | lock : IsEntryName key (lockName key)
  | staging (process counter : ℕ) :
    IsEntryName key (stagingStart key ++ toString process ++ "-" ++ toString counter)

/-- One text is the other, or starts with the other and what staging directories add to it. -/
def Overlaps (version version' : String) : Prop :=
  version = version' ∨ CacheLayout.startsWith version' (version ++ ".staging-") = true ∨
    CacheLayout.startsWith version (version' ++ ".staging-") = true

instance (version version' : String) : Decidable (Overlaps version version') :=
  inferInstanceAs (Decidable (_ ∨ _ ∨ _))

/-- The names that a key adds to those of its schema; a single dot is none. -/
def identityParts (key : CacheKey) : List String :=
  [key.aizimVersion, key.target].filter (· ≠ ".") ++ [key.wheelSha256]

/-- The runtime of the one key is below an entry that looks like a staging directory of the other. -/
def Swallows (key key' : CacheKey) : Prop :=
  ∃ name rest, identityParts key' = identityParts key ++ name :: rest ∧
    CacheLayout.startsWith name (stagingStart key) = true

/-- The two identities meet in the file system. -/
def Collides (key : CacheKey) (schemaVersion : ℕ) (key' : CacheKey) (schemaVersion' : ℕ) : Prop :=
  schemaVersion = schemaVersion' ∧
    ((identityParts key = identityParts key' ∧ Overlaps key.pythonVersion key'.pythonVersion) ∨
      Swallows key key' ∨ Swallows key' key)

section entries

variable {key key' : CacheKey} {name : String}

lemma stagingStart_toList (key : CacheKey) :
    (stagingStart key).toList = ['.', 'p', 'y'] ++ (key.pythonVersion.toList ++ ".staging-".toList) := by
  rw [stagingStart, leafName, String.toList_append, String.toList_append, String.toList_append]
  rfl

/-- A name of the one runtime that a cleanup of the other matches. -/
lemma IsEntryName.overlaps (hname : IsEntryName key' name)
    (h : CacheLayout.startsWith name (stagingStart key) = true) :
    Overlaps key.pythonVersion key'.pythonVersion := by
  rw [startsWith_iff, stagingStart_toList] at h
  cases hname with
  | runtime =>
    rw [leafName, String.toList_append] at h
    exact absurd (List.cons_prefix_cons.1 h).1 (by decide)
  | lock =>
    have hlock : (lockName key').toList =
        ['.', 'p', 'y'] ++ (key'.pythonVersion.toList ++ '.' :: "lock".toList ++ []) := by
      rw [lockName, leafName, String.toList_append, String.toList_append, String.toList_append,
        List.append_nil]
      rfl
    rw [hlock, List.prefix_append_right_inj] at h
    rcases dotted_prefix (by decide) (by decide) h with heq | hstart | hend
    · exact .inl (String.toList_injective heq)
    · refine .inr (.inl (startsWith_iff.2 ?_))
      rw [String.toList_append]
      exact hstart
    · -- the ending of the lock file is too short
      have hlong := h.length_le
      have hshort := hend.length_le
      simp only [List.length_append, List.length_cons, List.length_nil] at hlong hshort
      have hlock : "lock".toList.length = 4 := by decide
      have hstaging : ".staging-".toList.length = 9 := by decide
      omega
  | staging process counter =>
    have hstaging : (stagingStart key' ++ toString process ++ "-" ++ toString counter).toList =
        ['.', 'p', 'y'] ++ (key'.pythonVersion.toList ++ '.' :: "staging-".toList ++
          ((toString process).toList ++ '-' :: (toString counter).toList)) := by
      rw [String.toList_append, String.toList_append, String.toList_append, stagingStart_toList]
      simp only [List.append_assoc]
      rfl
    rw [hstaging, List.prefix_append_right_inj] at h
    rcases dotted_prefix (by decide) (by decide) h with heq | hstart | hend
    · exact .inl (String.toList_injective heq)
    · refine .inr (.inl (startsWith_iff.2 ?_))
      rw [String.toList_append]
      exact hstart
    · refine .inr (.inr (startsWith_iff.2 ?_))
      rw [String.toList_append]
      exact hend

/-- A longer version's lock file looks like a staging directory of the shorter one. -/
lemma startsWith_lockName
    (h : CacheLayout.startsWith key'.pythonVersion (key.pythonVersion ++ ".staging-") = true) :
    CacheLayout.startsWith (lockName key') (stagingStart key) = true := by
  rw [startsWith_iff, String.toList_append] at h
  rw [startsWith_iff, stagingStart_toList, lockName, leafName, String.toList_append,
    String.toList_append, String.toList_append, List.append_assoc, List.append_assoc]
  exact (List.prefix_append_right_inj ['.', 'p', 'y']).2 (h.trans (List.prefix_append _ _))

end entries

/-! ## Layouts by their names -/

/-- The names of the directory of a runtime. -/
def parentNames (root : PathBuf) (key : CacheKey) (schemaVersion : ℕ) : List String :=
  root.names ++ "runtime" :: ("v" ++ toString schemaVersion) :: identityParts key

/-- A path that an entry of the layout has. -/
inductive Entry (l : CacheLayout) : PathBuf → Prop
  | runtime : Entry l l.runtimeRoot
  | lock : Entry l l.lockPath
  | staging {process counter : ℕ} {p : PathBuf} (h : l.createStaging process counter = .ok p) :
    Entry l p

/-- A cleanup of the layout removes what is at the path, or a directory above it. -/
def Removes (l : CacheLayout) (p : PathBuf) : Prop :=
  ∃ entries removed, l.cleanupStaging entries = .ok removed ∧
    ∃ r ∈ removed, r.absolute = p.absolute ∧ r.names <+: p.names

/-- What the layout of an identity is, below a root. -/
structure IsLayout (root : PathBuf) (key : CacheKey) (schemaVersion : ℕ) (l : CacheLayout) :
    Prop where
  absolute : l.runtimeRoot.absolute = root.absolute
  runtime : l.runtimeRoot.names = parentNames root key schemaVersion ++ [leafName key]
  lockAbsolute : l.lockPath.absolute = root.absolute
  lock : l.lockPath.names = parentNames root key schemaVersion ++ [lockName key]

section layouts

variable {root : PathBuf} {key key' : CacheKey} {n n' : ℕ} {l l' : CacheLayout} {p : PathBuf}
  {name name' : String}

lemma two_le_leafName (key : CacheKey) : 2 ≤ (leafName key).toList.length := by
  rw [leafName, String.toList_append, List.length_append]
  exact Nat.le_add_right 2 _

lemma leafName_ne (key : CacheKey) : leafName key ≠ ".." := by
  intro h
  have hlist := congrArg String.toList h
  rw [leafName, String.toList_append] at hlist
  exact absurd (List.cons.inj hlist).1 (by decide)

lemma IsEntryName.two_le (h : IsEntryName key name) : 2 ≤ name.toList.length := by
  cases h with
  | runtime => exact two_le_leafName key
  | lock =>
    rw [lockName, String.toList_append, String.toList_append, List.length_append, List.length_append]
    have hleaf := two_le_leafName key
    omega
  | staging process counter =>
    rw [String.toList_append, String.toList_append, String.toList_append, stagingStart_toList]
    simp only [List.length_append, List.length_cons, List.length_nil]
    omega

lemma IsEntryName.names_join (h : IsEntryName key name) (q : PathBuf) :
    (q.join name).names = q.names ++ [name] :=
  q.names_join_of h.two_le

lemma validateKey_ok (h : validateKey key = .ok ()) :
    [key.aizimVersion, key.target, key.pythonVersion, key.wheelSha256].all safeComponent = true ∧
      key.wheelSha256.utf8ByteSize = 64 ∧ key.wheelSha256.toList.all isLowerHex = true := by
  simpa only [validateKey, bind_eq_ok, require_eq_ok, exists_const] using h

lemma ne_empty_of_safe {value : String} (h : safeComponent value = true) : value ≠ "" := by
  rintro rfl
  exact absurd h (by decide)

lemma wheel_ne (h : validateKey key = .ok ()) : key.wheelSha256 ≠ "" ∧ key.wheelSha256 ≠ "." := by
  obtain ⟨-, hsize, -⟩ := validateKey_ok h
  constructor <;>
  · intro heq
    rw [heq] at hsize
    exact absurd hsize (by decide)

/-- The segments of a key, less those that a path leaves out. -/
lemma names_runtimeRootOf (h : validateKey key = .ok ()) :
    (runtimeRootOf root key n).names = parentNames root key n ++ [leafName key] := by
  have hwheel := wheel_ne h
  obtain ⟨hall, -, -⟩ := validateKey_ok h
  simp only [List.all_cons, List.all_nil, Bool.and_true, Bool.and_eq_true] at hall
  obtain ⟨haizim, htarget, -, -⟩ := hall
  have hschema : 2 ≤ ("v" ++ toString n).toList.length := by
    rw [String.toList_append, List.length_append, show toString n = n.repr from rfl,
      Nat.toList_repr]
    have hpos : 0 < (Nat.toDigits 10 n).length := Nat.length_toDigits_pos
    have hone : "v".toList.length = 1 := by decide
    omega
  have hruntime : (2 : ℕ) ≤ "runtime".toList.length := by decide
  rw [runtimeRootOf, ← leafName, PathBuf.names_join_of _ (two_le_leafName key), PathBuf.names_join,
    PathBuf.names_join, PathBuf.names_join, PathBuf.names_join_of _ hschema,
    PathBuf.names_join_of _ hruntime, if_pos hwheel, parentNames, identityParts]
  have hparts : [key.aizimVersion, key.target].filter (fun s => decide (s ≠ ".")) =
      (if key.aizimVersion ≠ "" ∧ key.aizimVersion ≠ "." then [key.aizimVersion] else []) ++
        if key.target ≠ "" ∧ key.target ≠ "." then [key.target] else [] := by
    simp only [ne_empty_of_safe haizim, ne_empty_of_safe htarget, ne_eq, not_false_eq_true, true_and,
      List.filter_cons, List.filter_nil, decide_not, Bool.not_eq_true', decide_eq_false_iff_not]
    split <;> split <;> rfl
  rw [hparts]
  simp only [List.append_assoc, List.cons_append, List.nil_append]

lemma parentNames_ne_nil : parentNames root key n ++ [name] ≠ [] :=
  List.append_ne_nil_of_right_ne_nil _ (List.cons_ne_nil _ _)

/-- A path that ends in a name has the rest as its parent. -/
lemma exists_parent {q : PathBuf} {names : List String} (h : q.names = names ++ [name]) :
    ∃ parent, q.parent = some parent ∧ parent.absolute = q.absolute ∧ parent.names = names := by
  have hsome : q.parent = some ⟨q.absolute, q.names.dropLast⟩ := by
    unfold PathBuf.parent
    rw [if_neg]
    rw [h]
    exact List.append_ne_nil_of_right_ne_nil _ (List.cons_ne_nil _ _)
  obtain ⟨habsolute, hnames⟩ := PathBuf.names_parent hsome
  refine ⟨_, hsome, habsolute, ?_⟩
  rw [hnames, h, List.dropLast_concat]

lemma fileName_eq {q : PathBuf} {names : List String} (h : q.names = names ++ [leafName key]) :
    q.fileName = some (leafName key) := by
  rw [PathBuf.fileName, h, List.getLast?_concat]
  exact Option.filter_some_pos (decide_eq_true (leafName_ne key))

/-- **Specification of `withSchema`.** -/
lemma withSchema_ok {fs : List String → DirectoryStatus} {environment : CacheEnvironment}
    (h : CacheLayout.withSchema fs environment key n = .ok l) :
    ∃ root, environment.rootPath = .ok root ∧ validateKey key = .ok () ∧ IsLayout root key n l := by
  simp only [CacheLayout.withSchema, bind_eq_ok, require_eq_ok, orThrow_eq_ok, pure_eq_ok,
    exists_const] at h
  obtain ⟨⟨⟩, hkey, -, root, hroot, -, -, -, -, -, -, parent, hparent, -, -, leaf, hleaf, rfl⟩ := h
  have hnames : (runtimeRootOf root key n).names = parentNames root key n ++ [leafName key] :=
    names_runtimeRootOf hkey
  rw [fileName_eq hnames] at hleaf
  cases hleaf
  obtain ⟨parent', hparent', habsolute, hparentNames⟩ := exists_parent hnames
  rw [hparent'] at hparent
  cases hparent
  have hlock : IsEntryName key (lockName key) := .lock
  refine ⟨root, hroot, hkey, rfl, hnames, habsolute, ?_⟩
  exact (hlock.names_join parent).trans (congrArg (· ++ [lockName key]) hparentNames)

namespace IsLayout

lemma parent_and_prefix (h : IsLayout root key n l) :
    ∃ parent, l.runtimeParent = .ok parent ∧ parent.absolute = root.absolute ∧
      parent.names = parentNames root key n ∧ l.stagingPrefix = .ok (stagingStart key) := by
  obtain ⟨parent, hparent, habsolute, hnames⟩ := exists_parent h.runtime
  refine ⟨parent, ?_, habsolute.trans h.absolute, hnames, ?_⟩
  · rw [CacheLayout.runtimeParent, hparent]
    rfl
  · rw [CacheLayout.stagingPrefix, fileName_eq h.runtime]
    rfl

/-- The entries stand in the directory of the runtime, under their names. -/
lemma entry (h : IsLayout root key n l) (hp : Entry l p) :
    ∃ name, IsEntryName key name ∧ p.absolute = root.absolute ∧
      p.names = parentNames root key n ++ [name] := by
  cases hp with
  | runtime => exact ⟨_, .runtime, h.absolute, h.runtime⟩
  | lock => exact ⟨_, .lock, h.lockAbsolute, h.lock⟩
  | @staging process counter _ hp =>
    obtain ⟨parent, hparent, habsolute, hnames, hprefix⟩ := h.parent_and_prefix
    rw [CacheLayout.createStaging, hparent, hprefix] at hp
    cases hp
    have hname : IsEntryName key (stagingStart key ++ toString process ++ "-" ++ toString counter) :=
      .staging process counter
    refine ⟨_, hname, habsolute, ?_⟩
    rw [hname.names_join, hnames]

/-- A cleanup removes what has a matching name in its directory, and all below it. -/
lemma removes_iff (h : IsLayout root key n l) (hp : p.absolute = root.absolute) :
    Removes l p ↔ ∃ name, CacheLayout.startsWith name (stagingStart key) = true ∧
      parentNames root key n ++ [name] <+: p.names := by
  obtain ⟨parent, hparent, habsolute, hnames, hprefix⟩ := h.parent_and_prefix
  have hcleanup : ∀ entries, l.cleanupStaging entries =
      .ok ((entries.filter fun name => CacheLayout.startsWith name (stagingStart key)).map
        parent.join) := by
    intro entries
    rw [CacheLayout.cleanupStaging, hparent, hprefix]
    rfl
  have hjoin : ∀ name, CacheLayout.startsWith name (stagingStart key) = true →
      (parent.join name).names = parentNames root key n ++ [name] := by
    intro name hname
    rw [startsWith_iff, stagingStart_toList] at hname
    have hlength := hname.length_le
    simp only [List.length_append, List.length_cons] at hlength
    rw [PathBuf.names_join_of _ (by omega), hnames]
  constructor
  · rintro ⟨entries, removed, hremoved, r, hr, -, hstart⟩
    rw [hcleanup] at hremoved
    cases hremoved
    obtain ⟨name, hname, rfl⟩ := List.mem_map.1 hr
    have hmatch := (List.mem_filter.1 hname).2
    rw [hjoin name hmatch] at hstart
    exact ⟨name, hmatch, hstart⟩
  · rintro ⟨name, hmatch, hstart⟩
    refine ⟨[name], _, hcleanup [name], parent.join name, ?_, habsolute.trans hp.symm, ?_⟩
    · exact List.mem_map_of_mem (List.mem_filter.2 ⟨List.mem_cons_self, hmatch⟩)
    · rw [hjoin name hmatch]
      exact hstart

end IsLayout

/-- A name in the directory of the one runtime, at or above a name in that of the other. -/
lemma prefix_parentNames_iff :
    parentNames root key n ++ [name] <+: parentNames root key' n' ++ [name'] ↔
      n = n' ∧ ((identityParts key = identityParts key' ∧ name = name') ∨
        ∃ rest, identityParts key' = identityParts key ++ name :: rest) := by
  rw [parentNames, parentNames, List.append_assoc, List.append_assoc, List.prefix_append_right_inj,
    List.cons_append, List.cons_append, List.cons_append, List.cons_append, List.cons_prefix_cons,
    List.cons_prefix_cons, List.prefix_concat_iff]
  constructor
  · rintro ⟨-, hschema, hparts⟩
    refine ⟨toString_nat_injective (append_left_injective hschema), ?_⟩
    rcases hparts with heq | ⟨rest, hrest⟩
    · obtain ⟨hparts, hname⟩ := List.append_inj' heq rfl
      exact .inl ⟨hparts, List.singleton_inj.1 hname⟩
    · refine .inr ⟨rest, ?_⟩
      rw [← hrest, List.append_assoc, List.singleton_append]
  · rintro ⟨rfl, hparts⟩
    refine ⟨rfl, rfl, ?_⟩
    rcases hparts with ⟨hparts, rfl⟩ | ⟨rest, hrest⟩
    · exact .inl (by rw [hparts])
    · refine .inr ⟨rest, ?_⟩
      rw [hrest, List.append_assoc, List.singleton_append]

end layouts

/-! ## Fingerprints -/

section fingerprints

variable {key key' : CacheKey} {n n' : ℕ}

lemma utf8Char_ne_zero {c : Char} (h : c ≠ '\x00') : 0 ∉ utf8Char c := by
  have hpos : c.toNat ≠ 0 := by
    intro hzero
    exact h (Char.ext (UInt32.toNat_inj.1 hzero))
  simp only [utf8Char]
  split_ifs <;>
  · intro hmem
    simp only [List.mem_cons, List.not_mem_nil, or_false] at hmem
    omega

lemma encode_ne_zero {value : String} (h : ∀ c ∈ value.toList, c ≠ '\x00') : 0 ∉ encode value := by
  rw [encode, List.mem_flatMap]
  rintro ⟨c, hc, hzero⟩
  exact utf8Char_ne_zero (h c hc) hzero

lemma encode_ne_zero_of_safe {value : String} (h : safeComponent value = true) :
    0 ∉ encode value := by
  refine encode_ne_zero fun c hc heq => ?_
  simp only [safeComponent, Bool.and_eq_true, List.all_eq_true] at h
  have hchar := h.2 c hc
  rw [heq] at hchar
  exact absurd hchar (by decide)

lemma encode_ne_zero_toString (n : ℕ) : 0 ∉ encode (toString n) := by
  refine encode_ne_zero fun c hc heq => ?_
  rw [show toString n = n.repr from rfl, Nat.toList_repr] at hc
  have hdigit := Nat.isDigit_of_mem_toDigits (by omega) (by omega) hc
  rw [heq] at hdigit
  exact absurd hdigit (by decide)

/-- **Fingerprints hash different byte strings.** -/
lemma fingerprintInput_injective (h : validateKey key = .ok ()) (h' : validateKey key' = .ok ())
    (heq : fingerprintInput key n = fingerprintInput key' n') : key = key' ∧ n = n' := by
  have hended : ∀ {key : CacheKey} {n : ℕ}, validateKey key = .ok () →
      ∀ part ∈ [toString n, key.aizimVersion, key.target, key.wheelSha256,
        key.pythonVersion].map encode, 0 ∉ part := by
    intro key n hkey part hpart
    obtain ⟨hall, -, -⟩ := validateKey_ok hkey
    simp only [List.all_cons, List.all_nil, Bool.and_true, Bool.and_eq_true] at hall
    obtain ⟨haizim, htarget, hpython, hwheel⟩ := hall
    simp only [List.map_cons, List.map_nil, List.mem_cons, List.not_mem_nil, or_false] at hpart
    rcases hpart with rfl | rfl | rfl | rfl | rfl
    · exact encode_ne_zero_toString n
    · exact encode_ne_zero_of_safe haizim
    · exact encode_ne_zero_of_safe htarget
    · exact encode_ne_zero_of_safe hwheel
    · exact encode_ne_zero_of_safe hpython
  have hparts := terminated_injective (hended h) (hended h') heq
  simp only [List.map_cons, List.map_nil, List.cons.injEq, and_true] at hparts
  obtain ⟨hschema, haizim, htarget, hwheel, hpython⟩ := hparts
  refine ⟨?_, toString_nat_injective (encode_injective hschema)⟩
  cases key
  cases key'
  rw [CacheKey.mk.injEq]
  exact ⟨encode_injective haizim, encode_injective htarget, encode_injective hwheel,
    encode_injective hpython⟩

end fingerprints

/-! ## Separation -/

/-- The two identities are separate. -/
structure Separate (key : CacheKey) (schemaVersion : ℕ) (l : CacheLayout) (key' : CacheKey)
    (schemaVersion' : ℕ) (l' : CacheLayout) : Prop where
  runtimes : ¬ l.runtimeRoot.Same l'.runtimeRoot
  locks : ¬ l.lockPath.Same l'.lockPath
  fingerprints : fingerprintInput key schemaVersion ≠ fingerprintInput key' schemaVersion'
  kept : ∀ p, Entry l' p → ¬ Removes l p
  kept' : ∀ p, Entry l p → ¬ Removes l' p

section separate

variable {root : PathBuf} {key key' : CacheKey} {n n' : ℕ} {l l' : CacheLayout}

lemma Overlaps.symm {version version' : String} (h : Overlaps version version') :
    Overlaps version' version := by
  rcases h with heq | hstart | hstart
  · exact .inl heq.symm
  · exact .inr (.inr hstart)
  · exact .inr (.inl hstart)

lemma Collides.symm (h : Collides key n key' n') : Collides key' n' key n := by
  obtain ⟨hschema, ⟨hparts, hoverlaps⟩ | hswallows | hswallows⟩ := h
  · exact ⟨hschema.symm, .inl ⟨hparts.symm, hoverlaps.symm⟩⟩
  · exact ⟨hschema.symm, .inr (.inr hswallows)⟩
  · exact ⟨hschema.symm, .inr (.inl hswallows)⟩

/-- What a cleanup of the one runtime removes of the other makes them collide. -/
lemma IsLayout.collides (h : IsLayout root key n l) (h' : IsLayout root key' n' l') {p : PathBuf}
    (hp : Entry l' p) (hremoves : Removes l p) : Collides key n key' n' := by
  obtain ⟨name', hname', habsolute, hnames⟩ := h'.entry hp
  obtain ⟨name, hmatch, hprefix⟩ := (h.removes_iff habsolute).1 hremoves
  rw [hnames, prefix_parentNames_iff] at hprefix
  obtain ⟨hschema, ⟨hparts, rfl⟩ | ⟨rest, hrest⟩⟩ := hprefix
  · exact ⟨hschema, .inl ⟨hparts, hname'.overlaps hmatch⟩⟩
  · exact ⟨hschema, .inr (.inl ⟨name, rest, hrest, hmatch⟩)⟩

/-- A runtime that is below a matching entry is removed with it. -/
lemma IsLayout.removes_of_swallows (h : IsLayout root key n l) (h' : IsLayout root key' n l')
    (hswallows : Swallows key key') : Removes l l'.runtimeRoot := by
  obtain ⟨name, rest, hrest, hmatch⟩ := hswallows
  refine (h.removes_iff h'.absolute).2 ⟨name, hmatch, ?_⟩
  rw [h'.runtime, prefix_parentNames_iff]
  exact ⟨rfl, .inr ⟨rest, hrest⟩⟩

/-- The lock file of a version that extends the other as a staging directory does is removed. -/
lemma IsLayout.removes_of_startsWith (h : IsLayout root key n l) (h' : IsLayout root key' n l')
    (hparts : identityParts key = identityParts key')
    (hstart : CacheLayout.startsWith key'.pythonVersion (key.pythonVersion ++ ".staging-") = true) :
    Removes l l'.lockPath := by
  refine (h.removes_iff h'.lockAbsolute).2 ⟨lockName key', startsWith_lockName hstart, ?_⟩
  rw [h'.lock, prefix_parentNames_iff]
  exact ⟨rfl, .inl ⟨hparts, rfl⟩⟩

/-- Identities that collide are not separate. -/
lemma IsLayout.not_separate (h : IsLayout root key n l) (h' : IsLayout root key' n' l')
    (hcollides : Collides key n key' n') : ¬ Separate key n l key' n' l' := by
  intro hseparate
  obtain ⟨rfl, ⟨hparts, heq | hstart | hstart⟩ | hswallows | hswallows⟩ := hcollides
  · apply hseparate.runtimes
    rw [PathBuf.same_iff, h.absolute, h'.absolute, h.runtime, h'.runtime, parentNames, parentNames,
      leafName, leafName, hparts, heq]
    exact ⟨rfl, rfl⟩
  · exact hseparate.kept _ .lock (h.removes_of_startsWith h' hparts hstart)
  · exact hseparate.kept' _ .lock (h'.removes_of_startsWith h hparts.symm hstart)
  · exact hseparate.kept _ .runtime (h.removes_of_swallows h' hswallows)
  · exact hseparate.kept' _ .runtime (h'.removes_of_swallows h hswallows)

/-- Paths of entries that are the same make the identities collide. -/
lemma IsLayout.collides_of_same (h : IsLayout root key n l) (h' : IsLayout root key' n' l')
    (hsame : l.runtimeRoot.Same l'.runtimeRoot ∨ l.lockPath.Same l'.lockPath) :
    Collides key n key' n' := by
  have hnames : ∃ name name', parentNames root key n ++ [name] = parentNames root key' n' ++ [name'] ∧
      (name = name' → key.pythonVersion = key'.pythonVersion) := by
    rcases hsame with hsame | hsame
    · have hnames := (PathBuf.same_iff.1 hsame).2
      rw [h.runtime, h'.runtime] at hnames
      exact ⟨_, _, hnames, append_left_injective⟩
    · have hnames := (PathBuf.same_iff.1 hsame).2
      rw [h.lock, h'.lock] at hnames
      refine ⟨_, _, hnames, fun heq => ?_⟩
      have hlist := congrArg String.toList heq
      simp only [lockName, leafName, String.toList_append, List.append_assoc] at hlist
      have hversions := List.append_cancel_left (List.append_cancel_left hlist)
      exact String.toList_injective (List.append_cancel_right hversions)
  obtain ⟨name, name', hnames, hversion⟩ := hnames
  have hprefix : parentNames root key n ++ [name] <+: parentNames root key' n' ++ [name'] :=
    hnames ▸ List.prefix_rfl
  obtain ⟨hschema, ⟨hparts, heq⟩ | ⟨rest, hrest⟩⟩ := prefix_parentNames_iff.1 hprefix
  · exact ⟨hschema, .inl ⟨hparts, .inl (hversion heq)⟩⟩
  · -- the lengths differ
    have hlength := congrArg List.length hnames
    simp only [parentNames, List.length_append, List.length_cons, List.length_nil, hrest] at hlength
    omega

end separate

/-- **Cache identities are separate unless they collide.**  Of two different identities under one
cache root, the runtime directories, the lock files and the hashed byte strings are different and a
cleanup of either keeps every entry of the other, exactly when the schema versions differ, or when
neither the parts that a path keeps are equal with versions that overlap, nor one runtime is below an
entry that looks like a staging directory of the other. -/
theorem identities_separate_iff {fs fs' : List String → DirectoryStatus}
    {environment environment' : CacheEnvironment} {key key' : CacheKey} {n n' : ℕ}
    {l l' : CacheLayout} (hl : CacheLayout.withSchema fs environment key n = .ok l)
    (hl' : CacheLayout.withSchema fs' environment' key' n' = .ok l')
    (hroot : environment.rootPath = environment'.rootPath) (hne : (key, n) ≠ (key', n')) :
    Separate key n l key' n' l' ↔ ¬ Collides key n key' n' := by
  obtain ⟨root, hrootPath, hkey, h⟩ := withSchema_ok hl
  obtain ⟨root', hrootPath', hkey', h'⟩ := withSchema_ok hl'
  have heq : root' = root := by
    rw [← hroot, hrootPath] at hrootPath'
    exact (Except.ok.inj hrootPath').symm
  subst heq
  constructor
  · intro hseparate hcollides
    exact h.not_separate h' hcollides hseparate
  · intro hcollides
    refine ⟨fun hsame => ?_, fun hsame => ?_, fun hinput => ?_, fun p hp hremoves => ?_,
      fun p hp hremoves => ?_⟩
    · exact hcollides (h.collides_of_same h' (.inl hsame))
    · exact hcollides (h.collides_of_same h' (.inr hsame))
    · obtain ⟨hkeys, hschema⟩ := fingerprintInput_injective hkey hkey' hinput
      exact hne (by rw [hkeys, hschema])
    · exact hcollides (h.collides h' hp hremoves)
    · exact hcollides (h'.collides h hp hremoves).symm

/-- A file system that has every directory. -/
def everyDirectory : List String → DirectoryStatus := fun _ => .directory

/-- An environment with a cache root of its own. -/
def sampleEnvironment : CacheEnvironment :=
  { platform := "linux", home := none, xdgCacheHome := none, overrideRoot := some ⟨true, ["cache"]⟩ }

/-- A key of the sample environment. -/
def sampleKey (aizimVersion target pythonVersion : String) : CacheKey :=
  { aizimVersion, target, wheelSha256 := "".pushn 'a' 64, pythonVersion }

lemma exists_layout {k : CacheKey}
    (h : (CacheLayout.withSchema everyDirectory sampleEnvironment k 1).toOption.isSome = true) :
    ∃ l, CacheLayout.withSchema everyDirectory sampleEnvironment k 1 = .ok l := by
  obtain ⟨l, hl⟩ := Option.isSome_iff_exists.1 h
  exact ⟨l, toOption_eq_some.1 hl⟩

theorem identities_separate_iff_versions : ∃ l l',
    CacheLayout.withSchema everyDirectory sampleEnvironment (sampleKey "0.1.0" "linux" "3.14") 1 =
      .ok l ∧
    CacheLayout.withSchema everyDirectory sampleEnvironment (sampleKey "0.1.0" "linux" "3.13") 1 =
      .ok l' ∧
    (Separate (sampleKey "0.1.0" "linux" "3.14") 1 l (sampleKey "0.1.0" "linux" "3.13") 1 l' ↔
      ¬ Collides (sampleKey "0.1.0" "linux" "3.14") 1 (sampleKey "0.1.0" "linux" "3.13") 1) := by
  obtain ⟨l, hl⟩ := exists_layout (k := sampleKey "0.1.0" "linux" "3.14") (by decide +kernel)
  obtain ⟨l', hl'⟩ := exists_layout (k := sampleKey "0.1.0" "linux" "3.13") (by decide +kernel)
  exact ⟨l, l', hl, hl', identities_separate_iff hl hl' rfl (by decide +kernel)⟩

/-- Two accepted keys, of which each has a dot in another part, have one runtime directory. -/
theorem dotted_keys_not_separate :
    ¬ ∀ (fs : List String → DirectoryStatus) (environment : CacheEnvironment) (key key' : CacheKey)
      (n n' : ℕ) (l l' : CacheLayout),
      CacheLayout.withSchema fs environment key n = .ok l →
      CacheLayout.withSchema fs environment key' n' = .ok l' → (key, n) ≠ (key', n') →
      Separate key n l key' n' l' := by
  intro hall
  obtain ⟨l, hl⟩ := exists_layout (k := sampleKey "." "linux" "3.14") (by decide +kernel)
  obtain ⟨l', hl'⟩ := exists_layout (k := sampleKey "linux" "." "3.14") (by decide +kernel)
  have hseparate := hall everyDirectory sampleEnvironment _ _ 1 1 l l' hl hl' (by decide +kernel)
  obtain ⟨root, hroot, -, h⟩ := withSchema_ok hl
  obtain ⟨root', hroot', -, h'⟩ := withSchema_ok hl'
  rw [hroot] at hroot'
  cases hroot'
  exact h.not_separate h' ⟨rfl, .inl ⟨by decide +kernel, .inl rfl⟩⟩ hseparate

end Aizim.Launcher
