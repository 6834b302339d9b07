import Aizim.Framework.Fallible
import Aizim.Framework.Sha256
import Aizim.Framework.Text
import Aizim.Framework.Utf8

/-!
# Contributions

What a worker may submit: a patch, which is a list of byte edits of the document it was made for,
and the source that a patch or a snapshot comes to.  `validateCandidateSource` decides whether a
source is a candidate for publication.  It scans the text with comments and string literals
removed (`stripCommentsAndStrings`) for forbidden words, further declarations, commands and
imports, and looks for the declaration that was announced.

A check that fails raises `ContributionValidationError`, which is its code.
-/

namespace Aizim.Knowledge

/-- `ContributionValidationError`, by its code. -/
abbrev ContributionValidationError := String

/-! ## Patches -/

/-- `_utf8` -/
def utf8 (value : Bytes) : Except ContributionValidationError String :=
  orThrow (decode value) "INVALID_UTF8"

/-- A replacement of bytes that passed the checks of its constructor. -/
structure ByteEdit where
  startByte : ℕ
  endByte : ℕ
  replacementUtf8 : Bytes
  ordered : startByte ≤ endByte
  replacement_valid : (decode replacementUtf8).isSome

/-- The constructor of an edit, for integers that may be negative. -/
def ByteEdit.create (startByte endByte : Int) (replacementUtf8 : Bytes) :
    Except ContributionValidationError ByteEdit :=
  if h : 0 ≤ startByte ∧ startByte ≤ endByte then
    if hr : (decode replacementUtf8).isSome then
      .ok ⟨startByte.toNat, endByte.toNat, replacementUtf8, by omega, hr⟩
    else .error "INVALID_UTF8"
  else .error "INVALID_BYTE_EDIT"

/-- Edits for a version of a document, with the checks of the constructor. -/
structure PatchPayload where
  expectedFileVersion : ℕ
  expectedContentHash : String
  edits : List ByteEdit
  contentHash_valid : isSha256 expectedContentHash = true
  edits_ne : edits ≠ []

/-- The constructor of a patch. -/
def PatchPayload.create (expectedFileVersion : Int) (expectedContentHash : String)
    (edits : List ByteEdit) : Except ContributionValidationError PatchPayload :=
  if 0 ≤ expectedFileVersion then
    if hhash : isSha256 expectedContentHash = true then
      if hedits : edits ≠ [] then
        .ok ⟨expectedFileVersion.toNat, expectedContentHash, edits, hhash, hedits⟩
      else .error "INVALID_BYTE_EDITS"
    else .error "INVALID_CONTENT_HASH"
  else .error "INVALID_FILE_VERSION"

/-- `_boundary` -/
def boundary (source : Bytes) (offset : ℕ) : Bool :=
  (decode (source.take offset)).isSome && (decode (source.drop offset)).isSome

/-- The loop of `PatchPayload.apply`, from a position in the source. -/
def applyEdits (source : Bytes) : (cursor : ℕ) → List ByteEdit →
    Except ContributionValidationError Bytes
  | cursor, [] => pure (source.drop cursor)
  | cursor, edit :: edits => do
    require (cursor ≤ edit.startByte ∧ edit.endByte ≤ source.length ∧
      boundary source edit.startByte = true ∧ boundary source edit.endByte = true)
      "INVALID_BYTE_EDITS"
    let rest ← applyEdits source edit.endByte edits
    pure ((source.take edit.startByte).drop cursor ++ edit.replacementUtf8 ++ rest)

/-- `PatchPayload.apply` -/
def PatchPayload.apply (patch : PatchPayload) (source : Bytes) :
    Except ContributionValidationError Bytes := do
  let _ ← utf8 source
  require (Sha256.hexdigest source = patch.expectedContentHash) "CONTENT_HASH_MISMATCH"
  let result ← applyEdits source 0 patch.edits
  let _ ← utf8 result
  pure result

/-! ## The scanner -/

/-- Where the scanner stands: in code, in a string literal, in a line comment, or in a block
comment inside `depth` others. -/
inductive ScanMode
  | code
  | string
  | line
  | block (depth : ℕ)
  deriving DecidableEq

/-- `_strip_comments_and_strings`.  A line comment ends before its newline. -/
def stripFrom : ScanMode → List Char → List Char
  | _, [] => []
  | .block depth, '/' :: '-' :: cs => stripFrom (.block (depth + 1)) cs
  | .block 0, '-' :: '/' :: cs => stripFrom .code cs
  | .block (depth + 1), '-' :: '/' :: cs => stripFrom (.block depth) cs
  | .block depth, _ :: cs => stripFrom (.block depth) cs
  | .string, '\\' :: _ :: cs => stripFrom .string cs
  | .string, '"' :: cs => stripFrom .code cs
  | .string, _ :: cs => stripFrom .string cs
  | .line, '\n' :: cs => '\n' :: stripFrom .code cs
  | .line, _ :: cs => stripFrom .line cs
  | .code, '-' :: '-' :: cs => stripFrom .line cs
  | .code, '/' :: '-' :: cs => stripFrom (.block 0) cs
  | .code, '"' :: cs => stripFrom .string cs
  | .code, c :: cs => c :: stripFrom .code cs

/-- The code of a text. -/
def stripCommentsAndStrings (source : String) : List Char := stripFrom .code source.toList

/-! ## Candidates -/

/-- `_FORBIDDEN` -/
def forbidden : List String := ["sorry", "admit", "axiom", "unsafe", "lean_run_code"]

/-- `_EXTRA_DECLARATIONS` -/
def extraDeclarations : List String :=
  ["def", "abbrev", "opaque", "inductive", "structure", "class", "instance", "macro", "syntax",
   "elab"]

/-- `_COMMANDS` -/
def commands : List String :=
  ["#check", "#eval", "#print", "attribute", "example", "export", "initialize", "local", "open",
   "run_tac", "set_option", "variable"]

section

variable [CharacterDatabase]

/-- The text begins with a word that ends there. -/
def beginsWith (word : List Char) (cs : List Char) : Bool :=
  word.isPrefixOf cs && !(cs.drop word.length).head?.any isWordChar

/-- `[A-Za-z0-9_.]` -/
def isModuleChar (c : Char) : Bool := isIdentifierRest c || c == '.'

omit [CharacterDatabase] in
/-- `^\s*import\s+([A-Za-z0-9_.]+)` at a line start: the module, and the length of the match. -/
def importAt (cs : List Char) : Option (String × ℕ) :=
  let afterSpace := cs.dropWhile isSpace
  if "import".toList.isPrefixOf afterSpace then
    let afterWord := afterSpace.drop 6
    let atModule := afterWord.dropWhile isSpace
    let module := atModule.takeWhile isModuleChar
    if afterWord.head?.any isSpace && !module.isEmpty then
      some (String.ofList module, cs.length - atModule.length + module.length)
    else none
  else none

/-- `re.findall(r"(?m)^\s*import\s+([A-Za-z0-9_.]+)", code)`, where `skip` characters still belong to
the last match. -/
def importsOf : (skip : ℕ) → (atStart : Bool) → List Char → List String
  | _, _, [] => []
  | skip + 1, _, c :: cs => importsOf skip (c == '\n') cs
  | 0, atStart, c :: cs =>
    match if atStart then importAt (c :: cs) else none with
    | some (module, length) => module :: importsOf (length - 1) (c == '\n') cs
    | none => importsOf 0 (c == '\n') cs

/-- `rf"\b{declaration}(?=\s*:=)"` here, after a character. -/
def declaredAt (before : Option Char) (declaration cs : List Char) : Bool :=
  declaration.isPrefixOf cs && !before.any isWordChar &&
    ":=".toList.isPrefixOf ((cs.drop declaration.length).dropWhile isSpace)

/-- `re.search(rf"\b{declaration}(?=\s*:=)", ...)` on the text that follows a character. -/
def searchDeclaration (declaration : List Char) : Option Char → List Char → Bool
  | _, [] => false
  | before, c :: cs =>
    declaredAt before declaration (c :: cs) || searchDeclaration declaration (some c) cs

/-- The header that a candidate announces, up to its `:=`. -/
def candidateHeader (candidateName completeType : String) : String :=
  let separator :=
    if completeType.toList.head?.any fun c => c == '(' || c == '{' || c == '[' then "" else ": "
  s!"theorem {candidateName} {separator}{completeType}"

/-- `validate_candidate_source` -/
def validateCandidateSource (source : Bytes) (candidateName completeType : String)
    (allowedImports : List String) : Except ContributionValidationError Unit := do
  let text ← utf8 source
  require (candidateName ≠ "" ∧ completeType ≠ "") "INVALID_CANDIDATE"
  let code := stripCommentsAndStrings text
  require (∀ token ∈ forbidden, searchWord token.toList none code = false) "FORBIDDEN_LEAN_TOKEN"
  require (countWord "theorem".toList none code = 1 ∧
    ∀ token ∈ extraDeclarations, searchWord token.toList none code = false)
    "EXTRA_TOP_LEVEL_DECLARATION"
  require (∀ command ∈ commands, searchLine (beginsWith command.toList) true code = false)
    "FORBIDDEN_LEAN_COMMAND"
  require (∀ module ∈ importsOf 0 true code, module ∈ allowedImports) "IMPORT_NOT_ALLOWED"
  let header := (candidateHeader candidateName completeType).toList
  require (searchDeclaration header none (collapseSpaces false code) = true)
    "CANDIDATE_NOT_IN_SOURCE"

end

section

attribute [local instance] asciiDatabase

example : validateCandidateSource (encode "import Std\ntheorem t : True := by -- sorry\n  trivial\n")
    "t" "True" ["Std"] = .ok () := by
  decide

example : validateCandidateSource (encode "theorem t : True := by sorry") "t" "True" ["Std"] =
    .error "FORBIDDEN_LEAN_TOKEN" := by
  decide

end

end Aizim.Knowledge
