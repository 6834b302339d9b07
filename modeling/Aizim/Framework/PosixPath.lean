import Mathlib.Data.List.Basic
import Mathlib.Tactic.Lemma

/-!
# Pure POSIX paths

The paths of `PurePosixPath`: a root and components that are neither empty nor a single dot.  A
text is read by `ofText`, which drops the components that say nothing, and written by `asPosix`.
`ofText_asPosix` says that a path is read back from its own text, so the text of a path is a name
for it (`asPosix_injective`) and reading a text that a path wrote changes nothing.
-/

namespace Aizim

/-- The root of a path.  Two leading slashes, and only two, are kept apart. -/
inductive PathRoot
  | relative
  | absolute
  | doubled
  deriving DecidableEq

/-- The slashes of a root. -/
def PathRoot.chars : PathRoot → List Char
  | relative => []
  | absolute => ['/']
  | doubled => ['/', '/']

/-- A component that says something. -/
def isPathPart (part : List Char) : Bool :=
  !part.isEmpty && part != ['.'] && !part.contains '/'

/-- `PurePosixPath` -/
structure PosixPath where
  root : PathRoot
  parts : List (List Char)
  parts_valid : ∀ part ∈ parts, isPathPart part = true
  deriving DecidableEq

namespace PosixPath

/-- `posixpath.splitroot` -/
def splitRoot : List Char → PathRoot × List Char
  | '/' :: '/' :: '/' :: cs => (.absolute, '/' :: '/' :: cs)
  | '/' :: '/' :: cs => (.doubled, cs)
  | '/' :: cs => (.absolute, cs)
  | cs => (.relative, cs)

/-- `PurePosixPath(text)` -/
def ofText (text : String) : PosixPath where
  root := (splitRoot text.toList).1
  parts := ((splitRoot text.toList).2.splitOn '/').filter isPathPart
  parts_valid _ h := (List.mem_filter.1 h).2

/-- The characters of `as_posix()`. -/
def posixChars (p : PosixPath) : List Char :=
  if p.root = .relative ∧ p.parts = [] then ['.']
  else p.root.chars ++ ['/'].intercalate p.parts

/-- `as_posix()` -/
def asPosix (p : PosixPath) : String := String.ofList p.posixChars

lemma slash_notMem_of_isPathPart {part : List Char} (h : isPathPart part = true) :
    '/' ∉ part := by
  simp only [isPathPart, Bool.and_eq_true, Bool.not_eq_true', List.contains_eq_mem,
    decide_eq_false_iff_not] at h
  exact h.2

/-- The components of a joined path are its parts. -/
lemma splitOn_intercalate_filter {parts : List (List Char)}
    (h : ∀ part ∈ parts, isPathPart part = true) :
    ((['/'].intercalate parts).splitOn '/').filter isPathPart = parts := by
  by_cases hparts : parts = []
  · subst hparts
    decide
  · rw [List.splitOn_intercalate '/' (fun part hpart => slash_notMem_of_isPathPart (h part hpart))
      hparts]
    exact List.filter_eq_self.2 h

/-- A joined path does not start with a slash. -/
lemma intercalate_ne_slash {parts : List (List Char)}
    (h : ∀ part ∈ parts, isPathPart part = true) (cs : List Char) :
    ['/'].intercalate parts ≠ '/' :: cs := by
  rcases parts with _ | ⟨part, parts⟩
  · simp [List.intercalate]
  · have hpart := h part List.mem_cons_self
    have hslash := slash_notMem_of_isPathPart hpart
    rcases part with _ | ⟨c, part⟩
    · simp [isPathPart] at hpart
    · have hc : c ≠ '/' := by
        rintro rfl
        simp at hslash
      rcases parts with _ | ⟨next, parts⟩ <;> simp [List.intercalate, List.intersperse, hc]

lemma splitRoot_relative {cs : List Char} (h : ∀ ds, cs ≠ '/' :: ds) :
    splitRoot cs = (.relative, cs) := by
  unfold splitRoot
  split <;> first | rfl | exact absurd rfl (h _)

lemma splitRoot_absolute {cs : List Char} (h : ∀ ds, cs ≠ '/' :: ds) :
    splitRoot ('/' :: cs) = (.absolute, cs) := by
  rcases cs with _ | ⟨c, cs⟩
  · rfl
  · have hc : c ≠ '/' := fun hc => h cs (by rw [hc])
    simp [splitRoot, hc]

lemma splitRoot_doubled {cs : List Char} (h : ∀ ds, cs ≠ '/' :: ds) :
    splitRoot ('/' :: '/' :: cs) = (.doubled, cs) := by
  rcases cs with _ | ⟨c, cs⟩
  · rfl
  · have hc : c ≠ '/' := fun hc => h cs (by rw [hc])
    simp [splitRoot]

/-- A path is read back from its text. -/
@[simp] theorem ofText_asPosix (p : PosixPath) : ofText p.asPosix = p := by
  obtain ⟨root, parts, hparts⟩ := p
  have hslash := intercalate_ne_slash hparts
  have hjoin := splitOn_intercalate_filter hparts
  by_cases hdot : root = .relative ∧ parts = []
  · obtain ⟨rfl, rfl⟩ := hdot
    simp only [ofText, asPosix, posixChars, String.toList_ofList]
    rfl
  · simp only [ofText, asPosix, posixChars, String.toList_ofList, if_neg hdot]
    cases root with
    | relative =>
      simp only [PathRoot.chars, List.nil_append, splitRoot_relative hslash, hjoin]
    | absolute =>
      simp only [PathRoot.chars, List.cons_append, List.nil_append, splitRoot_absolute hslash,
        hjoin]
    | doubled =>
      simp only [PathRoot.chars, List.cons_append, List.nil_append, splitRoot_doubled hslash,
        hjoin]

lemma asPosix_injective {p q : PosixPath} (h : p.asPosix = q.asPosix) : p = q := by
  rw [← ofText_asPosix p, h, ofText_asPosix]

lemma asPosix_ne (p : PosixPath) : p.asPosix ≠ "" := by
  intro h
  have hempty := congrArg ofText h
  rw [ofText_asPosix] at hempty
  subst hempty
  exact absurd h (by decide)

end PosixPath

end Aizim
