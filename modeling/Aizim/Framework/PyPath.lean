import Mathlib.Data.List.Infix
import Aizim.Framework.PosixPath
import Aizim.Framework.PythonJson

/-!
# Paths with any names

`PosixPath` has the paths whose names are scalar values.  A path of the file system may hold
anything that a string holds, so here a name is a `PyText`.  A path is read from its text
(`ofText_text`), two paths with one text are one (`text_injective`), and a path contains those that
its components begin.
-/

namespace Aizim

/-- A component that says something. -/
def isPathName (name : PyText) : Bool :=
  !name.isEmpty && name != pyString "." && !name.contains (.char '/')

/-- `PurePosixPath` -/
structure PyPath where
  root : PathRoot
  parts : List PyText
  parts_valid : ∀ part ∈ parts, isPathName part = true
  deriving DecidableEq

namespace PyPath

/-- `posixpath.splitroot` -/
def splitRoot : PyText → PathRoot × PyText
  | .char '/' :: .char '/' :: .char '/' :: cs => (.absolute, .char '/' :: .char '/' :: cs)
  | .char '/' :: .char '/' :: cs => (.doubled, cs)
  | .char '/' :: cs => (.absolute, cs)
  | cs => (.relative, cs)

/-- `Path(text)` -/
def ofText (text : PyText) : PyPath where
  root := (splitRoot text).1
  parts := ((splitRoot text).2.splitOn (.char '/')).filter isPathName
  parts_valid _ h := (List.mem_filter.1 h).2

/-- The components with a slash between each two. -/
def joined (parts : List PyText) : PyText := [PyChar.char '/'].intercalate parts

/-- `str(path)` -/
def text (p : PyPath) : PyText :=
  if p.root = .relative ∧ p.parts = [] then pyString "."
  else pyText p.root.chars ++ joined p.parts

/-- `is_absolute()` -/
def isAbsolute (p : PyPath) : Bool := p.root != .relative

/-- `path / name` -/
def child (p : PyPath) (name : PyText) (h : isPathName name = true) : PyPath where
  root := p.root
  parts := p.parts ++ [name]
  parts_valid := by
    intro part hpart
    rcases List.mem_append.1 hpart with hpart | hpart
    · exact p.parts_valid part hpart
    · rwa [List.mem_singleton.1 hpart]

/-- `path.parent` -/
def parent (p : PyPath) : PyPath where
  root := p.root
  parts := p.parts.dropLast
  parts_valid part h := p.parts_valid part (List.mem_of_mem_dropLast h)

/-- `path.name` -/
def name (p : PyPath) : PyText := p.parts.getLastD []

/-- `other.is_relative_to(path)` -/
def contains (p other : PyPath) : Bool := p.root == other.root && p.parts.isPrefixOf other.parts

/-- `path in other.parents` -/
def isParentOf (p other : PyPath) : Bool :=
  p.contains other && p.parts.length < other.parts.length

lemma slash_notMem_of_isPathName {name : PyText} (h : isPathName name = true) :
    .char '/' ∉ name := by
  simp only [isPathName, Bool.and_eq_true, Bool.not_eq_true', List.contains_eq_mem,
    decide_eq_false_iff_not] at h
  exact h.2

/-- The components of a joined path are its parts. -/
lemma splitOn_joined_filter {parts : List PyText} (h : ∀ part ∈ parts, isPathName part = true) :
    ((joined parts).splitOn (.char '/')).filter isPathName = parts := by
  by_cases hparts : parts = []
  · subst hparts
    decide
  · rw [joined, List.splitOn_intercalate (.char '/')
      (fun part hpart => slash_notMem_of_isPathName (h part hpart)) hparts]
    exact List.filter_eq_self.2 h

/-- A joined path does not start with a slash. -/
lemma joined_ne_slash {parts : List PyText} (h : ∀ part ∈ parts, isPathName part = true)
    (cs : PyText) : joined parts ≠ .char '/' :: cs := by
  rcases parts with _ | ⟨part, parts⟩
  · simp [joined, List.intercalate]
  · have hpart := h part List.mem_cons_self
    have hslash := slash_notMem_of_isPathName hpart
    rcases part with _ | ⟨c, part⟩
    · simp [isPathName] at hpart
    · have hc : c ≠ .char '/' := by
        rintro rfl
        simp at hslash
      rcases parts with _ | ⟨next, parts⟩ <;>
        simp [joined, List.intercalate, List.intersperse, hc]

lemma splitRoot_append (root : PathRoot) {cs : PyText} (h : ∀ ds, cs ≠ .char '/' :: ds) :
    splitRoot (pyText root.chars ++ cs) = (root, cs) := by
  cases root with
  | relative =>
    show splitRoot cs = (.relative, cs)
    unfold splitRoot
    split <;> first | rfl | exact absurd rfl (h _)
  | absolute =>
    show splitRoot (.char '/' :: cs) = (.absolute, cs)
    rcases cs with _ | ⟨c, cs⟩
    · rfl
    · have hc : c ≠ .char '/' := fun hc => h cs (by rw [hc])
      simp [splitRoot, hc]
  | doubled =>
    show splitRoot (.char '/' :: .char '/' :: cs) = (.doubled, cs)
    rcases cs with _ | ⟨c, cs⟩
    · rfl
    · simp [splitRoot]

/-- A path is read back from its text. -/
@[simp] theorem ofText_text (p : PyPath) : ofText p.text = p := by
  obtain ⟨root, parts, hparts⟩ := p
  have hsplit := splitRoot_append root (joined_ne_slash hparts)
  have hjoin := splitOn_joined_filter hparts
  by_cases hdot : root = .relative ∧ parts = []
  · obtain ⟨rfl, rfl⟩ := hdot
    rfl
  · simp only [ofText, text, if_neg hdot, hsplit, hjoin]

lemma text_injective {p q : PyPath} (h : p.text = q.text) : p = q := by
  rw [← ofText_text p, h, ofText_text]

lemma text_of_isAbsolute {p : PyPath} (h : p.isAbsolute = true) :
    p.text = pyText p.root.chars ++ joined p.parts := by
  have hroot : ¬ (p.root = .relative ∧ p.parts = []) := by
    rintro ⟨hroot, -⟩
    simp [isAbsolute, hroot] at h
  rw [text, if_neg hroot]

/-- The text of an absolute path starts with a slash. -/
lemma head_text_of_isAbsolute {p : PyPath} (h : p.isAbsolute = true) :
    p.text.head? = some (.char '/') := by
  rw [text_of_isAbsolute h]
  cases hroot : p.root with
  | relative => simp [isAbsolute, hroot] at h
  | absolute => rfl
  | doubled => rfl

lemma joined_append {parts : List PyText} (hparts : parts ≠ []) (name : PyText) :
    joined (parts ++ [name]) = joined parts ++ .char '/' :: name := by
  induction parts with
  | nil => exact absurd rfl hparts
  | cons part parts ih =>
    cases parts with
    | nil => simp [joined, List.intercalate_cons_cons]
    | cons next parts =>
      have hrest := ih (List.cons_ne_nil next parts)
      simp only [joined, List.cons_append, List.intercalate_cons_cons] at hrest ⊢
      rw [hrest, List.append_assoc, List.append_assoc, List.append_assoc]

/-- A character of a joined path is a slash or stands in a component. -/
lemma mem_joined {c : PyChar} (hc : c ≠ .char '/') {parts : List PyText} :
    c ∈ joined parts ↔ ∃ part ∈ parts, c ∈ part := by
  induction parts with
  | nil => simp [joined, List.intercalate]
  | cons part parts ih =>
    cases parts with
    | nil => simp [joined]
    | cons next parts =>
      rw [joined, List.intercalate_cons_cons, List.mem_append, List.mem_append, ← joined, ih]
      simp [hc]

/-- The text of an entry of a directory. -/
lemma text_child {p : PyPath} (habs : p.isAbsolute = true) (hparts : p.parts ≠ []) (name : PyText)
    (h : isPathName name = true) :
    (p.child name h).text = p.text ++ .char '/' :: name := by
  have hchild : (p.child name h).isAbsolute = true := habs
  rw [text_of_isAbsolute hchild, text_of_isAbsolute habs, List.append_assoc,
    ← joined_append hparts]
  rfl

/-! ## What a path contains -/

lemma contains_iff {p q : PyPath} :
    p.contains q = true ↔ p.root = q.root ∧ p.parts <+: q.parts := by
  simp [contains]

lemma contains_self (p : PyPath) : p.contains p = true :=
  contains_iff.2 ⟨rfl, List.prefix_rfl⟩

lemma contains_child (p : PyPath) (name : PyText) (h : isPathName name = true) :
    p.contains (p.child name h) = true :=
  contains_iff.2 ⟨rfl, List.prefix_append p.parts [name]⟩

lemma contains_trans {p q r : PyPath} (hpq : p.contains q = true) (hqr : q.contains r = true) :
    p.contains r = true := by
  obtain ⟨hroot, hparts⟩ := contains_iff.1 hpq
  obtain ⟨hroot', hparts'⟩ := contains_iff.1 hqr
  exact contains_iff.2 ⟨hroot.trans hroot', hparts.trans hparts'⟩

/-- What a path contains is the path or below it. -/
lemma eq_or_isParentOf_of_contains {p q : PyPath} (h : p.contains q = true) :
    p = q ∨ p.isParentOf q = true := by
  obtain ⟨hroot, hparts⟩ := contains_iff.1 h
  rcases Nat.lt_or_ge p.parts.length q.parts.length with hlt | hge
  · right
    simp [isParentOf, h, hlt]
  · left
    have heq := hparts.eq_of_length_le hge
    cases p
    cases q
    simp_all

end PyPath

end Aizim
