import Mathlib.Data.List.Basic
import Mathlib.Tactic.Lemma

/-!
# Splicing lists

A `Splice` replaces a range of a list.  `Splices` says what several splices at once come to: the list
falls into parts that are kept and parts that are removed, which lie where the splices say in the
original list, and the result has the replacements in place of the removed parts.

`spliceFrom` computes the result in one pass.  It is the only one there can be (`Splices.unique`),
and there is one exactly when the ranges follow each other within the list
(`splices_spliceFrom`, `Splices.inOrder`).
-/

namespace Aizim

universe u

variable {α : Type u}

/-- The replacement of a range, given by its first position and the one after its last. -/
structure Splice (α : Type u) where
  start : ℕ
  stop : ℕ
  replacement : List α
  ordered : start ≤ stop

/-- From an offset on, the first list becomes the second by the splices. -/
inductive Splices : (offset : ℕ) → List (Splice α) → List α → List α → Prop
  | nil {offset : ℕ} {xs : List α} : Splices offset [] xs xs
  | cons {offset : ℕ} {s : Splice α} {splices : List (Splice α)} {kept removed xs ys : List α}
      (hkept : offset + kept.length = s.start) (hremoved : s.start + removed.length = s.stop)
      (h : Splices s.stop splices xs ys) :
      Splices offset (s :: splices) (kept ++ removed ++ xs) (kept ++ s.replacement ++ ys)

/-- The ranges follow each other, from an offset on and within a length. -/
def InOrder (length : ℕ) : (offset : ℕ) → List (Splice α) → Prop
  | _, [] => True
  | offset, s :: splices => offset ≤ s.start ∧ s.stop ≤ length ∧ InOrder length s.stop splices

/-- The result, in one pass from an offset on. -/
def spliceFrom (xs : List α) : (offset : ℕ) → List (Splice α) → List α
  | offset, [] => xs.drop offset
  | offset, s :: splices =>
    (xs.take s.start).drop offset ++ s.replacement ++ spliceFrom xs s.stop splices

/-- The pass computes a result. -/
theorem splices_spliceFrom {xs : List α} {offset : ℕ} {splices : List (Splice α)}
    (h : InOrder xs.length offset splices) :
    Splices offset splices (xs.drop offset) (spliceFrom xs offset splices) := by
  induction splices generalizing offset with
  | nil => exact .nil
  | cons s splices ih =>
    obtain ⟨hstart, hstop, hrest⟩ := h
    have hordered := s.ordered
    have hsplit : xs.drop offset =
        (xs.take s.start).drop offset ++ (xs.take s.stop).drop s.start ++ xs.drop s.stop := by
      rw [List.drop_take, List.drop_take, List.append_assoc]
      have hsecond : (xs.drop s.start).take (s.stop - s.start) ++ xs.drop s.stop =
          xs.drop s.start := by
        have hdrop : xs.drop s.stop = (xs.drop s.start).drop (s.stop - s.start) := by
          rw [List.drop_drop, Nat.add_sub_cancel' hordered]
        rw [hdrop, List.take_append_drop]
      have hdrop : xs.drop s.start = (xs.drop offset).drop (s.start - offset) := by
        rw [List.drop_drop, Nat.add_sub_cancel' hstart]
      rw [hsecond, hdrop, List.take_append_drop]
    rw [hsplit]
    refine .cons ?_ ?_ (ih hrest)
    · rw [List.length_drop, List.length_take]
      omega
    · rw [List.length_drop, List.length_take]
      omega

/-- Splices with a result follow each other within the list. -/
lemma Splices.inOrder {offset : ℕ} {splices : List (Splice α)} {xs ys : List α}
    (h : Splices offset splices xs ys) : InOrder (offset + xs.length) offset splices := by
  induction h with
  | nil => trivial
  | @cons offset s splices kept removed xs ys hkept hremoved _ ih =>
    have hlength : offset + (kept ++ removed ++ xs).length = s.stop + xs.length := by
      rw [List.length_append, List.length_append]
      omega
    rw [hlength]
    exact ⟨by omega, by omega, ih⟩

/-- There is one result at most. -/
theorem Splices.unique {offset : ℕ} {splices : List (Splice α)} {xs ys zs : List α}
    (h : Splices offset splices xs ys) (h' : Splices offset splices xs zs) : ys = zs := by
  induction h generalizing zs with
  | nil =>
    cases h'
    rfl
  | @cons offset s splices kept removed xs ys hkept hremoved _ ih =>
    generalize hsame : kept ++ removed ++ xs = whole at h'
    cases h' with
    | @cons _ _ _ kept' removed' xs' ys' hkept' hremoved' hrest =>
      rw [List.append_assoc, List.append_assoc] at hsame
      obtain ⟨rfl, htail⟩ := List.append_inj hsame (by omega)
      obtain ⟨-, rfl⟩ := List.append_inj htail (by omega)
      rw [ih hrest]

end Aizim
