import Mathlib.Data.List.Basic
import Mathlib.Tactic.Lemma

/-!
# Replacing in a text

`replaceAll` replaces a text wherever it occurs in another one, from the left and without overlaps.
A text that `misses` it goes through as it stands whatever follows it, and so does one without its
first character (`misses_of_head`); for a text of one character, `replaceAll_singleton` says that
each character is replaced on its own.
-/

namespace Aizim

variable {α : Type} [DecidableEq α]

/-- Replace from here on, after this many characters. -/
def replaceFrom (old new : List α) : ℕ → List α → List α
  | _, [] => []
  | k + 1, _ :: cs => replaceFrom old new k cs
  | 0, c :: cs =>
    if old.isPrefixOf (c :: cs) then new ++ replaceFrom old new (old.length - 1) cs
    else c :: replaceFrom old new 0 cs

/-- `text.replace(old, new)`, for a text `old` that is not empty. -/
def replaceAll (old new text : List α) : List α := replaceFrom old new 0 text

/-- Wherever a text begins in this one, it ends neither in it nor after it. -/
def misses (old : List α) : List α → Bool
  | [] => true
  | c :: cs => !old.isPrefixOf (c :: cs) && !(c :: cs).isPrefixOf old && misses old cs

variable {old new : List α}

lemma replaceFrom_append (cs ds : List α) :
    replaceFrom old new cs.length (cs ++ ds) = replaceAll old new ds := by
  induction cs with
  | nil => rfl
  | cons c cs ih => exact ih

/-- An occurrence is replaced. -/
lemma replaceAll_append_self (hold : old ≠ []) (ds : List α) :
    replaceAll old new (old ++ ds) = new ++ replaceAll old new ds := by
  cases old with
  | nil => exact absurd rfl hold
  | cons c cs =>
    have hprefix : (c :: cs).isPrefixOf (c :: (cs ++ ds)) = true :=
      List.isPrefixOf_iff_prefix.2 (List.prefix_append (c :: cs) ds)
    rw [List.cons_append, replaceAll, replaceFrom, if_pos hprefix, List.length_cons,
      Nat.add_sub_cancel, replaceFrom_append]

/-- A text that misses what is replaced stays. -/
lemma replaceAll_append_of_misses {cs : List α} (h : misses old cs = true) (ds : List α) :
    replaceAll old new (cs ++ ds) = cs ++ replaceAll old new ds := by
  induction cs with
  | nil => rfl
  | cons c cs ih =>
    simp only [misses, Bool.and_eq_true, Bool.not_eq_true'] at h
    obtain ⟨⟨hold, hnew⟩, hrest⟩ := h
    have hprefix : ¬ old.isPrefixOf (c :: (cs ++ ds)) = true := by
      intro hprefix
      rw [List.isPrefixOf_iff_prefix] at hprefix
      have htext : c :: cs <+: c :: (cs ++ ds) := List.prefix_append (c :: cs) ds
      rcases List.prefix_or_prefix_of_prefix hprefix htext with h | h
      · rw [List.isPrefixOf_iff_prefix.2 h] at hold
        exact absurd hold (by decide)
      · rw [List.isPrefixOf_iff_prefix.2 h] at hnew
        exact absurd hnew (by decide)
    have hstep : replaceAll old new (c :: (cs ++ ds)) = c :: replaceAll old new (cs ++ ds) :=
      if_neg hprefix
    rw [List.cons_append, hstep, ih hrest, List.cons_append]

lemma replaceAll_of_misses {cs : List α} (h : misses old cs = true) :
    replaceAll old new cs = cs := by
  have happend : replaceAll old new (cs ++ []) = cs ++ replaceAll old new [] :=
    replaceAll_append_of_misses h []
  rwa [List.append_nil, show replaceAll old new [] = [] from rfl, List.append_nil] at happend

/-- A text without the first character of what is replaced misses it. -/
lemma misses_of_head {c : α} {cs ds : List α} (h : c ∉ ds) : misses (c :: cs) ds = true := by
  induction ds with
  | nil => rfl
  | cons d ds ih =>
    rw [List.mem_cons, not_or] at h
    have hne : (c == d) = false := beq_false_of_ne h.1
    have hne' : (d == c) = false := beq_false_of_ne (Ne.symm h.1)
    simp only [misses, List.isPrefixOf, hne, hne', Bool.false_and, Bool.not_false, ih h.2,
      Bool.and_self]

/-- Up to a character that what is replaced does not have, what matters is whether it occurs. -/
lemma misses_append_cons {d : α} {cs : List α} (hd : d ∉ old) (h : ¬ old <:+: cs) (ds : List α) :
    misses old (cs ++ d :: ds) = misses old ds := by
  have hend : ∀ {es : List α}, d ∈ es → es.isPrefixOf old = false := by
    intro es hes
    rw [Bool.eq_false_iff, Ne, List.isPrefixOf_iff_prefix]
    exact fun hbegins => hd (hbegins.subset hes)
  induction cs with
  | nil =>
    have hstart : old.isPrefixOf (d :: ds) = false := by
      rw [Bool.eq_false_iff, Ne, List.isPrefixOf_iff_prefix]
      intro hbegins
      cases old with
      | nil => exact h (List.infix_refl _)
      | cons c cs => exact hd ((List.cons_prefix_cons.1 hbegins).1 ▸ List.mem_cons_self)
    rw [List.nil_append, misses, hstart, hend List.mem_cons_self]
    rfl
  | cons c cs ih =>
    have hstart : old.isPrefixOf (c :: (cs ++ d :: ds)) = false := by
      rw [Bool.eq_false_iff, Ne, List.isPrefixOf_iff_prefix]
      intro hbegins
      have hline : c :: cs <+: c :: (cs ++ d :: ds) := List.prefix_append (c :: cs) _
      rcases List.prefix_or_prefix_of_prefix hbegins hline with hold | hold
      · exact h hold.isInfix
      · obtain ⟨es, rfl⟩ := hold
        cases es with
        | nil => exact h (by simp)
        | cons e es =>
          have hrest : e :: es <+: d :: ds := by simpa using hbegins
          exact hd (by simp [(List.cons_prefix_cons.1 hrest).1])
    have hrest : ¬ old <:+: cs := fun hcs => h (hcs.trans (List.suffix_cons c cs).isInfix)
    rw [List.cons_append, misses, hstart, hend (by simp), ih hrest]
    rfl

/-- Replacing a character replaces each of its occurrences. -/
lemma replaceAll_singleton (c : α) (new cs : List α) :
    replaceAll [c] new cs = cs.flatMap fun d => if d = c then new else [d] := by
  induction cs with
  | nil => rfl
  | cons d cs ih =>
    rw [List.flatMap_cons, ← ih]
    by_cases h : d = c
    · subst h
      rw [if_pos rfl]
      exact replaceAll_append_self (List.cons_ne_nil d []) cs
    · have hmisses : misses [c] [d] = true := misses_of_head (by simpa using Ne.symm h)
      rw [if_neg h]
      exact replaceAll_append_of_misses hmisses cs

end Aizim
