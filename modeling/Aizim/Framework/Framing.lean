import Aizim.Framework.Sha256
import Aizim.Framework.Utf8

/-!
# Framed byte strings

A row of byte strings is written as one, each after its length in a fixed number of bytes, most
significant first.  Where the lengths fit, the byte string determines the row (`framed_injective`).

A row may also be written with a byte after each part.  Where no part holds that byte, the byte
string determines the row (`terminated_injective`).
-/

namespace Aizim

open Sha256 (bigEndian length_bigEndian)

/-- Numbers that fit are determined by their bytes. -/
lemma bigEndian_injective {width n m : ℕ} (hn : n < 256 ^ width) (hm : m < 256 ^ width)
    (h : bigEndian width n = bigEndian width m) : n = m := by
  induction width generalizing n m with
  | zero =>
    rw [pow_zero] at hn hm
    omega
  | succ width ih =>
    have hn' : n / 256 < 256 ^ width := by
      rw [Nat.div_lt_iff_lt_mul (by omega), ← pow_succ]
      exact hn
    have hm' : m / 256 < 256 ^ width := by
      rw [Nat.div_lt_iff_lt_mul (by omega), ← pow_succ]
      exact hm
    rw [bigEndian, bigEndian] at h
    obtain ⟨hhigh, hlow⟩ := List.append_inj' h rfl
    have hdiv := ih hn' hm' hhigh
    have hmod : n % 256 = m % 256 := List.singleton_inj.1 hlow
    omega

/-- The parts, each after its length. -/
def framed (width : ℕ) (parts : List Bytes) : Bytes :=
  parts.flatMap fun part => bigEndian width part.length ++ part

lemma framed_cons (width : ℕ) (part : Bytes) (parts : List Bytes) :
    framed width (part :: parts) = bigEndian width part.length ++ (part ++ framed width parts) := by
  rw [framed, List.flatMap_cons, List.append_assoc]
  rfl

/-- Something is written for each part. -/
lemma framed_cons_ne_nil {width : ℕ} (hwidth : 0 < width) (part : Bytes) (parts : List Bytes) :
    framed width (part :: parts) ≠ [] := by
  intro h
  have hlength := congrArg List.length h
  rw [framed_cons, List.length_append, length_bigEndian, List.length_nil] at hlength
  omega

/-- **Frames determine their parts**, by induction on the frames that are read off. -/
theorem framed_injective {width : ℕ} (hwidth : 0 < width) {ps qs : List Bytes}
    (hp : ∀ p ∈ ps, p.length < 256 ^ width) (hq : ∀ q ∈ qs, q.length < 256 ^ width)
    (h : framed width ps = framed width qs) : ps = qs := by
  induction ps generalizing qs with
  | nil =>
    cases qs with
    | nil => rfl
    | cons q qs => exact absurd h.symm (framed_cons_ne_nil hwidth q qs)
  | cons p ps ih =>
    cases qs with
    | nil => exact absurd h (framed_cons_ne_nil hwidth p ps)
    | cons q qs =>
      rw [framed_cons, framed_cons] at h
      obtain ⟨hheader, hrest⟩ := List.append_inj h (by rw [length_bigEndian, length_bigEndian])
      have hlength : p.length = q.length :=
        bigEndian_injective (hp p List.mem_cons_self) (hq q List.mem_cons_self) hheader
      obtain ⟨hpart, htail⟩ := List.append_inj hrest hlength
      rw [hpart, ih (fun x hx => hp x (List.mem_cons_of_mem _ hx))
        (fun x hx => hq x (List.mem_cons_of_mem _ hx)) htail]

/-- The parts, each before the byte that ends it. -/
def terminated (stop : ℕ) (parts : List Bytes) : Bytes := parts.flatMap fun part => part ++ [stop]

lemma terminated_cons (stop : ℕ) (part : Bytes) (parts : List Bytes) :
    terminated stop (part :: parts) = part ++ stop :: terminated stop parts := by
  rw [terminated, List.flatMap_cons, List.append_assoc, List.singleton_append]
  rfl

/-- A part that does not hold the byte is what stands before its first occurrence. -/
lemma append_stop_inj {stop : ℕ} {p q x y : Bytes} (hp : stop ∉ p) (hq : stop ∉ q)
    (h : p ++ stop :: x = q ++ stop :: y) : p = q ∧ x = y := by
  induction p generalizing q with
  | nil =>
    cases q with
    | nil => exact ⟨rfl, (List.cons.inj h).2⟩
    | cons b q => exact absurd ((List.cons.inj h).1 ▸ List.mem_cons_self) hq
  | cons a p ih =>
    cases q with
    | nil => exact absurd ((List.cons.inj h).1 ▸ List.mem_cons_self) hp
    | cons b q =>
      obtain ⟨rfl, htail⟩ := List.cons.inj h
      obtain ⟨rfl, hrest⟩ := ih (fun hm => hp (List.mem_cons_of_mem _ hm))
        (fun hm => hq (List.mem_cons_of_mem _ hm)) htail
      exact ⟨rfl, hrest⟩

/-- **Ended parts are determined**, by induction on the parts that are read off. -/
theorem terminated_injective {stop : ℕ} {ps qs : List Bytes} (hp : ∀ p ∈ ps, stop ∉ p)
    (hq : ∀ q ∈ qs, stop ∉ q) (h : terminated stop ps = terminated stop qs) : ps = qs := by
  induction ps generalizing qs with
  | nil =>
    cases qs with
    | nil => rfl
    | cons q qs =>
      rw [terminated_cons] at h
      exact absurd h.symm (List.append_ne_nil_of_right_ne_nil _ (List.cons_ne_nil _ _))
  | cons p ps ih =>
    cases qs with
    | nil =>
      rw [terminated_cons] at h
      exact absurd h (List.append_ne_nil_of_right_ne_nil _ (List.cons_ne_nil _ _))
    | cons q qs =>
      rw [terminated_cons, terminated_cons] at h
      obtain ⟨hpart, hrest⟩ := append_stop_inj (hp p List.mem_cons_self) (hq q List.mem_cons_self) h
      rw [hpart, ih (fun x hx => hp x (List.mem_cons_of_mem _ hx))
        (fun x hx => hq x (List.mem_cons_of_mem _ hx)) hrest]

end Aizim
