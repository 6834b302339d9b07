import Mathlib.Data.String.Basic
import Aizim.Framework.Datetime

/-!
# The order of texts and the order of datetimes

The text of a datetime has its fields at fixed places, each with a fixed width, so texts of
different seconds compare as the seconds do.  Within one second the fraction decides, and it is not
printed when it is zero: a text without a fraction goes on with `Z`, which sorts after the point of
a fraction.  `text_lt_text_iff` compares two texts, and `text_lt_text_iff_lt` says that the order of
texts is the order of instants except for two times of one second of which exactly one is whole.
-/

namespace Aizim

/-! ## Rows of digits -/

section

variable {α : Type} [LinearOrder α]

lemma cons_lt_cons_same {c : α} {xs ys : List α} : c :: xs < c :: ys ↔ xs < ys := by
  rw [List.cons_lt_cons_iff]
  simp

/-- Behind prefixes of one length, lists compare as the prefixes do, and where these are equal as
what follows them. -/
lemma append_lt_append_iff {ps qs xs ys : List α} (h : ps.length = qs.length) :
    ps ++ xs < qs ++ ys ↔ ps < qs ∨ (ps = qs ∧ xs < ys) := by
  induction ps generalizing qs with
  | nil =>
    obtain rfl := List.length_eq_zero_iff.1 h.symm
    simp
  | cons p ps ih =>
    cases qs with
    | nil => simp at h
    | cons q qs =>
      have hlength : ps.length = qs.length := Nat.succ.inj h
      simp only [List.cons_append, List.cons_lt_cons_iff, ih hlength, List.cons.injEq]
      tauto

end

namespace Datetime

lemma digit_lt_digit_iff {n m : ℕ} : digit n < digit m ↔ n % 10 < m % 10 := by
  have hdigit : ∀ a < 10, ∀ b < 10, (Nat.digitChar a < Nat.digitChar b ↔ a < b) := by decide
  exact hdigit _ (Nat.mod_lt n (by omega)) _ (Nat.mod_lt m (by omega))

lemma length_digits (width n : ℕ) : (digits width n).length = width := by
  induction width generalizing n with
  | zero => rfl
  | succ width ih => simp [digits, ih]

lemma digits_inj {width n m : ℕ} (hn : n < 10 ^ width) (hm : m < 10 ^ width) :
    digits width n = digits width m ↔ n = m := by
  constructor
  · intro h
    rw [← readDigits_digits width n hn, h, readDigits_digits width m hm]
  · rintro rfl
    rfl

/-- Numbers of one width compare as their digits do. -/
lemma digits_lt_digits_iff {width n m : ℕ} (hn : n < 10 ^ width) (hm : m < 10 ^ width) :
    digits width n < digits width m ↔ n < m := by
  induction width generalizing n m with
  | zero =>
    rw [pow_zero] at hn hm
    obtain rfl : n = m := by omega
    simp
  | succ width ih =>
    have hn' : n / 10 < 10 ^ width := by
      rw [Nat.div_lt_iff_lt_mul (by omega), ← pow_succ]
      exact hn
    have hm' : m / 10 < 10 ^ width := by
      rw [Nat.div_lt_iff_lt_mul (by omega), ← pow_succ]
      exact hm
    have hlength : (digits width (n / 10)).length = (digits width (m / 10)).length := by
      rw [length_digits, length_digits]
    have hlast : [digit n] < [digit m] ↔ n % 10 < m % 10 := by
      rw [List.cons_lt_cons_iff, digit_lt_digit_iff]
      simp
    rw [digits, digits, append_lt_append_iff hlength, ih hn' hm', digits_inj hn' hm', hlast]
    omega

/-- A field of a text decides, or leaves the order to what follows it. -/
lemma digits_append_lt_iff {width n m : ℕ} {xs ys : List Char} (hn : n < 10 ^ width)
    (hm : m < 10 ^ width) :
    digits width n ++ xs < digits width m ++ ys ↔ n < m ∨ (n = m ∧ xs < ys) := by
  have hlength : (digits width n).length = (digits width m).length := by
    rw [length_digits, length_digits]
  rw [append_lt_append_iff hlength, digits_lt_digits_iff hn hm, digits_inj hn hm]

/-! ## Seconds and fractions -/

/-- The fields of the second. -/
def secondKey (d : Datetime) : List ℕ := [d.year, d.month, d.day, d.hour, d.minute, d.second]

/-- The ranges of the fields of a datetime. -/
lemma ranges (d : Datetime) : d.year < 10 ^ 4 ∧ d.month < 10 ^ 2 ∧ d.day < 10 ^ 2 ∧
    d.hour < 10 ^ 2 ∧ d.minute < 10 ^ 2 ∧ d.second < 10 ^ 2 ∧ d.microsecond < 10 ^ 6 := by
  have hv := d.valid
  simp only [datetimeValid, Bool.and_eq_true, decide_eq_true_eq] at hv
  obtain ⟨⟨⟨⟨⟨⟨⟨⟨⟨-, hyear⟩, -⟩, hmonth⟩, -⟩, hday⟩, hhour⟩, hminute⟩, hsecond⟩, hmicro⟩ := hv
  have hdays : daysInMonth d.year d.month ≤ 31 := by
    unfold daysInMonth
    split
    · split <;> omega
    all_goals omega
  omega

lemma lt_iff {a b : Datetime} : a < b ↔
    a.secondKey < b.secondKey ∨ (a.secondKey = b.secondKey ∧ a.microsecond < b.microsecond) := by
  have hkey : ∀ d : Datetime, d.key = d.secondKey ++ [d.microsecond] := fun _ => rfl
  show a.key < b.key ↔ _
  rw [hkey, hkey, append_lt_append_iff (by rfl)]
  simp [List.cons_lt_cons_iff]

/-- The end of a text: the fraction and the suffix. -/
lemma fraction_lt_iff {m n : ℕ} (hm : m < 10 ^ 6) (hn : n < 10 ^ 6) :
    fraction m ++ ['Z'] < fraction n ++ ['Z'] ↔ m ≠ 0 ∧ (n = 0 ∨ m < n) := by
  unfold fraction
  by_cases hm0 : m = 0
  · by_cases hn0 : n = 0
    · simp [hm0, hn0]
    · have hlt : ¬ 'Z' < '.' := by decide
      rw [if_pos hm0, if_neg hn0, List.nil_append, List.cons_append, List.cons_lt_cons_iff]
      simp [hm0, hlt]
  · by_cases hn0 : n = 0
    · rw [if_neg hm0, if_pos hn0, List.nil_append, List.cons_append, List.cons_lt_cons_iff]
      have hlt : '.' < 'Z' := by decide
      simp [hm0, hn0, hlt]
    · rw [if_neg hm0, if_neg hn0, List.cons_append, List.cons_append, cons_lt_cons_same,
        digits_append_lt_iff hm hn]
      simp [hm0, hn0]

/-- Comparing by two keys and then a third is comparing by the first and then two. -/
lemma lex_assoc {L E L' E' C : Prop} :
    L ∨ E ∧ (L' ∨ E' ∧ C) ↔ (L ∨ E ∧ L') ∨ (E ∧ E') ∧ C := by
  tauto

/-- Texts compare as the seconds do, and within one second a time with a fraction comes before the
whole second. -/
lemma text_lt_text_iff {a b : Datetime} : a.text < b.text ↔ a.secondKey < b.secondKey ∨
    (a.secondKey = b.secondKey ∧ a.microsecond ≠ 0 ∧
      (b.microsecond = 0 ∨ a.microsecond < b.microsecond)) := by
  obtain ⟨hy, hmo, hd, hh, hmi, hs, hu⟩ := a.ranges
  obtain ⟨hy', hmo', hd', hh', hmi', hs', hu'⟩ := b.ranges
  have hchars : a.text < b.text ↔ a.textChars < b.textChars := by
    rw [String.lt_iff_toList_lt, text, text, String.toList_ofList, String.toList_ofList]
  rw [hchars, textChars, textChars]
  simp only [List.append_assoc, List.cons_append, cons_lt_cons_same, digits_append_lt_iff hy hy',
    digits_append_lt_iff hmo hmo', digits_append_lt_iff hd hd', digits_append_lt_iff hh hh',
    digits_append_lt_iff hmi hmi', digits_append_lt_iff hs hs', fraction_lt_iff hu hu']
  simp only [secondKey, List.cons_lt_cons_iff, List.cons.injEq, and_true, List.not_lt_nil, and_false,
    or_false, lex_assoc, and_assoc]

/-- Two times of one second of which exactly one is whole. -/
def Blurred (a b : Datetime) : Prop :=
  a.secondKey = b.secondKey ∧ ¬ (a.microsecond = 0 ↔ b.microsecond = 0)

instance (a b : Datetime) : Decidable (a.Blurred b) :=
  inferInstanceAs (Decidable (_ ∧ ¬ _))

/-- Texts compare as instants do, except for two times of one second of which exactly one is
whole. -/
theorem text_lt_text_iff_lt {a b : Datetime} : (a.text < b.text ↔ a < b) ↔ ¬ a.Blurred b := by
  rw [text_lt_text_iff, lt_iff, Blurred]
  by_cases hkey : a.secondKey = b.secondKey
  · have hirrefl : ¬ b.secondKey < b.secondKey := lt_irrefl _
    rw [hkey]
    simp only [hirrefl, true_and, false_or, not_not]
    omega
  · simp [hkey]

end Datetime

end Aizim
