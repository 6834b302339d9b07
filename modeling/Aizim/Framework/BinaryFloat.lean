import Mathlib.Algebra.Order.Field.Power
import Mathlib.Data.Int.Log
import Mathlib.Data.Rat.Floor
import Mathlib.Tactic.Linarith
import Mathlib.Tactic.Ring

/-!
# Binary floating-point numbers

The finite numbers of a binary floating-point format are rational numbers, and an operation rounds
its exact result to the nearest of them, a tie to the even one.  `FloatFormat.round` is that
rounding for results that do not overflow.

Of rounding two facts are used.  A rounded number stays below every number of the format that the
exact one is below (`round_le`), and the difference of two numbers within a factor two of each other
is itself a number of the format, so nothing is rounded (`representable_sub`).
-/

namespace Aizim

/-- A binary format: the bits of a significand and the bounds of the exponent. -/
structure FloatFormat where
  precision : ℕ
  minExponent : ℤ
  maxExponent : ℤ

/-- Double precision. -/
def binary64 : FloatFormat := ⟨53, -1074, 971⟩

namespace FloatFormat

/-- A finite number of the format. -/
def Representable (f : FloatFormat) (x : ℚ) : Prop :=
  ∃ m e : ℤ, |m| < 2 ^ f.precision ∧ f.minExponent ≤ e ∧ e ≤ f.maxExponent ∧ x = m * 2 ^ e

/-- The exponent of the last place of a number. -/
def exponent (f : FloatFormat) (x : ℚ) : ℤ :=
  max f.minExponent (Int.log 2 |x| + 1 - f.precision)

/-- The nearest integer, and the even one of two. -/
def roundHalfEven (x : ℚ) : ℤ :=
  if x - ⌊x⌋ < 1 / 2 ∨ (x - ⌊x⌋ = 1 / 2 ∧ ⌊x⌋ % 2 = 0) then ⌊x⌋ else ⌊x⌋ + 1

/-- The nearest number of the format. -/
def round (f : FloatFormat) (x : ℚ) : ℚ :=
  roundHalfEven (x / 2 ^ f.exponent x) * 2 ^ f.exponent x

/-! ## Rounding to an integer -/

lemma roundHalfEven_intCast (n : ℤ) : roundHalfEven n = n := by
  simp [roundHalfEven]

/-- Rounding does not pass an integer. -/
lemma roundHalfEven_le {x : ℚ} {n : ℤ} (h : x ≤ n) : roundHalfEven x ≤ n := by
  have hfloor : ⌊x⌋ ≤ n := by
    rw [← Int.floor_intCast (R := ℚ) n]
    exact Int.floor_le_floor h
  unfold roundHalfEven
  split
  · exact hfloor
  · rename_i hup
    rcases hfloor.lt_or_eq with hlt | heq
    · omega
    · -- the integer itself is not rounded up
      have hle := Int.floor_le x
      rw [heq] at hle hup
      have hx : x = n := le_antisymm h hle
      exact absurd (Or.inl (by rw [hx]; norm_num)) hup

/-! ## Rounding to the format -/

variable {f : FloatFormat} {x y : ℚ}

/-- A number of the format that is not below another is a multiple of the last place of that. -/
lemma exists_multiple (hx : 0 < x) (hy : f.Representable y) (hxy : x ≤ y) :
    ∃ k : ℤ, y = k * 2 ^ f.exponent x := by
  obtain ⟨m, e, hm, hmin, -, rfl⟩ := hy
  have htwo : (0 : ℚ) < 2 := by norm_num
  by_cases he : f.exponent x ≤ e
  · obtain ⟨j, hj⟩ := Int.eq_ofNat_of_zero_le (sub_nonneg.2 he)
    refine ⟨m * 2 ^ j, ?_⟩
    have hexp : e = (j : ℤ) + f.exponent x := by
      rw [← hj]
      ring
    rw [hexp, zpow_add₀ htwo.ne', zpow_natCast]
    push_cast
    ring
  · -- otherwise the number would lie below the leading place of the other
    push Not at he
    have hlog : f.exponent x = Int.log 2 |x| + 1 - f.precision := by
      rcases max_choice f.minExponent (Int.log 2 |x| + 1 - f.precision) with h | h
      · rw [exponent, h] at he
        omega
      · exact h
    have hlead : (2 : ℚ) ^ (e + f.precision) ≤ x := by
      have hle := Int.zpow_log_le_self (b := 2) (by norm_num) hx
      rw [abs_of_pos hx] at hlog
      refine le_trans (zpow_le_zpow_right₀ (by norm_num) ?_) hle
      omega
    have hbelow : (m : ℚ) * 2 ^ e < 2 ^ (e + f.precision) := by
      have hm' : (m : ℚ) < 2 ^ f.precision := by
        have hlt : m < 2 ^ f.precision := (le_abs_self m).trans_lt hm
        exact_mod_cast hlt
      rw [zpow_add₀ htwo.ne', zpow_natCast, mul_comm]
      exact mul_lt_mul_of_pos_left hm' (zpow_pos htwo e)
    exact absurd hxy (not_le.2 (hbelow.trans_le hlead))

/-- Rounding does not pass a number of the format. -/
lemma round_le (hx : 0 < x) (hy : f.Representable y) (hxy : x ≤ y) : f.round x ≤ y := by
  obtain ⟨k, rfl⟩ := exists_multiple hx hy hxy
  have hpos : (0 : ℚ) < 2 ^ f.exponent x := zpow_pos (by norm_num) _
  have hk : roundHalfEven (x / 2 ^ f.exponent x) ≤ k :=
    roundHalfEven_le ((div_le_iff₀ hpos).2 hxy)
  exact mul_le_mul_of_nonneg_right (by exact_mod_cast hk) hpos.le

/-- Numbers of the format are not rounded. -/
lemma round_of_representable (hx : 0 < x) (h : f.Representable x) : f.round x = x := by
  obtain ⟨k, hk⟩ := exists_multiple hx h le_rfl
  have hpos : (0 : ℚ) < 2 ^ f.exponent x := zpow_pos (by norm_num) _
  have hdiv : x / 2 ^ f.exponent x = k := by
    rw [div_eq_iff hpos.ne', ← hk]
  rw [round, hdiv, roundHalfEven_intCast, ← hk]

lemma round_zero : f.round 0 = 0 := by
  simp [round, roundHalfEven]

/-! ## Differences -/

/-- The difference of two numbers of the format is a multiple of the smaller last place. -/
lemma representable_of_multiple {k e : ℤ} (hmin : f.minExponent ≤ e) (hmax : e ≤ f.maxExponent)
    {m : ℤ} (hm : |m| < 2 ^ f.precision) (hk : 0 ≤ k) (hkm : (k : ℚ) * 2 ^ e ≤ m * 2 ^ e) :
    f.Representable (k * 2 ^ e) := by
  have hpos : (0 : ℚ) < 2 ^ e := zpow_pos (by norm_num) _
  have hle : k ≤ m := by exact_mod_cast le_of_mul_le_mul_right hkm hpos
  refine ⟨k, e, ?_, hmin, hmax, rfl⟩
  rw [abs_of_nonneg hk]
  exact lt_of_le_of_lt (hle.trans (le_abs_self m)) hm

/-- The difference of two numbers within a factor two of each other is exact. -/
lemma representable_sub (hx : f.Representable x) (hy : f.Representable y) (hxy : x ≤ y)
    (hyx : y ≤ 2 * x) : f.Representable (y - x) := by
  obtain ⟨m, e, hm, hmin, hmax, rfl⟩ := hx
  obtain ⟨n, g, hn, hmin', hmax', rfl⟩ := hy
  have htwo : (2 : ℚ) ≠ 0 := by norm_num
  rcases le_total e g with h | h
  · obtain ⟨j, hj⟩ := Int.eq_ofNat_of_zero_le (sub_nonneg.2 h)
    have hexp : g = (j : ℤ) + e := by
      rw [← hj]
      ring
    have hdiff : (n : ℚ) * 2 ^ g - m * 2 ^ e = ((n * 2 ^ j - m : ℤ) : ℚ) * 2 ^ e := by
      rw [hexp, zpow_add₀ htwo, zpow_natCast]
      push_cast
      ring
    have hpos : (0 : ℚ) < 2 ^ e := zpow_pos (by norm_num) _
    have hnonneg : (0 : ℤ) ≤ n * 2 ^ j - m := by
      have h0 : (0 : ℚ) ≤ ((n * 2 ^ j - m : ℤ) : ℚ) * 2 ^ e := hdiff ▸ sub_nonneg.2 hxy
      exact_mod_cast nonneg_of_mul_nonneg_left h0 hpos
    rw [hdiff]
    refine representable_of_multiple hmin hmax hm hnonneg ?_
    rw [← hdiff]
    linarith
  · obtain ⟨j, hj⟩ := Int.eq_ofNat_of_zero_le (sub_nonneg.2 h)
    have hexp : e = (j : ℤ) + g := by
      rw [← hj]
      ring
    have hdiff : (n : ℚ) * 2 ^ g - m * 2 ^ e = ((n - m * 2 ^ j : ℤ) : ℚ) * 2 ^ g := by
      rw [hexp, zpow_add₀ htwo, zpow_natCast]
      push_cast
      ring
    have hpos : (0 : ℚ) < 2 ^ g := zpow_pos (by norm_num) _
    have hnonneg : (0 : ℤ) ≤ n - m * 2 ^ j := by
      have h0 : (0 : ℚ) ≤ ((n - m * 2 ^ j : ℤ) : ℚ) * 2 ^ g := hdiff ▸ sub_nonneg.2 hxy
      exact_mod_cast nonneg_of_mul_nonneg_left h0 hpos
    rw [hdiff]
    refine representable_of_multiple hmin' hmax' hn hnonneg ?_
    rw [← hdiff]
    linarith

/-- The difference of two such numbers is not rounded. -/
lemma round_sub (hx : f.Representable x) (hy : f.Representable y) (hxy : x ≤ y)
    (hyx : y ≤ 2 * x) : f.round (y - x) = y - x := by
  rcases hxy.eq_or_lt with rfl | hlt
  · rw [sub_self, round_zero]
  · exact round_of_representable (sub_pos.2 hlt) (representable_sub hx hy hxy hyx)

end FloatFormat

end Aizim
