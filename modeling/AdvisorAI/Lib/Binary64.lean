import Mathlib.Algebra.Order.Archimedean.Basic
import Mathlib.Data.Int.Log
import Mathlib.Tactic.Positivity

/-!
# Doubles

The double nearest to an exact number, without bounds on the exponent: 53 binary places from the
first one on, a tie going to the even neighbour. What is used of it is that the relative error is
at most `2 ^ (-53)` (`double_error`) and that every natural number below `2 ^ 53` is a double
(`double_natCast`).
-/

namespace AdvisorAI.Lib

/-! ## Rounding to integers -/

variable (x : ℚ)

/-- The nearest integer, the even one of two. -/
def roundHalfEven : ℤ :=
  if x - ⌊x⌋ < 1 / 2 then ⌊x⌋
  else if 1 / 2 < x - ⌊x⌋ then ⌊x⌋ + 1
  else ⌊x⌋ + ⌊x⌋ % 2

theorem roundHalfEven_error : |(roundHalfEven x : ℚ) - x| ≤ 1 / 2 := by
  have hlow := Int.floor_le x
  have hhigh := Int.lt_floor_add_one x
  unfold roundHalfEven
  split
  · rw [abs_le]
    constructor <;> linarith
  · split
    · push_cast
      rw [abs_le]
      constructor <;> linarith
    · -- at a tie either neighbour is half away
      rcases Int.emod_two_eq_zero_or_one ⌊x⌋ with hparity | hparity <;>
        rw [hparity, abs_le] <;> push_cast <;> constructor <;> linarith

@[simp] theorem roundHalfEven_intCast (n : ℤ) : roundHalfEven n = n := by
  unfold roundHalfEven
  rw [Int.floor_intCast, sub_self, if_pos (by norm_num)]

/-! ## Rounding to doubles -/

/-- The distance of two doubles of the size of a number. -/
def spacing : ℚ := 2 ^ (Int.log 2 x - 52)

/-- The double of a number that is not negative. -/
def double : ℚ := roundHalfEven (x / spacing x) * spacing x

theorem spacing_pos : 0 < spacing x := zpow_pos (by norm_num) _

theorem spacing_le {x : ℚ} (hx : 0 < x) : spacing x ≤ x / 2 ^ 52 := by
  have hlog : ((2 : ℕ) : ℚ) ^ Int.log 2 x ≤ x := Int.zpow_log_le_self (by norm_num) hx
  unfold spacing
  rw [zpow_sub₀ (by norm_num)]
  exact div_le_div_of_nonneg_right (by exact_mod_cast hlog) (by norm_num)

/-- **The relative error** of a double. -/
theorem double_error {x : ℚ} (hx : 0 ≤ x) : |double x - x| ≤ x / 2 ^ 53 := by
  have hround : |double x - x| ≤ spacing x / 2 := by
    have hspacing := spacing_pos x
    have hscaled : double x - x = (roundHalfEven (x / spacing x) - x / spacing x) * spacing x := by
      unfold double
      field_simp
    calc |double x - x| = |(roundHalfEven (x / spacing x) : ℚ) - x / spacing x| * spacing x := by
          rw [hscaled, abs_mul, abs_of_pos hspacing]
      _ ≤ 1 / 2 * spacing x := mul_le_mul_of_nonneg_right (roundHalfEven_error _) hspacing.le
      _ = spacing x / 2 := by ring
  rcases hx.eq_or_lt with rfl | hpos
  · have hzero : double 0 = 0 := by
      unfold double
      rw [zero_div]
      have hnone : roundHalfEven 0 = 0 := by exact_mod_cast roundHalfEven_intCast 0
      rw [hnone, Int.cast_zero, zero_mul]
    rw [hzero]
    norm_num
  · have := spacing_le hpos
    linarith

theorem double_natCast {n : ℕ} (hn : n < 2 ^ 53) : double n = n := by
  have hspacing := spacing_pos (n : ℚ)
  -- the number is a whole multiple of the spacing
  have hlog : Int.log 2 (n : ℚ) ≤ 52 := by
    rw [Int.log_natCast]
    have := Nat.log_lt_of_lt_pow' (b := 2) (by norm_num : (53 : ℕ) ≠ 0) hn
    omega
  have hmultiple : (n : ℚ) / spacing n = ((n * 2 ^ (52 - Int.log 2 (n : ℚ)).toNat : ℤ) : ℚ) := by
    have hinv : (spacing (n : ℚ))⁻¹ = 2 ^ (52 - Int.log 2 (n : ℚ)) := by
      unfold spacing
      rw [← zpow_neg, neg_sub]
    rw [div_eq_mul_inv, hinv]
    push_cast
    rw [← zpow_natCast, Int.toNat_of_nonneg (by omega)]
  unfold double
  rw [hmultiple, roundHalfEven_intCast, ← hmultiple]
  exact div_mul_cancel₀ _ hspacing.ne'

end AdvisorAI.Lib
