import AdvisorAI.Contracts.Scalars
import Mathlib.Data.Nat.Prime.Basic
import Mathlib.Tactic.FieldSimp
import Mathlib.Tactic.Ring

/-!
# Finite decimals

The numbers a decimal stands for are those with a power of ten under the fraction. Sums,
differences and products of such numbers are of the kind, and `Decimal.ofRat` spells each of them
without a loss (`Decimal.value_ofRat`).
-/

namespace AdvisorAI

/-- The number has a finite decimal spelling. -/
def FiniteDecimal (q : ℚ) : Prop := ∃ (n : ℤ) (k : ℕ), q = n / 10 ^ k

namespace FiniteDecimal

variable {p q : ℚ}

theorem intCast (n : ℤ) : FiniteDecimal n := ⟨n, 0, by rw [pow_zero, div_one]⟩

theorem zero : FiniteDecimal 0 := by
  have h := intCast 0
  rwa [Int.cast_zero] at h

theorem mul (hp : FiniteDecimal p) (hq : FiniteDecimal q) : FiniteDecimal (p * q) := by
  obtain ⟨n, j, rfl⟩ := hp
  obtain ⟨m, k, rfl⟩ := hq
  refine ⟨n * m, j + k, ?_⟩
  push_cast
  rw [pow_add, div_mul_div_comm]

theorem add (hp : FiniteDecimal p) (hq : FiniteDecimal q) : FiniteDecimal (p + q) := by
  obtain ⟨n, j, rfl⟩ := hp
  obtain ⟨m, k, rfl⟩ := hq
  refine ⟨n * 10 ^ k + m * 10 ^ j, j + k, ?_⟩
  push_cast
  rw [pow_add]
  field_simp

theorem neg (hq : FiniteDecimal q) : FiniteDecimal (-q) := by
  obtain ⟨n, k, rfl⟩ := hq
  refine ⟨-n, k, ?_⟩
  push_cast
  rw [neg_div]

theorem sub (hp : FiniteDecimal p) (hq : FiniteDecimal q) : FiniteDecimal (p - q) := by
  rw [sub_eq_add_neg]
  exact hp.add hq.neg

theorem abs (hq : FiniteDecimal q) : FiniteDecimal |q| := by
  rcases abs_choice q with h | h
  · rwa [h]
  · rw [h]
    exact hq.neg

theorem half (hq : FiniteDecimal q) : FiniteDecimal (q / 2) := by
  have h : FiniteDecimal (1 / 2) := ⟨5, 1, by norm_num⟩
  rw [div_eq_mul_one_div]
  exact hq.mul h

end FiniteDecimal

namespace Decimal

theorem value_eq_div (negative : Bool) (digits places : ℕ) :
    (Decimal.mk negative digits (-(places : ℤ))).value
      = ((if negative then -(digits : ℤ) else digits : ℤ) : ℚ) / 10 ^ places := by
  cases places with
  | zero =>
    show (((if negative then -(digits : ℤ) else digits) * 10 ^ 0 : ℤ) : ℚ) = _
    rw [pow_zero, mul_one, pow_zero, div_one]
  | succ k =>
    show _ / ((10 ^ (k + 1) : ℕ) : ℚ) = _
    push_cast
    rfl

theorem value_finite (d : Decimal) : FiniteDecimal d.value := by
  obtain ⟨negative, digits, exponent⟩ := d
  cases exponent with
  | ofNat e => exact FiniteDecimal.intCast _
  | negSucc e =>
    refine ⟨if negative then -(digits : ℤ) else digits, e + 1, ?_⟩
    show _ / ((10 ^ (e + 1) : ℕ) : ℚ) = _
    push_cast
    rfl

theorem dvd_ten_pow_log {n k : ℕ} (hn : n ∣ 10 ^ k) : n ∣ 10 ^ n.log2 := by
  have hsplit : n ∣ 2 ^ k * 5 ^ k := by
    rw [← mul_pow]
    exact hn
  obtain ⟨m, l, hm, hl, rfl⟩ := Nat.dvd_mul.mp hsplit
  obtain ⟨a, -, rfl⟩ := (Nat.dvd_prime_pow Nat.prime_two).mp hm
  obtain ⟨b, -, rfl⟩ := (Nat.dvd_prime_pow Nat.prime_five).mp hl
  have hpos : 0 < 2 ^ a * 5 ^ b := by positivity
  have ha : a ≤ (2 ^ a * 5 ^ b).log2 :=
    (Nat.le_log2 hpos.ne').mpr (Nat.le_mul_of_pos_right _ (by positivity))
  have hb : b ≤ (2 ^ a * 5 ^ b).log2 := by
    refine (Nat.le_log2 hpos.ne').mpr ?_
    calc 2 ^ b ≤ 5 ^ b := Nat.pow_le_pow_left (by decide) b
      _ ≤ 2 ^ a * 5 ^ b := Nat.le_mul_of_pos_left _ (by positivity)
  generalize (2 ^ a * 5 ^ b).log2 = places at ha hb
  have hten : (10 : ℕ) ^ places = 2 ^ places * 5 ^ places := by
    rw [← mul_pow, show 2 * 5 = 10 from rfl]
  rw [hten]
  exact mul_dvd_mul (pow_dvd_pow 2 ha) (pow_dvd_pow 5 hb)

/-- **A finite decimal is spelled without a loss.** -/
theorem value_ofRat {q : ℚ} (hq : FiniteDecimal q) : (ofRat q).value = q := by
  have hden : q.den ∣ 10 ^ q.den.log2 := by
    obtain ⟨n, k, rfl⟩ := hq
    have hdvd := Rat.den_dvd n (10 ^ k)
    rw [Rat.divInt_eq_div, Int.cast_pow] at hdvd
    exact dvd_ten_pow_log (Int.natCast_dvd_natCast.mp (by push_cast; exact hdvd))
  obtain ⟨scale, hscale⟩ := hden
  have hpos : 0 < q.den := q.den_pos
  have hdigits : q.num.natAbs * 10 ^ q.den.log2 / q.den = q.num.natAbs * scale := by
    rw [hscale, mul_left_comm, Nat.mul_div_cancel_left _ hpos]
  have hsigned : (if decide (q < 0) then -((q.num.natAbs * scale : ℕ) : ℤ)
      else ((q.num.natAbs * scale : ℕ) : ℤ)) = q.num * scale := by
    rcases lt_or_ge q 0 with hneg | hnonneg
    · rw [if_pos (decide_eq_true hneg)]
      have hnum : q.num < 0 := Rat.num_neg.mpr hneg
      push_cast
      rw [abs_of_neg hnum, neg_mul_eq_neg_mul, neg_neg]
    · rw [if_neg (by rw [decide_eq_true_eq, not_lt]; exact hnonneg)]
      have hnum : 0 ≤ q.num := Rat.num_nonneg.mpr hnonneg
      push_cast
      rw [abs_of_nonneg hnum]
  have hvalue : (ofRat q).value
      = ((if decide (q < 0) then -((q.num.natAbs * 10 ^ q.den.log2 / q.den : ℕ) : ℤ)
        else (q.num.natAbs * 10 ^ q.den.log2 / q.den : ℕ) : ℤ) : ℚ) / 10 ^ q.den.log2 :=
    value_eq_div _ _ _
  have hten : (10 : ℚ) ^ q.den.log2 = q.den * scale := by
    exact_mod_cast hscale
  have hnonzero : (scale : ℚ) ≠ 0 := by
    intro hzero
    rw [hzero, mul_zero] at hten
    exact absurd hten (by positivity)
  rw [hvalue, hdigits, hsigned, hten]
  push_cast
  rw [mul_div_mul_right _ _ hnonzero]
  exact q.num_div_den

end Decimal

end AdvisorAI
