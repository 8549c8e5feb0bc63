import Mathlib.Tactic.Positivity
import AdvisorAI.Contracts.Core

/-!
# Numbers and times of the accounting code

The account computes with Python's `Decimal`: a context rounds every result,
and an operation can raise. `Arith N` is what the accounting code uses of such
a number type, so that a result about every `Arith N` is one about every
context. `ℚ` is the instance without rounding, in which `Decimal` is read as an
exact rational.
-/

namespace AdvisorAI

/-! ## Numbers -/

/-- The arithmetic the accounting code uses. -/
class Arith (N : Type) where
  zero : N
  one : N
  add : N → N → Except PyError N
  sub : N → N → Except PyError N
  mul : N → N → Except PyError N
  div : N → N → Except PyError N
  neg : N → Except PyError N
  abs : N → Except PyError N
  lt : N → N → Bool
  isZero : N → Bool
  isFinite : N → Bool

namespace Arith

variable {N : Type} [Arith N]

/-- `max(a, b)`: the first of two equal numbers. -/
def max (a b : N) : N := if lt a b then b else a

/-- `min(a, b)`: the first of two equal numbers. -/
def min (a b : N) : N := if lt b a then b else a

/-- `sum(terms, Decimal("0"))`, the terms being computed one after another. -/
def sum (terms : List (Except PyError N)) : Except PyError N :=
  terms.foldlM (fun total term => do add total (← term)) zero

end Arith

instance : Arith ℚ where
  zero := 0
  one := 1
  add a b := .ok (a + b)
  sub a b := .ok (a - b)
  mul a b := .ok (a * b)
  div a b := if b = 0 then .error ⟨"DivisionByZero", "division by zero"⟩ else .ok (a / b)
  neg a := .ok (-a)
  abs a := .ok |a|
  lt a b := a < b
  isZero a := a = 0
  isFinite _ := true

section Exact

variable (a b : ℚ)

@[simp] theorem arith_zero : (Arith.zero : ℚ) = 0 := rfl
@[simp] theorem arith_one : (Arith.one : ℚ) = 1 := rfl
@[simp] theorem arith_add : Arith.add a b = .ok (a + b) := rfl
@[simp] theorem arith_sub : Arith.sub a b = .ok (a - b) := rfl
@[simp] theorem arith_mul : Arith.mul a b = .ok (a * b) := rfl
@[simp] theorem arith_neg : Arith.neg a = .ok (-a) := rfl
@[simp] theorem arith_abs : Arith.abs a = .ok |a| := rfl
@[simp] theorem arith_lt : Arith.lt a b = decide (a < b) := rfl
@[simp] theorem arith_isZero : Arith.isZero a = decide (a = 0) := rfl
@[simp] theorem arith_isFinite : Arith.isFinite a = true := rfl

theorem arith_min : Arith.min a b = Min.min a b := by
  unfold Arith.min
  rw [arith_lt]
  by_cases h : b < a
  · rw [if_pos (decide_eq_true h), min_eq_right (le_of_lt h)]
  · rw [if_neg (by simpa using h), min_eq_left (not_lt.mp h)]

theorem arith_max : Arith.max a b = Max.max a b := by
  unfold Arith.max
  rw [arith_lt]
  by_cases h : a < b
  · rw [if_pos (decide_eq_true h), max_eq_right (le_of_lt h)]
  · rw [if_neg (by simpa using h), max_eq_left (not_lt.mp h)]

theorem arith_div {b : ℚ} (h : b ≠ 0) : Arith.div a b = .ok (a / b) := if_neg h

theorem arith_sum (terms : List ℚ) : Arith.sum (terms.map Except.ok) = .ok terms.sum := by
  have hfold : ∀ (l : List ℚ) (total : ℚ),
      (l.map Except.ok).foldlM (fun total (term : Except PyError ℚ) => do
        Arith.add total (← term)) total = .ok (total + l.sum) := by
    intro l
    induction l with
    | nil =>
      intro total
      rw [List.sum_nil, add_zero]
      rfl
    | cons q l ih =>
      intro total
      rw [List.map_cons, List.foldlM_cons, List.sum_cons, ← add_assoc]
      exact ih (total + q)
  have h := hfold terms 0
  rw [zero_add] at h
  exact h

end Exact

/-! ## Decimals of exact numbers -/

theorem Decimal.value_nonneg {d : Decimal} (h : d.negative = false) : 0 ≤ d.value := by
  obtain ⟨negative, digits, exponent⟩ := d
  obtain rfl : negative = false := h
  have hdigits : (0 : Int) ≤ digits := Int.natCast_nonneg digits
  cases exponent with
  | ofNat e =>
    show (0 : ℚ) ≤ (((digits : Int) * 10 ^ e : Int) : ℚ)
    exact Int.cast_nonneg (mul_nonneg hdigits (by positivity))
  | negSucc e =>
    show (0 : ℚ) ≤ ((digits : Int) : ℚ) / ((10 ^ (e + 1) : Nat) : ℚ)
    exact div_nonneg (Int.cast_nonneg hdigits) (Nat.cast_nonneg _)

/-- The decimal of an exact number, cut off where it has no finite one. -/
def Decimal.ofRat (q : ℚ) : Decimal :=
  let places := Nat.log2 q.den
  ⟨decide (q < 0), q.num.natAbs * 10 ^ places / q.den, -(places : Int)⟩

theorem Decimal.value_ofRat_nonneg {q : ℚ} (h : 0 ≤ q) : 0 ≤ (ofRat q).value :=
  value_nonneg (decide_eq_false (not_lt.mpr h))

/-! ## Times -/

/-- A `datetime`: what its clock shows, in microseconds, and its offset from UTC when it has one. -/
structure Datetime where
  clock : Int
  offset : Option Int
deriving DecidableEq

/-- `datetime.min` and `datetime.max` in UTC, in microseconds since 1970. -/
def datetimeMin : Timestamp := -62135596800000000

def datetimeMax : Timestamp := 253402300799999999

theorem epoch_valid : datetimeMin ≤ 0 ∧ (0 : Timestamp) ≤ datetimeMax := by decide

/-- A timestamp is an aware `datetime` in UTC. -/
def Datetime.ofTimestamp (t : Timestamp) : Datetime := ⟨t, some 0⟩

/-- `value.astimezone(UTC)` of a value that has to be aware. -/
def Datetime.aware (message : String) (d : Datetime) : Except PyError Timestamp :=
  match d.offset with
  | none => .error ⟨"ValueError", message⟩
  | some offset =>
    if datetimeMin ≤ d.clock - offset ∧ d.clock - offset ≤ datetimeMax then
      .ok (d.clock - offset)
    else .error ⟨"OverflowError", "date value out of range"⟩

theorem Datetime.aware_ofTimestamp {message : String} {t : Timestamp}
    (h : datetimeMin ≤ t ∧ t ≤ datetimeMax) : (Datetime.ofTimestamp t).aware message = .ok t := by
  unfold aware ofTimestamp
  simp only [sub_zero, h, and_self, if_true]

theorem Datetime.aware_valid {message : String} {d : Datetime} {t : Timestamp}
    (h : d.aware message = .ok t) : datetimeMin ≤ t ∧ t ≤ datetimeMax := by
  unfold aware at h
  cases hoffset : d.offset with
  | none =>
    rw [hoffset] at h
    cases h
  | some offset =>
    rw [hoffset] at h
    dsimp only at h
    split at h
    · next hvalid =>
      cases h
      exact hvalid
    · cases h

end AdvisorAI
