import Mathlib.Algebra.BigOperators.Group.List.Basic
import Mathlib.Algebra.Order.Group.MinMax
import Mathlib.Data.List.Induction
import Mathlib.Order.Bounds.Basic

/-!
# The largest decline of a running total

A loop adds up a total and keeps the highest value it has had and how far it has been below that
(`Course.add`). What it keeps in the end is the largest decline of the total: no part of the way
from an earlier to a later total falls further, and one falls as far (`decline_isGreatest`).
-/

namespace AdvisorAI.Lib

open List

variable {M : Type} [AddCommGroup M] [LinearOrder M]

/-- A running total, its highest value, and its largest distance below that. -/
structure Course (M : Type) where
  running : M
  peak : M
  drawdown : M

namespace Course

def start : Course M := ⟨0, 0, 0⟩

def add (c : Course M) (x : M) : Course M where
  running := c.running + x
  peak := max c.peak (c.running + x)
  drawdown := max c.drawdown (max c.peak (c.running + x) - (c.running + x))

def of (l : List M) : Course M := l.foldl add start

theorem of_append (l : List M) (x : M) : of (l ++ [x]) = (of l).add x := by
  unfold of
  rw [foldl_append]
  rfl

theorem of_running (l : List M) : (of l).running = l.sum := by
  induction l using List.reverseRecOn with
  | nil => rfl
  | append_singleton l x ih =>
    rw [of_append, sum_append, sum_singleton, ← ih]
    rfl

end Course

variable (l : List M)

/-- The totals of a list, from nothing to all of it. -/
def totals : Set M := { s | ∃ i ≤ l.length, s = (l.take i).sum }

/-- The declines from an earlier to a later total. -/
def declines : Set M :=
  { d | ∃ i j, i ≤ j ∧ j ≤ l.length ∧ d = (l.take i).sum - (l.take j).sum }

/-- The largest decline, as the loop computes it. -/
def decline : M := (Course.of l).drawdown

omit [LinearOrder M] in
theorem mem_totals_append {l : List M} {x s : M} :
    s ∈ totals (l ++ [x]) ↔ s ∈ totals l ∨ s = l.sum + x := by
  refine ⟨?_, ?_⟩
  · rintro ⟨i, hi, rfl⟩
    rw [length_append, length_singleton] at hi
    rcases Nat.lt_or_eq_of_le hi with hlt | rfl
    · exact Or.inl ⟨i, by omega, by rw [take_append_of_le_length (by omega)]⟩
    · right
      rw [take_of_length_le (by simp), sum_append, sum_singleton]
  · rintro (⟨i, hi, rfl⟩ | rfl)
    · refine ⟨i, ?_, by rw [take_append_of_le_length hi]⟩
      rw [length_append]
      omega
    · refine ⟨(l ++ [x]).length, le_refl _, ?_⟩
      rw [take_length, sum_append, sum_singleton]

omit [LinearOrder M] in
theorem mem_declines_append {l : List M} {x d : M} :
    d ∈ declines (l ++ [x]) ↔
      d ∈ declines l ∨ ∃ s ∈ totals (l ++ [x]), d = s - (l.sum + x) := by
  have hall : ((l ++ [x]).take (l ++ [x]).length).sum = l.sum + x := by
    rw [take_length, sum_append, sum_singleton]
  refine ⟨?_, ?_⟩
  · rintro ⟨i, j, hij, hj, rfl⟩
    rcases Nat.lt_or_eq_of_le hj with hlt | rfl
    · rw [length_append, length_singleton] at hlt
      refine Or.inl ⟨i, j, hij, by omega, ?_⟩
      rw [take_append_of_le_length (by omega), take_append_of_le_length (by omega)]
    · exact Or.inr ⟨_, ⟨i, hij, rfl⟩, by rw [hall]⟩
  · rintro (⟨i, j, hij, hj, rfl⟩ | ⟨s, ⟨i, hi, rfl⟩, rfl⟩)
    · refine ⟨i, j, hij, ?_, ?_⟩
      · rw [length_append]
        omega
      · rw [take_append_of_le_length (by omega), take_append_of_le_length hj]
    · exact ⟨i, (l ++ [x]).length, hi, le_refl _, by rw [hall]⟩

theorem peak_isGreatest : IsGreatest (totals l) (Course.of l).peak := by
  induction l using List.reverseRecOn with
  | nil =>
    refine ⟨⟨0, le_refl 0, rfl⟩, ?_⟩
    rintro s ⟨i, -, rfl⟩
    rw [take_nil]
    exact le_refl 0
  | append_singleton l x ih =>
    rw [Course.of_append]
    have hpeak : ((Course.of l).add x).peak = max (Course.of l).peak (l.sum + x) := by
      rw [← Course.of_running]
      rfl
    rw [hpeak]
    refine ⟨?_, ?_⟩
    · rcases max_choice (Course.of l).peak (l.sum + x) with h | h
      · rw [h]
        exact mem_totals_append.mpr (Or.inl ih.1)
      · rw [h]
        exact mem_totals_append.mpr (Or.inr rfl)
    · intro s hs
      rcases mem_totals_append.mp hs with hs | rfl
      · exact le_max_of_le_left (ih.2 hs)
      · exact le_max_right _ _

/-- **The loop computes the largest decline.** -/
theorem decline_isGreatest [IsOrderedAddMonoid M] : IsGreatest (declines l) (decline l) := by
  unfold decline
  induction l using List.reverseRecOn with
  | nil =>
    refine ⟨⟨0, 0, le_refl 0, le_refl 0, (sub_self _).symm⟩, ?_⟩
    rintro d ⟨i, j, -, -, rfl⟩
    rw [take_nil, take_nil, sub_self]
    exact le_refl 0
  | append_singleton l x ih =>
    have hpeak := peak_isGreatest (l ++ [x])
    have hdrawdown : (Course.of (l ++ [x])).drawdown
        = max (Course.of l).drawdown ((Course.of (l ++ [x])).peak - (l.sum + x)) := by
      rw [Course.of_append, ← Course.of_running]
      rfl
    rw [hdrawdown]
    refine ⟨?_, ?_⟩
    · rcases max_choice (Course.of l).drawdown ((Course.of (l ++ [x])).peak - (l.sum + x)) with h | h
      · rw [h]
        exact mem_declines_append.mpr (Or.inl ih.1)
      · rw [h]
        exact mem_declines_append.mpr (Or.inr ⟨_, hpeak.1, rfl⟩)
    · intro d hd
      rcases mem_declines_append.mp hd with hd | ⟨s, hs, rfl⟩
      · exact le_max_of_le_left (ih.2 hd)
      · exact le_max_of_le_right (sub_le_sub_right (hpeak.2 hs) _)

theorem decline_nonneg [IsOrderedAddMonoid M] : 0 ≤ decline l :=
  (decline_isGreatest l).2 ⟨0, 0, le_refl 0, Nat.zero_le _, (sub_self _).symm⟩

end AdvisorAI.Lib
