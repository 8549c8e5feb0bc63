import Mathlib.Algebra.Order.Field.Basic
import Mathlib.Tactic.Ring
import Mathlib.Tactic.FieldSimp
import Mathlib.Tactic.Linarith

/-!
# Average-cost accounting

A lot is a signed quantity held at an average cost per unit. Trading `d` units
at price `p` extends the lot, reduces it, closes it or turns it over to the
other side, and realizes a gain on the part it closes. Whatever the trade does,
one equation holds: the value of the lot at cost moves by what was paid for the
trade plus the gain that was realized (`trade_value`).
-/

namespace AdvisorAI.Lib

variable {K : Type} [Field K] [LinearOrder K] [IsStrictOrderedRing K]

/-- A signed quantity and its average cost. -/
@[ext]
structure Lot (K : Type) where
  quantity : K
  cost : K

namespace Lot

def value (l : Lot K) : K := l.quantity * l.cost

/-- The lot has a side, and the trade is on the other one. -/
def Opposes (l : Lot K) (d : K) : Prop := l.quantity ≠ 0 ∧ ¬(0 < l.quantity ↔ 0 < d)

/-- The trade is on the side of the lot, or the lot is empty. -/
def Extends (l : Lot K) (d : K) : Prop := 0 ≤ l.quantity ∧ 0 < d ∨ l.quantity ≤ 0 ∧ d < 0

instance (l : Lot K) (d : K) : Decidable (l.Opposes d) := inferInstanceAs (Decidable (_ ∧ _))

instance (l : Lot K) (d : K) : Decidable (l.Extends d) := inferInstanceAs (Decidable (_ ∨ _))

def gain (l : Lot K) (p d : K) : K :=
  if l.Opposes d then
    (p - l.cost) * min |l.quantity| |d| * (if 0 < l.quantity then 1 else -1)
  else 0

def costAfter (l : Lot K) (p d : K) : K :=
  if l.Extends d then (l.cost * |l.quantity| + p * |d|) / (|l.quantity| + |d|)
  else if l.Opposes (l.quantity + d) then p
  else l.cost

variable {l : Lot K} {p d : K}

omit [IsStrictOrderedRing K] in
theorem opposes_iff (hd : d ≠ 0) :
    l.Opposes d ↔ 0 < l.quantity ∧ d < 0 ∨ l.quantity < 0 ∧ 0 < d := by
  rcases lt_or_gt_of_ne hd with h | h
  · have hd' : ¬0 < d := lt_asymm h
    constructor
    · intro ⟨_, hside⟩
      refine Or.inl ⟨?_, h⟩
      by_contra hq
      exact hside ⟨fun h0 => absurd h0 hq, fun h0 => absurd h0 hd'⟩
    · intro hor
      rcases hor with ⟨hq, _⟩ | ⟨_, h0⟩
      · exact ⟨ne_of_gt hq, fun hside => hd' (hside.mp hq)⟩
      · exact absurd h0 hd'
  · have hd' : ¬d < 0 := lt_asymm h
    constructor
    · intro ⟨hne, hside⟩
      refine Or.inr ⟨?_, h⟩
      apply lt_of_le_of_ne _ hne
      by_contra hq
      exact hside ⟨fun _ => h, fun _ => not_le.mp hq⟩
    · intro hor
      rcases hor with ⟨_, h0⟩ | ⟨hq, _⟩
      · exact absurd h0 hd'
      · exact ⟨ne_of_lt hq, fun hside => lt_asymm hq (hside.mpr h)⟩

omit [IsStrictOrderedRing K] in
theorem extends_iff_not_opposes (hd : d ≠ 0) : l.Extends d ↔ ¬l.Opposes d := by
  rw [opposes_iff hd, not_or, not_and_or, not_and_or, not_lt, not_lt, not_lt, not_lt]
  unfold Extends
  rcases lt_or_gt_of_ne hd with h | h
  · have hle := le_of_lt h
    have hn : ¬0 ≤ d := not_le_of_gt h
    have hn' : ¬0 < d := lt_asymm h
    simp [h, hle, hn, hn']
  · have hle := le_of_lt h
    have hn : ¬d ≤ 0 := not_le_of_gt h
    have hn' : ¬d < 0 := lt_asymm h
    simp [h, hle, hn, hn']

theorem value_of_extends (h : l.Extends d) :
    (l.quantity + d) * ((l.cost * |l.quantity| + p * |d|) / (|l.quantity| + |d|))
      = l.value + p * d := by
  unfold value
  rcases h with ⟨hq, hd⟩ | ⟨hq, hd⟩
  · have hsum : l.quantity + d ≠ 0 := ne_of_gt (add_pos_of_nonneg_of_pos hq hd)
    rw [abs_of_nonneg hq, abs_of_pos hd]
    field_simp
  · have hsum : -l.quantity + -d ≠ 0 := by
      apply ne_of_gt
      linarith
    rw [abs_of_nonpos hq, abs_of_neg hd]
    field_simp
    ring

theorem gain_of_reduces (h : 0 < l.quantity ∧ d < 0 ∨ l.quantity < 0 ∧ 0 < d)
    (hle : |d| ≤ |l.quantity|) : l.gain p d = (l.cost - p) * d := by
  have hd : d ≠ 0 := by
    rcases h with ⟨_, hd⟩ | ⟨_, hd⟩
    · exact ne_of_lt hd
    · exact ne_of_gt hd
  unfold gain
  rw [if_pos ((opposes_iff hd).mpr h), min_eq_right hle]
  rcases h with ⟨hq, hd⟩ | ⟨hq, hd⟩
  · rw [if_pos hq, abs_of_neg hd]
    ring
  · rw [if_neg (lt_asymm hq), abs_of_pos hd]
    ring

theorem gain_of_crosses (h : 0 < l.quantity ∧ d < 0 ∨ l.quantity < 0 ∧ 0 < d)
    (hle : |l.quantity| ≤ |d|) : l.gain p d = (p - l.cost) * l.quantity := by
  have hd : d ≠ 0 := by
    rcases h with ⟨_, hd⟩ | ⟨_, hd⟩
    · exact ne_of_lt hd
    · exact ne_of_gt hd
  unfold gain
  rw [if_pos ((opposes_iff hd).mpr h), min_eq_left hle]
  rcases h with ⟨hq, hd⟩ | ⟨hq, hd⟩
  · rw [if_pos hq, abs_of_pos hq]
    ring
  · rw [if_neg (lt_asymm hq), abs_of_neg hq]
    ring

/-- **Conservation.** The value at cost moves by the price paid and the gain
realized; a lot that is closed is worth nothing at any cost. -/
theorem trade_value (hd : d ≠ 0) :
    (l.quantity + d) * l.costAfter p d = l.value + p * d + l.gain p d := by
  unfold costAfter
  by_cases hext : l.Extends d
  · have hgain : l.gain p d = 0 := if_neg ((extends_iff_not_opposes hd).mp hext)
    rw [if_pos hext, hgain, add_zero]
    exact value_of_extends hext
  · have hopp : l.Opposes d := by
      by_contra hn
      exact hext ((extends_iff_not_opposes hd).mpr hn)
    have hsides := (opposes_iff hd).mp hopp
    rw [if_neg hext]
    unfold value
    by_cases hzero : l.quantity + d = 0
    · -- Closing: both sides are the gain against the price paid.
      have hdq : d = -l.quantity := by linarith
      have hle : |d| ≤ |l.quantity| := by rw [hdq, abs_neg]
      rw [hzero, zero_mul, gain_of_reduces hsides hle, hdq]
      ring
    · by_cases hcross : |l.quantity| < |d|
      · have hturned : l.Opposes (l.quantity + d) := by
          rw [opposes_iff hzero]
          rcases hsides with ⟨hq, hd⟩ | ⟨hq, hd⟩
          · rw [abs_of_pos hq, abs_of_neg hd] at hcross
            exact Or.inl ⟨hq, by linarith⟩
          · rw [abs_of_neg hq, abs_of_pos hd] at hcross
            exact Or.inr ⟨hq, by linarith⟩
        rw [if_pos hturned, gain_of_crosses hsides (le_of_lt hcross)]
        ring
      · have hle : |d| ≤ |l.quantity| := not_lt.mp hcross
        have hstays : ¬l.Opposes (l.quantity + d) := by
          rw [opposes_iff hzero]
          intro hor
          rcases hsides with ⟨hq, hd⟩ | ⟨hq, hd⟩
          · rw [abs_of_pos hq, abs_of_neg hd] at hle
            rcases hor with ⟨_, h⟩ | ⟨h, _⟩
            · linarith
            · linarith
          · rw [abs_of_neg hq, abs_of_pos hd] at hle
            rcases hor with ⟨h, _⟩ | ⟨_, h⟩
            · linarith
            · linarith
        rw [if_neg hstays, gain_of_reduces hsides hle]
        ring

theorem costAfter_nonneg (hc : 0 ≤ l.cost) (hp : 0 ≤ p) : 0 ≤ l.costAfter p d := by
  unfold costAfter
  split
  · apply div_nonneg
    · exact add_nonneg (mul_nonneg hc (abs_nonneg _)) (mul_nonneg hp (abs_nonneg _))
    · exact add_nonneg (abs_nonneg _) (abs_nonneg _)
  · split
    · exact hp
    · exact hc

omit [LinearOrder K] [IsStrictOrderedRing K] in
theorem value_split {r : K} (hr : r ≠ 0) (l : Lot K) :
    (Lot.mk (l.quantity * r) (l.cost / r)).value = l.value := by
  unfold value
  field_simp

end Lot

end AdvisorAI.Lib
