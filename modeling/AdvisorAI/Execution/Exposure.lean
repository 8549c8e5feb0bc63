import AdvisorAI.Execution.AccountBooks
import AdvisorAI.Execution.Risk

/-!
# Exposure

What the exposure limits of a policy are about: a book of cash and holdings,
valued at marks. A trade moves one holding and the cash (`Book.trade`), a fill
of the account is a trade of its book (`applyFill_book`), and `Book.Within` says
that the book keeps the limits, all holdings counted.
-/

namespace AdvisorAI

open Lib AccountState RiskKernel Local

/-- A bound of the policy for one limit, if it has one. -/
def RiskPolicy.Bounds (policy : RiskPolicy) (k : HardLimit) (P : ℚ → Prop) : Prop :=
  ∀ limit ∈ policy.hardLimits, limit.name = k.name → P limit.limit.value

structure Book where
  cash : ℚ
  positions : Dict String ℚ

def AccountState.book (s : AccountState ℚ) : Book := ⟨s.cash, s.positions⟩

namespace Book

variable (b : Book) (marks : Dict String ℚ) (i : String) (price d : ℚ)

def held : ℚ := b.positions.getD i 0

/-- The value of the holdings of an instrument. -/
def notional : ℚ := b.held i * marks.getD i 0

def gross : ℚ := grossValue b.positions marks

def net : ℚ := netValue b.positions marks

def equity : ℚ := b.cash + b.net marks

/-- Every instrument that is held has a mark. -/
def Marked : Prop := ∀ i, b.held i ≠ 0 → marks.get i ≠ none

/-- `d` units change hands at a price. -/
def trade : Book where
  cash := b.cash - price * d
  positions := if b.held i + d = 0 then b.positions.erase i else b.positions.set i (b.held i + d)

theorem held_trade (j : String) :
    (b.trade i price d).held j = if j = i then b.held i + d else b.held j := by
  unfold trade held Dict.getD
  by_cases hzero : (b.positions.get i).getD 0 + d = 0
  · rw [if_pos hzero, Dict.get_erase]
    by_cases hj : j = i
    · rw [if_pos hj, if_pos hj, hzero]
      rfl
    · rw [if_neg hj, if_neg hj]
  · rw [if_neg hzero, Dict.get_set]
    by_cases hj : j = i
    · rw [if_pos hj, if_pos hj]
      rfl
    · rw [if_neg hj, if_neg hj]

variable {f : String → ℚ → ℚ}

theorem term_held {b : Book} {i : String} (hf : f i 0 = 0) :
    b.positions.term f i = f i (b.held i) := by
  unfold Dict.term held Dict.getD
  cases b.positions.get i with
  | none => exact hf.symm
  | some q => rfl

theorem sum_trade (hf : f i 0 = 0) :
    (b.trade i price d).positions.sum f
      = b.positions.sum f - f i (b.held i) + f i (b.held i + d) := by
  have hterm : b.positions.term f i = f i (b.held i) := term_held hf
  unfold trade
  by_cases hzero : b.held i + d = 0
  · rw [if_pos hzero, Dict.sum_erase, hterm, hzero, hf, add_zero]
  · rw [if_neg hzero, Dict.sum_set, hterm]

theorem net_trade : (b.trade i price d).net marks = b.net marks + d * marks.getD i 0 := by
  have h := b.sum_trade i price d (f := fun i q => q * marks.getD i 0) (zero_mul _)
  unfold net netValue
  rw [h]
  ring

theorem equity_trade :
    (b.trade i price d).equity marks = b.equity marks + d * (marks.getD i 0 - price) := by
  unfold equity
  rw [net_trade]
  show b.cash - price * d + _ = _
  ring

theorem notional_trade_ne {j : String} (hj : j ≠ i) :
    (b.trade i price d).notional marks j = b.notional marks j := by
  unfold notional
  rw [held_trade, if_neg hj]

theorem gross_nonneg : 0 ≤ b.gross marks := by
  refine List.sum_nonneg ?_
  intro value hvalue
  obtain ⟨e, -, rfl⟩ := List.mem_map.mp hvalue
  exact abs_nonneg _

theorem notional_le_gross : |b.notional marks i| ≤ b.gross marks := by
  have hterm := term_held (b := b) (i := i) (f := fun i q => |q * marks.getD i 0|) (by simp)
  have herase := Dict.sum_erase b.positions (fun i q => |q * marks.getD i 0|) i
  have hrest : 0 ≤ (Book.mk b.cash (b.positions.erase i)).gross marks := gross_nonneg _ _
  unfold gross grossValue at hrest ⊢
  unfold notional
  linarith

theorem concentrated_iff (bound : ℚ) :
    (b.gross marks ≠ 0 → |b.notional marks i| / b.gross marks ≤ bound)
      ↔ |b.notional marks i| ≤ bound * b.gross marks := by
  by_cases hzero : b.gross marks = 0
  · have hnotional := b.notional_le_gross marks i
    rw [hzero] at hnotional ⊢
    simpa using hnotional
  · have hpos : 0 < b.gross marks := lt_of_le_of_ne (b.gross_nonneg marks) (Ne.symm hzero)
    rw [div_le_iff₀ hpos]
    exact ⟨fun h => h hzero, fun h _ => h⟩

/-! ## The exposure limits -/

/-- The exposure is at most `bound` times the equity. -/
def Levered (bound : ℚ) : Prop :=
  b.gross marks = 0 ∨ 0 < b.equity marks ∧ b.gross marks ≤ bound * b.equity marks

/-- The book keeps the exposure limits of a policy. -/
structure Within (policy : RiskPolicy) : Prop where
  gross : policy.Bounds .maxGrossNotional (b.gross marks ≤ ·)
  net : policy.Bounds .maxNetNotional (|b.net marks| ≤ ·)
  position : policy.Bounds .maxPositionNotional fun bound => ∀ i, |b.notional marks i| ≤ bound
  leverage : policy.Bounds .maxLeverage (b.Levered marks)
  concentration : policy.Bounds .maxConcentration fun bound =>
    ∀ i, |b.notional marks i| ≤ bound * b.gross marks
  cash : policy.Bounds .maxCashDeficit (Max.max 0 (-b.cash) ≤ ·)

end Book

/-! ## Fills and figures of the account -/

section Account

variable {s s' : AccountState ℚ} {instrument side : String}

theorem accepted_movePosition_book {P : AccountState ℚ → Prop} {price quantity average d : ℚ}
    {x : Account ℚ Unit} (h : ∀ averageCost, Accepted x P { s with
      positions := if quantity + d = 0 then s.positions.erase instrument
        else s.positions.set instrument (quantity + d)
      averageCost := averageCost }) :
    Accepted (do movePosition instrument price quantity average d (quantity + d); x) P s := by
  have hnew : Arith.isZero (quantity + d) = true ↔ quantity + d = 0 := by simp
  refine wp_bind ?_
  refine accepted_ite ?_ ?_
  · intro hzero
    rw [if_pos (hnew.mp hzero)] at h
    exact wp_modify (h _)
  · intro hne
    rw [hnew] at hne
    rw [if_neg hne] at h
    refine accepted_ite ?_ ?_
    · intro _
      refine wp_bind (wp_assign ?_ fun _ _ => trivial)
      intro s' hs'
      cases haverage : extendedAverage price quantity average d with
      | error e =>
        rw [haverage] at hs'
        cases hs'
      | ok newAverage =>
        rw [haverage] at hs'
        cases hs'
        exact wp_modify (h _)
    · intro _
      refine accepted_modify (accepted_ite ?_ ?_)
      · intro _
        exact wp_modify (h _)
      · intro _
        exact wp_pure (h _)

theorem applyFill_book {fill : AccountFill ℚ} {d : ℚ}
    (hd : signed (lower (strip side)) fill.quantity = .ok d)
    (hstrip : strip instrument = instrument) (hfee : fill.fee = 0)
    (hfill : Local.result (applyFill fill side instrument) s = .ok s') :
    s'.book = s.book.trade instrument fill.price d := by
  have haccepted : Accepted (applyFill fill side instrument)
      (fun s' => s'.book = s.book.trade instrument fill.price d) s := by
    refine accepted_ite (fun _ => accepted_raise) ?_
    intro _
    refine accepted_ite (fun _ => accepted_raise) ?_
    intro _
    refine wp_bind (wp_lift ?_ fun _ _ => trivial)
    intro d' hd'
    rw [hd] at hd'
    cases hd'
    refine wp_bind (wp_read (wp_bind (wp_read (wp_bind ?_))))
    refine wp_lift ?_ fun _ _ => trivial
    intro newQuantity hnew
    cases hnew
    refine wp_bind (wp_read ?_)
    rw [hstrip]
    refine accepted_closeOut (l := s.lot instrument) (accepted_movePosition_book ?_)
    intro averageCost
    refine accepted_bookTotals ?_
    intro peak
    rw [hfee, sub_zero]
    rfl
  exact wp_result haccepted hfill

theorem grossNotional_exact :
    s.grossNotional = .ok (s.positions.sum fun i q => |q| * s.marks.getD i 0) := by
  have h := arith_sum (s.positions.entries.map fun e => |e.2| * s.marks.getD e.1 0)
  rw [List.map_map] at h
  exact h

theorem equity_exact : s.equity = .ok (s.book.equity s.marks) := by
  have h := arith_sum (s.positions.entries.map fun e => e.2 * s.marks.getD e.1 0)
  rw [List.map_map] at h
  show (do Arith.add s.cash (← Arith.sum (s.positions.entries.map _))) = _
  exact congrArg (fun sum : Except PyError ℚ => do Arith.add s.cash (← sum)) h

def exactFigures (s : AccountState ℚ) : AccountFigures where
  gross := s.positions.sum fun i q => |q| * s.marks.getD i 0
  equity := s.book.equity s.marks
  drawdown := Max.max 0 (s.peakOr 0 - s.book.equity s.marks)

theorem accountFigures_exact : accountFigures s = .ok (exactFigures s) := by
  have hdrawdown : s.drawdown = .ok (Max.max 0 (s.peakOr 0 - s.book.equity s.marks)) := by
    unfold AccountState.drawdown
    rw [equity_exact]
    have hmax : Arith.max (0 : ℚ) (s.peakOr 0 - s.book.equity s.marks)
        = Max.max 0 (s.peakOr 0 - s.book.equity s.marks) := arith_max _ _
    exact congrArg Except.ok hmax
  unfold accountFigures
  rw [grossNotional_exact, equity_exact, hdrawdown]
  rfl

end Account

end AdvisorAI
