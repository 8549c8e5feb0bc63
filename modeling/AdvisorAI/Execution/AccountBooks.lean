import AdvisorAI.Execution.Account
import AdvisorAI.Lib.AverageCost
import AdvisorAI.Lib.Runs

/-!
# The books of an account

With exact numbers the account is a set of books: what came in, what was
earned and what was paid account for the cash and for the positions at average
cost. `InBalance` is that equation together with the shape of the two
dictionaries it ranges over. Every mutator moves several fields and keeps it; a
fill moves positions and costs as `Lib.Lot` says a trade does.
-/

namespace AdvisorAI

open Lib AccountState Local Dict

variable {s s' : AccountState ℚ} {transfers transfers' : ℚ}

def AccountState.bookValue (s : AccountState ℚ) : ℚ :=
  s.positions.sum fun instrument quantity => quantity * s.averageCost.getD instrument 0

/-- The books balance, given what was transferred in and out. -/
structure InBalance (transfers : ℚ) (s : AccountState ℚ) : Prop where
  identity : ∃ start, s.startingCash = some start ∧
    s.cash + s.bookValue = start + transfers + s.realizedPnl - s.feesPaid - s.fundingPaid -
      s.borrowPaid + s.fxAdjustments + s.corporateActionAdjustments
  sameKeys : ∀ i, i ∈ s.averageCost.keys ↔ i ∈ s.positions.keys
  nonzero : ∀ quantity ∈ s.positions.values, quantity ≠ 0
  costs : ∀ cost ∈ s.averageCost.values, 0 ≤ cost
  daily : s.dailyRealizedPnl = s.realizedPnl - s.feesPaid - s.fundingPaid - s.borrowPaid

theorem InBalance.post (h : InBalance transfers s) (hpositions : s'.positions = s.positions)
    (hcosts : s'.averageCost = s.averageCost) (hstart : s'.startingCash = s.startingCash)
    (hcash : s'.cash - s.cash = transfers' - transfers + (s'.realizedPnl - s.realizedPnl) -
      (s'.feesPaid - s.feesPaid) - (s'.fundingPaid - s.fundingPaid) -
      (s'.borrowPaid - s.borrowPaid) + (s'.fxAdjustments - s.fxAdjustments) +
      (s'.corporateActionAdjustments - s.corporateActionAdjustments))
    (hdaily : s'.dailyRealizedPnl - s.dailyRealizedPnl = s'.realizedPnl - s.realizedPnl -
      (s'.feesPaid - s.feesPaid) - (s'.fundingPaid - s.fundingPaid) -
      (s'.borrowPaid - s.borrowPaid)) : InBalance transfers' s' := by
  obtain ⟨start, hs, hid⟩ := h.identity
  have hbook : s'.bookValue = s.bookValue := by
    unfold bookValue
    rw [hpositions, hcosts]
  refine ⟨⟨start, hstart.trans hs, ?_⟩, ?_, ?_, ?_, ?_⟩
  · rw [hbook]
    linarith
  · rw [hpositions, hcosts]
    exact h.sameKeys
  · rw [hpositions]
    exact h.nonzero
  · rw [hcosts]
    exact h.costs
  · have := h.daily
    linarith

/-! ## Mutators that return -/

/-- Where the mutator returns, the account satisfies `P`. -/
def Accepted (x : Account ℚ Unit) (P : AccountState ℚ → Prop) (s : AccountState ℚ) : Prop :=
  Local.wp x (fun _ s' => P s') (fun _ _ => True) s

section Rules

variable {P : AccountState ℚ → Prop}

theorem accepted_raise {e : PyError} : Accepted (Local.raise e) P s := wp_raise trivial

variable {x y : Account ℚ Unit}

theorem accepted_assign {f : AccountState ℚ → Except PyError (AccountState ℚ)} (hf : f s = .ok s')
    (h : Accepted x P s') :
    Accepted (do Local.assign f; x) P s :=
  wp_bind (wp_assign_ok hf h)

theorem accepted_modify {f : AccountState ℚ → AccountState ℚ} (h : Accepted x P (f s)) :
    Accepted (do Local.modify f; x) P s :=
  wp_bind (wp_modify h)

theorem accepted_aware {d : Datetime} {x : Timestamp → Account ℚ Unit}
    (h : ∀ t, aware d = .ok t → Accepted (x t) P s) :
    Accepted (do let t ← Local.lift (aware d); x t) P s :=
  wp_bind (wp_lift h (fun _ _ => trivial))

theorem accepted_advance {t : Timestamp}
    (h : ∀ peak, P { s with asOf := Max.max s.asOf t, peakEquity := peak }) :
    Accepted (advance t) P s := by
  refine accepted_modify ?_
  refine wp_assign ?_ (fun _ _ => trivial)
  intro s' hs'
  generalize hs₁ : ({ s with asOf := Max.max s.asOf t } : AccountState ℚ) = s₁ at hs'
  cases he : s₁.equity with
  | error e =>
    rw [he] at hs'
    cases hs'
  | ok equity =>
    rw [he] at hs'
    cases hs'
    rw [← hs₁]
    exact h _

theorem accepted_payCost {amount : ℚ} (h : Accepted x P { s with
      cash := s.cash - amount
      dailyRealizedPnl := s.dailyRealizedPnl - amount
      rollingRealizedPnl := s.rollingRealizedPnl - amount }) :
    Accepted (do payCost amount; x) P s := by
  refine wp_bind ?_
  refine accepted_assign rfl (accepted_assign rfl ?_)
  exact wp_assign_ok rfl h

theorem accepted_creditAction {amount : ℚ} (h : Accepted x P { s with
      corporateActionAdjustments := s.corporateActionAdjustments + amount
      cash := s.cash + amount }) :
    Accepted (do creditAction amount; x) P s := by
  refine wp_bind ?_
  refine accepted_assign rfl ?_
  exact wp_assign_ok rfl h

theorem accepted_ite {c : Prop} {_ : Decidable c} (ht : c → Accepted x P s)
    (he : ¬c → Accepted y P s) : Accepted (if c then x else y) P s :=
  wp_ite ht he

end Rules

/-! ## Totals -/

theorem applyFunding_balance (h : InBalance transfers s) (amount : ℚ) (at' : Datetime) :
    Accepted (applyFunding amount at') (InBalance transfers) s := by
  refine accepted_ite (fun _ => accepted_raise) ?_
  intro _
  refine accepted_assign rfl (accepted_payCost (accepted_aware ?_))
  intro t _
  refine accepted_advance ?_
  intro peak
  refine h.post rfl rfl rfl ?_ ?_
  · ring
  · ring

theorem applyBorrow_balance (h : InBalance transfers s) (amount : ℚ) (at' : Datetime) :
    Accepted (applyBorrow amount at') (InBalance transfers) s := by
  refine accepted_ite (fun _ => accepted_raise) ?_
  intro _
  refine accepted_aware ?_
  intro t _
  refine accepted_assign rfl (accepted_payCost (accepted_advance ?_))
  intro peak
  refine h.post rfl rfl rfl ?_ ?_
  · ring
  · ring

theorem applyCashTransfer_balance (h : InBalance transfers s) (amount : ℚ) (at' : Datetime) :
    Accepted (applyCashTransfer amount at') (InBalance (transfers + amount)) s := by
  refine accepted_ite (fun _ => accepted_raise) ?_
  intro _
  refine accepted_aware ?_
  intro t _
  refine accepted_assign rfl (accepted_advance ?_)
  intro peak
  refine h.post rfl rfl rfl ?_ ?_
  · ring
  · ring

theorem applyFxAdjustment_balance (h : InBalance transfers s) (amount : ℚ) (at' : Datetime) :
    Accepted (applyFxAdjustment amount at') (InBalance transfers) s := by
  refine accepted_ite (fun _ => accepted_raise) ?_
  intro _
  refine accepted_aware ?_
  intro t _
  refine accepted_assign rfl (accepted_assign rfl (accepted_advance ?_))
  intro peak
  refine h.post rfl rfl rfl ?_ ?_
  · ring
  · ring

theorem applyCorporateAction_balance (h : InBalance transfers s) (amount : ℚ)
    (at' : Datetime) : Accepted (applyCorporateAction amount at') (InBalance transfers) s := by
  refine accepted_ite (fun _ => accepted_raise) ?_
  intro _
  refine accepted_aware ?_
  intro t _
  refine accepted_creditAction (accepted_advance ?_)
  intro peak
  refine h.post rfl rfl rfl ?_ ?_
  · ring
  · ring

theorem applyDividend_balance (h : InBalance transfers s) (instrument : String) (perUnit : ℚ)
    (at' : Datetime) : Accepted (applyDividend instrument perUnit at') (InBalance transfers) s := by
  refine accepted_ite (fun _ => accepted_raise) ?_
  intro _
  refine accepted_ite (fun _ => accepted_raise) ?_
  intro _
  refine accepted_aware ?_
  intro t _
  refine wp_bind (wp_read (wp_bind (wp_lift ?_ (fun _ _ => trivial))))
  intro amount _
  refine accepted_ite ?_ ?_
  · intro _
    refine accepted_advance ?_
    intro peak
    refine h.post rfl rfl rfl ?_ ?_
    · ring
    · ring
  · intro _
    refine accepted_creditAction (accepted_advance ?_)
    intro peak
    refine h.post rfl rfl rfl ?_ ?_
    · ring
    · ring

theorem updateMargin_balance (h : InBalance transfers s) (used available : ℚ) (at' : Datetime) :
    Accepted (updateMargin used available at') (InBalance transfers) s := by
  refine accepted_ite (fun _ => accepted_raise) ?_
  intro _
  refine accepted_modify (accepted_aware ?_)
  intro t _
  refine accepted_advance ?_
  intro peak
  refine h.post rfl rfl rfl ?_ ?_
  · ring
  · ring

theorem mark_balance (h : InBalance transfers s) (instrument : String) (price : ℚ)
    (at' : Datetime) :
    Accepted (AccountState.mark instrument price at') (InBalance transfers) s := by
  refine accepted_ite (fun _ => accepted_raise) ?_
  intro _
  refine accepted_ite (fun _ => accepted_raise) ?_
  intro _
  refine accepted_aware ?_
  intro t _
  refine accepted_modify (accepted_advance ?_)
  intro peak
  refine h.post rfl rfl rfl ?_ ?_
  · ring
  · ring

/-! ## Positions -/

/-- The lot the account holds of an instrument. -/
def AccountState.lot (s : AccountState ℚ) (instrument : String) : Lot ℚ :=
  ⟨s.positions.getD instrument 0, s.averageCost.getD instrument 0⟩

/-- The account after its lot of an instrument was replaced. -/
def AccountState.setLot (s : AccountState ℚ) (instrument : String) (l : Lot ℚ) :
    AccountState ℚ :=
  { s with
    positions := if l.quantity = 0 then s.positions.erase instrument
      else s.positions.set instrument l.quantity
    averageCost := if l.quantity = 0 then s.averageCost.erase instrument
      else s.averageCost.set instrument l.cost }

variable {instrument side : String}

theorem setLot_held {l : Lot ℚ} (h : l.quantity ≠ 0) :
    s.setLot instrument l = { s with
      positions := s.positions.set instrument l.quantity
      averageCost := s.averageCost.set instrument l.cost } := by
  unfold setLot
  rw [if_neg h, if_neg h]

private theorem term_lot (s : AccountState ℚ) (instrument : String) :
    s.positions.term (fun i quantity => quantity * s.averageCost.getD i 0) instrument
      = (s.lot instrument).value := by
  unfold Dict.term lot Lot.value Dict.getD
  cases s.positions.get instrument with
  | none => simp
  | some quantity => rfl

theorem bookValue_setLot (s : AccountState ℚ) (instrument : String) (l : Lot ℚ) :
    (s.setLot instrument l).bookValue
      = s.bookValue - (s.lot instrument).value + l.value := by
  have hagree : ∀ (d : Dict String ℚ), (∀ j, j ≠ instrument → d.get j = s.averageCost.get j) →
      ∀ j, j ≠ instrument → ∀ q : ℚ, q * d.getD j 0 = q * s.averageCost.getD j 0 := by
    intro d hd j hj q
    unfold Dict.getD
    rw [hd j hj]
  rw [← term_lot]
  unfold setLot
  by_cases hzero : l.quantity = 0
  · rw [if_pos hzero, if_pos hzero]
    have hvalue : l.value = 0 := by
      unfold Lot.value
      rw [hzero, zero_mul]
    rw [hvalue, add_zero]
    refine sum_erase_of_agree s.positions (hagree _ ?_)
    intro j hj
    rw [get_erase, if_neg hj]
  · rw [if_neg hzero, if_neg hzero]
    have hvalue : l.value = l.quantity * (s.averageCost.set instrument l.cost).getD instrument 0 := by
      unfold Dict.getD
      rw [get_set_self]
      rfl
    rw [hvalue]
    refine sum_set_of_agree s.positions l.quantity (hagree _ ?_)
    intro j hj
    rw [get_set_ne _ hj]

/-- Replacing a lot by one of non-negative cost keeps the shape of the books;
the identity moves by the value the lot gained. -/
theorem InBalance.setLot (h : InBalance transfers s) (instrument : String) {l : Lot ℚ}
    (hcost : 0 ≤ l.cost) :
    (∀ i, i ∈ (s.setLot instrument l).averageCost.keys ↔
      i ∈ (s.setLot instrument l).positions.keys) ∧
    (∀ quantity ∈ (s.setLot instrument l).positions.values, quantity ≠ 0) ∧
    (∀ cost ∈ (s.setLot instrument l).averageCost.values, 0 ≤ cost) := by
  unfold AccountState.setLot
  by_cases hzero : l.quantity = 0
  · rw [if_pos hzero, if_pos hzero]
    refine ⟨?_, ?_, ?_⟩
    · intro i
      rw [mem_keys_erase, mem_keys_erase, h.sameKeys]
    · intro quantity hmem
      obtain ⟨i, hi⟩ := mem_values_iff.mp hmem
      rw [get_erase] at hi
      split at hi
      · cases hi
      · exact h.nonzero quantity (mem_values_iff.mpr ⟨i, hi⟩)
    · intro cost hmem
      obtain ⟨i, hi⟩ := mem_values_iff.mp hmem
      rw [get_erase] at hi
      split at hi
      · cases hi
      · exact h.costs cost (mem_values_iff.mpr ⟨i, hi⟩)
  · rw [if_neg hzero, if_neg hzero]
    refine ⟨?_, ?_, ?_⟩
    · intro i
      rw [mem_keys_set, mem_keys_set, h.sameKeys]
    · intro quantity hmem
      obtain ⟨i, hi⟩ := mem_values_iff.mp hmem
      rw [get_set] at hi
      split at hi
      · cases hi
        exact hzero
      · exact h.nonzero quantity (mem_values_iff.mpr ⟨i, hi⟩)
    · intro cost hmem
      obtain ⟨i, hi⟩ := mem_values_iff.mp hmem
      rw [get_set] at hi
      split at hi
      · cases hi
        exact hcost
      · exact h.costs cost (mem_values_iff.mpr ⟨i, hi⟩)

theorem InBalance.lot_cost (h : InBalance transfers s) (instrument : String) :
    0 ≤ (s.lot instrument).cost := by
  unfold AccountState.lot Dict.getD
  cases hget : s.averageCost.get instrument with
  | none => exact le_refl _
  | some cost => exact h.costs cost (mem_values_iff.mpr ⟨instrument, hget⟩)

theorem InBalance.cost_recorded (h : InBalance transfers s)
    (hheld : (s.lot instrument).quantity ≠ 0) :
    s.averageCost.get instrument = some (s.lot instrument).cost := by
  have hkey : instrument ∈ s.averageCost.keys := by
    rw [h.sameKeys]
    by_contra hn
    apply hheld
    unfold AccountState.lot Dict.getD
    rw [get_eq_none_iff.mpr hn]
    rfl
  obtain ⟨cost, hcost⟩ := mem_keys_iff.mp hkey
  unfold AccountState.lot Dict.getD
  rw [hcost]
  rfl

/-! ## Fills -/

private theorem opposes_iff_bool (l : Lot ℚ) (d : ℚ) :
    (!Arith.isZero l.quantity &&
      Arith.lt Arith.zero l.quantity != Arith.lt Arith.zero d) = true ↔ l.Opposes d := by
  unfold Lot.Opposes
  simp

private theorem extends_iff_bool (l : Lot ℚ) (d : ℚ) :
    ((!Arith.lt l.quantity Arith.zero && Arith.lt Arith.zero d) ||
      (!Arith.lt Arith.zero l.quantity && Arith.lt d Arith.zero)) = true ↔ l.Extends d := by
  unfold Lot.Extends
  simp

section Rules

variable {P : AccountState ℚ → Prop} {l : Lot ℚ} {price d : ℚ} {x : Account ℚ Unit}

theorem accepted_closeOut
    (h : Accepted x P { s with realizedPnl := s.realizedPnl + l.gain price d }) :
    Accepted (do closeOut price l.quantity l.cost d; x) P s := by
  refine wp_bind ?_
  refine accepted_ite ?_ ?_
  · intro hopp
    have hgain : l.gain price d = (price - l.cost) * Arith.min |l.quantity| |d| *
        (if 0 < l.quantity then 1 else -1) := by
      unfold Lot.gain
      rw [if_pos ((opposes_iff_bool l d).mp hopp), arith_min]
    have hdirection : direction l.quantity = .ok (if 0 < l.quantity then 1 else -1) := by
      unfold direction
      by_cases hq : 0 < l.quantity
      · simp [hq]
      · simp [hq]
    refine wp_assign_ok ?_ h
    rw [hgain, hdirection]
    rfl
  · intro hopp
    have hgain : l.gain price d = 0 := if_neg fun ho => hopp ((opposes_iff_bool l d).mpr ho)
    rw [hgain, add_zero] at h
    exact wp_pure h

/-- The position moves as the lot's trade does. -/
theorem accepted_movePosition {instrument : String} (hd : d ≠ 0)
    (hrecorded : l.quantity ≠ 0 → s.averageCost.get instrument = some l.cost)
    (h : Accepted x P (s.setLot instrument ⟨l.quantity + d, l.costAfter price d⟩)) :
    Accepted (do movePosition instrument price l.quantity l.cost d (l.quantity + d); x) P s := by
  have hnew : Arith.isZero (l.quantity + d) = true ↔ l.quantity + d = 0 := by simp
  unfold setLot at h
  refine wp_bind ?_
  refine accepted_ite ?_ ?_
  · intro hzero
    rw [if_pos (hnew.mp hzero), if_pos (hnew.mp hzero)] at h
    exact wp_modify h
  · intro hne
    rw [hnew] at hne
    rw [if_neg hne, if_neg hne] at h
    refine accepted_ite ?_ ?_
    · intro hext
      have hextends := (extends_iff_bool l d).mp hext
      have htotal : |l.quantity| + |d| ≠ 0 :=
        ne_of_gt (add_pos_of_nonneg_of_pos (abs_nonneg _) (abs_pos.mpr hd))
      have haverage : extendedAverage price l.quantity l.cost d = .ok (l.costAfter price d) := by
        have hcost : l.costAfter price d
            = (l.cost * |l.quantity| + price * |d|) / (|l.quantity| + |d|) := if_pos hextends
        rw [hcost, ← arith_div _ htotal]
        rfl
      have hassigned : (do
            let average ← extendedAverage price l.quantity l.cost d
            return { s with averageCost := s.averageCost.set instrument average })
          = (.ok { s with averageCost := s.averageCost.set instrument (l.costAfter price d) } :
            Except PyError (AccountState ℚ)) := by
        rw [haverage]
        rfl
      exact accepted_assign hassigned (wp_modify h)
    · intro hext
      rw [extends_iff_bool] at hext
      have hopp : l.Opposes d := by
        by_contra hn
        exact hext ((Lot.extends_iff_not_opposes hd).mpr hn)
      refine accepted_modify ?_
      refine accepted_ite ?_ ?_
      · intro hcross
        have hcost : l.costAfter price d = price := by
          unfold Lot.costAfter
          rw [if_neg hext, if_pos ((opposes_iff_bool l _).mp hcross)]
        rw [hcost] at h
        exact wp_modify h
      · intro hstays
        have hcost : l.costAfter price d = l.cost := by
          unfold Lot.costAfter
          rw [if_neg hext, if_neg (fun hc => hstays ((opposes_iff_bool l _).mpr hc))]
        rw [hcost, set_of_get_eq (hrecorded hopp.1)] at h
        exact wp_pure h

end Rules

variable {fill : AccountFill ℚ}

private theorem signed_ne_zero {d : ℚ} (h : signed side fill.quantity = .ok d) : d ≠ 0 := by
  have hpos : 0 < fill.quantity := of_decide_eq_true fill.quantity_pos
  unfold signed at h
  split at h
  · cases h
    exact ne_of_gt hpos
  · cases h
    exact neg_ne_zero.mpr (ne_of_gt hpos)

theorem accepted_bookTotals {d before : ℚ} {P : AccountState ℚ → Prop} (h : ∀ peak, P { s with
      cash := s.cash - fill.price * d - fill.fee
      feesPaid := s.feesPaid + fill.fee
      dailyRealizedPnl := s.dailyRealizedPnl + (s.realizedPnl - before - fill.fee)
      rollingRealizedPnl := s.rollingRealizedPnl + (s.realizedPnl - before - fill.fee)
      asOf := Max.max s.asOf fill.occurredAt
      peakEquity := peak }) : Accepted (bookTotals fill d before) P s := by
  refine accepted_assign rfl (accepted_assign rfl (accepted_assign rfl ?_))
  refine wp_bind (wp_read (wp_bind (wp_lift ?_ (fun _ _ => trivial))))
  intro delta hdelta
  cases hdelta
  refine wp_bind (wp_lift ?_ (fun _ _ => trivial))
  intro change hchange
  cases hchange
  exact accepted_assign rfl (accepted_assign rfl (accepted_advance h))

variable {t : Timestamp} {rolling value value' ratio cash : ℚ}

private theorem trade_balance (h : InBalance transfers s) {l : Lot ℚ} (hl : s.lot instrument = l)
    {price fee d : ℚ} (hd : d ≠ 0) (hprice : 0 ≤ price) {peak : Option ℚ} :
    InBalance transfers { s.setLot instrument ⟨l.quantity + d, l.costAfter price d⟩ with
      realizedPnl := s.realizedPnl + l.gain price d
      cash := s.cash - price * d - fee
      feesPaid := s.feesPaid + fee
      dailyRealizedPnl := s.dailyRealizedPnl +
        (s.realizedPnl + l.gain price d - s.realizedPnl - fee)
      rollingRealizedPnl := rolling
      asOf := t
      peakEquity := peak } := by
  have hcost : 0 ≤ l.costAfter price d := Lot.costAfter_nonneg (hl ▸ h.lot_cost _) hprice
  obtain ⟨hkeys, hnonzero, hnonneg⟩ := h.setLot instrument
    (l := ⟨l.quantity + d, l.costAfter price d⟩) hcost
  obtain ⟨start, hstart, hid⟩ := h.identity
  have hbook := bookValue_setLot s instrument ⟨l.quantity + d, l.costAfter price d⟩
  have hvalue : (Lot.mk (l.quantity + d) (l.costAfter price d)).value
      = l.value + price * d + l.gain price d := Lot.trade_value hd
  rw [hl, hvalue] at hbook
  refine ⟨⟨start, hstart, ?_⟩, hkeys, hnonzero, hnonneg, ?_⟩
  · show s.cash - price * d - fee +
        (s.setLot instrument ⟨l.quantity + d, l.costAfter price d⟩).bookValue
      = start + transfers + (s.realizedPnl + l.gain price d) - (s.feesPaid + fee) -
        s.fundingPaid - s.borrowPaid + s.fxAdjustments + s.corporateActionAdjustments
    rw [hbook]
    linarith
  · show s.dailyRealizedPnl + (s.realizedPnl + l.gain price d - s.realizedPnl - fee)
      = s.realizedPnl + l.gain price d - (s.feesPaid + fee) - s.fundingPaid - s.borrowPaid
    have := h.daily
    linarith

/-- **Fills.** The books balance after a fill. -/
theorem applyFill_balance (h : InBalance transfers s) (fill : AccountFill ℚ)
    (side instrumentId : String) :
    Accepted (applyFill fill side instrumentId) (InBalance transfers) s := by
  refine accepted_ite (fun _ => accepted_raise) ?_
  intro _
  refine accepted_ite (fun _ => accepted_raise) ?_
  intro _
  refine wp_bind (wp_lift ?_ (fun _ _ => trivial))
  intro d hsigned
  have hd := signed_ne_zero hsigned
  refine wp_bind (wp_read (wp_bind (wp_read (wp_bind ?_))))
  refine wp_lift ?_ (fun _ _ => trivial)
  intro newQuantity hnew
  cases hnew
  refine wp_bind (wp_read ?_)
  have hprice : 0 ≤ fill.price := le_of_lt (of_decide_eq_true fill.price_pos)
  generalize hl : s.lot (strip instrumentId) = l
  have hquantity : s.positions.getD (strip instrumentId) Arith.zero = l.quantity := by
    rw [← hl]
    rfl
  have hcost : s.averageCost.getD (strip instrumentId) Arith.zero = l.cost := by
    rw [← hl]
    rfl
  rw [hquantity, hcost]
  refine accepted_closeOut (accepted_movePosition hd ?_ (accepted_bookTotals ?_))
  · intro hheld
    rw [← hl]
    exact h.cost_recorded (hl ▸ hheld)
  · intro peak
    exact trade_balance h hl hd hprice

/-! ## Splits -/

variable {f : ℚ → Except PyError ℚ}

private theorem rescale_of_none {d : Dict String ℚ} (h : d.get instrument = none) :
    rescale d instrument f = .ok d := by
  unfold rescale
  rw [h]

private theorem rescale_of_some {d : Dict String ℚ} (h : d.get instrument = some value)
    (hf : f value = .ok value') : rescale d instrument f = .ok (d.set instrument value') := by
  unfold rescale
  rw [h]
  dsimp only
  rw [hf]
  rfl

/-- Scaling a held lot keeps the books in balance. -/
private theorem split_balance (h : InBalance transfers s) (hratio : 0 < ratio)
    {positions averageCost marks : Dict String ℚ}
    (hpositions : rescale s.positions instrument (Arith.mul · ratio) = .ok positions)
    (hcosts : rescale s.averageCost instrument (Arith.div · ratio) = .ok averageCost)
    {peak : Option ℚ} :
    InBalance transfers { s with
      positions := positions
      averageCost := averageCost
      marks := marks
      asOf := t
      peakEquity := peak } := by
  have hne : ratio ≠ 0 := ne_of_gt hratio
  cases hheld : s.positions.get instrument with
  | none =>
    have hcost : s.averageCost.get instrument = none := by
      rw [get_eq_none_iff, h.sameKeys, ← get_eq_none_iff]
      exact hheld
    rw [rescale_of_none hheld] at hpositions
    rw [rescale_of_none hcost] at hcosts
    cases hpositions
    cases hcosts
    exact ⟨h.identity, h.sameKeys, h.nonzero, h.costs, h.daily⟩
  | some quantity =>
    have hq : quantity ≠ 0 := h.nonzero quantity (mem_values_iff.mpr ⟨instrument, hheld⟩)
    have hlot : (s.lot instrument).quantity = quantity := by
      unfold AccountState.lot Dict.getD
      rw [hheld]
      rfl
    have hrecorded : s.averageCost.get instrument = some (s.lot instrument).cost :=
      h.cost_recorded (hlot ▸ hq)
    rw [rescale_of_some (f := (Arith.mul · ratio)) hheld rfl] at hpositions
    rw [rescale_of_some (f := (Arith.div · ratio)) hrecorded (arith_div _ hne)] at hcosts
    cases hpositions
    cases hcosts
    -- Both dictionaries move as the lot is replaced.
    have hscaled : quantity * ratio ≠ 0 := mul_ne_zero hq hne
    obtain ⟨hkeys, hnonzero, hnonneg⟩ := h.setLot instrument
      (l := ⟨quantity * ratio, (s.lot instrument).cost / ratio⟩)
      (div_nonneg (h.lot_cost _) (le_of_lt hratio))
    have hbook := bookValue_setLot s instrument
      ⟨quantity * ratio, (s.lot instrument).cost / ratio⟩
    have hvalue := Lot.value_split hne (s.lot instrument)
    rw [hlot] at hvalue
    rw [hvalue, sub_add_cancel] at hbook
    rw [setLot_held hscaled] at hkeys hnonzero hnonneg hbook
    obtain ⟨start, hstart, hid⟩ := h.identity
    refine ⟨⟨start, hstart, ?_⟩, hkeys, hnonzero, hnonneg, h.daily⟩
    rw [← hbook] at hid
    exact hid

theorem applySplit_balance (h : InBalance transfers s) (instrumentId : String) (ratio : ℚ)
    (at' : Datetime) : Accepted (applySplit instrumentId ratio at') (InBalance transfers) s := by
  refine accepted_ite (fun _ => accepted_raise) ?_
  intro _
  refine accepted_ite (fun _ => accepted_raise) ?_
  intro hfinite
  have hratio : 0 < ratio := by simpa using hfinite
  refine accepted_aware ?_
  intro t _
  have hrescale : ∀ {f : AccountState ℚ → Except PyError (Dict String ℚ)}
      {g : AccountState ℚ → Dict String ℚ → AccountState ℚ} {x : Account ℚ Unit}
      {P : AccountState ℚ → Prop} {s : AccountState ℚ},
      (∀ d, f s = .ok d → Accepted x P (g s d)) →
      Accepted (do Local.assign (fun s => do return g s (← f s)); x) P s := by
    intro f g x P s hx
    refine wp_bind (wp_assign ?_ (fun _ _ => trivial))
    intro s' hs'
    cases hf : f s with
    | error e =>
      rw [hf] at hs'
      cases hs'
    | ok d =>
      rw [hf] at hs'
      cases hs'
      exact hx d hf
  refine hrescale (g := fun s d => { s with positions := d }) ?_
  intro positions hpositions
  refine hrescale (g := fun s d => { s with averageCost := d }) ?_
  intro averageCost hcosts
  refine hrescale (g := fun s d => { s with marks := d }) ?_
  intro marks _
  refine accepted_advance ?_
  intro peak
  exact split_balance h hratio hpositions hcosts

/-! ## Runs -/

def accountStep (s : AccountState ℚ) (m : AccountMutation ℚ) : Option (AccountState ℚ) :=
  (Local.result m.run s).toOption

def AccountMutation.transferred : AccountMutation ℚ → ℚ
  | .cashTransfer amount _ => amount
  | _ => 0

def transferred (ms : List (AccountMutation ℚ)) : ℚ := (ms.map AccountMutation.transferred).sum

/-- **Step lemma.** A mutator that returns keeps the books in balance. -/
theorem mutation_balance (h : InBalance transfers s) (m : AccountMutation ℚ) :
    Accepted m.run (InBalance (transfers + m.transferred)) s := by
  cases m with
  | fill f side instrumentId =>
    show Accepted _ (InBalance (transfers + 0)) s
    rw [add_zero]
    exact applyFill_balance h f side instrumentId
  | funding amount at' =>
    show Accepted _ (InBalance (transfers + 0)) s
    rw [add_zero]
    exact applyFunding_balance h amount at'
  | cashTransfer amount at' => exact applyCashTransfer_balance h amount at'
  | borrow amount at' =>
    show Accepted _ (InBalance (transfers + 0)) s
    rw [add_zero]
    exact applyBorrow_balance h amount at'
  | fxAdjustment amount at' =>
    show Accepted _ (InBalance (transfers + 0)) s
    rw [add_zero]
    exact applyFxAdjustment_balance h amount at'
  | corporateAction amount at' =>
    show Accepted _ (InBalance (transfers + 0)) s
    rw [add_zero]
    exact applyCorporateAction_balance h amount at'
  | split instrumentId ratio at' =>
    show Accepted _ (InBalance (transfers + 0)) s
    rw [add_zero]
    exact applySplit_balance h instrumentId ratio at'
  | dividend instrumentId perUnit at' =>
    show Accepted _ (InBalance (transfers + 0)) s
    rw [add_zero]
    exact applyDividend_balance h instrumentId perUnit at'
  | margin used available at' =>
    show Accepted _ (InBalance (transfers + 0)) s
    rw [add_zero]
    exact updateMargin_balance h used available at'
  | mark instrumentId price at' =>
    show Accepted _ (InBalance (transfers + 0)) s
    rw [add_zero]
    exact mark_balance h instrumentId price at'

theorem accountStep_balance (h : InBalance transfers s) {m : AccountMutation ℚ}
    (hstep : accountStep s m = some s') : InBalance (transfers + m.transferred) s' := by
  unfold accountStep at hstep
  cases hresult : Local.result m.run s with
  | error e =>
    rw [hresult] at hstep
    cases hstep
  | ok t =>
    rw [hresult] at hstep
    cases hstep
    exact wp_result (mutation_balance h m) hresult

/-- **The books of an account stay in balance.** After every sequence of accepted
calls, from an account whose books balance. -/
theorem books_balance (h : InBalance 0 s) {ms : List (AccountMutation ℚ)}
    (hrun : Runs.runFrom accountStep s ms = some s') : InBalance (transferred ms) s' := by
  have hall : ∀ (ms : List (AccountMutation ℚ)) {s s' : AccountState ℚ} {transfers : ℚ},
      InBalance transfers s → Runs.runFrom accountStep s ms = some s' →
      InBalance (transfers + transferred ms) s' := by
    intro ms
    induction ms with
    | nil =>
      intro s s' transfers h hrun
      cases hrun
      show InBalance (transfers + 0) s
      rw [add_zero]
      exact h
    | cons m rest ih =>
      intro s s' transfers h hrun
      unfold Runs.runFrom at hrun
      cases hstep : accountStep s m with
      | none =>
        rw [hstep] at hrun
        cases hrun
      | some t =>
        rw [hstep] at hrun
        have hsum : transferred (m :: rest) = m.transferred + transferred rest := List.sum_cons
        rw [hsum, ← add_assoc]
        exact ih (accountStep_balance h hstep) hrun
  have hbalance := hall ms h hrun
  rw [zero_add] at hbalance
  exact hbalance

theorem new_balance (h : (AccountState.new cash t).postInit = .ok s) : InBalance 0 s := by
  have hs := postInit_ok h
  subst hs
  refine ⟨⟨cash, rfl, ?_⟩, ?_, ?_, ?_, ?_⟩
  · show cash + 0 = cash + 0 + 0 - 0 - 0 - 0 + 0 + 0
    ring
  · intro i
    exact Iff.rfl
  · intro quantity hmem
    cases hmem
  · intro cost hmem
    cases hmem
  · show (0 : ℚ) = 0 - 0 - 0 - 0
    ring

def bookFill (venueFillId : String) (quantity price fee : ℚ)
    (hpos : 0 < quantity ∧ 0 < price ∧ 0 ≤ fee := by decide +kernel)
    (hid : isBlank venueFillId = false ∧ strip venueFillId = venueFillId := by decide +kernel) :
    AccountFill ℚ where
  artifactId := 11
  orderId := 1
  venueFillId := venueFillId
  quantity := quantity
  price := price
  fee := fee
  occurredAt := 0
  quantity_pos := decide_eq_true hpos.1
  price_pos := decide_eq_true hpos.2.1
  fee_nonneg := decide_eq_false (not_lt_of_ge hpos.2.2)
  venueFillId_normal := hid
  occurredAt_valid := epoch_valid

def bookRun : List (AccountMutation ℚ) :=
  [.cashTransfer 500 (.ofTimestamp 0), .fill (bookFill "v-1" 10 100 1 (by decide +kernel) paperFillId_normal) "buy" "crypto:BTC-USD",
    .split "crypto:BTC-USD" 2 (.ofTimestamp 1),
    .fill (bookFill "v-2" 30 55 1 (by decide +kernel) laterFillId_normal) "sell" "crypto:BTC-USD"]

/-- The books of that run balance, with the deposit as its one transfer. -/
theorem books_balance_turned :
    ∃ s₀ s : AccountState ℚ, (AccountState.new 1000 0).postInit = .ok s₀ ∧
      Runs.runFrom accountStep s₀ bookRun = some s ∧
      s.positions.get "crypto:BTC-USD" = some (-10) ∧ InBalance (transferred bookRun) s := by
  have hrun : (AccountState.new (1000 : ℚ) 0).postInit.toOption.any (fun s₀ =>
      (Runs.runFrom accountStep s₀ bookRun).any fun s =>
        s.positions.get "crypto:BTC-USD" = some (-10)) = true := by
    decide +kernel
  obtain ⟨s₀, hinit, hany⟩ := ok_of_toOption_any hrun
  obtain ⟨s, hs, hposition⟩ := (Option.any_eq_true _ _).mp hany
  exact ⟨s₀, s, hinit, hs, of_decide_eq_true hposition, books_balance (new_balance hinit) hs⟩

/-- An account may be built with a cash other than its starting cash: without
positions or operations its books are open. -/
theorem books_open_at_start :
    ¬∀ (fields s₀ s : AccountState ℚ) (ms : List (AccountMutation ℚ)),
      fields.postInit = .ok s₀ → s₀.positions = Dict.empty →
      Runs.runFrom accountStep s₀ ms = some s → InBalance (transferred ms) s := by
  intro h
  let fields : AccountState ℚ := { AccountState.new 100 0 with startingCash := some 50 }
  have hbalance := h fields _ _ [] (by decide +kernel : fields.postInit = .ok
    { fields with startingCash := some 50, peakEquity := some 100 }) rfl rfl
  obtain ⟨start, hstart, hid⟩ := hbalance.identity
  cases hstart
  revert hid
  decide +kernel

end AdvisorAI
