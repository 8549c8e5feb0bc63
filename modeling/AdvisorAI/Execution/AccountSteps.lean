import AdvisorAI.Execution.Exposure
import AdvisorAI.Lib.Assignments

/-!
# Calls of the mutators

With exact numbers a mutator either returns, having posted its amounts and taken the new equity
into the peak (`run_valid`), or it raises. One that raises has looked at its arguments first and
assigned nothing, but for funding and margin, which look at the time last (`run_invalid`).
-/

namespace AdvisorAI

open Lib AccountState RiskKernel Local Dict

/-! ## The end of every mutator -/

namespace AccountState

variable (s : AccountState ℚ)

def worth : ℚ := s.book.equity s.marks

/-- The peak that `_update_peak_equity` assigns; one of zero counts as none. -/
def raisedPeak : ℚ := Max.max (s.peakOr s.worth) s.worth

/-- What `advance` leaves. -/
def advanced (t : Timestamp) : AccountState ℚ :=
  { s with asOf := Max.max s.asOf t, peakEquity := some s.raisedPeak }

theorem updatePeakEquity_ok : (updatePeakEquity : Account ℚ Unit) s
    = .ok () { s with peakEquity := some s.raisedPeak } := by
  have hequity : s.equity = .ok s.worth := equity_exact
  have hpeak : Arith.max (s.peakOr s.worth) s.worth = s.raisedPeak := arith_max _ _
  have hassigned : (do
        let equity ← s.equity
        return { s with peakEquity := some (Arith.max (s.peakOr equity) equity) })
      = (.ok { s with peakEquity := some s.raisedPeak } : Except PyError (AccountState ℚ)) := by
    rw [hequity, ← hpeak]
    rfl
  exact assign_ok hassigned

theorem advance_ok (t : Timestamp) : (advance t : Account ℚ Unit) s = .ok () (s.advanced t) :=
  (bind_ok (modify_ok _ s)).trans (updatePeakEquity_ok _)

end AccountState

/-! ## Arguments -/

def Aware (at' : Datetime) : Prop := ∃ t, AccountState.aware at' = .ok t

def AccountMutation.Valid : AccountMutation ℚ → Prop
  | .fill _ side instrumentId =>
    isBlank instrumentId = false ∧ lower (strip side) ∈ ["buy", "sell"]
  | .funding amount at' => 0 ≤ amount ∧ Aware at'
  | .cashTransfer amount at' => amount ≠ 0 ∧ Aware at'
  | .borrow amount at' => 0 ≤ amount ∧ Aware at'
  | .fxAdjustment amount at' => amount ≠ 0 ∧ Aware at'
  | .corporateAction amount at' => amount ≠ 0 ∧ Aware at'
  | .split instrumentId ratio at' => strip instrumentId ≠ "" ∧ 0 < ratio ∧ Aware at'
  | .dividend instrumentId cashPerUnit at' =>
    strip instrumentId ≠ "" ∧ 0 ≤ cashPerUnit ∧ Aware at'
  | .margin marginUsed marginAvailable at' =>
    0 ≤ marginUsed ∧ 0 ≤ marginAvailable ∧ Aware at'
  | .mark instrumentId price at' => isBlank instrumentId = false ∧ 0 < price ∧ Aware at'

/-- The quantity of a fill, negative when it sells. -/
def signedQuantity (side : String) (quantity : ℚ) : ℚ :=
  if lower (strip side) = "buy" then quantity else -quantity

theorem signed_eq (side : String) (quantity : ℚ) :
    signed (lower (strip side)) quantity = .ok (signedQuantity side quantity) := by
  unfold signed signedQuantity
  by_cases h : lower (strip side) = "buy"
  · rw [if_pos h, if_pos h]
  · rw [if_neg h, if_neg h]
    rfl

/-- What a mutator does to the equity. A holding without a mark counts nothing, so an unmarked
fill is a loss or a gain of all that is paid. -/
def AccountMutation.effect (s : AccountState ℚ) : AccountMutation ℚ → ℚ
  | .fill f side instrumentId =>
    signedQuantity side f.quantity * (s.marks.getD (strip instrumentId) 0 - f.price) - f.fee
  | .funding amount _ => -amount
  | .cashTransfer amount _ => amount
  | .borrow amount _ => -amount
  | .fxAdjustment amount _ => amount
  | .corporateAction amount _ => amount
  | .split _ _ _ => 0
  | .dividend instrumentId cashPerUnit _ =>
    s.positions.getD (strip instrumentId) 0 * cashPerUnit
  | .margin _ _ _ => 0
  | .mark instrumentId price _ =>
    s.positions.getD (strip instrumentId) 0 * (price - s.marks.getD (strip instrumentId) 0)

/-- What funding assigns before it looks at the time. -/
def AccountState.funded (s : AccountState ℚ) (amount : ℚ) : AccountState ℚ :=
  { s with
    fundingPaid := s.fundingPaid + amount
    cash := s.cash - amount
    dailyRealizedPnl := s.dailyRealizedPnl - amount
    rollingRealizedPnl := s.rollingRealizedPnl - amount }

/-- What margin assigns before it looks at the time. -/
def AccountState.margined (s : AccountState ℚ) (marginUsed marginAvailable : ℚ) :
    AccountState ℚ :=
  { s with
    marginUsed := marginUsed
    marginAvailable := some marginAvailable
    liquidationBuffer := some marginAvailable }

def AccountMutation.leftover (s : AccountState ℚ) : AccountMutation ℚ → AccountState ℚ
  | .funding amount _ => if 0 ≤ amount then s.funded amount else s
  | .margin marginUsed marginAvailable _ =>
    if 0 ≤ marginUsed ∧ 0 ≤ marginAvailable then s.margined marginUsed marginAvailable else s
  | _ => s

theorem leftover_funding (s : AccountState ℚ) (amount : ℚ) (at' : Datetime) :
    (AccountMutation.funding amount at').leftover s
      = if 0 ≤ amount then s.funded amount else s := rfl

theorem leftover_margin (s : AccountState ℚ) (used available : ℚ) (at' : Datetime) :
    (AccountMutation.margin used available at').leftover s
      = if 0 ≤ used ∧ 0 ≤ available then s.margined used available else s := rfl

/-! ## Calls that return -/

variable {s : AccountState ℚ}

/-- The account has posted a change of its equity, and taken the result into the peak. -/
def Posted (change : ℚ) (s s' : AccountState ℚ) : Prop :=
  ∃ (s₁ : AccountState ℚ) (t : Timestamp), s' = s₁.advanced t ∧ s₁.peakEquity = s.peakEquity ∧
    s₁.worth = s.worth + change

/-! ### Parts of the mutators -/

variable {at' : Datetime}

theorem aware_bind (haware : Aware at') (x : Timestamp → Account ℚ Unit) :
    ∃ t, (Local.lift (AccountState.aware at') >>= x) s = x t s := by
  obtain ⟨t, ht⟩ := haware
  rw [ht]
  exact ⟨t, rfl⟩

theorem creditAction_ok (amount : ℚ) : (creditAction amount : Account ℚ Unit) s = .ok () { s with
    corporateActionAdjustments := s.corporateActionAdjustments + amount
    cash := s.cash + amount } := rfl

theorem closeOut_ok (price oldQuantity oldAverage d : ℚ) :
    ∃ realized, closeOut price oldQuantity oldAverage d s
      = .ok () { s with realizedPnl := realized } := by
  unfold closeOut
  split
  · have hdirection : ∃ sign, direction oldQuantity = .ok sign := by
      unfold direction
      split
      · exact ⟨_, rfl⟩
      · exact ⟨_, rfl⟩
    obtain ⟨sign, hsign⟩ := hdirection
    refine ⟨s.realizedPnl + (price - oldAverage) * Arith.min |oldQuantity| |d| * sign,
      assign_ok ?_⟩
    rw [hsign]
    rfl
  · exact ⟨s.realizedPnl, rfl⟩

variable {d amount price fee change ratio cashPerUnit : ℚ}

theorem movePosition_ok (instrument : String) (price quantity average : ℚ) (hd : d ≠ 0) :
    ∃ averageCost, movePosition instrument price quantity average d (quantity + d) s
      = .ok () { s with
        positions := if quantity + d = 0 then s.positions.erase instrument
          else s.positions.set instrument (quantity + d)
        averageCost := averageCost } := by
  unfold movePosition
  by_cases hzero : quantity + d = 0
  · have hnew : Arith.isZero (quantity + d) = true := decide_eq_true hzero
    rw [if_pos hnew, if_pos hzero]
    exact ⟨_, rfl⟩
  · have hnew : ¬Arith.isZero (quantity + d) = true := by
      rw [arith_isZero, decide_eq_true_eq]
      exact hzero
    rw [if_neg hnew, if_neg hzero]
    split
    · have htotal : |quantity| + |d| ≠ 0 :=
        ne_of_gt (add_pos_of_nonneg_of_pos (abs_nonneg _) (abs_pos.mpr hd))
      have haverage : extendedAverage price quantity average d
          = .ok ((average * |quantity| + price * |d|) / (|quantity| + |d|)) :=
        arith_div _ htotal
      generalize (average * |quantity| + price * |d|) / (|quantity| + |d|) = extended at haverage
      have hassign : Local.assign (fun s : AccountState ℚ => do
            let average ← extendedAverage price quantity average d
            return { s with averageCost := s.averageCost.set instrument average }) s
          = .ok () { s with averageCost := s.averageCost.set instrument extended } := by
        refine assign_ok ?_
        rw [haverage]
        rfl
      exact ⟨_, Eq.trans (bind_ok hassign) rfl⟩
    · split
      · exact ⟨_, rfl⟩
      · exact ⟨_, rfl⟩

theorem bookTotals_ok (fill : AccountFill ℚ) (d before : ℚ) :
    bookTotals fill d before s = .ok () (AccountState.advanced { s with
      cash := s.cash - fill.price * d - fill.fee
      feesPaid := s.feesPaid + fill.fee
      dailyRealizedPnl := s.dailyRealizedPnl + (s.realizedPnl - before - fill.fee)
      rollingRealizedPnl := s.rollingRealizedPnl + (s.realizedPnl - before - fill.fee) }
      fill.occurredAt) := advance_ok _ _

/-! ### The mutators -/

variable {s₁ u : AccountState ℚ}

theorem worth_cash (hcash : s₁.cash = s.cash + amount) (hpositions : s₁.positions = s.positions)
    (hmarks : s₁.marks = s.marks) : s₁.worth = s.worth + amount := by
  unfold AccountState.worth AccountState.book Book.equity Book.net
  rw [hcash, hpositions, hmarks]
  ring

variable {instrument side instrumentId : String}

theorem worth_trade (hcash : s₁.cash = s.cash - price * d - fee)
    (hpositions : s₁.positions = (s.book.trade instrument price d).positions)
    (hmarks : s₁.marks = s.marks) :
    s₁.worth = s.worth + (d * (s.marks.getD instrument 0 - price) - fee) := by
  have htrade := s.book.equity_trade s.marks instrument price d
  have hworth : s₁.worth = (s.book.trade instrument price d).equity s.marks - fee := by
    unfold AccountState.worth AccountState.book Book.equity Book.net
    rw [hcash, hpositions, hmarks]
    show s.cash - price * d - fee + _ = s.cash - price * d + _ - fee
    unfold AccountState.book
    ring
  rw [hworth, htrade]
  unfold AccountState.worth
  ring

variable (f : AccountFill ℚ)

/-- **A fill returns.** It has traded its quantity at its price, and paid its fee. -/
theorem applyFill_run (hinstrument : isBlank instrumentId = false)
    (hside : lower (strip side) ∈ ["buy", "sell"]) :
    ∃ s₁ : AccountState ℚ, applyFill f side instrumentId s = .ok () (s₁.advanced f.occurredAt) ∧
      s₁.peakEquity = s.peakEquity ∧ s₁.marks = s.marks ∧
      s₁.cash = s.cash - f.price * signedQuantity side f.quantity - f.fee ∧
      s₁.positions = (s.book.trade (strip instrumentId) f.price
        (signedQuantity side f.quantity)).positions := by
  have hne : signedQuantity side f.quantity ≠ 0 := by
    have hpos : 0 < f.quantity := of_decide_eq_true f.quantity_pos
    unfold signedQuantity
    split
    · exact ne_of_gt hpos
    · exact neg_ne_zero.mpr (ne_of_gt hpos)
  generalize hd : signedQuantity side f.quantity = d at hne
  generalize hi : strip instrumentId = instrument
  generalize hquantity : s.positions.getD instrument 0 = quantity
  generalize haverage : s.averageCost.getD instrument 0 = average
  obtain ⟨realized, hclose⟩ := closeOut_ok (s := s) f.price quantity average d
  obtain ⟨averageCost, hmove⟩ := movePosition_ok
    (s := { s with realizedPnl := realized }) instrument f.price quantity average hne
  have htotals := bookTotals_ok (s := { s with
    realizedPnl := realized
    positions := if quantity + d = 0 then s.positions.erase instrument
      else s.positions.set instrument (quantity + d)
    averageCost := averageCost }) f d s.realizedPnl
  have hrun : applyFill f side instrumentId s = (do
      closeOut f.price quantity average d
      movePosition instrument f.price quantity average d (quantity + d)
      bookTotals f d s.realizedPnl : Account ℚ Unit) s := by
    unfold applyFill
    rw [if_neg (by rw [hinstrument]; exact Bool.false_ne_true), if_neg (not_not.mpr hside),
      signed_eq, hd, hi]
    refine Eq.trans (bind_ok rfl) ?_
    refine Eq.trans (bind_ok (read_ok _ s)) ?_
    refine Eq.trans (bind_ok (read_ok _ s)) ?_
    rw [arith_zero, hquantity, haverage]
    refine Eq.trans (bind_ok rfl) ?_
    exact bind_ok (read_ok _ s)
  refine ⟨_, hrun.trans ((bind_ok hclose).trans ((bind_ok hmove).trans htotals)),
    rfl, rfl, rfl, ?_⟩
  rw [← hquantity]
  rfl

theorem applyFill_posts (hinstrument : isBlank instrumentId = false)
    (hside : lower (strip side) ∈ ["buy", "sell"]) :
    ∃ s', applyFill f side instrumentId s = .ok () s' ∧
      Posted ((AccountMutation.fill f side instrumentId).effect s) s s' := by
  obtain ⟨s₁, hrun, hpeak, hmarks, hcash, hpositions⟩ := applyFill_run (s := s) f hinstrument hside
  exact ⟨_, hrun, s₁, _, rfl, hpeak, worth_trade hcash hpositions hmarks⟩

theorem posted_advanced (hpeak : u.peakEquity = s.peakEquity)
    (hworth : u.worth = s.worth + change) (t : Timestamp) : Posted change s (u.advanced t) :=
  ⟨u, t, rfl, hpeak, hworth⟩

variable {x y : Account ℚ Unit}

theorem posts_of_aware {y : Timestamp → Account ℚ Unit} (haware : Aware at')
    (hx : x s = (Local.lift (AccountState.aware at') >>= y) s) (hy : ∀ t, y t s = advance t u)
    (hpeak : u.peakEquity = s.peakEquity) (hworth : u.worth = s.worth + change) :
    ∃ s', x s = .ok () s' ∧ Posted change s s' := by
  obtain ⟨t, ht⟩ := aware_bind (s := s) haware y
  exact ⟨_, hx.trans (ht.trans ((hy t).trans (advance_ok u t))), posted_advanced hpeak hworth t⟩

theorem posts_of_late (haware : Aware at')
    (hx : x s = (Local.lift (AccountState.aware at') >>= advance) u)
    (hpeak : u.peakEquity = s.peakEquity) (hworth : u.worth = s.worth + change) :
    ∃ s', x s = .ok () s' ∧ Posted change s s' := by
  obtain ⟨t, ht⟩ := aware_bind (s := u) haware advance
  exact ⟨_, hx.trans (ht.trans (advance_ok u t)), posted_advanced hpeak hworth t⟩

/-! The checks of the amounts, spelled for exact numbers. -/

theorem refused_nonneg (amount : ℚ) :
    (!Arith.isFinite amount || isNegative amount) = true ↔ ¬0 ≤ amount := by
  simp [isNegative]

theorem refused_nonzero (amount : ℚ) :
    (!Arith.isFinite amount || Arith.isZero amount) = true ↔ ¬amount ≠ 0 := by
  simp

theorem refused_transfer (amount : ℚ) :
    (Arith.isZero amount || !Arith.isFinite amount) = true ↔ ¬amount ≠ 0 := by
  simp

theorem refused_pos (price : ℚ) :
    (!Arith.isFinite price || !Arith.lt Arith.zero price) = true ↔ ¬0 < price := by
  simp

theorem refused_margin (used available : ℚ) :
    (!Arith.isFinite used || !Arith.isFinite available || isNegative used ||
      isNegative available) = true ↔ ¬(0 ≤ used ∧ 0 ≤ available) := by
  simp only [isNegative, arith_isFinite, arith_lt, arith_zero, Bool.not_true, Bool.false_or,
    Bool.or_eq_true, decide_eq_true_eq, not_and_or, not_le]

theorem refused_blank (instrumentId : String) :
    isBlank instrumentId = true ↔ ¬isBlank instrumentId = false := by
  simp

theorem passed {c P : Prop} {_ : Decidable c} (h : c ↔ ¬P) (hp : P) :
    (if c then x else y) = y := if_neg fun hc => h.mp hc hp

theorem refused {c P : Prop} {_ : Decidable c} {e : PyError} (h : c ↔ ¬P) (hp : ¬P) :
    (if c then Local.raise e else y) s = .error e s := by
  rw [if_pos (h.mpr hp)]
  rfl

theorem rescale_ok (d : Dict String ℚ) (instrument : String) {f : ℚ → Except PyError ℚ}
    {g : ℚ → ℚ} (hf : ∀ q, f q = .ok (g q)) (hg : g 0 = 0) :
    ∃ d', rescale d instrument f = .ok d' ∧
      ∀ k, d'.getD k 0 = if k = instrument then g (d.getD k 0) else d.getD k 0 := by
  unfold rescale Dict.getD
  cases hvalue : d.get instrument with
  | none =>
    refine ⟨d, rfl, ?_⟩
    intro k
    split
    · next hk =>
      rw [hk, hvalue]
      exact hg.symm
    · rfl
  | some value =>
    refine ⟨d.set instrument (g value), ?_, ?_⟩
    · dsimp only
      rw [hf]
      rfl
    · intro k
      rw [get_set]
      split
      · next hk =>
        rw [hk, hvalue]
        rfl
      · rfl

theorem worth_split (hratio : ratio ≠ 0) (hcash : s₁.cash = s.cash)
    (hpositions : ∀ k, s₁.positions.getD k 0
      = if k = instrument then s.positions.getD k 0 * ratio else s.positions.getD k 0)
    (hmarks : ∀ k, s₁.marks.getD k 0
      = if k = instrument then s.marks.getD k 0 / ratio else s.marks.getD k 0) :
    s₁.worth = s.worth := by
  have hnet : s₁.positions.sum (fun i q => q * s₁.marks.getD i 0)
      = s.positions.sum (fun i q => q * s.marks.getD i 0) := by
    refine sum_eq_of_getD (fun _ => zero_mul _) (fun _ => zero_mul _) ?_
    intro k
    rw [hpositions, hmarks]
    split
    · field_simp
    · rfl
  unfold AccountState.worth AccountState.book Book.equity Book.net netValue
  rw [hcash, hnet]

theorem worth_marked (s : AccountState ℚ) (instrument : String) (price : ℚ) :
    ({ s with marks := s.marks.set instrument price } : AccountState ℚ).worth
      = s.worth + s.positions.getD instrument 0 * (price - s.marks.getD instrument 0) := by
  have hagree : ∀ j, j ≠ instrument → ∀ q : ℚ,
      q * (s.marks.set instrument price).getD j 0 = q * s.marks.getD j 0 := by
    intro j hj q
    unfold Dict.getD
    rw [get_set, if_neg hj]
  have herase := sum_erase_of_agree s.positions
    (f := fun i q => q * s.marks.getD i 0)
    (g := fun i q => q * (s.marks.set instrument price).getD i 0) hagree
  have hafter := Book.term_held (b := s.book) (i := instrument)
    (f := fun i q => q * (s.marks.set instrument price).getD i 0) (zero_mul _)
  have hbefore := Book.term_held (b := s.book) (i := instrument)
    (f := fun i q => q * s.marks.getD i 0) (zero_mul _)
  have hmark : (s.marks.set instrument price).getD instrument 0 = price := by
    unfold Dict.getD
    rw [get_set, if_pos rfl]
    rfl
  rw [hmark] at hafter
  unfold Book.held AccountState.book at hafter hbefore
  rw [sum_erase, hafter, hbefore] at herase
  unfold AccountState.worth AccountState.book Book.equity Book.net netValue
  linarith

theorem assign_value {α : Type} {f : AccountState ℚ → Except PyError α}
    {g : AccountState ℚ → α → AccountState ℚ} {a : α} (h : f s = .ok a) :
    Local.assign (fun s => do return g s (← f s)) s = .ok () (g s a) := by
  refine assign_ok ?_
  rw [h]
  rfl

theorem applySplit_posts (hinstrument : strip instrumentId ≠ "") (hratio : 0 < ratio)
    (haware : Aware at') :
    ∃ s', applySplit instrumentId ratio at' s = .ok () s' ∧ Posted 0 s s' := by
  have hne : ratio ≠ 0 := ne_of_gt hratio
  obtain ⟨positions, hpositions, hheld⟩ := rescale_ok s.positions
    (strip instrumentId) (f := (Arith.mul · ratio)) (g := (· * ratio))
    (fun _ => rfl) (zero_mul _)
  obtain ⟨averageCost, hcosts, -⟩ := rescale_ok s.averageCost
    (strip instrumentId) (f := (Arith.div · ratio)) (g := (· / ratio))
    (fun _ => arith_div _ hne) (zero_div _)
  obtain ⟨marks, hmarks, hmarked⟩ := rescale_ok s.marks
    (strip instrumentId) (f := (Arith.div · ratio)) (g := (· / ratio))
    (fun _ => arith_div _ hne) (zero_div _)
  obtain ⟨t, ht⟩ := haware
  refine ⟨_, ?_, posted_advanced (s := s) (u := { s with
      positions := positions
      averageCost := averageCost
      marks := marks }) rfl ?_ t⟩
  · unfold applySplit
    rw [if_neg hinstrument, passed (refused_pos ratio) hratio, ht]
    refine Eq.trans (bind_ok rfl) ?_
    refine Eq.trans (bind_ok (assign_value (g := fun s d => { s with positions := d })
      (f := fun s => rescale s.positions (strip instrumentId) (Arith.mul · ratio)) hpositions)) ?_
    refine Eq.trans (bind_ok (assign_value (g := fun s d => { s with averageCost := d })
      (f := fun s => rescale s.averageCost (strip instrumentId) (Arith.div · ratio)) hcosts)) ?_
    refine Eq.trans (bind_ok (assign_value (g := fun s d => { s with marks := d })
      (f := fun s => rescale s.marks (strip instrumentId) (Arith.div · ratio)) hmarks)) ?_
    exact advance_ok _ t
  · rw [add_zero]
    exact worth_split hne rfl hheld hmarked

theorem applyDividend_posts (hinstrument : strip instrumentId ≠ "") (hcash : 0 ≤ cashPerUnit)
    (haware : Aware at') :
    ∃ s', applyDividend instrumentId cashPerUnit at' s = .ok () s' ∧
      Posted (s.positions.getD (strip instrumentId) 0 * cashPerUnit) s s' := by
  obtain ⟨t, ht⟩ := haware
  have hrun : ∀ credit : Account ℚ Unit,
      (if Arith.isZero (s.positions.getD (strip instrumentId) 0 * cashPerUnit) then pure ()
        else creditAction (s.positions.getD (strip instrumentId) 0 * cashPerUnit)) = credit →
      applyDividend instrumentId cashPerUnit at' s = (credit >>= fun _ => advance t) s := by
    rintro _ rfl
    unfold applyDividend
    rw [if_neg hinstrument, passed (refused_nonneg cashPerUnit) hcash, ht]
    refine Eq.trans (bind_ok rfl) ?_
    refine Eq.trans (bind_ok (read_ok _ s)) ?_
    refine Eq.trans (bind_ok rfl) ?_
    rw [arith_zero]
    split
    · rfl
    · rfl
  by_cases hzero : s.positions.getD (strip instrumentId) 0 * cashPerUnit = 0
  · refine ⟨_, (hrun _ (if_pos (decide_eq_true hzero))).trans (advance_ok s t),
      posted_advanced (s := s) (u := s) rfl ?_ t⟩
    rw [hzero, add_zero]
  · have hcredited : ¬Arith.isZero (s.positions.getD (strip instrumentId) 0 * cashPerUnit) = true := by
      rw [arith_isZero, decide_eq_true_eq]
      exact hzero
    exact ⟨_, (hrun _ (if_neg hcredited)).trans
      ((bind_ok (creditAction_ok _)).trans (advance_ok _ t)), posted_advanced (s := s) (u := { s with
        corporateActionAdjustments := s.corporateActionAdjustments
          + s.positions.getD (strip instrumentId) 0 * cashPerUnit
        cash := s.cash + s.positions.getD (strip instrumentId) 0 * cashPerUnit }) rfl
      (worth_cash rfl rfl rfl) t⟩

variable (m : AccountMutation ℚ)

theorem run_valid (hvalid : m.Valid) : ∃ s', m.run s = .ok () s' ∧ Posted (m.effect s) s s' := by
  cases m with
  | fill f side instrumentId => exact applyFill_posts f hvalid.1 hvalid.2
  | funding amount at' =>
    exact posts_of_late (u := s.funded amount) hvalid.2
      (congrFun (passed (refused_nonneg amount) hvalid.1) s) rfl (worth_cash (sub_eq_add_neg _ _) rfl rfl)
  | cashTransfer amount at' =>
    exact posts_of_aware (u := { s with cash := s.cash + amount }) hvalid.2
      (congrFun (passed (refused_transfer amount) hvalid.1) s) (fun _ => rfl) rfl (worth_cash rfl rfl rfl)
  | borrow amount at' =>
    exact posts_of_aware (u := { s with
        borrowPaid := s.borrowPaid + amount
        cash := s.cash - amount
        dailyRealizedPnl := s.dailyRealizedPnl - amount
        rollingRealizedPnl := s.rollingRealizedPnl - amount }) hvalid.2
      (congrFun (passed (refused_nonneg amount) hvalid.1) s) (fun _ => rfl) rfl
      (worth_cash (sub_eq_add_neg _ _) rfl rfl)
  | fxAdjustment amount at' =>
    exact posts_of_aware (u := { s with
        fxAdjustments := s.fxAdjustments + amount
        cash := s.cash + amount }) hvalid.2
      (congrFun (passed (refused_nonzero amount) hvalid.1) s) (fun _ => rfl) rfl (worth_cash rfl rfl rfl)
  | corporateAction amount at' =>
    exact posts_of_aware (u := { s with
        corporateActionAdjustments := s.corporateActionAdjustments + amount
        cash := s.cash + amount }) hvalid.2
      (congrFun (passed (refused_nonzero amount) hvalid.1) s) (fun _ => rfl) rfl (worth_cash rfl rfl rfl)
  | split instrumentId ratio at' => exact applySplit_posts hvalid.1 hvalid.2.1 hvalid.2.2
  | dividend instrumentId cashPerUnit at' =>
    exact applyDividend_posts hvalid.1 hvalid.2.1 hvalid.2.2
  | margin marginUsed marginAvailable at' =>
    exact posts_of_late (u := s.margined marginUsed marginAvailable) hvalid.2.2
      (congrFun (passed (refused_margin _ _) ⟨hvalid.1, hvalid.2.1⟩) s) rfl (add_zero _).symm
  | mark instrumentId price at' =>
    exact posts_of_aware (u := { s with marks := s.marks.set (strip instrumentId) price })
      hvalid.2.2 (congrFun ((passed (refused_blank instrumentId) hvalid.1).trans
        (passed (refused_pos price) hvalid.2.1)) s)
      (fun _ => rfl) rfl (worth_marked s (strip instrumentId) price)

/-! ## Calls that raise -/

theorem raises_of_unaware {y : Timestamp → Account ℚ Unit} (hunaware : ¬Aware at')
    (hx : x s = (Local.lift (AccountState.aware at') >>= y) s₁) : ∃ e, x s = .error e s₁ := by
  cases hread : AccountState.aware at' with
  | ok t => exact absurd ⟨t, hread⟩ hunaware
  | error e =>
    rw [hread] at hx
    exact ⟨e, hx⟩

/-- A call whose first check refuses leaves the account alone, or what comes after it raises. -/
theorem raises_late {c P Q : Prop} {_ : Decidable c} {_ : Decidable P} {e : PyError}
    (h : c ↔ ¬P) (hvalid : ¬(P ∧ Q)) (hy : ¬Q → ∃ e, y s = .error e u) :
    ∃ e', (if c then Local.raise e else y) s = .error e' (if P then u else s) := by
  by_cases hp : P
  · rw [passed h hp, if_pos hp]
    exact hy fun hq => hvalid ⟨hp, hq⟩
  · rw [if_neg hp]
    exact ⟨e, refused h hp⟩

theorem raises_past {c P Q : Prop} {_ : Decidable c} {e : PyError}
    (h : c ↔ ¬P) (hvalid : ¬(P ∧ Q)) (hy : ¬Q → ∃ e, y s = .error e s) :
    ∃ e', (if c then Local.raise e else y) s = .error e' s := by
  classical
  obtain ⟨e', he⟩ : ∃ e', (if c then Local.raise e else y) s = .error e' (if P then s else s) :=
    raises_late h hvalid hy
  exact ⟨e', by rwa [ite_self] at he⟩

theorem run_invalid (hvalid : ¬m.Valid) : ∃ e, m.run s = .error e (m.leftover s) := by
  cases m with
  | fill f side instrumentId =>
    exact raises_past (refused_blank instrumentId) hvalid fun hside => ⟨_, refused Iff.rfl hside⟩
  | funding amount at' =>
    rw [leftover_funding]
    exact raises_late (refused_nonneg amount) hvalid fun h =>
      raises_of_unaware (y := advance) h rfl
  | cashTransfer amount at' =>
    exact raises_past (refused_transfer amount) hvalid fun h => raises_of_unaware h rfl
  | borrow amount at' =>
    exact raises_past (refused_nonneg amount) hvalid fun h => raises_of_unaware h rfl
  | fxAdjustment amount at' =>
    exact raises_past (refused_nonzero amount) hvalid fun h => raises_of_unaware h rfl
  | corporateAction amount at' =>
    exact raises_past (refused_nonzero amount) hvalid fun h => raises_of_unaware h rfl
  | split instrumentId ratio at' =>
    exact raises_past not_not.symm hvalid fun h =>
      raises_past (refused_pos ratio) h fun h => raises_of_unaware h rfl
  | dividend instrumentId cashPerUnit at' =>
    exact raises_past not_not.symm hvalid fun h =>
      raises_past (refused_nonneg cashPerUnit) h fun h => raises_of_unaware h rfl
  | margin marginUsed marginAvailable at' =>
    rw [leftover_margin]
    exact raises_late (refused_margin _ _) (fun h => hvalid ⟨h.1.1, h.1.2, h.2⟩) fun h =>
      raises_of_unaware (y := advance) h rfl
  | mark instrumentId price at' =>
    exact raises_past (refused_blank instrumentId) hvalid fun h =>
      raises_past (refused_pos price) h fun h => raises_of_unaware h rfl

/-- **What is left of an account by a call.** A valid one has posted its effect, another has
raised. -/
theorem run_cases (s : AccountState ℚ) :
    m.Valid ∧ (∃ s', m.run s = .ok () s' ∧ Posted (m.effect s) s s') ∨
      ¬m.Valid ∧ ∃ e, m.run s = .error e (m.leftover s) := by
  by_cases hvalid : m.Valid
  · exact .inl ⟨hvalid, run_valid m hvalid⟩
  · exact .inr ⟨hvalid, run_invalid m hvalid⟩

def fundedAccount : AccountState ℚ :=
  { AccountState.new 100 0 with startingCash := some 100, peakEquity := some 100 }

theorem fundedAccount_created : (AccountState.new (100 : ℚ) 0).postInit = .ok fundedAccount := by
  decide +kernel

end AdvisorAI
