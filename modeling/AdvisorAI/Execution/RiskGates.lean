import Mathlib.Algebra.BigOperators.Group.Finset.Piecewise
import AdvisorAI.Execution.OrderChecks
import AdvisorAI.Execution.TargetNotionals

/-!
# The two gates

`evaluate` and `checkOrder` hold the same limits against a target and against the
order that realises it. For a target that changes one instrument, `SharedChecks`
is what both look at, `TargetChecks` what the first alone looks at and
`OrderOnlyChecks` what the second alone does; one line of each table per limit.
`gates_agree_iff` says that the gates agree exactly when the last two do.
-/

namespace AdvisorAI

open Lib RiskKernel Dict Option
open List hiding maximum

variable {o : KernelOutside} {killSwitch : Option String} {artifactId : UUID}
  {order : OrderTerms} {request : RiskRequest} {mark bound : ℚ}

/-- The target changes one instrument, and the order is that change at the mark. -/
structure RealisesChange (order : OrderTerms) (request : RiskRequest) (mark : ℚ) : Prop where
  priced : order.price = some mark
  marked : request.market.marks.get order.instrument = some mark
  targeted : ∀ i, request.account.book.held i ≠ 0 → i ∈ targetInstruments request.target
  ordered : order.instrument ∈ targetInstruments request.target
  changed : (targetQuantities request.target).getD order.instrument 0
    = request.account.book.held order.instrument + order.signedQuantity
  unchanged : ∀ i ∈ targetInstruments request.target, i ≠ order.instrument →
    (targetQuantities request.target).getD i 0 = request.account.book.held i

theorem RealisesChange.realises (h : RealisesChange order request mark) :
    Realises (filledBook order request.account mark) request.target := by
  intro i
  unfold filledBook
  rw [Book.held_trade]
  by_cases hi : i = order.instrument
  · rw [if_pos hi, hi]
    exact h.changed.symm
  · rw [if_neg hi]
    by_cases htarget : i ∈ targetInstruments request.target
    · exact (h.unchanged i htarget hi).symm
    · have hheld : request.account.book.held i = 0 := not_not.mp (mt (h.targeted i) htarget)
      have hnone : (targetQuantities request.target).get i = none := by
        rw [get_eq_none_iff, targetQuantities_keys]
        exact htarget
      unfold Dict.getD
      rw [hheld, hnone]
      rfl

/-! ## The tables -/

/-- The market says nothing against an instrument. -/
def Fresh (market : RiskMarketState) (i : String) : Prop :=
  i ∉ market.staleInstruments ∧ market.staleSeconds.getD i 0 = 0 ∧
    i ∉ market.disagreedInstruments ∧ i ∉ market.expiredForecasts

section Tables

variable (order request mark bound)

abbrev bookAfter : Book := filledBook order request.account mark

def sharedLimit : HardLimit → Prop
  | .maxOrderNotional => mark * order.quantity ≤ bound
  | .maxTurnoverNotional => mark * order.quantity ≤ bound
  | .maxPositionNotional =>
    |(bookAfter order request mark).notional request.market.marks order.instrument| ≤ bound
  | .maxGrossNotional => (bookAfter order request mark).gross request.market.marks ≤ bound
  | .maxNetNotional => |(bookAfter order request mark).net request.market.marks| ≤ bound
  | .maxLeverage => 0 < (exactFigures request.account).equity →
    (bookAfter order request mark).gross request.market.marks
      / (exactFigures request.account).equity ≤ bound
  | .maxMarginUsed => request.account.marginUsed ≤ bound
  | .maxCurrentGrossNotional => (exactFigures request.account).gross ≤ bound
  | .maxDailyLoss => Max.max 0 (-request.account.dailyRealizedPnl) ≤ bound
  | .maxRollingLoss => Max.max 0 (-request.account.rollingRealizedPnl) ≤ bound
  | .maxDrawdown => (exactFigures request.account).drawdown ≤ bound
  | .maxConcentration =>
    |(bookAfter order request mark).notional request.market.marks order.instrument|
      ≤ bound * (bookAfter order request mark).gross request.market.marks
  | .maxVolatility => request.market.volatility.getD order.instrument missing ≤ bound
  | .maxSpreadBps => request.market.spreadBps.getD order.instrument missing ≤ bound
  | .maxExpectedSlippageBps =>
    request.market.expectedSlippageBps.getD order.instrument missing ≤ bound
  | .maxExpectedImpactBps =>
    request.market.expectedImpactBps.getD order.instrument missing ≤ bound
  | .maxOrderRate => (request.market.orderCount : ℚ) ≤ bound
  | .maxFundingCostBps => request.market.fundingCostBps ≤ bound
  | .maxBorrowCostBps => request.market.borrowCostBps ≤ bound
  | .maxCollateralDeficit => deficit (collateral request.account request.market) ≤ bound
  | .maxCounterpartyExposure => request.market.counterpartyExposure ≤ bound
  | _ => True

/-- The other instruments of the target keep to a table. -/
def OthersWithin (table : Dict String ℚ) : Prop :=
  ∀ i ∈ targetInstruments request.target, i ≠ order.instrument → table.getD i missing ≤ bound

/-- What only `evaluate` holds against a limit. -/
def targetLimit : HardLimit → Prop
  | .maxPositionNotional => ∀ i, i ≠ order.instrument →
    |(bookAfter order request mark).notional request.market.marks i| ≤ bound
  | .priceCollarBps => False
  | .maxLeverage => (exactFigures request.account).equity ≤ 0 →
    (bookAfter order request mark).gross request.market.marks = 0 ∨ missing ≤ bound
  | .maxConcentration => ∀ i, i ≠ order.instrument →
    |(bookAfter order request mark).notional request.market.marks i|
      ≤ bound * (bookAfter order request mark).gross request.market.marks
  | .maxStaleSeconds => (∃ i ∈ targetInstruments request.target,
    request.market.staleSeconds.get i = none) → missing ≤ bound
  | .maxClockDriftSeconds => (request.market.clockDriftSeconds : ℚ) ≤ bound
  | .maxCashDeficit => Max.max 0 (-request.target.cashTarget.value) ≤ bound
  | .maxLiquidationBufferDeficit => deficit request.account.marginAvailable ≤ bound
  | .maxVolatility => OthersWithin order request bound request.market.volatility
  | .maxSpreadBps => OthersWithin order request bound request.market.spreadBps
  | .maxExpectedSlippageBps => OthersWithin order request bound request.market.expectedSlippageBps
  | .maxExpectedImpactBps => OthersWithin order request bound request.market.expectedImpactBps
  | .maxLiquidityParticipation =>
    if ∃ i ∈ targetInstruments request.target, request.market.liquidityNotional.get i = none then
      missing ≤ bound
    else ∀ i ∈ targetInstruments request.target,
      |(bookAfter order request mark).notional request.market.marks i|
        / request.market.liquidityNotional.getD i 0 ≤ bound
  | .maxVenueHealth =>
    if ∃ i ∈ targetInstruments request.target, request.market.venueHealthy.get i = none then
      missing ≤ bound
    else (∃ i ∈ targetInstruments request.target, request.market.venueHealthy.get i = some false) →
      1 ≤ bound
  | _ => True

/-- What only `checkOrder` holds against a limit. -/
def orderLimit : HardLimit → Prop
  | .maxLeverage => (exactFigures request.account).equity ≤ 0 → missing ≤ bound
  | .maxStaleSeconds => request.market.staleSeconds.get order.instrument ≠ none
  | .maxCashDeficit =>
    Max.max 0 (-(request.account.cash - mark * order.signedQuantity)) ≤ bound
  | .maxLiquidationBufferDeficit =>
    ∃ available, request.account.liquidationBuffer.or request.account.marginAvailable
      = some available ∧ Max.max 0 (-available) ≤ bound
  | .maxVolatility => request.market.volatility.get order.instrument ≠ none
  | .maxLiquidityParticipation =>
    ∃ liquidity, request.market.liquidityNotional.get order.instrument = some liquidity ∧
      mark * order.quantity / liquidity ≤ bound
  | .maxCollateralDeficit => collateral request.account request.market ≠ none
  | .maxVenueHealth => request.market.venueHealthy.get order.instrument = some true
  | _ => True

end Tables

/-! ## The order gate -/

section OrderGate

variable (h : RealisesChange order request mark)

include h

/-- What the order gate finds against one limit. -/
theorem orderLimitReasons_iff {limit : RiskLimit} {k : HardLimit}
    (hfresh : Fresh request.market order.instrument) (hdrift : request.market.clockDriftSeconds = 0)
    (hmodel : request.market.modelDrift = false) (hregime : request.market.unsupportedRegime = false)
    (hclean : request.market.reconciliationClean = true) :
    orderLimitReasons o order request.account request.market (exactFigures request.account) mark mark
        limit k = []
      ↔ sharedLimit order request mark limit.limit.value k ∧
        orderLimit order request mark limit.limit.value k := by
  have hbound := limit.limit_nonneg
  have hordered : orderedNotional order request.account mark
      = |(bookAfter order request mark).notional request.market.marks order.instrument| :=
    orderedNotional_eq mark h.marked
  unfold orderLimitReasons sharedLimit orderLimit
  cases k with
  | maxOrderNotional | maxTurnoverNotional | maxMarginUsed | maxCurrentGrossNotional
  | maxDailyLoss | maxRollingLoss | maxDrawdown | maxSpreadBps | maxExpectedSlippageBps
  | maxExpectedImpactBps | maxOrderRate | maxFundingCostBps | maxBorrowCostBps
  | maxCounterpartyExposure | maxCashDeficit =>
    simp
  | maxPositionNotional => simp [hordered]
  | maxGrossNotional => simp [grossValue_proposed mark]
  | maxNetNotional => simp [netValue_proposed mark]
  | priceCollarBps => simpa using hbound
  | maxLeverage =>
    rw [grossValue_proposed mark]
    by_cases he : 0 < (exactFigures request.account).equity
    · simp [he, not_le.mpr he]
    · simp [he, not_lt.mp he]
  | maxConcentration =>
    rw [grossValue_proposed mark, hordered]
    have hconcentrated := (bookAfter order request mark).concentrated_iff request.market.marks
      order.instrument limit.limit.value
    rw [← hconcentrated, and_true]
    by_cases hzero : (bookAfter order request mark).gross request.market.marks = 0
    · simp [hzero]
    · simp [hzero]
  | maxStaleSeconds =>
    have hstale := hfresh.2.1
    unfold Dict.getD at hstale
    cases hget : request.market.staleSeconds.get order.instrument with
    | none => simp
    | some stale =>
      rw [hget] at hstale
      obtain rfl : stale = 0 := hstale
      simpa using hbound
  | maxDataDisagreement => simpa using hfresh.2.2.1
  | maxClockDriftSeconds => simpa [hdrift] using hbound
  | maxLiquidationBufferDeficit =>
    cases request.account.liquidationBuffer.or request.account.marginAvailable with
    | none => simp
    | some available => simp
  | maxVolatility =>
    unfold Dict.getD
    cases request.market.volatility.get order.instrument with
    | none => simp
    | some volatility => simp
  | maxLiquidityParticipation =>
    cases request.market.liquidityNotional.get order.instrument with
    | none => simp
    | some liquidity => simp
  | maxCollateralDeficit =>
    cases collateral request.account request.market with
    | none => simp
    | some available => simp [deficit]
  | maxModelDrift => simp [hmodel]
  | maxUnsupportedRegime => simp [hregime]
  | maxExpiredForecast => simpa using hfresh.2.2.2
  | maxReconciliationDiscrepancies => simp [hclean]
  | maxVenueHealth =>
    cases request.market.venueHealthy.get order.instrument with
    | none => simp
    | some healthy => simp

end OrderGate

/-! ## The target gate -/

variable {figures : AccountFigures}

theorem targetLimitReasons_eq_nil {limit : RiskLimit} {k : HardLimit}
    (hname : limit.name = k.name) : targetLimitReasons o request figures limit = []
      ↔ ∃ value, limitValue request figures k = some value ∧ value ≤ limit.limit.value := by
  unfold targetLimitReasons
  rw [HardLimit.ofName_eq_some.mpr hname.symm, bind_some]
  cases limitValue request figures k with
  | none => simp
  | some value => simp

theorem limitValue_eq_none_iff {k : HardLimit} :
    limitValue request figures k = none ↔ k = .priceCollarBps := by
  constructor
  · intro hnone
    cases k with
    | priceCollarBps => rfl
    | maxLeverage | maxConcentration | maxStaleSeconds | maxLiquidityParticipation
    | maxVenueHealth =>
      unfold limitValue at hnone
      dsimp only at hnone
      split at hnone
      · exact absurd hnone (some_ne_none _)
      · exact absurd hnone (some_ne_none _)
    | _ => exact absurd hnone (some_ne_none _)
  · intro hcollar
    rw [hcollar]
    rfl

section TargetGate

variable (h : RealisesChange order request mark)

include h

theorem RealisesChange.gross : proposedGross request
    = (bookAfter order request mark).gross request.market.marks :=
  h.realises.sum abs_zero

theorem RealisesChange.net : proposedNet request
    = (bookAfter order request mark).net request.market.marks :=
  h.realises.sum (f := fun v => v) rfl

theorem RealisesChange.mem_keys :
    order.instrument ∈ (proposedNotional request.target request.market).keys := by
  rw [mem_keys_iff]
  have hordered := h.ordered
  rw [← targetQuantities_keys, mem_keys_iff] at hordered
  obtain ⟨q, hq⟩ := hordered
  refine ⟨q * mark, ?_⟩
  rw [proposedNotional_get, hq, h.marked]
  rfl

theorem RealisesChange.forall_values {P : ℚ → Prop} (hzero : P 0) :
    (∀ value ∈ (proposedNotional request.target request.market).values, P value)
      ↔ ∀ i, P ((bookAfter order request mark).notional request.market.marks i) := by
  constructor
  · intro hall i
    rw [← h.realises.notional i]
    unfold Dict.getD
    cases hget : (proposedNotional request.target request.market).get i with
    | none => exact hzero
    | some value => exact hall value (mem_values_iff.mpr ⟨i, hget⟩)
  · intro hall value hvalue
    obtain ⟨i, hget⟩ := mem_values_iff.mp hvalue
    have hi := hall i
    rw [← h.realises.notional i] at hi
    unfold Dict.getD at hi
    rwa [hget] at hi

theorem RealisesChange.change (i : String) :
    |(proposedNotional request.target request.market).getD i 0
        - request.account.positions.getD i 0 * request.market.marks.getD i 0|
      = if i = order.instrument then mark * order.quantity else 0 := by
  have hheld : request.account.positions.getD i 0 = request.account.book.held i := rfl
  rw [h.realises.notional i, hheld]
  unfold filledBook Book.notional
  rw [Book.held_trade]
  by_cases hi : i = order.instrument
  · rw [if_pos hi, if_pos hi, hi, ← sub_mul, add_sub_cancel_left]
    have hmark : request.market.marks.getD order.instrument 0 = mark := by
      unfold Dict.getD
      rw [h.marked]
      rfl
    have hsigned : |order.signedQuantity| = order.quantity := by
      unfold OrderTerms.signedQuantity
      cases order.side with
      | buy => exact abs_of_pos order.quantity_pos
      | sell =>
        rw [abs_neg]
        exact abs_of_pos order.quantity_pos
    rw [hmark, abs_mul, hsigned, abs_of_pos (request.market.mark_pos h.marked), mul_comm]
  · rw [if_neg hi, if_neg hi, sub_self, abs_zero]

theorem RealisesChange.notionalChanges_eq : notionalChanges request
    = ((request.account.positions.keys
        ++ (proposedNotional request.target request.market).keys).dedup.map fun i =>
      if i = order.instrument then mark * order.quantity else 0) :=
  map_congr_left fun i _ => h.change i

theorem RealisesChange.mem_changes : order.instrument ∈ (request.account.positions.keys
    ++ (proposedNotional request.target request.market).keys).dedup :=
  mem_dedup.mpr (mem_append_right _ h.mem_keys)

theorem RealisesChange.turnover : (notionalChanges request).sum = mark * order.quantity := by
  rw [h.notionalChanges_eq, ← sum_toFinset _ (nodup_dedup _),
    Finset.sum_ite_eq', if_pos (List.mem_toFinset.mpr h.mem_changes)]

theorem RealisesChange.largest_le (hbound : 0 ≤ bound) :
    maximum 0 (notionalChanges request) ≤ bound ↔ mark * order.quantity ≤ bound := by
  rw [maximum_le, h.notionalChanges_eq]
  constructor
  · rintro ⟨hall, -⟩
    have hordered := hall (if order.instrument = order.instrument then mark * order.quantity else 0)
      (List.mem_map.mpr ⟨order.instrument, h.mem_changes, rfl⟩)
    rwa [if_pos rfl] at hordered
  · intro hle
    refine ⟨?_, fun _ => hbound⟩
    intro value hvalue
    obtain ⟨i, -, rfl⟩ := List.mem_map.mp hvalue
    split
    · exact hle
    · exact hbound

theorem RealisesChange.worst_le (table : Dict String ℚ) : worst request table ≤ bound
    ↔ table.getD order.instrument missing ≤ bound ∧ OthersWithin order request bound table := by
  unfold worst OthersWithin
  rw [maximum_le]
  constructor
  · rintro ⟨hall, -⟩
    have hvalue : ∀ i ∈ targetInstruments request.target, table.getD i missing ≤ bound :=
      fun i hi => hall _ (List.mem_map.mpr ⟨i, hi, rfl⟩)
    exact ⟨hvalue _ h.ordered, fun i hi _ => hvalue i hi⟩
  · rintro ⟨hordered, hothers⟩
    refine ⟨?_, ?_⟩
    · intro value hvalue
      obtain ⟨i, hi, rfl⟩ := List.mem_map.mp hvalue
      by_cases hne : i = order.instrument
      · rw [hne]
        exact hordered
      · exact hothers i hi hne
    · intro hnil
      have hordered := h.ordered
      rw [map_eq_nil_iff.mp hnil] at hordered
      cases hordered

theorem RealisesChange.participation_le
    (hmarked : ∀ i ∈ targetInstruments request.target, request.market.marks.get i ≠ none) :
    maximum 1 ((proposedNotional request.target request.market).entries.map fun e =>
        |e.2| / request.market.liquidityNotional.getD e.1 0) ≤ bound
      ↔ ∀ i ∈ targetInstruments request.target,
        |(bookAfter order request mark).notional request.market.marks i|
          / request.market.liquidityNotional.getD i 0 ≤ bound := by
  have hentry : ∀ {i v}, (i, v) ∈ (proposedNotional request.target request.market).entries →
      v = (bookAfter order request mark).notional request.market.marks i := by
    intro i v hmem
    rw [← h.realises.notional i]
    unfold Dict.getD
    rw [mem_entries_iff.mp hmem]
    rfl
  rw [maximum_le]
  constructor
  · rintro ⟨hall, -⟩ i hi
    obtain ⟨v, hv⟩ := mem_keys_iff.mp ((mem_proposedNotional_keys hmarked).mpr hi)
    have hmem := mem_entries_iff.mpr hv
    rw [← hentry hmem]
    exact hall _ (List.mem_map.mpr ⟨(i, v), hmem, rfl⟩)
  · intro hall
    refine ⟨?_, ?_⟩
    · intro value hvalue
      obtain ⟨⟨i, v⟩, hmem, rfl⟩ := List.mem_map.mp hvalue
      rw [hentry hmem]
      exact hall i ((mem_proposedNotional_keys hmarked).mp (mem_keys_iff.mpr
        ⟨v, mem_entries_iff.mp hmem⟩))
    · intro hnil
      have hmem := h.mem_keys
      unfold Dict.keys at hmem
      rw [map_eq_nil_iff.mp hnil] at hmem
      cases hmem

/-- What the target gate finds against one limit. -/
theorem targetLimitReasons_iff {limit : RiskLimit} {k : HardLimit} (hname : limit.name = k.name)
    (hmarked : ∀ i ∈ targetInstruments request.target, request.market.marks.get i ≠ none)
    (hfresh : ∀ i ∈ targetInstruments request.target, Fresh request.market i)
    (hmodel : request.market.modelDrift = false) (hregime : request.market.unsupportedRegime = false)
    (hclean : request.market.reconciliationClean = true) :
    targetLimitReasons o request (exactFigures request.account) limit = []
      ↔ sharedLimit order request mark limit.limit.value k ∧
        targetLimit order request mark limit.limit.value k := by
  have hbound := limit.limit_nonneg
  rw [targetLimitReasons_eq_nil hname]
  cases k with
  | maxOrderNotional => simp [limitValue, sharedLimit, targetLimit, h.largest_le hbound]
  | maxTurnoverNotional => simp [limitValue, sharedLimit, targetLimit, h.turnover]
  | maxMarginUsed | maxCurrentGrossNotional
  | maxDailyLoss | maxRollingLoss | maxDrawdown
  | maxOrderRate | maxFundingCostBps | maxBorrowCostBps | maxCollateralDeficit
  | maxCounterpartyExposure | maxCashDeficit | maxClockDriftSeconds | maxLiquidationBufferDeficit =>
    simp [limitValue, sharedLimit, targetLimit]
  | maxGrossNotional => simp [limitValue, sharedLimit, targetLimit, h.gross]
  | maxNetNotional => simp [limitValue, sharedLimit, targetLimit, h.net]
  | maxPositionNotional =>
    have hvalues := h.forall_values (P := fun value => |value| ≤ limit.limit.value)
      (by rwa [abs_zero])
    have hsplit := and_forall_ne (p := fun i =>
      |(bookAfter order request mark).notional request.market.marks i| ≤ limit.limit.value)
      order.instrument
    simp only [limitValue, sharedLimit, targetLimit, Option.some.injEq, exists_eq_left',
      maximum_le, List.forall_mem_map, hbound, implies_true, and_true]
    rw [hvalues, ← hsplit]
  | priceCollarBps => simp [limitValue, targetLimit]
  | maxLeverage =>
    simp only [limitValue, sharedLimit, targetLimit, h.gross]
    by_cases he : (exactFigures request.account).equity ≤ 0
    · by_cases hzero : (bookAfter order request mark).gross request.market.marks = 0
      · simp [he, hzero, hbound, not_lt.mpr he]
      · simp [he, hzero, not_lt.mpr he]
    · simp [he, not_le.mp he]
  | maxConcentration =>
    have hsplit := and_forall_ne (p := fun i =>
      |(bookAfter order request mark).notional request.market.marks i|
        ≤ limit.limit.value * (bookAfter order request mark).gross request.market.marks)
      order.instrument
    simp only [limitValue, sharedLimit, targetLimit, h.gross]
    rw [hsplit]
    simp only [← Book.concentrated_iff]
    by_cases hzero : (bookAfter order request mark).gross request.market.marks = 0
    · simp [hzero, hbound]
    · have hvalues := h.forall_values (P := fun value =>
        |value| / (bookAfter order request mark).gross request.market.marks ≤ limit.limit.value)
        (by simpa using hbound)
      simp only [hzero, if_false, Option.some.injEq, exists_eq_left', maximum_le,
        List.forall_mem_map, hbound, implies_true, and_true, ne_eq, not_false_eq_true,
        forall_const]
      rw [hvalues]
  | maxStaleSeconds =>
    have hzero : ∀ i ∈ targetInstruments request.target,
        (request.market.staleSeconds.getD i 0 : ℚ) ≤ limit.limit.value := by
      intro i hi
      rw [(hfresh i hi).2.1]
      exact_mod_cast hbound
    simp only [limitValue, sharedLimit, targetLimit]
    split
    · next hmissing => simp [hmissing]
    · next hmissing =>
      simp only [hmissing, Option.some.injEq, exists_eq_left', maximum_le, List.forall_mem_map,
        hbound, implies_true, and_true, false_implies, iff_true]
      exact hzero
  | maxDataDisagreement =>
    have hnone : ¬∃ i ∈ targetInstruments request.target,
        i ∈ request.market.disagreedInstruments := by
      intro h
      obtain ⟨i, hi, hbad⟩ := h
      exact (hfresh i hi).2.2.1 hbad
    simp [limitValue, sharedLimit, targetLimit, indicator, hnone, hbound]
  | maxVolatility | maxSpreadBps | maxExpectedSlippageBps | maxExpectedImpactBps =>
    simp [limitValue, sharedLimit, targetLimit, h.worst_le]
  | maxLiquidityParticipation =>
    simp only [limitValue, sharedLimit, targetLimit, mem_proposedNotional_keys hmarked]
    split
    · simp
    · simpa using h.participation_le hmarked
  | maxModelDrift => simp [limitValue, sharedLimit, targetLimit, indicator, hmodel, hbound]
  | maxUnsupportedRegime => simp [limitValue, sharedLimit, targetLimit, indicator, hregime, hbound]
  | maxExpiredForecast =>
    have hnone : ¬∃ i ∈ targetInstruments request.target,
        i ∈ request.market.expiredForecasts := by
      intro h
      obtain ⟨i, hi, hbad⟩ := h
      exact (hfresh i hi).2.2.2 hbad
    simp [limitValue, sharedLimit, targetLimit, indicator, hnone, hbound]
  | maxReconciliationDiscrepancies =>
    simp [limitValue, sharedLimit, targetLimit, indicator, hclean, hbound]
  | maxVenueHealth =>
    simp only [limitValue, sharedLimit, targetLimit, indicator]
    split
    · simp
    · split
      · next hsick => simp [hsick]
      · next hsick => simp [hsick, hbound]

end TargetGate

/-! ## The gates -/

structure SharedChecks (killSwitch : Option String) (order : OrderTerms) (request : RiskRequest)
    (mark : ℚ) : Prop where
  effective : ¬request.account.asOf < request.policy.effectiveAt
  running : killSwitch = none
  fresh : Fresh request.market order.instrument
  model : request.market.modelDrift = false
  regime : request.market.unsupportedRegime = false
  clean : request.market.reconciliationClean = true
  limits : ∀ limit ∈ request.policy.hardLimits, ∀ k : HardLimit, limit.name = k.name →
    sharedLimit order request mark limit.limit.value k

/-- What `evaluate` alone checks. -/
structure TargetChecks (order : OrderTerms) (request : RiskRequest) (mark : ℚ) : Prop where
  version : request.target.riskConstraintsVersion = request.policy.policyVersion
  others : ∀ i ∈ targetInstruments request.target, i ≠ order.instrument →
    request.market.marks.get i ≠ none ∧ Fresh request.market i
  limits : ∀ limit ∈ request.policy.hardLimits, ∀ k : HardLimit, limit.name = k.name →
    targetLimit order request mark limit.limit.value k

/-- What `checkOrder` alone checks. -/
structure OrderOnlyChecks (order : OrderTerms) (request : RiskRequest) (mark : ℚ) : Prop where
  clock : request.market.clockDriftSeconds = 0
  venue : request.market.venueHealthy.get order.instrument ≠ some false
  limits : ∀ limit ∈ request.policy.hardLimits, ∀ k : HardLimit, limit.name = k.name →
    orderLimit order request mark limit.limit.value k

/-- The kernel approves a target as it stands. -/
def ApprovesTarget (o : KernelOutside) (killSwitch : Option String) (artifactId : UUID)
    (request : RiskRequest) : Prop :=
  ∃ decision, evaluate o killSwitch artifactId request false = .ok decision ∧
    decision.outcome = .approved

theorem evaluate_plain : evaluate o killSwitch artifactId request false
    = (authoritativeHash o request.account request.market).map fun hash =>
      verdict request artifactId hash
        (evaluateReasons o request (exactFigures request.account) killSwitch) := by
  unfold evaluate
  rw [accountFigures_exact]
  cases authoritativeHash o request.account request.market with
  | error e => rfl
  | ok hash =>
    refine Eq.trans (if_neg ?_) rfl
    simp

theorem evaluate_outcome_iff (P : RiskOutcome → Prop) :
    (∃ decision, evaluate o killSwitch artifactId request false = .ok decision ∧ P decision.outcome) ↔
      (∃ hash, authoritativeHash o request.account request.market = .ok hash) ∧
        P (if evaluateReasons o request (exactFigures request.account) killSwitch = [] then .approved
          else .rejected) := by
  rw [evaluate_plain]
  generalize evaluateReasons o request (exactFigures request.account) killSwitch = reasons
  cases authoritativeHash o request.account request.market with
  | error e =>
    constructor
    · rintro ⟨decision, h, -⟩
      cases h
    · rintro ⟨⟨hash, h⟩, -⟩
      cases h
  | ok hash =>
    constructor
    · rintro ⟨decision, h, houtcome⟩
      cases h
      exact ⟨⟨hash, rfl⟩, houtcome⟩
    · rintro ⟨-, houtcome⟩
      exact ⟨_, rfl, houtcome⟩

theorem approvesTarget_iff : ApprovesTarget o killSwitch artifactId request ↔
    (∃ hash, authoritativeHash o request.account request.market = .ok hash) ∧
      evaluateReasons o request (exactFigures request.account) killSwitch = [] := by
  refine (evaluate_outcome_iff (· = .approved)).trans (and_congr_right fun _ => ?_)
  split
  · next h => exact iff_of_true rfl h
  · next h => exact iff_of_false (by decide) h

theorem forall_limits_iff {policy : RiskPolicy} {P : RiskLimit → Prop}
    (hsupported : ∀ limit ∈ policy.hardLimits, limit.name ∈ HardLimit.supported) :
    (∀ limit ∈ policy.hardLimits, P limit)
      ↔ ∀ limit ∈ policy.hardLimits, ∀ k : HardLimit, limit.name = k.name → P limit := by
  constructor
  · intro h limit hlimit _ _
    exact h limit hlimit
  · intro h limit hlimit
    obtain ⟨k, hk⟩ := HardLimit.mem_supported.mp (hsupported limit hlimit)
    exact h limit hlimit k (HardLimit.ofName_eq_some.mp hk).symm

theorem unsupportedLimits_eq_nil {policy : RiskPolicy}
    (hsupported : ∀ limit ∈ policy.hardLimits, limit.name ∈ HardLimit.supported) :
    unsupportedLimits policy = [] := by
  unfold unsupportedLimits
  rw [map_eq_nil_iff, filter_eq_nil_iff]
  intro limit hlimit
  simpa using hsupported limit hlimit

theorem killSwitchReasons_eq_nil : killSwitchReasons killSwitch = [] ↔ killSwitch = none := by
  unfold killSwitchReasons
  cases killSwitch with
  | none => simp
  | some reason => simp

section Gates

variable (h : RealisesChange order request mark)
  (hsupported : ∀ limit ∈ request.policy.hardLimits, limit.name ∈ HardLimit.supported)

include h hsupported

theorem checkReasons_eq_nil_iff :
    checkReasons o order request.account request.market (exactFigures request.account)
        request.policy killSwitch = []
      ↔ SharedChecks killSwitch order request mark ∧ OrderOnlyChecks order request mark := by
  have hlimits : ∀ (hfresh : Fresh request.market order.instrument)
      (hdrift : request.market.clockDriftSeconds = 0) (hmodel : request.market.modelDrift = false)
      (hregime : request.market.unsupportedRegime = false)
      (hclean : request.market.reconciliationClean = true),
      (orderReasons o order request.account request.market (exactFigures request.account)
          request.policy mark mark = []
        ↔ ∀ limit ∈ request.policy.hardLimits, ∀ k : HardLimit, limit.name = k.name →
          sharedLimit order request mark limit.limit.value k ∧
            orderLimit order request mark limit.limit.value k) := by
    intro hfresh hdrift hmodel hregime hclean
    unfold orderReasons
    rw [flatMap_eq_nil_iff, forall_limits_iff hsupported]
    refine forall₄_congr ?_
    intro limit _ k hname
    rw [HardLimit.ofName_eq_some.mpr hname.symm]
    exact orderLimitReasons_iff h hfresh hdrift hmodel hregime hclean
  unfold checkReasons
  rw [unsupportedLimits_eq_nil hsupported, h.priced, h.marked]
  simp only [append_eq_nil_iff, reasonIf_eq_nil, killSwitchReasons_eq_nil, not_or, not_not,
    nil_append]
  constructor
  · rintro ⟨⟨⟨⟨⟨⟨⟨⟨⟨⟨⟨heffective, hrunning⟩, hstale, -, hseconds⟩, hdisagreed⟩, hdrift⟩, hmodel⟩,
      hregime⟩, hexpired⟩, hclean⟩, hvenue⟩, -⟩, hreasons⟩
    have hmodel := Bool.not_eq_true _ ▸ hmodel
    have hregime := Bool.not_eq_true _ ▸ hregime
    have hclean := Bool.not_eq_false _ ▸ hclean
    have hfresh : Fresh request.market order.instrument :=
      ⟨hstale, Nat.eq_zero_of_not_pos hseconds, hdisagreed, hexpired⟩
    have hall := (hlimits hfresh hdrift hmodel hregime hclean).mp hreasons
    exact ⟨⟨heffective, hrunning, hfresh, hmodel, hregime, hclean,
      fun limit hlimit k hname => (hall limit hlimit k hname).1⟩,
      ⟨hdrift, hvenue, fun limit hlimit k hname => (hall limit hlimit k hname).2⟩⟩
  · rintro ⟨hshared, honly⟩
    have hreasons := (hlimits hshared.fresh honly.clock hshared.model hshared.regime
      hshared.clean).mpr fun limit hlimit k hname =>
        ⟨hshared.limits limit hlimit k hname, honly.limits limit hlimit k hname⟩
    refine ⟨⟨⟨⟨⟨⟨⟨⟨⟨⟨⟨hshared.effective, hshared.running⟩, hshared.fresh.1, by simp, ?_⟩,
      hshared.fresh.2.2.1⟩, honly.clock⟩, ?_⟩, ?_⟩, hshared.fresh.2.2.2⟩, ?_⟩, honly.venue⟩,
      by simp⟩, hreasons⟩
    · rw [hshared.fresh.2.1]
      exact Nat.lt_irrefl 0
    · rw [hshared.model]
      exact Bool.false_ne_true
    · rw [hshared.regime]
      exact Bool.false_ne_true
    · rw [hshared.clean]
      exact Bool.noConfusion

theorem evaluateReasons_eq_nil_iff :
    evaluateReasons o request (exactFigures request.account) killSwitch = []
      ↔ SharedChecks killSwitch order request mark ∧ TargetChecks order request mark := by
  have hlimits : ∀ (hmarked : ∀ i ∈ targetInstruments request.target,
        request.market.marks.get i ≠ none)
      (hfresh : ∀ i ∈ targetInstruments request.target, Fresh request.market i)
      (hmodel : request.market.modelDrift = false)
      (hregime : request.market.unsupportedRegime = false)
      (hclean : request.market.reconciliationClean = true),
      (request.policy.hardLimits.flatMap
          (targetLimitReasons o request (exactFigures request.account)) = []
        ↔ ∀ limit ∈ request.policy.hardLimits, ∀ k : HardLimit, limit.name = k.name →
          sharedLimit order request mark limit.limit.value k ∧
            targetLimit order request mark limit.limit.value k) := by
    intro hmarked hfresh hmodel hregime hclean
    rw [flatMap_eq_nil_iff, forall_limits_iff hsupported]
    refine forall₄_congr ?_
    intro limit _ k hname
    exact targetLimitReasons_iff h hname hmarked hfresh hmodel hregime hclean
  have hmissing : missingMarks request = []
      ↔ ∀ i ∈ targetInstruments request.target, request.market.marks.get i ≠ none := by
    unfold missingMarks
    rw [filter_eq_nil_iff]
    simp
  unfold evaluateReasons
  rw [unsupportedLimits_eq_nil hsupported]
  simp only [append_eq_nil_iff, reasonIf_eq_nil, killSwitchReasons_eq_nil, not_not,
    nil_append, hmissing, ne_eq]
  constructor
  · rintro ⟨⟨⟨⟨⟨⟨⟨⟨⟨⟨heffective, hversion⟩, hrunning⟩, hstale⟩, hdisagreed⟩, hmodel⟩, hregime⟩,
      hexpired⟩, hclean⟩, hmarked⟩, hreasons⟩
    have hmodel := Bool.not_eq_true _ ▸ hmodel
    have hregime := Bool.not_eq_true _ ▸ hregime
    have hclean := Bool.not_eq_false _ ▸ hclean
    have hfresh : ∀ i ∈ targetInstruments request.target, Fresh request.market i := by
      intro i hi
      refine ⟨fun hbad => hstale ⟨i, hi, Or.inl hbad⟩, ?_, fun hbad => hdisagreed ⟨i, hi, hbad⟩,
        fun hbad => hexpired ⟨i, hi, hbad⟩⟩
      exact Nat.eq_zero_of_not_pos fun hpos => hstale ⟨i, hi, Or.inr hpos⟩
    have hall := (hlimits hmarked hfresh hmodel hregime hclean).mp hreasons
    exact ⟨⟨heffective, hrunning, hfresh _ h.ordered, hmodel, hregime, hclean,
      fun limit hlimit k hname => (hall limit hlimit k hname).1⟩,
      ⟨hversion, fun i hi _ => ⟨hmarked i hi, hfresh i hi⟩,
        fun limit hlimit k hname => (hall limit hlimit k hname).2⟩⟩
  · rintro ⟨hshared, honly⟩
    -- the ordered instrument is checked by both gates, the others by this one
    have hgood : ∀ i ∈ targetInstruments request.target,
        request.market.marks.get i ≠ none ∧ Fresh request.market i := by
      intro i hi
      by_cases hne : i = order.instrument
      · rw [hne, h.marked]
        exact ⟨by simp, hshared.fresh⟩
      · exact honly.others i hi hne
    have hreasons := (hlimits (fun i hi => (hgood i hi).1) (fun i hi => (hgood i hi).2)
      hshared.model hshared.regime hshared.clean).mpr fun limit hlimit k hname =>
        ⟨hshared.limits limit hlimit k hname, honly.limits limit hlimit k hname⟩
    refine ⟨⟨⟨⟨⟨⟨⟨⟨⟨⟨hshared.effective, honly.version⟩, hshared.running⟩, ?_⟩, ?_⟩, ?_⟩, ?_⟩, ?_⟩,
      ?_⟩, fun i hi => (hgood i hi).1⟩, hreasons⟩
    · rintro ⟨i, hi, hbad | hbad⟩
      · exact (hgood i hi).2.1 hbad
      · rw [(hgood i hi).2.2.1] at hbad
        exact Nat.lt_irrefl 0 hbad
    · rintro ⟨i, hi, hbad⟩
      exact (hgood i hi).2.2.2.1 hbad
    · rw [hshared.model]
      exact Bool.false_ne_true
    · rw [hshared.regime]
      exact Bool.false_ne_true
    · rintro ⟨i, hi, hbad⟩
      exact (hgood i hi).2.2.2.2 hbad
    · rw [hshared.clean]
      exact Bool.noConfusion

/-- **The two gates.** They agree on a change exactly when, whatever both check
being fine, what each checks alone is fine together; and `evaluate` has a value
for every supported name but one. -/
theorem gates_agree_iff :
    ((ApprovesTarget o killSwitch artifactId request ↔
        Approves o killSwitch order request.account request.market request.policy)
      ↔ ((∃ hash, authoritativeHash o request.account request.market = .ok hash) →
        SharedChecks killSwitch order request mark →
        (TargetChecks order request mark ↔ OrderOnlyChecks order request mark))) ∧
    ∀ name ∈ HardLimit.supported,
      ((HardLimit.ofName name).bind (limitValue request (exactFigures request.account)) = none
        ↔ name = "price_collar_bps") := by
  refine ⟨?_, ?_⟩
  · rw [approvesTarget_iff, approves_iff, checkReasons_eq_nil_iff h hsupported,
      evaluateReasons_eq_nil_iff h hsupported]
    constructor
    · intro hagree hhash hshared
      constructor
      · intro htarget
        exact (hagree.mp ⟨hhash, hshared, htarget⟩).2.2
      · intro horder
        exact (hagree.mpr ⟨hhash, hshared, horder⟩).2.2
    · intro hagree
      constructor
      · rintro ⟨hhash, hshared, htarget⟩
        exact ⟨hhash, hshared, (hagree hhash hshared).mp htarget⟩
      · rintro ⟨hhash, hshared, horder⟩
        exact ⟨hhash, hshared, (hagree hhash hshared).mpr horder⟩
  · intro name hname
    obtain ⟨k, hk⟩ := HardLimit.mem_supported.mp hname
    rw [hk, bind_some, ← HardLimit.ofName_eq_some.mp hk]
    rw [limitValue_eq_none_iff]
    constructor
    · intro hcollar
      rw [hcollar]
      rfl
    · intro hcollar
      exact inj_on_of_nodup_map HardLimit.names_nodup (HardLimit.mem_all k)
        (HardLimit.mem_all .priceCollarBps) hcollar

end Gates

/-! ## A paper target -/

def paperTarget : TargetPortfolio where
  artifactId := 60
  snapshotId := 61
  positions := [⟨62, paperInstrument, .ofNat 4, none, []⟩]
  cashTarget := .ofNat 600
  constructionMethod := "paper"
  expectedCost := .ofNat 0
  riskConstraintsVersion := "v1"
  noTradeComparison := "paper"
  expectedCost_nonneg := Decimal.nothing_nonneg
  positions_nodup := by decide +kernel
  constructionMethod_ne := by decide +kernel
  riskConstraintsVersion_ne := grossPolicy.policyVersion_ne
  noTradeComparison_ne := by decide +kernel

variable (policy : RiskPolicy)

def paperRequest : RiskRequest :=
  ⟨paperTarget, paperHoldings Dict.empty, paperMarket, policy⟩

theorem paperTerms_realises :
    RealisesChange paperTerms (paperRequest policy) 100 where
  priced := rfl
  marked := rfl
  targeted i hheld := absurd rfl hheld
  ordered := mem_singleton_self _
  changed := by
    have h : (targetQuantities paperTarget).getD "crypto:BTC-USD" 0
        = (paperHoldings Dict.empty).book.held "crypto:BTC-USD" + paperTerms.signedQuantity := by
      decide +kernel
    exact h
  unchanged := by
    intro i hi hne
    exact absurd (mem_singleton.mp hi) hne

/-- Both gates approve the paper target under a gross limit. -/
theorem gates_agree_iff_paper :
    ApprovesTarget paperOutside none 0 (paperRequest grossPolicy) ∧
    Approves paperOutside none paperTerms (paperHoldings Dict.empty) paperMarket grossPolicy := by
  have hsupported : ∀ limit ∈ (paperRequest grossPolicy).policy.hardLimits,
      limit.name ∈ HardLimit.supported := by
    decide +kernel
  have happroves : Approves paperOutside none paperTerms (paperHoldings Dict.empty) paperMarket
      grossPolicy :=
    ok_of_toOption_any (by decide +kernel)
  -- a limit of the policy is the gross limit
  have hgross : ∀ limit ∈ (paperRequest grossPolicy).policy.hardLimits, ∀ k : HardLimit,
      limit.name = k.name → k = .maxGrossNotional := by
    intro limit hlimit k hname
    obtain rfl := mem_singleton.mp hlimit
    exact inj_on_of_nodup_map HardLimit.names_nodup (HardLimit.mem_all k)
      (HardLimit.mem_all _) hname.symm
  have htarget : TargetChecks paperTerms (paperRequest grossPolicy) 100 := by
    refine ⟨rfl, fun i hi hne => absurd (mem_singleton.mp hi) hne, ?_⟩
    intro limit hlimit k hname
    rw [hgross limit hlimit k hname]
    trivial
  have horder : OrderOnlyChecks paperTerms (paperRequest grossPolicy) 100 := by
    refine ⟨rfl, by decide +kernel, ?_⟩
    intro limit hlimit k hname
    rw [hgross limit hlimit k hname]
    trivial
  have hagree : ApprovesTarget paperOutside none 0 (paperRequest grossPolicy)
      ↔ Approves paperOutside none paperTerms (paperHoldings Dict.empty) paperMarket grossPolicy :=
    (gates_agree_iff (paperTerms_realises grossPolicy) hsupported).1.mpr
      fun _ _ => ⟨fun _ => horder, fun _ => htarget⟩
  exact ⟨hagree.mpr happroves, happroves⟩

def collarPolicy : RiskPolicy := paperPolicy [paperLimit .priceCollarBps 100]

/-- Under a price collar no target passes, and the order that realises it does. -/
theorem collar_rejects_every_target :
    RealisesChange paperTerms (paperRequest collarPolicy) 100 ∧
    (∀ limit ∈ (paperRequest collarPolicy).policy.hardLimits, limit.name ∈ HardLimit.supported) ∧
    Approves paperOutside none paperTerms (paperHoldings Dict.empty) paperMarket collarPolicy ∧
    ¬ApprovesTarget paperOutside none 0 (paperRequest collarPolicy) := by
  refine ⟨paperTerms_realises collarPolicy, by decide +kernel,
    ok_of_toOption_any (by decide +kernel), ?_⟩
  intro happroves
  have hreasons := (approvesTarget_iff.mp happroves).2
  have hsome : evaluateReasons paperOutside (paperRequest collarPolicy)
      (exactFigures (paperRequest collarPolicy).account) none ≠ [] := by
    decide +kernel
  exact hsome hreasons

end AdvisorAI
