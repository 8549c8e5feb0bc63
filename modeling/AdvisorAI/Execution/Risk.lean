import AdvisorAI.Execution.Account
import AdvisorAI.Execution.Oms
import Mathlib.Data.NNRat.Lemmas

/-!
# The risk kernel

`RiskKernel` is asked twice: `evaluate` looks at a target portfolio before any
order exists, `checkOrder` at one order before it is routed. Both collect
reasons against, and approve when there is none.

The kernel computes with exact rationals here. A target or an order is given in
decimals and read by value; how Python spells a number in a reason, and SHA-256,
are parameters (`KernelOutside`).
-/

namespace AdvisorAI

open Lib List

/-! ## Hard limits -/

inductive HardLimit where
  | maxOrderNotional | maxPositionNotional | priceCollarBps | maxGrossNotional | maxNetNotional
  | maxTurnoverNotional | maxLeverage | maxMarginUsed | maxCurrentGrossNotional | maxDailyLoss
  | maxRollingLoss | maxDrawdown | maxConcentration | maxStaleSeconds | maxDataDisagreement
  | maxClockDriftSeconds | maxCashDeficit | maxLiquidationBufferDeficit | maxVolatility
  | maxLiquidityParticipation | maxSpreadBps | maxExpectedSlippageBps | maxExpectedImpactBps
  | maxOrderRate | maxFundingCostBps | maxBorrowCostBps | maxCollateralDeficit
  | maxCounterpartyExposure | maxModelDrift | maxUnsupportedRegime | maxExpiredForecast
  | maxReconciliationDiscrepancies | maxVenueHealth
deriving DecidableEq

namespace HardLimit

def name : HardLimit → String
  | maxOrderNotional => "max_order_notional"
  | maxPositionNotional => "max_position_notional"
  | priceCollarBps => "price_collar_bps"
  | maxGrossNotional => "max_gross_notional"
  | maxNetNotional => "max_net_notional"
  | maxTurnoverNotional => "max_turnover_notional"
  | maxLeverage => "max_leverage"
  | maxMarginUsed => "max_margin_used"
  | maxCurrentGrossNotional => "max_current_gross_notional"
  | maxDailyLoss => "max_daily_loss"
  | maxRollingLoss => "max_rolling_loss"
  | maxDrawdown => "max_drawdown"
  | maxConcentration => "max_concentration"
  | maxStaleSeconds => "max_stale_seconds"
  | maxDataDisagreement => "max_data_disagreement"
  | maxClockDriftSeconds => "max_clock_drift_seconds"
  | maxCashDeficit => "max_cash_deficit"
  | maxLiquidationBufferDeficit => "max_liquidation_buffer_deficit"
  | maxVolatility => "max_volatility"
  | maxLiquidityParticipation => "max_liquidity_participation"
  | maxSpreadBps => "max_spread_bps"
  | maxExpectedSlippageBps => "max_expected_slippage_bps"
  | maxExpectedImpactBps => "max_expected_impact_bps"
  | maxOrderRate => "max_order_rate"
  | maxFundingCostBps => "max_funding_cost_bps"
  | maxBorrowCostBps => "max_borrow_cost_bps"
  | maxCollateralDeficit => "max_collateral_deficit"
  | maxCounterpartyExposure => "max_counterparty_exposure"
  | maxModelDrift => "max_model_drift"
  | maxUnsupportedRegime => "max_unsupported_regime"
  | maxExpiredForecast => "max_expired_forecast"
  | maxReconciliationDiscrepancies => "max_reconciliation_discrepancies"
  | maxVenueHealth => "max_venue_health"

def all : List HardLimit :=
  [maxOrderNotional, maxPositionNotional, priceCollarBps, maxGrossNotional, maxNetNotional,
    maxTurnoverNotional, maxLeverage, maxMarginUsed, maxCurrentGrossNotional, maxDailyLoss,
    maxRollingLoss, maxDrawdown, maxConcentration, maxStaleSeconds, maxDataDisagreement,
    maxClockDriftSeconds, maxCashDeficit, maxLiquidationBufferDeficit, maxVolatility,
    maxLiquidityParticipation, maxSpreadBps, maxExpectedSlippageBps, maxExpectedImpactBps,
    maxOrderRate, maxFundingCostBps, maxBorrowCostBps, maxCollateralDeficit,
    maxCounterpartyExposure, maxModelDrift, maxUnsupportedRegime, maxExpiredForecast,
    maxReconciliationDiscrepancies, maxVenueHealth]

theorem mem_all (k : HardLimit) : k ∈ all := by
  cases k <;> decide

/-- `SUPPORTED_HARD_LIMITS`. -/
def supported : List String := all.map name

def ofName (s : String) : Option HardLimit := all.find? fun k => k.name = s

theorem names_nodup : (all.map name).Nodup := by
  decide +kernel

theorem ofName_eq_some {s : String} {k : HardLimit} : ofName s = some k ↔ k.name = s := by
  constructor
  · intro h
    simpa using List.find?_some h
  · intro h
    have hinj : ∀ j ∈ all, j.name = k.name → j = k := fun j hj hname =>
      inj_on_of_nodup_map names_nodup hj (mem_all k) hname
    cases hfind : ofName s with
    | none =>
      have hk := List.find?_eq_none.mp hfind k (mem_all k)
      exact absurd (decide_eq_true h) hk
    | some j =>
      have hj : j.name = s := by simpa using List.find?_some hfind
      rw [hinj j (mem_all j) (hj.trans h.symm)]

theorem mem_supported {s : String} : s ∈ supported ↔ ∃ k, ofName s = some k := by
  unfold supported
  rw [mem_map]
  constructor
  · rintro ⟨k, _, hk⟩
    exact ⟨k, ofName_eq_some.mpr hk⟩
  · rintro ⟨k, hk⟩
    exact ⟨k, mem_all k, ofName_eq_some.mp hk⟩

end HardLimit

/-! ## The market and what is asked about -/

/-- The market as the kernel sees it. A `market_state_hash` that is given has to
be the canonical one, so the effective hash is the canonical one in any case. -/
structure RiskMarketState where
  marks : Dict String ℚ
  staleInstruments : Finset String
  staleSeconds : Dict String ℕ
  disagreedInstruments : Finset String
  clockDriftSeconds : ℕ
  volatility : Dict String ℚ
  liquidityNotional : Dict String ℚ
  spreadBps : Dict String ℚ
  expectedSlippageBps : Dict String ℚ
  expectedImpactBps : Dict String ℚ
  venueHealthy : Dict String Bool
  modelDrift : Bool
  unsupportedRegime : Bool
  expiredForecasts : Finset String
  reconciliationClean : Bool
  orderCount : ℕ
  fundingCostBps : ℚ
  borrowCostBps : ℚ
  counterpartyExposure : ℚ
  collateralAvailable : Option ℚ
  named : ∀ key ∈ marks.keys ++ staleSeconds.keys ++ volatility.keys ++ liquidityNotional.keys
    ++ spreadBps.keys ++ expectedSlippageBps.keys ++ expectedImpactBps.keys ++ venueHealthy.keys,
    isBlank key = false
  flagsNamed : ∀ key ∈ expiredForecasts ∪ staleInstruments ∪ disagreedInstruments,
    isBlank key = false
  marks_pos : ∀ value ∈ marks.values, 0 < value
  volatility_nonneg : ∀ value ∈ volatility.values, 0 ≤ value
  liquidity_pos : ∀ value ∈ liquidityNotional.values, 0 < value
  costs_nonneg : ∀ value ∈ spreadBps.values ++ expectedSlippageBps.values
    ++ expectedImpactBps.values, 0 ≤ value
  counters_nonneg : ∀ value ∈ [fundingCostBps, borrowCostBps, counterpartyExposure], 0 ≤ value

theorem RiskMarketState.mark_pos (market : RiskMarketState) {i : String} {mark : ℚ}
    (h : market.marks.get i = some mark) : 0 < mark :=
  market.marks_pos mark (Dict.mem_values_iff.mpr ⟨i, h⟩)

/-- What the kernel takes from outside: the spelling of numbers and SHA-256. -/
structure KernelOutside where
  spell : ℚ → String
  accountDigest : HashedState ℚ → Digest
  marketDigest : RiskMarketState → Digest
  sha256 : String → Digest

structure RiskRequest where
  target : TargetPortfolio
  account : AccountState ℚ
  market : RiskMarketState
  policy : RiskPolicy

/-- What the kernel reads of an order. -/
structure OrderTerms where
  instrument : String
  side : Side
  quantity : ℚ
  price : Option ℚ
  quantity_pos : 0 < quantity
  price_pos : ∀ p ∈ price, 0 < p

def Order.terms (o : Order) : OrderTerms where
  instrument := o.instrument.canonicalId
  side := o.side
  quantity := o.quantity.value
  price := o.price.map Decimal.value
  quantity_pos := o.quantity_pos
  price_pos := by
    intro p hp
    obtain ⟨d, hd, rfl⟩ := Option.mem_map.mp hp
    exact o.price_pos d hd

/-- The quantity of an order, negative on the selling side. -/
def OrderTerms.signedQuantity (order : OrderTerms) : ℚ :=
  match order.side with
  | .buy => order.quantity
  | .sell => -order.quantity

namespace RiskKernel

/-! ## Reasons -/

/-- A reason that stands when a condition holds. -/
def reasonIf (c : Prop) [Decidable c] (reason : String) : List String :=
  if c then [reason] else []

@[simp] theorem reasonIf_eq_nil {c : Prop} [Decidable c] {reason : String} :
    reasonIf c reason = [] ↔ ¬c := by
  unfold reasonIf
  by_cases h : c <;> simp [h]

variable (reasons : List String)

/-- `tuple(dict.fromkeys(reasons))`: each reason where it comes first. -/
def distinct : List String := reasons.reverse.dedup.reverse

theorem distinct_nodup : (distinct reasons).Nodup :=
  nodup_reverse.mpr (nodup_dedup _)

theorem mem_distinct {reason : String} {reasons : List String} :
    reason ∈ distinct reasons ↔ reason ∈ reasons := by
  unfold distinct
  rw [mem_reverse, mem_dedup, mem_reverse]

variable (o : KernelOutside) (limit : RiskLimit)

/-- `f"{limit.name}:{value}>{limit.limit}{limit.unit}"`. -/
def limitReason (value : String) : String :=
  limit.name ++ ":" ++ value ++ ">" ++ o.spell limit.limit.value ++ limit.unit

def overLimit (value : ℚ) : List String :=
  reasonIf (limit.limit.value < value) (limitReason o limit (o.spell value))

@[simp] theorem overLimit_eq_nil {limit : RiskLimit} {value : ℚ} :
    overLimit o limit value = [] ↔ value ≤ limit.limit.value := by
  unfold overLimit
  rw [reasonIf_eq_nil, not_lt]

/-- A flag that a limit of the same name forbids, whatever its bound. -/
def flagged (c : Prop) [Decidable c] : List String :=
  reasonIf c (limitReason o limit "1")

@[simp] theorem flagged_eq_nil {limit : RiskLimit} {c : Prop} [Decidable c] :
    flagged o limit c = [] ↔ ¬c :=
  reasonIf_eq_nil

/-- `max(values, default=default)`. -/
def maximum (default : ℚ) : List ℚ → ℚ
  | [] => default
  | value :: values => values.foldl Max.max value

theorem maximum_le {default bound : ℚ} {values : List ℚ} :
    maximum default values ≤ bound
      ↔ (∀ value ∈ values, value ≤ bound) ∧ (values = [] → default ≤ bound) := by
  have hfold : ∀ (values : List ℚ) (first : ℚ),
      values.foldl Max.max first ≤ bound ↔ first ≤ bound ∧ ∀ value ∈ values, value ≤ bound := by
    intro values
    induction values with
    | nil =>
      intro first
      simp
    | cons value values ih =>
      intro first
      rw [foldl_cons, ih, max_le_iff, forall_mem_cons, and_assoc]
  cases values with
  | nil => simp [maximum]
  | cons value values =>
    show values.foldl Max.max value ≤ bound ↔ _
    rw [hfold]
    simp

/-- A number as the bound for what is missing. -/
def missing : ℚ := 999999

/-- `Decimal(bool(flag))`. -/
def indicator (c : Prop) [Decidable c] : ℚ := if c then 1 else 0

/-! ## Figures of the account -/

/-- The figures of an account the limits look at. -/
structure AccountFigures where
  gross : ℚ
  equity : ℚ
  drawdown : ℚ

def accountFigures (account : AccountState ℚ) : Except PyError AccountFigures := do
  let gross ← account.grossNotional
  let equity ← account.equity
  let drawdown ← account.drawdown
  return ⟨gross, equity, drawdown⟩

variable (positions marks : Dict String ℚ)

/-- The value of the holdings at their marks; one without a mark counts nothing. -/
def netValue : ℚ :=
  positions.sum fun i q => q * marks.getD i 0

def grossValue : ℚ :=
  positions.sum fun i q => |q * marks.getD i 0|

/-- `f"{account_hash}:{market_hash}"`, hashed. -/
def authoritativeHash (account : AccountState ℚ) (market : RiskMarketState) :
    Except PyError String := do
  let snapshot ← account.snapshot o.accountDigest
  return (o.sha256 (snapshot.stateHash.text ++ ":" ++ (o.marketDigest market).text)).text

/-! ## What both gates check first -/

/-- The names of a policy the kernel does not know. -/
def unsupportedLimits (policy : RiskPolicy) : List String :=
  (policy.hardLimits.filter fun limit => limit.name ∉ HardLimit.supported).map fun limit =>
    "unsupported_hard_limit:" ++ limit.name

def killSwitchReasons (killSwitch : Option String) : List String :=
  killSwitch.toList.map fun reason => "kill_switch:" ++ reason

/-! ## The gate for targets -/

section Evaluate

variable (request : RiskRequest) (figures : AccountFigures) (target : TargetPortfolio)

def targetInstruments : List String :=
  target.positions.map fun p => p.instrument.canonicalId

variable (market : RiskMarketState)

/-- The notional of a position whose instrument has a mark. -/
def positionNotional (p : TargetPosition) : Option (String × ℚ) :=
  (market.marks.get p.instrument.canonicalId).map fun mark =>
    (p.instrument.canonicalId, p.targetQuantity.value * mark)

theorem positionNotional_sublist (market : RiskMarketState) : ∀ positions : List TargetPosition,
    ((positions.filterMap (positionNotional market)).map Prod.fst).Sublist
      (positions.map fun p => p.instrument.canonicalId)
  | [] => List.Sublist.refl _
  | p :: positions => by
    have ih := positionNotional_sublist market positions
    rw [filterMap_cons]
    cases hp : positionNotional market p with
    | none => exact ih.cons _
    | some e =>
      obtain ⟨mark, -, rfl⟩ := Option.map_eq_some_iff.mp hp
      exact ih.cons_cons _

def proposedNotional : Dict String ℚ where
  entries := target.positions.filterMap (positionNotional market)
  nodup := (positionNotional_sublist market target.positions).nodup target.positions_nodup

def proposedGross : ℚ :=
  (proposedNotional request.target request.market).sum fun _ value => |value|

def proposedNet : ℚ :=
  (proposedNotional request.target request.market).sum fun _ value => value

/-- What every holding would have to move by, per instrument held or targeted. -/
def notionalChanges : List ℚ :=
  let target := proposedNotional request.target request.market
  let current : Dict String ℚ := request.account.positions
  (current.keys ++ target.keys).dedup.map fun i =>
    |target.getD i 0 - current.getD i 0 * request.market.marks.getD i 0|

/-- The shortfall of what is available, `missing` when nothing is known of it. -/
def deficit : Option ℚ → ℚ
  | some available => Max.max 0 (-available)
  | none => missing

/-- The worst figure of the target's instruments in a table. -/
def worst (table : Dict String ℚ) : ℚ :=
  maximum missing ((targetInstruments request.target).map fun i => table.getD i missing)

/-- The collateral, that of the account where the market has none. -/
def collateral (account : AccountState ℚ) (market : RiskMarketState) : Option ℚ :=
  match market.collateralAvailable with
  | some available => some available
  | none => account.marginAvailable

/-- `_limit_value`: what a target is held against a limit with. -/
def limitValue : HardLimit → Option ℚ
  | .maxGrossNotional => some (proposedGross request)
  | .maxNetNotional => some |proposedNet request|
  | .maxTurnoverNotional => some (notionalChanges request).sum
  | .maxOrderNotional => some (maximum 0 (notionalChanges request))
  | .maxLeverage =>
    if figures.equity ≤ 0 then some (if proposedGross request = 0 then 0 else missing)
    else some (proposedGross request / figures.equity)
  | .maxPositionNotional =>
    some (maximum 0 ((proposedNotional request.target request.market).values.map abs))
  | .maxMarginUsed => some request.account.marginUsed
  | .maxCurrentGrossNotional => some figures.gross
  | .maxDailyLoss => some (Max.max 0 (-request.account.dailyRealizedPnl))
  | .maxRollingLoss => some (Max.max 0 (-request.account.rollingRealizedPnl))
  | .maxDrawdown => some figures.drawdown
  | .maxConcentration =>
    if proposedGross request = 0 then some 0
    else some (maximum 0 ((proposedNotional request.target request.market).values.map fun value =>
      |value| / proposedGross request))
  | .maxStaleSeconds =>
    if ∃ i ∈ targetInstruments request.target, request.market.staleSeconds.get i = none then
      some missing
    else some (maximum 0 ((targetInstruments request.target).map fun i =>
      (request.market.staleSeconds.getD i 0 : ℚ)))
  | .maxDataDisagreement =>
    some (indicator (∃ i ∈ targetInstruments request.target,
      i ∈ request.market.disagreedInstruments))
  | .maxClockDriftSeconds => some request.market.clockDriftSeconds
  | .maxCashDeficit => some (Max.max 0 (-request.target.cashTarget.value))
  | .maxLiquidationBufferDeficit => some (deficit request.account.marginAvailable)
  | .maxVolatility => some (worst request request.market.volatility)
  | .maxLiquidityParticipation =>
    let notionals := proposedNotional request.target request.market
    if ∃ i ∈ notionals.keys, request.market.liquidityNotional.get i = none then some missing
    else some (maximum 1 (notionals.entries.map fun e =>
      |e.2| / request.market.liquidityNotional.getD e.1 0))
  | .maxSpreadBps => some (worst request request.market.spreadBps)
  | .maxExpectedSlippageBps => some (worst request request.market.expectedSlippageBps)
  | .maxExpectedImpactBps => some (worst request request.market.expectedImpactBps)
  | .maxOrderRate => some request.market.orderCount
  | .maxFundingCostBps => some request.market.fundingCostBps
  | .maxBorrowCostBps => some request.market.borrowCostBps
  | .maxCollateralDeficit => some (deficit (collateral request.account request.market))
  | .maxCounterpartyExposure => some request.market.counterpartyExposure
  | .maxModelDrift => some (indicator (request.market.modelDrift = true))
  | .maxUnsupportedRegime => some (indicator (request.market.unsupportedRegime = true))
  | .maxExpiredForecast =>
    some (indicator (∃ i ∈ targetInstruments request.target,
      i ∈ request.market.expiredForecasts))
  | .maxReconciliationDiscrepancies =>
    some (indicator (request.market.reconciliationClean = false))
  | .maxVenueHealth =>
    if ∃ i ∈ targetInstruments request.target, request.market.venueHealthy.get i = none then
      some missing
    else some (indicator (∃ i ∈ targetInstruments request.target,
      request.market.venueHealthy.get i = some false))
  -- the one name the table has no line for
  | .priceCollarBps => none

def targetLimitReasons (limit : RiskLimit) : List String :=
  match (HardLimit.ofName limit.name).bind (limitValue request figures) with
  | none => ["unsupported_hard_limit:" ++ limit.name]
  | some value => overLimit o limit value

def missingMarks : List String :=
  (targetInstruments request.target).filter fun i => request.market.marks.get i = none

variable (killSwitch : Option String)

/-- What speaks against a target, in the kernel's order. -/
def evaluateReasons : List String :=
  let instruments := targetInstruments request.target
  let market := request.market
  unsupportedLimits request.policy
  ++ reasonIf (request.account.asOf < request.policy.effectiveAt) "risk_policy_not_yet_effective"
  ++ reasonIf (request.target.riskConstraintsVersion ≠ request.policy.policyVersion)
    "risk_policy_version_mismatch"
  ++ killSwitchReasons killSwitch
  ++ reasonIf (∃ i ∈ instruments, i ∈ market.staleInstruments ∨ 0 < market.staleSeconds.getD i 0)
    "stale_market_data"
  ++ reasonIf (∃ i ∈ instruments, i ∈ market.disagreedInstruments) "disagreed_market_data"
  ++ reasonIf (market.modelDrift = true) "model_drift"
  ++ reasonIf (market.unsupportedRegime = true) "unsupported_regime"
  ++ reasonIf (∃ i ∈ instruments, i ∈ market.expiredForecasts) "expired_forecast"
  ++ reasonIf (market.reconciliationClean = false) "reconciliation_not_clean"
  ++ reasonIf (missingMarks request ≠ []) ("missing_market_data:" ++
    ",".intercalate ((missingMarks request).mergeSort fun a b => decide (a ≤ b)))
  ++ request.policy.hardLimits.flatMap (targetLimitReasons o request figures)

/-! ### Reduction -/

def reducible : List String :=
  [HardLimit.maxOrderNotional, .maxTurnoverNotional, .maxGrossNotional, .maxNetNotional,
    .maxPositionNotional, .maxLeverage, .maxConcentration, .maxCashDeficit].map HardLimit.name

/-- `reason.split(":", 1)[0]`. -/
def reasonName (reason : String) : String :=
  String.ofList (reason.toList.takeWhile (· ≠ ':'))

/-- A target scaled towards the current positions. -/
def candidate (factor : NNRat) : TargetPortfolio :=
  let target := request.target
  let account := request.account
  let cost := target.expectedCost.value
  let flow := account.cash - target.cashTarget.value - cost
  { target with
    positions := target.positions.map fun p =>
      let current := account.positions.getD p.instrument.canonicalId 0
      { p with targetQuantity := .ofRat (current + (p.targetQuantity.value - current) * factor) }
    cashTarget := .ofRat (account.cash - flow * factor - cost * factor)
    expectedCost := .ofRat (cost * factor)
    expectedCost_nonneg := Decimal.value_ofRat_nonneg
      (mul_nonneg target.expectedCost_nonneg factor.coe_nonneg)
    positions_nodup := by
      rw [map_map]
      exact target.positions_nodup }

/-- The target scaled by a factor raises no reason. -/
def admits (factor : NNRat) : Bool :=
  evaluateReasons o { request with target := candidate request factor } figures killSwitch = []

/-- The binary search: the largest factor found to be admitted. -/
def bisect (admitted : NNRat → Bool) : ℕ → NNRat → NNRat → NNRat
  | 0, low, _ => low
  | n + 1, low, high =>
    let midpoint := (low + high) / 2
    if admitted midpoint then bisect admitted n midpoint high else bisect admitted n low midpoint

/-- `_reduced_target`: the largest admitted scaling, when smaller is what helps. -/
def reducedTarget (reasons : List String) : Option TargetPortfolio :=
  if ∃ reason ∈ reasons, reasonName reason ∉ reducible then none
  else if request.target.positions = [] then none
  else if missingMarks request ≠ [] then none
  else if admits o request figures killSwitch 0 = false then none
  else
    let low := bisect (admits o request figures killSwitch) 48 0 1
    if low = 0 then none else some (candidate request low)

variable (artifactId : UUID)

/-- The verdict on a target that is taken as it is. -/
def verdict (hash : String) (reasons : List String) : RiskDecision where
  artifactId := artifactId
  targetPortfolioId := request.target.artifactId
  riskPolicyId := request.policy.artifactId
  outcome := if reasons = [] then .approved else .rejected
  authoritativeStateHash := hash
  reasons := distinct reasons
  reducedPositions := []
  rejected_reasons := by
    split
    · intro h
      cases h
    · next hne =>
      intro _ hnil
      obtain ⟨reason, hreason⟩ := exists_mem_of_ne_nil _ hne
      rw [← mem_distinct, hnil] at hreason
      cases hreason
  reduced_positions := by
    split <;> intro h <;> cases h
  approved_positions := fun _ => rfl
  reasons_nodup := distinct_nodup reasons

/-- The verdict that admits less than was asked for. -/
def reducedVerdict (hash : String) (reasons : List String) (reduced : TargetPortfolio)
    (hpositions : reduced.positions ≠ []) : RiskDecision where
  artifactId := artifactId
  targetPortfolioId := request.target.artifactId
  riskPolicyId := request.policy.artifactId
  outcome := .reduced
  authoritativeStateHash := hash
  reasons := distinct (reasons ++ ["target_reduced_to_policy_limits"])
  reducedPositions := reduced.positions
  rejected_reasons := fun h => (nomatch h)
  reduced_positions := fun _ => hpositions
  approved_positions := fun h => (nomatch h)
  reasons_nodup := distinct_nodup _

def evaluate (request : RiskRequest) (allowReduction : Bool) :
    Except PyError RiskDecision := do
  let figures ← accountFigures request.account
  let reasons := evaluateReasons o request figures killSwitch
  let hash ← authoritativeHash o request.account request.market
  if reasons ≠ [] ∧ allowReduction then
    match reducedTarget o request figures killSwitch reasons with
    | none => return verdict request artifactId hash reasons
    | some reduced =>
      if h : reduced.positions ≠ [] ∧
          evaluateReasons o { request with target := reduced } figures killSwitch = [] then
        return reducedVerdict request artifactId hash reasons reduced h.1
      else return verdict request artifactId hash reasons
  else return verdict request artifactId hash reasons

end Evaluate

/-! ## The gate for orders -/

section CheckOrder

variable (order : OrderTerms) (account : AccountState ℚ) (market : RiskMarketState)
  (figures : AccountFigures)

def proposedPositions : Dict String ℚ :=
  account.positions.set order.instrument
    (account.positions.getD order.instrument 0 + order.signedQuantity)

/-- The notional of the ordered instrument once the order is filled. -/
def orderedNotional (mark : ℚ) : ℚ :=
  |(account.positions.getD order.instrument 0 + order.signedQuantity) * mark|

/-- What one limit has against an order that has a price and a mark. -/
def orderLimitReasons (price mark : ℚ) (limit : RiskLimit) : HardLimit → List String
  | .maxOrderNotional => overLimit o limit (price * order.quantity)
  | .maxPositionNotional => overLimit o limit (orderedNotional order account mark)
  | .priceCollarBps => overLimit o limit (|price - mark| / mark * 10000)
  | .maxGrossNotional =>
    overLimit o limit (grossValue (proposedPositions order account) market.marks)
  | .maxNetNotional => overLimit o limit |netValue (proposedPositions order account) market.marks|
  | .maxTurnoverNotional => overLimit o limit (price * order.quantity)
  | .maxLeverage =>
    overLimit o limit (if 0 < figures.equity then
      grossValue (proposedPositions order account) market.marks / figures.equity else missing)
  | .maxMarginUsed => overLimit o limit account.marginUsed
  | .maxCurrentGrossNotional => overLimit o limit figures.gross
  | .maxDailyLoss => overLimit o limit (Max.max 0 (-account.dailyRealizedPnl))
  | .maxRollingLoss => overLimit o limit (Max.max 0 (-account.rollingRealizedPnl))
  | .maxDrawdown => overLimit o limit figures.drawdown
  | .maxConcentration =>
    if grossValue (proposedPositions order account) market.marks = 0 then []
    else overLimit o limit (orderedNotional order account mark
      / grossValue (proposedPositions order account) market.marks)
  | .maxStaleSeconds =>
    match market.staleSeconds.get order.instrument with
    | none => ["max_stale_seconds:missing_market_freshness"]
    | some stale => overLimit o limit stale
  | .maxDataDisagreement => flagged o limit (order.instrument ∈ market.disagreedInstruments)
  | .maxClockDriftSeconds => overLimit o limit market.clockDriftSeconds
  | .maxCashDeficit =>
    overLimit o limit (Max.max 0 (-(account.cash - price * order.signedQuantity)))
  | .maxLiquidationBufferDeficit =>
    match account.liquidationBuffer.or account.marginAvailable with
    | none => ["max_liquidation_buffer_deficit:missing_liquidation_buffer"]
    | some available => overLimit o limit (Max.max 0 (-available))
  | .maxVolatility =>
    match market.volatility.get order.instrument with
    | none => [limitReason o limit "missing"]
    | some volatility => overLimit o limit volatility
  | .maxLiquidityParticipation =>
    match market.liquidityNotional.get order.instrument with
    | none => ["max_liquidity_participation:missing_liquidity"]
    | some liquidity => overLimit o limit (price * order.quantity / liquidity)
  | .maxSpreadBps => overLimit o limit (market.spreadBps.getD order.instrument missing)
  | .maxExpectedSlippageBps =>
    overLimit o limit (market.expectedSlippageBps.getD order.instrument missing)
  | .maxExpectedImpactBps =>
    overLimit o limit (market.expectedImpactBps.getD order.instrument missing)
  | .maxOrderRate => overLimit o limit market.orderCount
  | .maxFundingCostBps => overLimit o limit market.fundingCostBps
  | .maxBorrowCostBps => overLimit o limit market.borrowCostBps
  | .maxCollateralDeficit =>
    match collateral account market with
    | none => ["max_collateral_deficit:missing_collateral"]
    | some available => overLimit o limit (Max.max 0 (-available))
  | .maxCounterpartyExposure => overLimit o limit market.counterpartyExposure
  | .maxModelDrift => flagged o limit (market.modelDrift = true)
  | .maxUnsupportedRegime => flagged o limit (market.unsupportedRegime = true)
  | .maxExpiredForecast => flagged o limit (order.instrument ∈ market.expiredForecasts)
  | .maxReconciliationDiscrepancies => flagged o limit (market.reconciliationClean = false)
  | .maxVenueHealth =>
    match market.venueHealthy.get order.instrument with
    | none => ["max_venue_health:missing_venue_health"]
    | some healthy => flagged o limit (healthy = false)

variable (policy : RiskPolicy)

/-- The limits of a policy, held against an order; a name the kernel does not
know says nothing here. -/
def orderReasons (price mark : ℚ) : List String :=
  policy.hardLimits.flatMap fun limit =>
    match HardLimit.ofName limit.name with
    | none => []
    | some k => orderLimitReasons o order account market figures price mark limit k

variable (killSwitch : Option String)

/-- What speaks against an order, in the kernel's order. -/
def checkReasons : List String :=
  unsupportedLimits policy
  ++ reasonIf (account.asOf < policy.effectiveAt) "risk_policy_not_yet_effective"
  ++ killSwitchReasons killSwitch
  ++ reasonIf (order.instrument ∈ market.staleInstruments ∨ market.marks.get order.instrument = none
      ∨ 0 < market.staleSeconds.getD order.instrument 0) "stale_or_missing_market_data"
  ++ reasonIf (order.instrument ∈ market.disagreedInstruments) "disagreed_market_data"
  ++ reasonIf (market.clockDriftSeconds ≠ 0) "clock_drift"
  ++ reasonIf (market.modelDrift = true) "model_drift"
  ++ reasonIf (market.unsupportedRegime = true) "unsupported_regime"
  ++ reasonIf (order.instrument ∈ market.expiredForecasts) "expired_forecast"
  ++ reasonIf (market.reconciliationClean = false) "reconciliation_not_clean"
  ++ reasonIf (market.venueHealthy.get order.instrument = some false) "venue_unhealthy"
  ++ reasonIf (order.price = none) "order_price_required_for_deterministic_paper_check"
  ++ match order.price, market.marks.get order.instrument with
    | some price, some mark => orderReasons o order account market figures policy price mark
    | _, _ => []

def checkOrder (order : OrderTerms) (account : AccountState ℚ) (market : RiskMarketState)
    (policy : RiskPolicy) : Except PyError OrderRiskCheck := do
  let figures ← accountFigures account
  let reasons := checkReasons o order account market figures policy killSwitch
  let hash ← authoritativeHash o account market
  return ⟨reasons = [], reasons, some hash, some policy.artifactId⟩

end CheckOrder

end RiskKernel

end AdvisorAI
