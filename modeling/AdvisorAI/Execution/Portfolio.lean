import AdvisorAI.Execution.Risk
import AdvisorAI.Lib.Checks

/-!
# The target-portfolio constructor

`TargetPortfolioBuilder.build` turns target quantities into a target portfolio: a change inside the
no-trade band keeps the current quantity, the others cost fees, and the cash they leave must not be
negative. Under constraints the target is held against their bounds at last.

Numbers are exact and finite. The identifiers of new positions are those that `uuid4` gives.
-/

namespace AdvisorAI

open Lib RiskKernel

/-- Hard construction bounds applied before the risk kernel evaluates. -/
structure PortfolioConstraints where
  maxGrossNotional : Option ℚ
  maxNetNotional : Option ℚ
  maxTurnoverNotional : Option ℚ
  maxPositionNotional : Option ℚ
  maxLeverage : Option ℚ
  maxConcentration : Option ℚ
  minCashReserve : ℚ
  maxLiquidityParticipation : Option ℚ
  liquidityNotional : Dict String ℚ
  bounds_nonneg : ∀ bound ∈ [maxGrossNotional, maxNetNotional, maxTurnoverNotional,
    maxPositionNotional, maxLeverage, maxConcentration, maxLiquidityParticipation,
    some minCashReserve], ∀ value ∈ bound, 0 ≤ value
  maxConcentration_le : ∀ value ∈ maxConcentration, value ≤ 1
  maxLiquidityParticipation_le : ∀ value ∈ maxLiquidityParticipation, value ≤ 1
  liquidity_pos : ∀ e ∈ liquidityNotional.entries, isBlank e.1 = false ∧ 0 < e.2

/-- The thresholds and cost assumptions of a constructor. -/
structure TargetPortfolioBuilder where
  minimumTradeNotional : ℚ
  noTradeBand : ℚ
  feeBps : ℚ
  spreadBps : ℚ
  impactBps : ℚ
  thresholds_nonneg :
    ∀ value ∈ [minimumTradeNotional, noTradeBand, feeBps, spreadBps, impactBps], 0 ≤ value

/-- What the loop over the targets has made. -/
structure Construction where
  positions : List TargetPosition
  expectedCost : ℚ
  cashTarget : ℚ

/-- The arguments of `build`. -/
structure PortfolioRequest where
  snapshotId : UUID
  account : AccountState ℚ
  targets : Dict InstrumentIdentity Decimal
  marks : Dict String ℚ
  expectedReturns : Dict String Decimal
  constructionMethod : String
  riskConstraintsVersion : String
  constraints : Option PortfolioConstraints

namespace TargetPortfolioBuilder

variable (builder : TargetPortfolioBuilder) (uuid4 : ℕ → UUID) (request : PortfolioRequest)

/-! ## The positions -/

variable (i : String)

/-- The quantity that is held of an instrument. -/
def current : ℚ := request.account.positions.getD i 0

variable (quantity mark : ℚ)

def keeps : Bool :=
  let delta := |quantity - current request i| * mark
  decide (delta ≤ builder.noTradeBand ∨ delta < builder.minimumTradeNotional)

/-- The quantity that the target asks for in the end. -/
def adopted (quantity : Decimal) (mark : ℚ) : Decimal :=
  if keeps builder request i quantity.value mark then .ofRat (current request i) else quantity

/-- What the trade of an instrument takes from the cash, fees apart, and its costs. -/
def flows : ℚ × ℚ :=
  if keeps builder request i quantity mark then (0, 0)
  else ((quantity - current request i) * mark,
    |quantity - current request i| * mark
      * (builder.feeBps + builder.spreadBps + builder.impactBps) / 10000)

def addTarget (made : Construction) (target : InstrumentIdentity × Decimal) :
    Except PyError Construction := do
  let i := target.1.canonicalId
  require (i ∉ made.positions.map fun p => p.instrument.canonicalId)
    (valueError "target portfolio cannot contain duplicate instruments")
  match request.marks.get i with
  | none => .error (valueError ("missing positive mark for " ++ i))
  | some mark =>
    require (0 < mark) (valueError ("missing positive mark for " ++ i))
    let flow := flows builder request i target.2.value mark
    return ⟨made.positions ++ [⟨uuid4 made.positions.length, target.1,
        adopted builder request i target.2 mark, request.expectedReturns.get i, []⟩],
      made.expectedCost + flow.2, made.cashTarget - flow.1⟩

/-- `sorted(targets.items(), key=lambda item: item[0].canonical_id)`. -/
def sortedTargets : List (InstrumentIdentity × Decimal) :=
  request.targets.entries.mergeSort fun a b => decide (a.1.canonicalId ≤ b.1.canonicalId)

/-! ## The bounds -/

variable (positions : List TargetPosition)

def notionals : List (String × ℚ) :=
  positions.map fun p => (p.instrument.canonicalId,
    p.targetQuantity.value * request.marks.getD p.instrument.canonicalId 0)

/-- The change of notional that a target makes. -/
def change (e : String × ℚ) : ℚ := |e.2 - current request e.1 * request.marks.getD e.1 0|

/-- A bound that a figure has to keep, if it is there. -/
def within (bound : Option ℚ) (figure : ℚ) (refusal : String) : Except PyError Unit :=
  require (∀ b ∈ bound, figure ≤ b) (valueError refusal)

/-- The leverage of a target that has some gross notional. -/
def leverage (gross equity : ℚ) : ℚ :=
  if 0 < equity then gross / equity else if gross = 0 then 0 else missing

/-- The check of the leverage. The equity is looked at for a bound only. -/
def leverageWithin (gross : ℚ) : Option ℚ → Except PyError Unit
  | none => .ok ()
  | some bound => do
    let equity ← request.account.equity
    require (leverage gross equity ≤ bound) (valueError "target portfolio exceeds max leverage")

/-- What one target would take of the liquidity of its instrument. -/
def participation (liquidityNotional : Dict String ℚ) (bound : ℚ) (e : String × ℚ) :
    Except PyError Unit :=
  match liquidityNotional.get e.1 with
  | none => .error (valueError ("missing liquidity for " ++ e.1))
  | some liquidity => require (change request e / liquidity ≤ bound)
    (valueError ("target portfolio exceeds liquidity participation for " ++ e.1))

/-- The check of the liquidity participation. -/
def participationWithin (constraints : PortfolioConstraints) (entries : List (String × ℚ)) :
    Except PyError Unit :=
  match constraints.maxLiquidityParticipation with
  | none => .ok ()
  | some bound => checkAll (participation request constraints.liquidityNotional bound) entries

def validateConstraints (cashTarget : ℚ) (constraints : PortfolioConstraints) :
    Except PyError Unit := do
  let entries := notionals request positions
  let gross := (entries.map fun e => |e.2|).sum
  within constraints.maxGrossNotional gross "target portfolio exceeds max gross notional"
  within constraints.maxNetNotional |(entries.map Prod.snd).sum|
    "target portfolio exceeds max net notional"
  within constraints.maxTurnoverNotional (entries.map (change request)).sum
    "target portfolio exceeds max turnover notional"
  require (∀ b ∈ constraints.maxPositionNotional, ∀ e ∈ entries, |e.2| ≤ b)
    (valueError "target portfolio exceeds max position notional")
  leverageWithin request gross constraints.maxLeverage
  require (∀ b ∈ constraints.maxConcentration, gross ≠ 0 →
      maximum 0 (entries.map fun e => |e.2| / gross) ≤ b)
    (valueError "target portfolio exceeds max concentration")
  require (constraints.minCashReserve ≤ cashTarget)
    (valueError "target portfolio violates minimum cash reserve")
  participationWithin request constraints entries

/-- The constraints of a request, if it has some. -/
def constrained (cashTarget : ℚ) : Except PyError Unit :=
  match request.constraints with
  | none => .ok ()
  | some constraints => validateConstraints request positions cashTarget constraints

/-! ## The portfolio -/

def noTradeBaseline : String := "explicit_current_positions_no_trade_baseline"

theorem noTradeBaseline_ne : isBlank noTradeBaseline = false := by
  decide +kernel

/-- `TargetPortfolio(…)` of what the loop has made. -/
def portfolio (made : Construction) : Except PyError TargetPortfolio :=
  if h : 0 ≤ made.expectedCost ∧
      (made.positions.map fun p => p.instrument.canonicalId).Nodup ∧
      isBlank request.constructionMethod = false ∧
      isBlank request.riskConstraintsVersion = false then
    .ok
      { artifactId := uuid4 made.positions.length
        snapshotId := request.snapshotId
        positions := made.positions
        cashTarget := .ofRat made.cashTarget
        constructionMethod := strip request.constructionMethod
        expectedCost := .ofRat made.expectedCost
        riskConstraintsVersion := strip request.riskConstraintsVersion
        noTradeComparison := noTradeBaseline
        expectedCost_nonneg := Decimal.value_ofRat_nonneg h.1
        positions_nodup := h.2.1
        constructionMethod_ne := (isBlank_strip _).trans h.2.2.1
        riskConstraintsVersion_ne := (isBlank_strip _).trans h.2.2.2
        noTradeComparison_ne := noTradeBaseline_ne }
  else .error (valueError "validation error for TargetPortfolio")

def build : Except PyError TargetPortfolio := do
  let made ← (sortedTargets request).foldlM (addTarget builder uuid4 request)
    ⟨[], 0, request.account.cash⟩
  let cashTarget := made.cashTarget - made.expectedCost
  require (0 ≤ cashTarget) (valueError "target portfolio costs exceed available account cash")
  constrained request made.positions cashTarget
  portfolio uuid4 request { made with cashTarget }

end TargetPortfolioBuilder

end AdvisorAI
