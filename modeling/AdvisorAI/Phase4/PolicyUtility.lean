import AdvisorAI.Phase4.SignalPolicy

/-!
# The utility of a signal path

`evaluatePolicySignals` measures signals that exist already under one modeled cost scenario. It
goes through them by instrument, cutoff and identifier, and slices what it has seen by instrument
and by regime. Its records carry their validators.
-/

namespace AdvisorAI

open Lib

/-- A modeled friction scenario; it is not a claim about observed fills. -/
structure SignalCostScenario where
  scenarioId : RequiredText
  feeBps : ℚ
  spreadBps : ℚ
  slippageBps : ℚ
  fee_nonneg : 0 ≤ feeBps
  spread_nonneg : 0 ≤ spreadBps
  slippage_nonneg : 0 ≤ slippageBps

/-! ## Records -/

/-- Deterministic utility accounting for one instrument or regime slice. -/
structure PolicySliceFields where
  label : RequiredText
  observations : ℕ
  activeObservations : ℕ
  signalChangeCount : ℕ
  turnoverUnits : ℚ
  grossUtilityBps : ℚ
  estimatedCostBps : ℚ
  netUtilityBps : ℚ
  directionalAccuracy : ℚ

variable (s : PolicySliceFields)

/-- The constraints of the fields, and `validate_accounting`. -/
def PolicySliceFields.Valid : Prop :=
  1 ≤ s.observations ∧ 0 ≤ s.turnoverUnits ∧ 0 ≤ s.estimatedCostBps ∧
    IsFraction s.directionalAccuracy ∧ s.activeObservations ≤ s.observations ∧
      s.netUtilityBps = s.grossUtilityBps - s.estimatedCostBps

instance (s : PolicySliceFields) : Decidable s.Valid :=
  inferInstanceAs (Decidable (_ ∧ _ ∧ _ ∧ _ ∧ _ ∧ _))

structure PolicySliceMetric extends PolicySliceFields where
  valid : toPolicySliceFields.Valid

/-- `PolicySliceMetric(...)`. -/
def PolicySliceFields.validate : Except PyError PolicySliceMetric :=
  if h : s.Valid then .ok ⟨s, h⟩ else .error ⟨"ValidationError", "PolicySliceMetric"⟩

/-- Cost, turnover, and utility metrics for one frozen signal path. -/
structure PolicyUtilityFields where
  policyId : RequiredText
  modelName : RequiredText
  scenarioId : RequiredText
  observations : ℕ
  activeObservations : ℕ
  abstentionCount : ℕ
  signalChangeCount : ℕ
  turnoverUnits : ℚ
  turnover : ℚ
  grossUtilityBps : ℚ
  feeCostBps : ℚ
  spreadCostBps : ℚ
  slippageCostBps : ℚ
  estimatedCostBps : ℚ
  netUtilityBps : ℚ
  utilityPerSignalChangeBps : Option ℚ
  directionalAccuracy : ℚ
  maxDrawdownBps : ℚ
  instrumentMetrics : List PolicySliceMetric
  regimeMetrics : List PolicySliceMetric

variable (m : PolicyUtilityFields)

/-- The constraints of the fields, and `validate_accounting`. -/
def PolicyUtilityFields.Valid : Prop :=
  (1 ≤ m.observations ∧ 0 ≤ m.turnoverUnits ∧ 0 ≤ m.turnover ∧ 0 ≤ m.feeCostBps ∧
    0 ≤ m.spreadCostBps ∧ 0 ≤ m.slippageCostBps ∧ 0 ≤ m.estimatedCostBps ∧
      IsFraction m.directionalAccuracy ∧ 0 ≤ m.maxDrawdownBps) ∧
  m.activeObservations + m.abstentionCount = m.observations ∧
    m.turnover = m.turnoverUnits / m.observations ∧
      m.estimatedCostBps = m.feeCostBps + m.spreadCostBps + m.slippageCostBps ∧
        m.netUtilityBps = m.grossUtilityBps - m.estimatedCostBps ∧
          (m.signalChangeCount ≠ 0 ↔ m.utilityPerSignalChangeBps.isSome = true)

instance (m : PolicyUtilityFields) : Decidable m.Valid :=
  inferInstanceAs (Decidable ((_ ∧ _ ∧ _ ∧ _ ∧ _ ∧ _ ∧ _ ∧ _ ∧ _) ∧ _ ∧ _ ∧ _ ∧ _ ∧ _))

structure PolicyUtilityMetrics extends PolicyUtilityFields where
  valid : toPolicyUtilityFields.Valid

/-- `PolicyUtilityMetrics(...)`. -/
def PolicyUtilityFields.validate : Except PyError PolicyUtilityMetrics :=
  if h : m.Valid then .ok ⟨m, h⟩ else .error ⟨"ValidationError", "PolicyUtilityMetrics"⟩

/-! ## Rows -/

/-- One signal, its observation, and what they come to. -/
structure PolicyRow where
  signal : PolicySignal
  observation : Phase4MarketObservation
  units : ℚ
  gross : ℚ
  cost : ℚ
  net : ℚ

namespace PolicyRow

def unitsOf (signal : PolicySignal) : ℚ :=
  |(signal.targetPosition : ℚ) - (signal.previousPosition : ℚ)|

def of (scenario : SignalCostScenario) (signal : PolicySignal)
    (observation : Phase4MarketObservation) : PolicyRow :=
  let units := unitsOf signal
  let gross := signal.targetPosition * observation.realizedReturnBps
  let cost := units * scenario.feeBps + units * scenario.spreadBps + units * scenario.slippageBps
  ⟨signal, observation, units, gross, cost, gross - cost⟩

def active (row : PolicyRow) : Bool := decide (row.signal.targetPosition ≠ 0)

/-- The direction of the position is that of the return. -/
def correct (row : PolicyRow) : Bool :=
  decide (row.signal.targetPosition > 0) = decide (row.observation.realizedReturnBps > 0)

end PolicyRow

def sliceMetric (label : RequiredText) (rows : List PolicyRow) :
    Except PyError PolicySliceMetric :=
  let active := rows.filter PolicyRow.active
  let gross := (rows.map PolicyRow.gross).sum
  let cost := (rows.map PolicyRow.cost).sum
  PolicySliceFields.validate
    { label
      observations := rows.length
      activeObservations := active.length
      signalChangeCount := rows.countP fun row => row.signal.changed
      turnoverUnits := (rows.map PolicyRow.units).sum
      grossUtilityBps := gross
      estimatedCostBps := cost
      netUtilityBps := gross - cost
      directionalAccuracy := fraction (active.countP fun row => row.active && row.correct)
        active.length }

/-! ## The loop -/

structure PolicyTotals where
  rows : List PolicyRow
  running : ℚ
  peak : ℚ
  maxDrawdown : ℚ
  totalGross : ℚ
  feeCost : ℚ
  spreadCost : ℚ
  slippageCost : ℚ
  activeCorrect : ℕ
  activeCount : ℕ
  turnoverUnits : ℚ

namespace PolicyTotals

def start : PolicyTotals where
  rows := []
  running := 0
  peak := 0
  maxDrawdown := 0
  totalGross := 0
  feeCost := 0
  spreadCost := 0
  slippageCost := 0
  activeCorrect := 0
  activeCount := 0
  turnoverUnits := 0

def add (t : PolicyTotals) (scenario : SignalCostScenario) (row : PolicyRow) : PolicyTotals :=
  let running := t.running + (row.gross - row.cost)
  let peak := max t.peak running
  { rows := t.rows ++ [row]
    running := running
    peak := peak
    maxDrawdown := max t.maxDrawdown (peak - running)
    totalGross := t.totalGross + row.gross
    feeCost := t.feeCost + row.units * scenario.feeBps
    spreadCost := t.spreadCost + row.units * scenario.spreadBps
    slippageCost := t.slippageCost + row.units * scenario.slippageBps
    activeCorrect := t.activeCorrect + if row.active = true ∧ row.correct = true then 1 else 0
    activeCount := t.activeCount + if row.active = true then 1 else 0
    turnoverUnits := t.turnoverUnits + row.units }

end PolicyTotals

variable (observations : List Phase4MarketObservation)

/-- `observation_by_id[observation_id]`: an identifier has one observation. -/
def observationOf (observationId : RequiredText) :
    Except PyError Phase4MarketObservation :=
  match observations.find? fun o => o.observationId = observationId with
  | some o => .ok o
  | none => .error ⟨"KeyError", pyRepr observationId.val⟩

def policyStep (scenario : SignalCostScenario) (t : PolicyTotals) (signal : PolicySignal) :
    Except PyError PolicyTotals := do
  let observation ← observationOf observations signal.observationId
  return t.add scenario (PolicyRow.of scenario signal observation)

/-- The slices of the rows by one of their labels. -/
def slicesBy (label : PolicyRow → RequiredText) (rows : List PolicyRow) :
    Except PyError (List PolicySliceMetric) :=
  (sortedItems (byKey (fun row => some (label row)) rows)).mapM fun item =>
    sliceMetric item.1 item.2

/-- `ordered[0]`. -/
def firstSignal : List PolicySignal → Except PyError PolicySignal
  | [] => .error ⟨"IndexError", "list index out of range"⟩
  | signal :: _ => .ok signal

def evaluatePolicySignals (signals : List PolicySignal) (scenario : SignalCostScenario) :
    Except PyError PolicyUtilityMetrics := do
  require (observations ≠ [] ∧ signals ≠ [])
    (valueError "policy utility requires observations and signals")
  let ids := observations.map Phase4MarketObservation.observationId
  let signalled := signals.map PolicySignal.observationId
  require ids.Nodup (valueError "policy utility observations must be unique")
  require (signalled.Nodup ∧ SameMembers signalled ids)
    (valueError "policy signals must cover observations exactly")
  let ordered := sortedByRank PolicySignal.rank signals
  let t ← ordered.foldlM (policyStep observations scenario) .start
  let changes := ordered.countP PolicySignal.changed
  let net := t.totalGross - t.feeCost - t.spreadCost - t.slippageCost
  let first ← firstSignal ordered
  let instrumentMetrics ← slicesBy (fun row => row.observation.instrument) t.rows
  let regimeMetrics ← slicesBy (fun row => row.observation.regime) t.rows
  PolicyUtilityFields.validate
    { policyId := first.policyId
      modelName := first.modelName
      scenarioId := scenario.scenarioId
      observations := t.rows.length
      activeObservations := t.activeCount
      abstentionCount := t.rows.length - t.activeCount
      signalChangeCount := changes
      turnoverUnits := t.turnoverUnits
      turnover := t.turnoverUnits / t.rows.length
      grossUtilityBps := t.totalGross
      feeCostBps := t.feeCost
      spreadCostBps := t.spreadCost
      slippageCostBps := t.slippageCost
      estimatedCostBps := t.feeCost + t.spreadCost + t.slippageCost
      netUtilityBps := net
      utilityPerSignalChangeBps := if changes = 0 then none else some (net / changes)
      directionalAccuracy := fraction t.activeCorrect t.activeCount
      maxDrawdownBps := t.maxDrawdown
      instrumentMetrics
      regimeMetrics }

end AdvisorAI
