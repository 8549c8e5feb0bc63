import AdvisorAI.Lib.Decline
import AdvisorAI.Phase4.PolicyUtility
import AdvisorAI.Phase4.SignalCausality

/-!
# What a path earns and costs

Both evaluators add up one `Outcome` an observation: the position that was held there, the units
that were traded to get to it, and what they cost. Each of their loops is described once by the
list of its outcomes (`rows_totalled`, `model_totalled`), so that what they report can be compared
by comparing these lists.
-/

namespace AdvisorAI

open Lib
open List hiding after

/-- What an observation comes to under a position. -/
@[ext]
structure Outcome where
  instrument : RequiredText
  regime : RequiredText
  position : SignType
  units : ℚ
  realizedReturnBps : ℚ
  cost : ℚ

namespace Outcome

variable (o : Outcome)

def gross : ℚ := o.position * o.realizedReturnBps

def net : ℚ := o.gross - o.cost

def active : Bool := decide (o.position ≠ 0)

/-- A position in the direction of the return. -/
def hit : Bool :=
  o.active && decide (decide (o.position > 0) = decide (o.realizedReturnBps > 0))

end Outcome

def netCourse (outcomes : List Outcome) : Course ℚ := Course.of (outcomes.map Outcome.net)

/-! ## Rows of a signal path -/

def PolicyRow.outcome (row : PolicyRow) : Outcome where
  instrument := row.observation.instrument
  regime := row.observation.regime
  position := row.signal.targetPosition
  units := row.units
  realizedReturnBps := row.observation.realizedReturnBps
  cost := row.cost

/-- A row is that of its signal and observation under the scenario. -/
def PolicyRow.Priced (scenario : SignalCostScenario) (row : PolicyRow) : Prop :=
  row = .of scenario row.signal row.observation

section Rows

variable {scenario : SignalCostScenario} {observations : List Phase4MarketObservation}
  {row : PolicyRow} {rows : List PolicyRow}

theorem PolicyRow.Priced.gross_eq (h : row.Priced scenario) : row.gross = row.outcome.gross := by
  rw [h]
  rfl

theorem PolicyRow.Priced.net_eq (h : row.Priced scenario) :
    row.gross - row.cost = row.outcome.net := by
  rw [h]
  rfl

theorem PolicyRow.Priced.cost_eq (h : row.Priced scenario) : row.outcome.cost
    = row.units * scenario.feeBps + row.units * scenario.spreadBps
      + row.units * scenario.slippageBps := by
  rw [h]
  rfl

theorem PolicyRow.Priced.units_nonneg (h : row.Priced scenario) : 0 ≤ row.units := by
  rw [h]
  exact abs_nonneg _

theorem policyLoop_ok {signals : List PolicySignal} {s t : PolicyTotals} :
    signals.foldlM (policyStep observations scenario) s = .ok t ↔
      ∃ rows : List PolicyRow, rows.map PolicyRow.signal = signals ∧
        (∀ row ∈ rows, row.Priced scenario ∧
          observationOf observations row.signal.observationId = .ok row.observation) ∧
            rows.foldl (fun (t : PolicyTotals) row => t.add scenario row) s = t := by
  induction signals generalizing s with
  | nil =>
    refine ⟨?_, ?_⟩
    · intro h
      cases h
      exact ⟨[], rfl, fun row hrow => absurd hrow not_mem_nil, rfl⟩
    · rintro ⟨rows, hsignals, -, ht⟩
      rw [map_eq_nil_iff.mp hsignals] at ht
      rw [← ht]
      rfl
  | cons signal rest ih =>
    rw [foldlM_cons, bind_ok_iff]
    refine ⟨?_, ?_⟩
    · rintro ⟨m, hm, h⟩
      obtain ⟨rows, hsignals, hrows, ht⟩ := ih.mp h
      obtain ⟨observation, hobservation, hm⟩ := bind_ok_iff.mp hm
      cases hm
      refine ⟨.of scenario signal observation :: rows, congrArg (List.cons signal) hsignals, ?_, ht⟩
      exact forall_mem_cons.mpr ⟨⟨rfl, hobservation⟩, hrows⟩
    · rintro ⟨rows, hsignals, hrows, ht⟩
      cases rows with
      | nil => cases hsignals
      | cons row rows =>
        obtain ⟨⟨hpriced, hobservation⟩, hrows⟩ := forall_mem_cons.mp hrows
        obtain ⟨hsignal, hsignals⟩ := List.cons.inj hsignals
        refine ⟨s.add scenario row, ?_, ih.mpr ⟨rows, hsignals, hrows, ht⟩⟩
        refine bind_ok_iff.mpr ⟨row.observation, ?_, ?_⟩
        · rw [← hsignal]
          exact hobservation
        · rw [← hsignal, ← hpriced]
          rfl

/-- The variables of the loop are totals over its rows. -/
structure PolicyTotals.Totalled (scenario : SignalCostScenario) (rows : List PolicyRow)
    (t : PolicyTotals) : Prop where
  rows_eq : t.rows = rows
  course : Course.mk t.running t.peak t.maxDrawdown
    = Course.of (rows.map fun row => row.gross - row.cost)
  gross : t.totalGross = (rows.map PolicyRow.gross).sum
  fee : t.feeCost = (rows.map PolicyRow.units).sum * scenario.feeBps
  spread : t.spreadCost = (rows.map PolicyRow.units).sum * scenario.spreadBps
  slippage : t.slippageCost = (rows.map PolicyRow.units).sum * scenario.slippageBps
  correct : t.activeCorrect = rows.countP fun row => row.active && row.correct
  active : t.activeCount = rows.countP PolicyRow.active
  units : t.turnoverUnits = (rows.map PolicyRow.units).sum

theorem rows_totalled (scenario : SignalCostScenario) (rows : List PolicyRow) :
    (rows.foldl (fun (t : PolicyTotals) row => t.add scenario row) .start).Totalled scenario rows := by
  induction rows using List.reverseRecOn with
  | nil => exact ⟨rfl, rfl, rfl, (zero_mul _).symm, (zero_mul _).symm, (zero_mul _).symm, rfl, rfl, rfl⟩
  | append_singleton rows row ih =>
    rw [foldl_append]
    generalize rows.foldl (fun (t : PolicyTotals) row => t.add scenario row) .start = t at ih
    refine ⟨?_, ?_, ?_, ?_, ?_, ?_, ?_, ?_, ?_⟩
    · exact congrArg (· ++ [row]) ih.rows_eq
    · rw [map_append, map_singleton, Course.of_append, ← ih.course]
      rfl
    · rw [map_append, sum_append, map_singleton, sum_singleton, ← ih.gross]
      rfl
    · rw [map_append, sum_append, map_singleton, sum_singleton, add_mul,
        ← ih.fee]
      rfl
    · rw [map_append, sum_append, map_singleton, sum_singleton, add_mul,
        ← ih.spread]
      rfl
    · rw [map_append, sum_append, map_singleton, sum_singleton, add_mul,
        ← ih.slippage]
      rfl
    · rw [countP_append, countP_singleton, ← ih.correct]
      simp only [foldl_cons, foldl_nil, PolicyTotals.add, Bool.and_eq_true]
    · rw [countP_append, countP_singleton, ← ih.active]
      rfl
    · rw [map_append, sum_append, map_singleton, sum_singleton, ← ih.units]
      rfl

end Rows

/-! ## The path of a model -/

/-- What an observation comes to when the position follows its prediction. -/
def paperStep (policy : Phase4UtilityPolicy) (previous : Dict RequiredText SignType)
    (pair : Phase4MarketObservation × Phase4Prediction) : Dict RequiredText SignType × Outcome :=
  let position := position pair.2.predictedReturnBps
  let units : ℚ := |(position : ℚ) - (previous.getD pair.1.instrument 0 : SignType)|
  (previous.set pair.1.instrument position,
    { instrument := pair.1.instrument
      regime := pair.1.regime
      position := position
      units := units
      realizedReturnBps := pair.1.realizedReturnBps
      cost := units * (policy.feeBps + pair.1.spreadBps + pair.1.slippageBps) })

def paperOutcomes (policy : Phase4UtilityPolicy)
    (pairs : List (Phase4MarketObservation × Phase4Prediction)) : List Outcome :=
  outputs (paperStep policy) .empty pairs

theorem position_pos {value : ℚ} : position value > 0 ↔ value > 0 := by
  unfold position
  by_cases hpos : value > 0
  · rw [if_pos hpos]
    exact ⟨fun _ => hpos, fun _ => by decide⟩
  · rw [if_neg hpos]
    refine ⟨fun h => ?_, fun h => absurd h hpos⟩
    by_cases hneg : value < 0
    · rw [if_pos hneg] at h
      exact absurd h (by decide)
    · rw [if_neg hneg] at h
      exact absurd h (by decide)

section Paths

variable {policy : Phase4UtilityPolicy} {byId : List RequiredText}
  {pairs : List (Phase4MarketObservation × Phase4Prediction)}

def ModelTotals.turn (policy : Phase4UtilityPolicy) (t : ModelTotals)
    (pair : Phase4MarketObservation × Phase4Prediction) : ModelTotals :=
  let error := pair.2.predictedReturnBps - pair.1.realizedReturnBps
  let t := { t with forecastErrors := t.forecastErrors ++ [error] }
  let t := t.countTrade pair.1 pair.2
  let t := t.account policy pair.1 pair.2
  t.calibrate pair.1 pair.2

theorem modelLoop_ok {s t : ModelTotals} :
    pairs.foldlM (ModelTotals.step policy byId) s = .ok t ↔
      (∀ pair ∈ pairs, pair.2.observationId ∈ byId) ∧ pairs.foldl (ModelTotals.turn policy) s = t := by
  induction pairs generalizing s with
  | nil =>
    refine ⟨?_, ?_⟩
    · intro h
      cases h
      exact ⟨fun pair hpair => absurd hpair not_mem_nil, rfl⟩
    · rintro ⟨-, ht⟩
      rw [← ht]
      rfl
  | cons pair rest ih =>
    rw [foldlM_cons, bind_ok_iff, forall_mem_cons]
    refine ⟨?_, ?_⟩
    · rintro ⟨m, hm, h⟩
      obtain ⟨hid, hm⟩ := require_bind_ok.mp hm
      cases hm
      obtain ⟨hrest, ht⟩ := ih.mp h
      exact ⟨⟨hid, hrest⟩, ht⟩
    · rintro ⟨⟨hid, hrest⟩, ht⟩
      refine ⟨s.turn policy pair, ?_, ih.mpr ⟨hrest, ht⟩⟩
      exact require_bind_ok.mpr ⟨hid, rfl⟩

/-- The variables of the loop are totals over its outcomes. -/
structure ModelTotals.Totalled (policy : Phase4UtilityPolicy)
    (pairs : List (Phase4MarketObservation × Phase4Prediction)) (t : ModelTotals) : Prop where
  previous : t.previous = after (paperStep policy) .empty pairs
  course : Course.mk t.running t.peak t.drawdown = netCourse (paperOutcomes policy pairs)
  gross : t.gross = ((paperOutcomes policy pairs).map Outcome.gross).sum
  costs : t.costs = ((paperOutcomes policy pairs).map Outcome.cost).sum
  turnover : t.turnover = ((paperOutcomes policy pairs).map Outcome.units).sum
  correct : t.activeCorrect = (paperOutcomes policy pairs).countP Outcome.hit
  active : t.activeCount = (paperOutcomes policy pairs).countP Outcome.active
  trades : t.tradeCount = t.activeCount
  regimes : t.regimeValues.sum (fun _ values => (values.map RegimeValue.utility).sum)
    = ((paperOutcomes policy pairs).map Outcome.net).sum

theorem paperOutcomes_append (policy : Phase4UtilityPolicy)
    (pairs : List (Phase4MarketObservation × Phase4Prediction))
    (pair : Phase4MarketObservation × Phase4Prediction) :
    paperOutcomes policy (pairs ++ [pair]) = paperOutcomes policy pairs
      ++ [(paperStep policy (after (paperStep policy) .empty pairs) pair).2] :=
  outputs_append (paperStep policy) .empty pairs [pair]

theorem ModelTotals.exists_calibrate (t : ModelTotals) (o : Phase4MarketObservation)
    (p : Phase4Prediction) : ∃ count hits,
      t.calibrate o p = { t with calibrationCount := count, calibrationHits := hits } := by
  unfold calibrate
  split
  · exact ⟨_, _, rfl⟩
  · exact ⟨_, _, rfl⟩

/-- A trade is counted where the outcome is active, and as right where it is a hit. -/
theorem ModelTotals.exists_countTrade (policy : Phase4UtilityPolicy) (t : ModelTotals)
    (pair : Phase4MarketObservation × Phase4Prediction) (previous : Dict RequiredText SignType) :
    ∃ brier abstentions,
      let outcome := (paperStep policy previous pair).2
      t.countTrade pair.1 pair.2 = { t with
        tradeCount := t.tradeCount + if outcome.active = true then 1 else 0
        activeCount := t.activeCount + if outcome.active = true then 1 else 0
        activeCorrect := t.activeCorrect + if outcome.hit = true then 1 else 0
        confidenceBrierTotal := brier
        abstentionCount := abstentions } := by
  unfold countTrade
  by_cases hflat : position pair.2.predictedReturnBps = 0
  · have hactive : (paperStep policy previous pair).2.active = false :=
      decide_eq_false (not_not_intro hflat)
    have hhit : (paperStep policy previous pair).2.hit = false := by
      unfold Outcome.hit
      rw [hactive, Bool.false_and]
    refine ⟨t.confidenceBrierTotal, t.abstentionCount + 1, ?_⟩
    rw [if_pos hflat]
    simp only [hactive, hhit]
    rfl
  · have hactive : (paperStep policy previous pair).2.active = true := decide_eq_true hflat
    have hhit : (paperStep policy previous pair).2.hit
        = decide (decide (pair.2.predictedReturnBps > 0)
          = decide (pair.1.realizedReturnBps > 0)) := by
      unfold Outcome.hit
      rw [hactive, Bool.true_and]
      show decide (decide (position pair.2.predictedReturnBps > 0)
        = decide (pair.1.realizedReturnBps > 0)) = _
      simp only [position_pos]
    let correct : ℕ :=
      if decide (pair.2.predictedReturnBps > 0) = decide (pair.1.realizedReturnBps > 0) then 1 else 0
    refine ⟨t.confidenceBrierTotal + (pair.2.confidence - correct) ^ 2, t.abstentionCount, ?_⟩
    rw [if_neg hflat]
    simp only [hactive, hhit, if_true, decide_eq_true_eq]
    rfl

theorem model_totalled (policy : Phase4UtilityPolicy)
    (pairs : List (Phase4MarketObservation × Phase4Prediction)) :
    (pairs.foldl (ModelTotals.turn policy) .start).Totalled policy pairs := by
  induction pairs using List.reverseRecOn with
  | nil => exact ⟨rfl, rfl, rfl, rfl, rfl, rfl, rfl, rfl, rfl⟩
  | append_singleton pairs pair ih =>
    rw [foldl_append]
    generalize pairs.foldl (ModelTotals.turn policy) .start = t at ih
    have hprevious := ih.previous
    obtain ⟨brier, abstentions, htrade⟩ := ModelTotals.exists_countTrade policy
      { t with forecastErrors := t.forecastErrors
          ++ [pair.2.predictedReturnBps - pair.1.realizedReturnBps] } pair t.previous
    obtain ⟨count, hits, hcalibrate⟩ := ModelTotals.exists_calibrate
      (ModelTotals.account (ModelTotals.countTrade { t with forecastErrors := t.forecastErrors
          ++ [pair.2.predictedReturnBps - pair.1.realizedReturnBps] } pair.1 pair.2)
        policy pair.1 pair.2) pair.1 pair.2
    have hturn : [pair].foldl (ModelTotals.turn policy) t = _ := hcalibrate
    rw [htrade] at hturn
    rw [hturn]
    have houtcomes := paperOutcomes_append policy pairs pair
    rw [← hprevious] at houtcomes
    refine ⟨?_, ?_, ?_, ?_, ?_, ?_, ?_, ?_, ?_⟩
    · rw [after_append, ← hprevious]
      rfl
    · unfold netCourse
      rw [houtcomes, map_append, map_singleton, Course.of_append]
      show _ = (netCourse (paperOutcomes policy pairs)).add _
      rw [← ih.course]
      rfl
    · rw [houtcomes, map_append, sum_append, map_singleton, sum_singleton,
        ← ih.gross]
      rfl
    · rw [houtcomes, map_append, sum_append, map_singleton, sum_singleton,
        ← ih.costs]
      rfl
    · rw [houtcomes, map_append, sum_append, map_singleton, sum_singleton,
        ← ih.turnover]
      rfl
    · rw [houtcomes, countP_append, countP_singleton, ← ih.correct]
      rfl
    · rw [houtcomes, countP_append, countP_singleton, ← ih.active]
      rfl
    · show t.tradeCount + _ = t.activeCount + _
      rw [ih.trades]
    · rw [houtcomes, map_append, sum_append, map_singleton, sum_singleton,
        ← ih.regimes]
      refine (sum_set_append t.regimeValues RegimeValue.utility pair.1.regime _).trans ?_
      refine congrArg (_ + ·) ?_
      exact congrArg (· - _) (mul_comm _ _)

end Paths

end AdvisorAI
