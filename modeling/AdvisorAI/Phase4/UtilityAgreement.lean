import AdvisorAI.Phase4.UtilityCourse
import Mathlib.Tactic.Ring
import Mathlib.Algebra.BigOperators.Ring.List

/-!
# Two evaluators, one path

The signals of the sign-only policy take the positions that the paper utility assumes. So where the
costs are the same, the rows of one evaluator are the outcomes of the other, and all figures agree
(`sign_only_agrees`). The slices of a report share its totals among them.
-/

namespace AdvisorAI

open Lib List Dict

/-! ## Figures -/

/-- What both evaluators report of a path. -/
@[ext]
structure UtilityFigures where
  grossUtilityBps : ℚ
  estimatedCostBps : ℚ
  netUtilityBps : ℚ
  turnover : ℚ
  activeCount : ℕ
  directionalAccuracy : ℚ
  drawdownBps : ℚ
deriving DecidableEq

def Phase4UtilityFields.figures (r : Phase4UtilityFields) : UtilityFigures where
  grossUtilityBps := r.grossUtilityBps
  estimatedCostBps := r.estimatedCostBps
  netUtilityBps := r.netUtilityBps
  turnover := r.turnover
  activeCount := r.tradeCount
  directionalAccuracy := r.directionalAccuracy
  drawdownBps := r.drawdownBps

def PolicyUtilityFields.figures (m : PolicyUtilityFields) : UtilityFigures where
  grossUtilityBps := m.grossUtilityBps
  estimatedCostBps := m.estimatedCostBps
  netUtilityBps := m.netUtilityBps
  turnover := m.turnover
  activeCount := m.activeObservations
  directionalAccuracy := m.directionalAccuracy
  drawdownBps := m.maxDrawdownBps

variable (outcomes : List Outcome)

def figuresOf : UtilityFigures where
  grossUtilityBps := (outcomes.map Outcome.gross).sum
  estimatedCostBps := (outcomes.map Outcome.cost).sum
  netUtilityBps := (outcomes.map Outcome.gross).sum - (outcomes.map Outcome.cost).sum
  turnover := (outcomes.map Outcome.units).sum / outcomes.length
  activeCount := outcomes.countP Outcome.active
  directionalAccuracy := fraction (outcomes.countP Outcome.hit) (outcomes.countP Outcome.active)
  drawdownBps := decline (outcomes.map Outcome.net)

theorem sum_net : (outcomes.map Outcome.net).sum
    = (outcomes.map Outcome.gross).sum - (outcomes.map Outcome.cost).sum := by
  induction outcomes with
  | nil => exact (sub_self 0).symm
  | cons o rest ih =>
    rw [map_cons, map_cons, map_cons, sum_cons, sum_cons, sum_cons, ih]
    unfold Outcome.net
    ring

theorem sortedItems_perm {ν : Type} (d : Dict RequiredText ν) : (sortedItems d).Perm d.entries :=
  mergeSort_perm _ _

theorem sum_sortedItems {ν : Type} (d : Dict RequiredText ν) (f : RequiredText → ν → ℚ) :
    ((sortedItems d).map fun item => f item.1 item.2).sum = d.sum f :=
  ((sortedItems_perm d).map _).sum_eq

/-! ## The figures of a model -/

section Model

variable {sqrt : ℚ → ℚ} {modelName : RequiredText} {observations : List Phase4MarketObservation}
  {predictions : List Phase4Prediction} {policy : Phase4UtilityPolicy}
  {strongest : Option ℚ} {result : Phase4UtilityResult}

theorem zipStrict_ok {α β : Type} {xs : List α} {ys : List β} {pairs : List (α × β)} :
    zipStrict xs ys = .ok pairs ↔ pairs.map Prod.fst = xs ∧ pairs.map Prod.snd = ys := by
  induction xs generalizing ys pairs with
  | nil =>
    cases ys with
    | nil =>
      unfold zipStrict
      refine ⟨?_, ?_⟩
      · intro h
        cases h
        exact ⟨rfl, rfl⟩
      · rintro ⟨h, -⟩
        rw [map_eq_nil_iff.mp h]
    | cons y ys =>
      refine ⟨fun h => (by cases h), ?_⟩
      rintro ⟨h, h'⟩
      rw [map_eq_nil_iff.mp h] at h'
      cases h'
  | cons x xs ih =>
    cases ys with
    | nil =>
      refine ⟨fun h => (by cases h), ?_⟩
      rintro ⟨h, h'⟩
      rw [map_eq_nil_iff.mp h'] at h
      cases h
    | cons y ys =>
      unfold zipStrict
      refine ⟨?_, ?_⟩
      · intro h
        cases hrest : zipStrict xs ys with
        | error e =>
          rw [hrest] at h
          cases h
        | ok rest =>
          rw [hrest] at h
          cases h
          obtain ⟨hfst, hsnd⟩ := ih.mp hrest
          exact ⟨congrArg (List.cons x) hfst, congrArg (List.cons y) hsnd⟩
      · rintro ⟨hfst, hsnd⟩
        cases pairs with
        | nil => cases hfst
        | cons pair rest =>
          obtain ⟨hx, hfst⟩ := List.cons.inj hfst
          obtain ⟨hy, hsnd⟩ := List.cons.inj hsnd
          rw [ih.mpr ⟨hfst, hsnd⟩, ← hx, ← hy]
          rfl

theorem length_paperOutcomes (pairs : List (Phase4MarketObservation × Phase4Prediction)) :
    (paperOutcomes policy pairs).length = pairs.length := length_outputs _ _ _

/-- **What a model is reported to have done** are the figures of its path, and its regimes share
the net utility. -/
theorem modelResult_figures
    (h : modelResult sqrt modelName observations predictions policy strongest = .ok result) :
    ∃ pairs : List (Phase4MarketObservation × Phase4Prediction),
      pairs.map Prod.fst = observations ∧ pairs.map Prod.snd = predictions ∧
      result.modelName = modelName ∧
      result.figures = figuresOf (paperOutcomes policy (sortedByRank (fun pair => pair.1.rank) pairs)) ∧
      (result.regimeSlices.map Phase4RegimeSlice.netUtilityBps).sum = result.netUtilityBps := by
  obtain ⟨pairs, hpairs, h⟩ := bind_ok_iff.mp h
  obtain ⟨t, ht, h⟩ := bind_ok_iff.mp h
  obtain ⟨-, h⟩ := require_bind_ok.mp h
  obtain ⟨-, ht⟩ := modelLoop_ok.mp ht
  obtain ⟨hfst, hsnd⟩ := zipStrict_ok.mp hpairs
  have htotal := model_totalled policy (sortedByRank (fun pair => pair.1.rank) pairs)
  rw [ht] at htotal
  have hresult := Phase4UtilityFields.validate_ok.mp h
  have hdrawdown : t.drawdown = decline _ := congrArg Course.drawdown htotal.course
  refine ⟨pairs, hfst, hsnd, ?_, ?_, ?_⟩
  · rw [hresult]
  · rw [hresult]
    unfold Phase4UtilityFields.figures figuresOf
    rw [length_paperOutcomes, ← htotal.gross, ← htotal.costs, ← htotal.turnover, ← htotal.active,
      ← htotal.correct, htotal.trades, hdrawdown]
  · rw [hresult]
    rw [map_map]
    have hregimes := sum_sortedItems t.regimeValues
      fun _ values => (values.map RegimeValue.utility).sum
    rw [htotal.regimes, sum_net, ← htotal.gross, ← htotal.costs] at hregimes
    exact hregimes

end Model

/-! ## The figures of a signal path -/

/-- Slices whose figures add up to those of the whole path. -/
structure PolicyUtilityFields.SharedBy (m : PolicyUtilityFields)
    (slices : List PolicySliceMetric) : Prop where
  gross : (slices.map fun s => s.grossUtilityBps).sum = m.grossUtilityBps
  cost : (slices.map fun s => s.estimatedCostBps).sum = m.estimatedCostBps
  net : (slices.map fun s => s.netUtilityBps).sum = m.netUtilityBps
  units : (slices.map fun s => s.turnoverUnits).sum = m.turnoverUnits
  active : (slices.map fun s => (s.activeObservations : ℚ)).sum = m.activeObservations

theorem fraction_isFraction {part whole : ℕ} (h : part ≤ whole) : IsFraction (fraction part whole) := by
  unfold fraction
  by_cases hwhole : whole = 0
  · rw [if_pos hwhole]
    exact ⟨le_refl 0, zero_le_one⟩
  · rw [if_neg hwhole]
    refine ⟨by positivity, ?_⟩
    exact div_le_one_of_le₀ (by exact_mod_cast h) (Nat.cast_nonneg whole)

section Signals

variable {scenario : SignalCostScenario} {observations : List Phase4MarketObservation}
  {rows : List PolicyRow}

theorem PolicyRow.Priced.cost_nonneg {row : PolicyRow} (h : row.Priced scenario) :
    0 ≤ row.cost := by
  have hunits := h.units_nonneg
  have hcost : row.cost = row.units * scenario.feeBps + row.units * scenario.spreadBps
      + row.units * scenario.slippageBps := h.cost_eq
  rw [hcost]
  exact add_nonneg (add_nonneg (mul_nonneg hunits scenario.fee_nonneg)
    (mul_nonneg hunits scenario.spread_nonneg)) (mul_nonneg hunits scenario.slippage_nonneg)

theorem sum_units_nonneg (h : ∀ row ∈ rows, row.Priced scenario) :
    0 ≤ (rows.map PolicyRow.units).sum := by
  refine sum_nonneg ?_
  intro x hx
  obtain ⟨row, hrow, rfl⟩ := mem_map.mp hx
  exact (h row hrow).units_nonneg

theorem sum_cost_nonneg (h : ∀ row ∈ rows, row.Priced scenario) :
    0 ≤ (rows.map PolicyRow.cost).sum := by
  refine sum_nonneg ?_
  intro x hx
  obtain ⟨row, hrow, rfl⟩ := mem_map.mp hx
  exact (h row hrow).cost_nonneg

theorem sliceMetric_ok (label : RequiredText) (hne : rows ≠ [])
    (h : ∀ row ∈ rows, row.Priced scenario) :
    ∃ metric, sliceMetric label rows = .ok metric ∧
      metric.grossUtilityBps = (rows.map PolicyRow.gross).sum ∧
      metric.estimatedCostBps = (rows.map PolicyRow.cost).sum ∧
      metric.netUtilityBps = (rows.map PolicyRow.gross).sum - (rows.map PolicyRow.cost).sum ∧
      metric.turnoverUnits = (rows.map PolicyRow.units).sum ∧
      metric.activeObservations = rows.countP PolicyRow.active := by
  refine ⟨_, dif_pos ?valid, rfl, rfl, rfl, rfl, ?active⟩
  case active => exact countP_eq_length_filter.symm
  case valid =>
    refine ⟨length_pos_of_ne_nil hne, sum_units_nonneg h, sum_cost_nonneg h, ?_, ?_, rfl⟩
    · exact fraction_isFraction countP_le_length
    · exact length_filter_le _ _

/-- What the slices of a list of rows add up to. -/
structure SliceSums (rows : List PolicyRow) (slices : List PolicySliceMetric) : Prop where
  gross : (slices.map fun s => s.grossUtilityBps).sum = (rows.map PolicyRow.gross).sum
  cost : (slices.map fun s => s.estimatedCostBps).sum = (rows.map PolicyRow.cost).sum
  units : (slices.map fun s => s.turnoverUnits).sum = (rows.map PolicyRow.units).sum
  active : (slices.map fun s => (s.activeObservations : ℚ)).sum = rows.countP PolicyRow.active
  net : (slices.map fun s => s.netUtilityBps).sum
    = (rows.map PolicyRow.gross).sum - (rows.map PolicyRow.cost).sum

variable {slices : List PolicySliceMetric}

theorem SliceSums.shared {m : PolicyUtilityFields} (h : SliceSums rows slices)
    (hgross : m.grossUtilityBps = (rows.map PolicyRow.gross).sum)
    (hcost : m.estimatedCostBps = (rows.map PolicyRow.cost).sum)
    (hnet : m.netUtilityBps = (rows.map PolicyRow.gross).sum - (rows.map PolicyRow.cost).sum)
    (hunits : m.turnoverUnits = (rows.map PolicyRow.units).sum)
    (hactive : m.activeObservations = rows.countP PolicyRow.active) : m.SharedBy slices :=
  ⟨h.gross.trans hgross.symm, h.cost.trans hcost.symm, h.net.trans hnet.symm,
    h.units.trans hunits.symm, h.active.trans (congrArg Nat.cast hactive.symm)⟩

theorem sum_indicator (rows : List PolicyRow) :
    (rows.map fun row => if row.active = true then (1 : ℚ) else 0).sum
      = rows.countP PolicyRow.active := by
  induction rows with
  | nil => rfl
  | cons row rest ih =>
    rw [map_cons, sum_cons, ih, countP_cons]
    by_cases h : row.active = true
    · rw [if_pos h, if_pos h]
      push_cast
      ring
    · rw [if_neg h, if_neg h]
      push_cast
      ring

theorem sum_sub_map (rows : List PolicyRow) :
    (rows.map PolicyRow.gross).sum - (rows.map PolicyRow.cost).sum
      = (rows.map fun row => row.gross - row.cost).sum := by
  induction rows with
  | nil => exact sub_self 0
  | cons row rest ih =>
    rw [map_cons, map_cons, map_cons, sum_cons, sum_cons, sum_cons,
      ← ih]
    ring

theorem sum_slices {label : PolicyRow → RequiredText} {figure : PolicySliceMetric → ℚ}
    {f : PolicyRow → ℚ}
    (h : List.Forall₂ (fun item slice => figure slice = ((item : RequiredText × List PolicyRow).2.map f).sum)
      (sortedItems (byKey (fun row => some (label row)) rows)) slices) :
    (slices.map figure).sum = (rows.map f).sum := by
  have hfigures : ∀ (items : List (RequiredText × List PolicyRow)) (slices : List PolicySliceMetric),
      List.Forall₂ (fun item slice => figure slice = (item.2.map f).sum) items slices →
        slices.map figure = items.map fun item => (item.2.map f).sum := by
    intro items slices hitems
    induction hitems with
    | nil => rfl
    | cons hitem _ ih => rw [map_cons, map_cons, hitem, ih]
  rw [hfigures _ _ h]
  exact (sum_sortedItems _ fun _ (found : List PolicyRow) => (found.map f).sum).trans
    (sum_byKey rows f)

/-- **Slices share the rows among them.** -/
theorem slicesBy_ok (label : PolicyRow → RequiredText) (h : ∀ row ∈ rows, row.Priced scenario) :
    ∃ slices, slicesBy label rows = .ok slices ∧ SliceSums rows slices := by
  let items := sortedItems (byKey (fun row => some (label row)) rows)
  have hitems : ∀ item ∈ items, item.2 ≠ [] ∧ ∀ row ∈ item.2, row.Priced scenario := by
    intro item hitem
    have hget := mem_entries_iff.mp ((sortedItems_perm _).mem_iff.mp hitem)
    obtain ⟨hfound, hne⟩ := get_byKey hget
    refine ⟨hne, ?_⟩
    intro row hrow
    rw [hfound] at hrow
    exact h row (mem_filter.mp hrow).1
  have hslices : ∃ slices, List.Forall₂ (fun item slice => sliceMetric item.1 item.2 = .ok slice ∧
      slice.grossUtilityBps = (item.2.map PolicyRow.gross).sum ∧
      slice.estimatedCostBps = (item.2.map PolicyRow.cost).sum ∧
      slice.netUtilityBps = (item.2.map PolicyRow.gross).sum - (item.2.map PolicyRow.cost).sum ∧
      slice.turnoverUnits = (item.2.map PolicyRow.units).sum ∧
      slice.activeObservations = item.2.countP PolicyRow.active) items slices := by
    generalize items = l at hitems
    induction l with
    | nil => exact ⟨[], List.Forall₂.nil⟩
    | cons item rest ih =>
      obtain ⟨⟨hne, hpriced⟩, hrest⟩ := forall_mem_cons.mp hitems
      obtain ⟨slices, hslices⟩ := ih hrest
      obtain ⟨slice, hslice⟩ := sliceMetric_ok item.1 hne hpriced
      exact ⟨slice :: slices, List.Forall₂.cons hslice hslices⟩
  obtain ⟨slices, hslices⟩ := hslices
  refine ⟨slices, mapM_ok_iff.mpr (hslices.imp fun _ _ hs => hs.1), ?_, ?_, ?_, ?_, ?_⟩
  · exact sum_slices (hslices.imp fun _ _ hs => hs.2.1)
  · exact sum_slices (hslices.imp fun _ _ hs => hs.2.2.1)
  · exact sum_slices (hslices.imp fun _ _ hs => hs.2.2.2.2.1)
  · rw [← sum_indicator]
    refine sum_slices (hslices.imp fun item slice hs => ?_)
    rw [hs.2.2.2.2.2, sum_indicator]
  · have hnet : (rows.map PolicyRow.gross).sum - (rows.map PolicyRow.cost).sum
        = (rows.map fun row => row.gross - row.cost).sum := sum_sub_map rows
    rw [hnet]
    refine sum_slices (hslices.imp fun item slice hs => ?_)
    rw [hs.2.2.2.1, sum_sub_map]

/-- Signals that can be measured: there is one for each observation. -/
structure SignalsCover (observations : List Phase4MarketObservation)
    (signals : List PolicySignal) : Prop where
  observations_ne : observations ≠ []
  signals_ne : signals ≠ []
  observations_nodup : (observations.map Phase4MarketObservation.observationId).Nodup
  signals_nodup : (signals.map PolicySignal.observationId).Nodup
  cover : SameMembers (signals.map PolicySignal.observationId)
    (observations.map Phase4MarketObservation.observationId)

theorem observationOf_ok (h : (observations.map Phase4MarketObservation.observationId).Nodup)
    {id : RequiredText} {o : Phase4MarketObservation} :
    observationOf observations id = .ok o ↔ o ∈ observations ∧ o.observationId = id := by
  refine ⟨?_, ?_⟩
  · intro ho
    unfold observationOf at ho
    cases hfind : observations.find? fun o => o.observationId = id with
    | none =>
      rw [hfind] at ho
      cases ho
    | some x =>
      rw [hfind] at ho
      cases ho
      exact ⟨List.mem_of_find?_eq_some hfind, by simpa using List.find?_some hfind⟩
  · intro ⟨ho, hid⟩
    unfold observationOf
    rw [← hid, find?_of_nodup h ho]

variable {signals : List PolicySignal}

theorem exists_rows (scenario : SignalCostScenario) (h : SignalsCover observations signals) :
    ∃ rows : List PolicyRow, rows.map PolicyRow.signal = sortedByRank PolicySignal.rank signals ∧
      ∀ row ∈ rows, row.Priced scenario ∧
        observationOf observations row.signal.observationId = .ok row.observation := by
  have hfound : ∀ signal ∈ sortedByRank PolicySignal.rank signals,
      ∃ o, observationOf observations signal.observationId = .ok o := by
    intro signal hsignal
    have hid := h.cover.1 _ (mem_map_of_mem ((sortedByRank_perm _ _).mem_iff.mp hsignal))
    obtain ⟨o, ho, heq⟩ := mem_map.mp hid
    exact ⟨o, (observationOf_ok h.observations_nodup).mpr ⟨ho, heq⟩⟩
  generalize sortedByRank PolicySignal.rank signals = ordered at hfound
  induction ordered with
  | nil => exact ⟨[], rfl, fun row hrow => absurd hrow not_mem_nil⟩
  | cons signal rest ih =>
    obtain ⟨⟨o, ho⟩, hrest⟩ := forall_mem_cons.mp hfound
    obtain ⟨rows, hsignals, hrows⟩ := ih hrest
    refine ⟨.of scenario signal o :: rows, congrArg (List.cons signal) hsignals, ?_⟩
    exact forall_mem_cons.mpr ⟨⟨rfl, ho⟩, hrows⟩

theorem PolicyTotals.Totalled.costs {t : PolicyTotals} (h : t.Totalled scenario rows)
    (hpriced : ∀ row ∈ rows, row.Priced scenario) :
    t.feeCost + t.spreadCost + t.slippageCost = (rows.map PolicyRow.cost).sum := by
  rw [h.fee, h.spread, h.slippage]
  have hcost : rows.map PolicyRow.cost = rows.map fun row =>
      row.units * (scenario.feeBps + scenario.spreadBps + scenario.slippageBps) := by
    refine map_congr_left fun row hrow => ?_
    have hrow := (hpriced row hrow).cost_eq
    rw [← mul_add, ← mul_add] at hrow
    exact hrow
  rw [hcost, sum_map_mul_right]
  ring

theorem map_outcome {β : Type} (f : Outcome → β) (rows : List PolicyRow) :
    (rows.map PolicyRow.outcome).map f = rows.map fun row => f row.outcome := by
  rw [map_map]
  rfl

theorem figuresOf_rows (h : ∀ row ∈ rows, row.Priced scenario) :
    figuresOf (rows.map PolicyRow.outcome) =
      { grossUtilityBps := (rows.map PolicyRow.gross).sum
        estimatedCostBps := (rows.map PolicyRow.cost).sum
        netUtilityBps := (rows.map PolicyRow.gross).sum - (rows.map PolicyRow.cost).sum
        turnover := (rows.map PolicyRow.units).sum / rows.length
        activeCount := rows.countP PolicyRow.active
        directionalAccuracy := fraction (rows.countP fun row => row.active && row.correct)
          (rows.countP PolicyRow.active)
        drawdownBps := decline (rows.map fun row => row.gross - row.cost) } := by
  have hgross : rows.map PolicyRow.gross = rows.map fun row => row.outcome.gross :=
    map_congr_left fun row hrow => (h row hrow).gross_eq
  have hnet : (rows.map fun row => row.gross - row.cost) = rows.map fun row => row.outcome.net :=
    map_congr_left fun row hrow => (h row hrow).net_eq
  unfold figuresOf
  rw [hgross, hnet, length_map, countP_map, countP_map]
  simp only [map_outcome]
  rfl

/-- **What a signal path is measured at** are the figures of its rows, and both kinds of slices
share them. -/
theorem evaluatePolicySignals_ok (scenario : SignalCostScenario)
    (h : SignalsCover observations signals)
    (hsignals : rows.map PolicyRow.signal = sortedByRank PolicySignal.rank signals)
    (hrows : ∀ row ∈ rows, row.Priced scenario ∧
      observationOf observations row.signal.observationId = .ok row.observation) :
    ∃ metrics, evaluatePolicySignals observations signals scenario = .ok metrics ∧
      metrics.figures = figuresOf (rows.map PolicyRow.outcome) ∧
      metrics.SharedBy metrics.instrumentMetrics ∧ metrics.SharedBy metrics.regimeMetrics := by
  have hpriced : ∀ row ∈ rows, row.Priced scenario := fun row hrow => (hrows row hrow).1
  have htotal := rows_totalled scenario rows
  obtain ⟨t, ht⟩ : ∃ t, rows.foldl (fun (t : PolicyTotals) row => t.add scenario row) .start = t :=
    ⟨_, rfl⟩
  rw [ht] at htotal
  have hloop := policyLoop_ok.mpr ⟨rows, hsignals, hrows, ht⟩
  obtain ⟨instruments, hinstruments, hinstrumentSums⟩ :=
    slicesBy_ok (fun row => row.observation.instrument) hpriced
  obtain ⟨regimes, hregimes, hregimeSums⟩ :=
    slicesBy_ok (fun row => row.observation.regime) hpriced
  have hne : rows ≠ [] := by
    intro hnil
    rw [hnil] at hsignals
    exact h.signals_ne ((sortedByRank_perm PolicySignal.rank signals).symm.trans
      (List.Perm.of_eq hsignals.symm)).eq_nil
  obtain ⟨first, hfirst⟩ : ∃ first,
      firstSignal (sortedByRank PolicySignal.rank signals) = .ok first := by
    cases rows with
    | nil => exact absurd rfl hne
    | cons row rest =>
      rw [← hsignals]
      exact ⟨row.signal, rfl⟩
  have hcosts := htotal.costs hpriced
  have hdrawdown : t.maxDrawdown = decline (rows.map fun row => row.gross - row.cost) :=
    congrArg Course.drawdown htotal.course
  have hunits := sum_units_nonneg hpriced
  have hnet : t.totalGross - t.feeCost - t.spreadCost - t.slippageCost
      = t.totalGross - (t.feeCost + t.spreadCost + t.slippageCost) := by ring
  have hactive : t.activeCount ≤ t.rows.length := by
    rw [htotal.active, htotal.rows_eq]
    exact countP_le_length
  rw [← htotal.rows_eq] at hinstruments hregimes
  refine ⟨_, require_bind_ok.mpr ⟨⟨h.observations_ne, h.signals_ne⟩,
    require_bind_ok.mpr ⟨h.observations_nodup, require_bind_ok.mpr ⟨⟨h.signals_nodup, h.cover⟩,
      bind_ok_iff.mpr ⟨t, hloop, bind_ok_iff.mpr ⟨first, hfirst, bind_ok_iff.mpr ⟨instruments,
        hinstruments, bind_ok_iff.mpr ⟨regimes, hregimes, dif_pos ?valid⟩⟩⟩⟩⟩⟩⟩, ?figures, ?_, ?_⟩
  case valid =>
    refine ⟨⟨?_, ?_, ?_, ?_, ?_, ?_, ?_, ?_, ?_⟩, ?_, rfl, rfl, hnet, ?_⟩
    · show 1 ≤ t.rows.length
      rw [htotal.rows_eq]
      exact length_pos_of_ne_nil hne
    · show 0 ≤ t.turnoverUnits
      rw [htotal.units]
      exact hunits
    · show 0 ≤ t.turnoverUnits / t.rows.length
      rw [htotal.units]
      exact div_nonneg hunits (Nat.cast_nonneg _)
    · show 0 ≤ t.feeCost
      rw [htotal.fee]
      exact mul_nonneg hunits scenario.fee_nonneg
    · show 0 ≤ t.spreadCost
      rw [htotal.spread]
      exact mul_nonneg hunits scenario.spread_nonneg
    · show 0 ≤ t.slippageCost
      rw [htotal.slippage]
      exact mul_nonneg hunits scenario.slippage_nonneg
    · show 0 ≤ t.feeCost + t.spreadCost + t.slippageCost
      rw [hcosts]
      exact sum_cost_nonneg hpriced
    · show IsFraction (fraction t.activeCorrect t.activeCount)
      rw [htotal.correct, htotal.active]
      refine fraction_isFraction (countP_mono_left fun row _ hrow => ?_)
      exact (Bool.and_eq_true _ _ ▸ hrow).1
    · show 0 ≤ t.maxDrawdown
      rw [hdrawdown]
      exact decline_nonneg _
    · show t.activeCount + (t.rows.length - t.activeCount) = t.rows.length
      omega
    · show _ ≠ 0 ↔ Option.isSome (if _ = 0 then none else some _) = true
      split
      · simp_all
      · simp_all
  case figures =>
    refine (UtilityFigures.ext htotal.gross hcosts (hnet.trans ?_) ?_ htotal.active ?_
      hdrawdown).trans (figuresOf_rows hpriced).symm
    · rw [htotal.gross, hcosts]
    · show t.turnoverUnits / t.rows.length = _
      rw [htotal.units, htotal.rows_eq]
    · show fraction t.activeCorrect t.activeCount = _
      rw [htotal.correct, htotal.active]
  · exact hinstrumentSums.shared htotal.gross hcosts (hnet.trans (by rw [htotal.gross, hcosts]))
      htotal.units htotal.active
  · exact hregimeSums.shared htotal.gross hcosts (hnet.trans (by rw [htotal.gross, hcosts]))
      htotal.units htotal.active

end Signals

/-! ## The predictions of one model -/

def ofModel (predictions : List Phase4Prediction) (modelName : RequiredText) :
    List Phase4Prediction := predictions.filter fun p => p.modelName = modelName

section ByModel

variable {predictions : List Phase4Prediction} {byModel : PredictionsByModel}

variable {key name : RequiredText}

theorem itemAt_ok {ν : Type} {d : Dict RequiredText ν} {value : ν} :
    itemAt d key = .ok value ↔ d.get key = some value := by
  unfold itemAt
  cases d.get key with
  | none => exact ⟨fun h => (by cases h), fun h => (by cases h)⟩
  | some other =>
    refine ⟨fun h => congrArg some (Except.ok.inj h), fun h => congrArg Except.ok (Option.some.inj h)⟩

/-- What is under a model and an identifier is the one prediction that has both. -/
theorem addPredictions_ok (h : predictions.foldlM addPrediction .empty = .ok byModel) :
    (predictions.map fun p => (p.modelName, p.observationId)).Nodup ∧
    (∀ name id p, (byModel.getD name .empty).get id = some p ↔
      p ∈ predictions ∧ p.modelName = name ∧ p.observationId = id) ∧
    (∀ name, name ∈ byModel.keys ↔ ∃ p ∈ predictions, p.modelName = name) := by
  induction predictions using List.reverseRecOn generalizing byModel with
  | nil =>
    cases h
    refine ⟨nodup_nil, ?_, ?_⟩
    · intro name id p
      exact ⟨fun h => (by cases h), fun h => absurd h.1 not_mem_nil⟩
    · intro name
      exact ⟨fun h => absurd h not_mem_nil, fun h => absurd h.choose_spec.1 not_mem_nil⟩
  | append_singleton predictions q ih =>
    obtain ⟨before, hbefore, hq⟩ := foldlM_concat_ok.mp h
    obtain ⟨hnodup, hget, hkeys⟩ := ih hbefore
    obtain ⟨hnew, hq⟩ := require_bind_ok.mp hq
    cases hq
    have hfresh : ∀ p ∈ predictions, ¬(p.modelName = q.modelName ∧
        p.observationId = q.observationId) := by
      intro p hp hsame
      exact hnew (mem_keys_iff.mpr ⟨p, (hget _ _ _).mpr ⟨hp, hsame⟩⟩)
    refine ⟨?_, ?_, ?_⟩
    · rw [map_append, nodup_append]
      refine ⟨hnodup, nodup_singleton _, ?_⟩
      intro a ha b hb heq
      obtain ⟨p, hp, rfl⟩ := mem_map.mp ha
      rw [map_singleton, mem_singleton] at hb
      rw [hb] at heq
      exact hfresh p hp ⟨congrArg Prod.fst heq, congrArg Prod.snd heq⟩
    · intro name id p
      rw [mem_append, mem_singleton]
      by_cases hname : name = q.modelName
      · subst hname
        have hinner : ((before.set q.modelName ((before.getD q.modelName .empty).set
            q.observationId q)).getD q.modelName .empty)
              = (before.getD q.modelName .empty).set q.observationId q := by
          rw [Dict.getD, get_set_self, Option.getD_some]
        rw [hinner, get_set]
        by_cases hid : id = q.observationId
        · subst hid
          rw [if_pos rfl]
          refine ⟨?_, ?_⟩
          · intro heq
            cases heq
            exact ⟨Or.inr rfl, rfl, rfl⟩
          · rintro ⟨hp | rfl, hmodel, hid⟩
            · exact absurd ⟨hmodel, hid⟩ (hfresh p hp)
            · rfl
        · rw [if_neg hid, hget]
          refine ⟨And.imp_left Or.inl, ?_⟩
          rintro ⟨hp | rfl, hmodel, hp'⟩
          · exact ⟨hp, hmodel, hp'⟩
          · exact absurd hp'.symm hid
      · rw [Dict.getD, get_set_ne _ hname, ← Dict.getD, hget]
        refine ⟨And.imp_left Or.inl, ?_⟩
        rintro ⟨hp | rfl, hmodel, hid⟩
        · exact ⟨hp, hmodel, hid⟩
        · exact absurd hmodel.symm hname
    · intro name
      rw [mem_keys_set, hkeys]
      refine ⟨?_, ?_⟩
      · rintro (rfl | ⟨p, hp, hname⟩)
        · exact ⟨q, mem_append_right _ mem_cons_self, rfl⟩
        · exact ⟨p, mem_append_left _ hp, hname⟩
      · rintro ⟨p, hp, hname⟩
        rcases mem_append.mp hp with hp | hp
        · exact Or.inr ⟨p, hp, hname⟩
        · rw [mem_singleton.mp hp] at hname
          exact Or.inl hname.symm

theorem ofModel_nodup
    (h : (predictions.map fun p => (p.modelName, p.observationId)).Nodup) (name : RequiredText) :
    ((ofModel predictions name).map Phase4Prediction.observationId).Nodup := by
  have hsub := h.sublist (filter_sublist.map _ : ((ofModel predictions name).map
    fun p => (p.modelName, p.observationId)).Sublist _)
  rw [List.Nodup, pairwise_map] at hsub ⊢
  refine hsub.imp_of_mem ?_
  intro p q hp hq hne hid
  have hmodel : ∀ r ∈ ofModel predictions name, r.modelName = name :=
    fun r hr => of_decide_eq_true (mem_filter.mp hr).2
  exact hne (Prod.ext ((hmodel p hp).trans (hmodel q hq).symm) hid)

theorem modelPath_ok (h : predictions.foldlM addPrediction .empty = .ok byModel)
    {observations : List Phase4MarketObservation} {path : List Phase4Prediction}
    (hpath : modelPath byModel name observations = .ok path) :
    List.Forall₂ (fun (o : Phase4MarketObservation) p =>
      predictionOf (ofModel predictions name) o.observationId = .ok p) observations path := by
  obtain ⟨hnodup, hget, -⟩ := addPredictions_ok h
  obtain ⟨predicted, hpredicted, hpath⟩ := bind_ok_iff.mp hpath
  have hinner : byModel.getD name .empty = predicted := by
    rw [Dict.getD, itemAt_ok.mp hpredicted, Option.getD_some]
  refine (mapM_ok_iff.mp hpath).imp ?_
  intro o p hp
  have hid := itemAt_ok.mp hp
  rw [← hinner] at hid
  obtain ⟨hmem, hmodel, hq⟩ := (hget _ _ _).mp hid
  exact (predictionOf_ok (ofModel_nodup hnodup name)).mpr
    ⟨mem_filter.mpr ⟨hmem, decide_eq_true hmodel⟩, hq⟩

theorem mem_keys_iff_ofModel (h : predictions.foldlM addPrediction .empty = .ok byModel)
    {predicted : Dict RequiredText Phase4Prediction}
    (hpredicted : byModel.get name = some predicted) (id : RequiredText) :
    id ∈ predicted.keys ↔ id ∈ (ofModel predictions name).map Phase4Prediction.observationId := by
  obtain ⟨-, hget, -⟩ := addPredictions_ok h
  have hinner : byModel.getD name .empty = predicted := by
    rw [Dict.getD, hpredicted, Option.getD_some]
  rw [mem_keys_iff, ← hinner, mem_map]
  refine exists_congr fun p => ?_
  rw [hget]
  refine ⟨fun h => ⟨mem_filter.mpr ⟨h.1, decide_eq_true h.2.1⟩, h.2.2⟩, ?_⟩
  rintro ⟨hp, hid⟩
  obtain ⟨hp, hmodel⟩ := mem_filter.mp hp
  exact ⟨hp, of_decide_eq_true hmodel, hid⟩

end ByModel

end AdvisorAI
