import AdvisorAI.Contracts.FiniteDecimals
import AdvisorAI.Execution.RiskGates

/-!
# Reduced targets

A reduced target is found by halving an interval of factors 48 times. What it admits is not
monotone in the factor, and the search does not ask for that: of each interval the lower end is
admitted and the upper end is not (`bisect_spec`). The factor one stands for the target itself
(`evaluateReasons_candidate_one`), which has not been admitted.
-/

namespace AdvisorAI

open Lib RiskKernel

/-! ## Targets with the same content -/

structure SameContent (t t' : TargetPortfolio) : Prop where
  quantities : t.positions.map (fun p => (p.instrument.canonicalId, p.targetQuantity.value))
    = t'.positions.map fun p => (p.instrument.canonicalId, p.targetQuantity.value)
  version : t.riskConstraintsVersion = t'.riskConstraintsVersion
  cash : t.cashTarget.value = t'.cashTarget.value

namespace SameContent

variable {t t' : TargetPortfolio} (h : SameContent t t')

include h

theorem instruments : targetInstruments t = targetInstruments t' := by
  have hids := congrArg (List.map Prod.fst) h.quantities
  rw [List.map_map, List.map_map] at hids
  exact hids

theorem notional (market : RiskMarketState) :
    proposedNotional t market = proposedNotional t' market := by
  have hentries : ∀ t : TargetPortfolio, (proposedNotional t market).entries
      = (t.positions.map fun p => (p.instrument.canonicalId, p.targetQuantity.value)).filterMap
        fun e => (market.marks.get e.1).map fun mark => (e.1, e.2 * mark) := by
    intro t
    rw [List.filterMap_map]
    rfl
  refine Dict.ext ?_
  rw [hentries, hentries, h.quantities]

end SameContent

section Content

variable (o : KernelOutside) {request : RiskRequest} {t : TargetPortfolio}
  (figures : AccountFigures) (killSwitch : Option String)

theorem limitValue_same (h : SameContent t request.target) (k : HardLimit) :
    limitValue { request with target := t } figures k = limitValue request figures k := by
  have hinstruments := h.instruments
  have hnotional := h.notional request.market
  have hcash := h.cash
  have hgross : proposedGross { request with target := t } = proposedGross request := by
    unfold proposedGross
    rw [← hnotional]
  have hnet : proposedNet { request with target := t } = proposedNet request := by
    unfold proposedNet
    rw [← hnotional]
  have hchanges : notionalChanges { request with target := t } = notionalChanges request := by
    unfold notionalChanges
    rw [← hnotional]
  have hworst : ∀ table, worst { request with target := t } table = worst request table := by
    intro table
    unfold worst
    rw [← hinstruments]
  cases k <;>
    simp only [limitValue, hgross, hnet, hchanges, hworst, hinstruments, hnotional, hcash]

theorem evaluateReasons_same (h : SameContent t request.target) :
    evaluateReasons o { request with target := t } figures killSwitch
      = evaluateReasons o request figures killSwitch := by
  have hlimits : targetLimitReasons o { request with target := t } figures
      = targetLimitReasons o request figures := by
    funext limit
    unfold targetLimitReasons
    have hvalue : limitValue { request with target := t } figures = limitValue request figures :=
      funext (limitValue_same figures h)
    rw [hvalue]
  have hmissing : missingMarks { request with target := t } = missingMarks request := by
    unfold missingMarks
    rw [← h.instruments]
  unfold evaluateReasons
  rw [hlimits, hmissing]
  simp only [h.instruments, h.version]

end Content

/-! ## The search -/

theorem midpoint_eq (low width : NNRat) : (low + (low + width)) / 2 = low + width / 2 := by
  rw [← add_assoc, ← two_mul, add_div, mul_div_cancel_left₀ low two_ne_zero]

variable {admitted : NNRat → Bool}

/-- **The search.** From an interval whose lower end is admitted and whose upper end is not, it
comes to one that is so many times shorter. -/
theorem bisect_spec {n : ℕ} {low width : NNRat} (hlow : admitted low = true)
    (hhigh : admitted (low + width) = false) :
    admitted (bisect admitted n low (low + width)) = true ∧
      admitted (bisect admitted n low (low + width) + width / 2 ^ n) = false ∧
      bisect admitted n low (low + width) + width / 2 ^ n ≤ low + width := by
  induction n generalizing low width with
  | zero =>
    rw [pow_zero, div_one]
    exact ⟨hlow, hhigh, le_rfl⟩
  | succ n ih =>
    have hhalves : width / 2 / 2 ^ n = width / 2 ^ (n + 1) := by
      rw [div_div, pow_succ']
    have hupper : low + width / 2 + width / 2 = low + width := by
      rw [add_assoc, add_halves]
    rw [bisect, midpoint_eq, ← hhalves]
    cases hmiddle : admitted (low + width / 2) with
    | true =>
      rw [if_pos rfl]
      have hlast : admitted (low + width / 2 + width / 2) = false := by
        rw [hupper]
        exact hhigh
      have h := ih hmiddle hlast
      rwa [hupper] at h
    | false =>
      rw [if_neg Bool.false_ne_true]
      obtain ⟨hfound, habove, hbound⟩ := ih hlow hmiddle
      refine ⟨hfound, habove, hbound.trans ?_⟩
      rw [← hupper]
      exact le_add_of_nonneg_right bot_le

theorem bisect_finite {n : ℕ} {low high : NNRat} (hlow : FiniteDecimal low)
    (hhigh : FiniteDecimal high) : FiniteDecimal (bisect admitted n low high) := by
  induction n generalizing low high with
  | zero => exact hlow
  | succ n ih =>
    have hmiddle : FiniteDecimal ((low + high) / 2 : NNRat) := by
      push_cast
      exact (hlow.add hhigh).half
    rw [bisect]
    split
    · exact ih hmiddle hhigh
    · exact ih hlow hmiddle

/-! ## What is reduced -/

def FiniteHoldings (account : AccountState ℚ) : Prop :=
  ∀ i, FiniteDecimal (account.positions.getD i 0)

section Reduced

variable {o : KernelOutside} {killSwitch : Option String} {artifactId : UUID}
  {request : RiskRequest} {figures : AccountFigures}

theorem candidate_one : SameContent (candidate request 1) request.target where
  quantities := by
    unfold candidate
    rw [List.map_map]
    refine List.map_congr_left ?_
    intro p _
    have hquantity : (Decimal.ofRat (request.account.positions.getD p.instrument.canonicalId 0
        + (p.targetQuantity.value
          - request.account.positions.getD p.instrument.canonicalId 0) * ((1 : NNRat) : ℚ))).value
        = p.targetQuantity.value := by
      rw [NNRat.cast_one, mul_one, add_sub_cancel]
      exact Decimal.value_ofRat p.targetQuantity.value_finite
    exact congrArg (Prod.mk p.instrument.canonicalId) hquantity
  version := rfl
  cash := by
    have hcash : request.account.cash - (request.account.cash - request.target.cashTarget.value
        - request.target.expectedCost.value) * ((1 : NNRat) : ℚ)
        - request.target.expectedCost.value * ((1 : NNRat) : ℚ)
        = request.target.cashTarget.value := by
      rw [NNRat.cast_one]
      ring
    show (Decimal.ofRat _).value = _
    rw [hcash]
    exact Decimal.value_ofRat request.target.cashTarget.value_finite

theorem candidate_quantities (hholdings : FiniteHoldings request.account)
    {factor : NNRat} (hfactor : FiniteDecimal factor) :
    (candidate request factor).positions.map
        (fun p => (p.instrument.canonicalId, p.targetQuantity.value))
      = request.target.positions.map fun p => (p.instrument.canonicalId,
        request.account.positions.getD p.instrument.canonicalId 0 + factor * (p.targetQuantity.value
          - request.account.positions.getD p.instrument.canonicalId 0)) := by
  unfold candidate
  rw [List.map_map]
  refine List.map_congr_left ?_
  intro p _
  have hcurrent := hholdings p.instrument.canonicalId
  have hfinite : FiniteDecimal (request.account.positions.getD p.instrument.canonicalId 0
      + (p.targetQuantity.value
        - request.account.positions.getD p.instrument.canonicalId 0) * factor) :=
    hcurrent.add ((p.targetQuantity.value_finite.sub hcurrent).mul hfactor)
  have hquantity := Decimal.value_ofRat hfinite
  rw [mul_comm (factor : ℚ)]
  exact congrArg (Prod.mk p.instrument.canonicalId) hquantity

theorem reducedTarget_some {reasons : List String} {reduced : TargetPortfolio}
    (h : reducedTarget o request figures killSwitch reasons = some reduced) :
    (∀ reason ∈ reasons, reasonName reason ∈ reducible) ∧
      admits o request figures killSwitch 0 = true ∧
      bisect (admits o request figures killSwitch) 48 0 1 ≠ 0 ∧
      reduced = candidate request (bisect (admits o request figures killSwitch) 48 0 1) := by
  unfold reducedTarget at h
  split at h
  · cases h
  · next hreducible =>
    split at h
    · cases h
    · split at h
      · cases h
      · split at h
        · cases h
        · next hzero =>
          dsimp only at h
          split at h
          · cases h
          · next hlow =>
            refine ⟨?_, by simpa using hzero, hlow, (Option.some.inj h).symm⟩
            intro reason hreason
            by_contra hnot
            exact hreducible ⟨reason, hreason, hnot⟩

/-- The target of a decision has been reduced by a common factor, which cannot be raised by the
width of the last interval. -/
structure ReducedBy (o : KernelOutside) (killSwitch : Option String) (artifactId : UUID)
    (request : RiskRequest) (decision : RiskDecision) (factor : NNRat) : Prop where
  pos : 0 < factor
  lt_one : factor < 1
  positions : decision.reducedPositions = (candidate request factor).positions
  quantities : decision.reducedPositions.map
      (fun p => (p.instrument.canonicalId, p.targetQuantity.value))
    = request.target.positions.map fun p => (p.instrument.canonicalId,
      request.account.positions.getD p.instrument.canonicalId 0 + factor * (p.targetQuantity.value
        - request.account.positions.getD p.instrument.canonicalId 0))
  approved : ApprovesTarget o killSwitch artifactId
    { request with target := candidate request factor }
  reasons : ∀ reason ∈ evaluateReasons o request (exactFigures request.account) killSwitch,
    reasonName reason ∈ reducible
  tight : ¬ApprovesTarget o killSwitch artifactId
    { request with target := candidate request (factor + 1 / 2 ^ 48) }

theorem admits_iff {factor : NNRat} : admits o request figures killSwitch factor = true ↔
    evaluateReasons o { request with target := candidate request factor } figures killSwitch = [] :=
  decide_eq_true_iff

theorem evaluate_reduced {decision : RiskDecision}
    (h : evaluate o killSwitch artifactId request true = .ok decision)
    (houtcome : decision.outcome = .reduced) :
    (∃ hash, authoritativeHash o request.account request.market = .ok hash) ∧
      evaluateReasons o request (exactFigures request.account) killSwitch ≠ [] ∧
      ∃ reduced, reducedTarget o request (exactFigures request.account) killSwitch
          (evaluateReasons o request (exactFigures request.account) killSwitch) = some reduced ∧
        decision.reducedPositions = reduced.positions := by
  have hverdict : ∀ hash reasons, (verdict request artifactId hash reasons).outcome ≠ .reduced := by
    intro hash reasons
    unfold verdict
    dsimp only
    split
    · decide
    · decide
  obtain ⟨figures, hfigures, h⟩ := ok_of_bind_ok h
  rw [accountFigures_exact] at hfigures
  cases hfigures
  obtain ⟨hash, hhash, h⟩ := ok_of_bind_ok h
  refine ⟨⟨hash, hhash⟩, ?_⟩
  split at h
  · next hreasons =>
    refine ⟨hreasons.1, ?_⟩
    split at h
    · cases h
      exact absurd houtcome (hverdict _ _)
    · next reduced hreduced =>
      split at h
      · cases h
        exact ⟨reduced, hreduced, rfl⟩
      · cases h
        exact absurd houtcome (hverdict _ _)
  · cases h
    exact absurd houtcome (hverdict _ _)

/-- **What a reduced decision admits.** -/
theorem reduced_by_factor (hholdings : FiniteHoldings request.account)
    {decision : RiskDecision} (h : evaluate o killSwitch artifactId request true = .ok decision)
    (houtcome : decision.outcome = .reduced) :
    ∃ factor, ReducedBy o killSwitch artifactId request decision factor := by
  obtain ⟨hhash, hreasons, reduced, hreduced, hpositions⟩ := evaluate_reduced h houtcome
  obtain ⟨hreducible, hzero, hlow, rfl⟩ := reducedTarget_some hreduced
  have hone : admits o request (exactFigures request.account) killSwitch (0 + 1) = false := by
    rw [← Bool.not_eq_true, zero_add, admits_iff, evaluateReasons_same o _ _ candidate_one]
    exact hreasons
  obtain ⟨hfound, habove, hbound⟩ := bisect_spec (n := 48) hzero hone
  have hfinite : FiniteDecimal
      (bisect (admits o request (exactFigures request.account) killSwitch) 48 0 1 : NNRat) := by
    refine bisect_finite ?_ ?_
    · rw [NNRat.cast_zero]
      exact FiniteDecimal.zero
    · rw [NNRat.cast_one]
      exact FiniteDecimal.intCast 1
  rw [zero_add] at hfound habove hbound
  generalize bisect (admits o request (exactFigures request.account) killSwitch) 48 0 1 = factor
    at *
  have hwidth : (0 : NNRat) < 1 / 2 ^ 48 := by positivity
  refine ⟨factor, pos_of_ne_zero hlow, (lt_add_of_pos_right factor hwidth).trans_le hbound,
    hpositions, ?_, ?_, hreducible, ?_⟩
  · rw [hpositions]
    exact candidate_quantities hholdings hfinite
  · exact approvesTarget_iff.mpr ⟨hhash, admits_iff.mp hfound⟩
  · intro happroved
    have hadmitted := admits_iff.mpr (approvesTarget_iff.mp happroved).2
    exact absurd hadmitted (by rw [habove]; exact Bool.false_ne_true)

end Reduced

def tightPolicy : RiskPolicy := paperPolicy [paperLimit .maxGrossNotional 250]

theorem tight_target_reduced : ∃ decision factor,
    evaluate paperOutside none 0 (paperRequest tightPolicy) true = .ok decision ∧
      ReducedBy paperOutside none 0 (paperRequest tightPolicy) decision factor := by
  have hreduced : (evaluate paperOutside none 0 (paperRequest tightPolicy) true).toOption.any
      (fun decision => decision.outcome = .reduced) = true := by
    decide +kernel
  obtain ⟨decision, hdecision, houtcome⟩ := ok_of_toOption_any hreduced
  have hholdings : FiniteHoldings (paperRequest tightPolicy).account := fun _ => FiniteDecimal.zero
  obtain ⟨factor, hfactor⟩ := reduced_by_factor hholdings hdecision
    (of_decide_eq_true houtcome)
  exact ⟨decision, factor, hdecision, hfactor⟩

end AdvisorAI
