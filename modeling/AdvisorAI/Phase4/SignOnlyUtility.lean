import AdvisorAI.Phase4.PaperReports

/-!
# The sign-only path

The signals of the sign-only policy take the positions of the paper utility, so their rows are the
outcomes of the model's path (`signOnly_rows`). With the costs of the observations in the scenario
both evaluators report the same figures: `sign_only_agrees`.
-/

namespace AdvisorAI

open Lib List

section Path

variable {spec : SignalPolicySpec} {scenario : SignalCostScenario} {policy : Phase4UtilityPolicy}
  {modelName : RequiredText} {observations : List Phase4MarketObservation}
  {pairs : List (Phase4MarketObservation × Phase4Prediction)}

/-- The costs of an observation are those of the scenario. -/
def CostsOf (scenario : SignalCostScenario) (o : Phase4MarketObservation) : Prop :=
  o.spreadBps = scenario.spreadBps ∧ o.slippageBps = scenario.slippageBps

theorem signOnly_outcome (hfamily : spec.family = .signOnly)
    (hfee : policy.feeBps = scenario.feeBps) (modelName : RequiredText) (s : SignalStates)
    {pair : Phase4MarketObservation × Phase4Prediction} (hcosts : CostsOf scenario pair.1) :
    (PolicyRow.of scenario (signalStep spec modelName s pair).2 pair.1).outcome
      = (paperStep policy s.previous pair).2 := by
  have htarget : (signalStep spec modelName s pair).2.targetPosition
      = position pair.2.predictedReturnBps := by
    show targetForPolicy spec _ _ _ = _
    unfold targetForPolicy
    rw [hfamily]
  have hunits : PolicyRow.unitsOf (signalStep spec modelName s pair).2
      = (paperStep policy s.previous pair).2.units := by
    unfold PolicyRow.unitsOf
    rw [htarget]
    rfl
  refine Outcome.ext rfl rfl htarget hunits rfl ?_
  show PolicyRow.unitsOf _ * scenario.feeBps + PolicyRow.unitsOf _ * scenario.spreadBps
    + PolicyRow.unitsOf _ * scenario.slippageBps
      = (paperStep policy s.previous pair).2.units
        * (policy.feeBps + pair.1.spreadBps + pair.1.slippageBps)
  rw [hunits, hfee, hcosts.1, hcosts.2]
  ring

/-- **The rows of the sign-only signals** are the outcomes of the path. -/
theorem signOnly_rows (hfamily : spec.family = .signOnly)
    (hfee : policy.feeBps = scenario.feeBps) (hcosts : ∀ pair ∈ pairs, CostsOf scenario pair.1)
    (modelName : RequiredText) (s : SignalStates) :
    ∃ rows : List PolicyRow,
      rows.map PolicyRow.signal = outputs (signalStep spec modelName) s pairs ∧
      (∀ row ∈ rows, row.Priced scenario ∧ (∃ pair ∈ pairs, row.observation = pair.1) ∧
        row.signal.observationId = row.observation.observationId) ∧
      rows.map PolicyRow.outcome = outputs (paperStep policy) s.previous pairs := by
  induction pairs generalizing s with
  | nil => exact ⟨[], rfl, fun row hrow => absurd hrow not_mem_nil, rfl⟩
  | cons pair rest ih =>
    obtain ⟨hpair, hrest⟩ := forall_mem_cons.mp hcosts
    obtain ⟨rows, hsignals, hrows, houtcomes⟩ := ih hrest (signalStep spec modelName s pair).1
    have hstate : (signalStep spec modelName s pair).1.previous
        = (paperStep policy s.previous pair).1 := by
      have htarget := congrArg Outcome.position
        (signOnly_outcome hfamily hfee modelName s hpair)
      exact congrArg (s.previous.set pair.1.instrument) htarget
    refine ⟨.of scenario (signalStep spec modelName s pair).2 pair.1 :: rows,
      congrArg (List.cons _) hsignals, ?_, ?_⟩
    · refine forall_mem_cons.mpr ⟨⟨rfl, ⟨pair, mem_cons_self, rfl⟩, rfl⟩, ?_⟩
      intro row hrow
      obtain ⟨hpriced, ⟨other, hother, heq⟩, hid⟩ := hrows row hrow
      exact ⟨hpriced, ⟨other, mem_cons_of_mem pair hother, heq⟩, hid⟩
    · rw [map_cons, signOnly_outcome hfamily hfee modelName s hpair, houtcomes, hstate]
      rfl

theorem map_fst_sorted (h : pairs.map Prod.fst = observations)
    (hnodup : (observations.map Phase4MarketObservation.observationId).Nodup) :
    (sortedByRank (fun pair => pair.1.rank) pairs).map Prod.fst
      = sortedByRank Phase4MarketObservation.rank observations := by
  have hstrict : ((sortedByRank (fun pair => pair.1.rank) pairs).map Prod.fst).Pairwise
      fun a b => a.rank < b.rank := by
    rw [pairwise_map]
    refine sortedByRank_strict ?_
    have hranks := ranks_nodup hnodup
    rw [← h, map_map] at hranks
    exact hranks
  refine (sortedByRank_eq ?_ hstrict).symm
  rw [← h]
  exact ((sortedByRank_perm _ pairs).map Prod.fst).symm

variable {signals : List PolicySignal}

theorem signals_sorted
    (hfst : pairs.map Prod.fst = sortedByRank Phase4MarketObservation.rank observations)
    (hnodup : (observations.map Phase4MarketObservation.observationId).Nodup)
    (hout : outputs (signalStep spec modelName) .start pairs = signals) :
    sortedByRank PolicySignal.rank signals = signals := by
  have hranks : ∀ s : SignalStates, (outputs (signalStep spec modelName) s pairs).map
      PolicySignal.rank = (pairs.map Prod.fst).map Phase4MarketObservation.rank := by
    clear hout hfst
    induction pairs with
    | nil => exact fun s => rfl
    | cons pair rest ih => exact fun s => congrArg (List.cons pair.1.rank) (ih _)
  have hstrict := sortedByRank_strict (ranks_nodup hnodup)
  rw [← hfst] at hstrict
  refine sortedByRank_eq (List.Perm.refl _) ?_
  have hsignals := (hranks .start).symm
  rw [hout] at hsignals
  rw [← pairwise_map (R := fun a b => a < b), ← hsignals, pairwise_map]
  exact hstrict

theorem signals_cover (hne : observations ≠ [])
    (hfst : pairs.map Prod.fst = sortedByRank Phase4MarketObservation.rank observations)
    (hnodup : (observations.map Phase4MarketObservation.observationId).Nodup)
    (hout : outputs (signalStep spec modelName) .start pairs = signals) :
    SignalsCover observations signals := by
  have hids : signals.map PolicySignal.observationId
      = (sortedByRank Phase4MarketObservation.rank observations).map
        Phase4MarketObservation.observationId := by
    rw [← hout, observationIds_of_outputs, hfst]
  have hperm : (signals.map PolicySignal.observationId).Perm
      (observations.map Phase4MarketObservation.observationId) := by
    rw [hids]
    exact (sortedByRank_perm _ observations).map _
  refine ⟨hne, ?_, hnodup, hperm.nodup_iff.mpr hnodup, ?_, ?_⟩
  · intro hnil
    rw [hnil] at hperm
    exact hne (map_eq_nil_iff.mp hperm.symm.eq_nil)
  · exact fun id hid => hperm.mem_iff.mp hid
  · exact fun id hid => hperm.mem_iff.mpr hid

end Path

/-! ## The report -/

section Report

variable {sqrt : ℚ → ℚ} {byModel : PredictionsByModel} {policy : Phase4UtilityPolicy}
  {observations : List Phase4MarketObservation} {predictions : List Phase4Prediction}
  {results : List Phase4UtilityResult} {result : Phase4UtilityResult}

theorem exists_of_mem_allResults
    (h : allResults sqrt byModel observations policy = .ok results) (hr : result ∈ results) :
    ∃ name strongest path, modelPath byModel name observations = .ok path ∧
      modelResult sqrt name observations path policy strongest = .ok result := by
  have hfound : ∀ {names : List RequiredText} {found : List Phase4UtilityResult}
      {strongest : Option ℚ}, names.mapM (fun name => do
        modelResult sqrt name observations (← modelPath byModel name observations) policy strongest)
          = .ok found → result ∈ found → ∃ name path,
            modelPath byModel name observations = .ok path ∧
              modelResult sqrt name observations path policy strongest = .ok result := by
    intro names found strongest hfound hr
    obtain ⟨name, -, hname⟩ := exists_of_mapM_ok hfound hr
    obtain ⟨path, hpath, hresult⟩ := bind_ok_iff.mp hname
    exact ⟨name, path, hpath, hresult⟩
  obtain ⟨baselines, hbaselines, h⟩ := bind_ok_iff.mp h
  obtain ⟨others, hothers, h⟩ := bind_ok_iff.mp h
  cases h
  rcases mem_append.mp hr with hr | hr
  · obtain ⟨name, path, found⟩ := hfound hbaselines hr
    exact ⟨name, none, path, found⟩
  · obtain ⟨name, path, found⟩ := hfound hothers hr
    exact ⟨name, _, path, found⟩

variable {name : RequiredText}

theorem exists_result (h : allResults sqrt byModel observations policy = .ok results)
    (hname : name ∈ byModel.keys) : ∃ result ∈ results, result.modelName = name := by
  have hmade : ∀ {names : List RequiredText} {found : List Phase4UtilityResult}
      {strongest : Option ℚ}, names.mapM (fun name => do
        modelResult sqrt name observations (← modelPath byModel name observations) policy strongest)
          = .ok found → name ∈ names → ∃ result ∈ found, result.modelName = name := by
    intro names found strongest hfound hmem
    obtain ⟨result, hresult, hname⟩ := exists_made_of_mem hfound hmem
    obtain ⟨path, -, hname⟩ := bind_ok_iff.mp hname
    obtain ⟨pairs, -, -, hmodel, -⟩ := modelResult_figures hname
    exact ⟨result, hresult, hmodel⟩
  obtain ⟨baselines, hbaselines, h⟩ := bind_ok_iff.mp h
  obtain ⟨others, hothers, h⟩ := bind_ok_iff.mp h
  cases h
  by_cases hmandatory : name ∈ mandatoryBaselines
  · obtain ⟨result, hresult, hmodel⟩ := hmade hbaselines hmandatory
    exact ⟨result, mem_append_left _ hresult, hmodel⟩
  · have hother : name ∈ otherModels byModel :=
      mem_mergeSort.mpr (mem_filter.mpr ⟨hname, decide_eq_true hmandatory⟩)
    obtain ⟨result, hresult, hmodel⟩ := hmade hothers hother
    exact ⟨result, mem_append_right _ hresult, hmodel⟩

theorem ofModel_path (h : predictions.foldlM addPrediction .empty = .ok byModel)
    (hne : observations ≠ [])
    (hids : (observations.map Phase4MarketObservation.observationId).Nodup)
    (hcover : ∀ item ∈ byModel.entries, SameMembers (Dict.keys item.2)
      (observations.map Phase4MarketObservation.observationId)) (hname : name ∈ byModel.keys) :
    OneModelPath observations (ofModel predictions name) name := by
  obtain ⟨hnodup, -⟩ := addPredictions_ok h
  obtain ⟨predicted, hpredicted⟩ := Dict.mem_keys_iff.mp hname
  obtain ⟨hcovered, hcovers⟩ := hcover _ (Dict.mem_entries_iff.mpr hpredicted)
  have hmem := mem_keys_iff_ofModel h hpredicted
  refine ⟨hne, hids, ofModel_nodup hnodup name, ⟨?_, ?_⟩, ?_⟩
  · intro id hid
    exact hcovered id ((hmem id).mpr hid)
  · intro id hid
    exact (hmem id).mp (hcovers id hid)
  · intro p hp
    exact of_decide_eq_true (mem_filter.mp hp).2

/-- **Every result of a report** has the figures of the path of its model. -/
theorem report_path {now : Timestamp} {gateHash : Option Digest} {evaluatedAt : Option Datetime}
    {report : Phase4EvaluationReport}
    (h : evaluatePaperUtility sqrt now observations predictions policy gateHash evaluatedAt
      = .ok report) :
    (∀ p ∈ predictions, ∃ result ∈ report.results, result.modelName = p.modelName) ∧
    ∀ result ∈ report.results,
      OneModelPath observations (ofModel predictions result.modelName) result.modelName ∧
      (result.regimeSlices.map Phase4RegimeSlice.netUtilityBps).sum = result.netUtilityBps ∧
      ∃ pairs : List (Phase4MarketObservation × Phase4Prediction),
        pairs.map Prod.fst = sortedByRank Phase4MarketObservation.rank observations ∧
        (∀ pair ∈ pairs, predictionOf (ofModel predictions result.modelName)
          pair.1.observationId = .ok pair.2) ∧
        result.figures = figuresOf (paperOutcomes policy pairs) := by
  obtain ⟨hne, h⟩ := require_bind_ok.mp h
  obtain ⟨-, h⟩ := require_bind_ok.mp h
  obtain ⟨hash, -, h⟩ := bind_ok_iff.mp h
  obtain ⟨hids, h⟩ := require_bind_ok.mp h
  obtain ⟨byModel, hbyModel, h⟩ := bind_ok_iff.mp h
  obtain ⟨-, h⟩ := require_bind_ok.mp h
  obtain ⟨u, hcover, h⟩ := bind_ok_iff.mp h
  obtain ⟨results, hresults, h⟩ := bind_ok_iff.mp h
  obtain ⟨at', -, h⟩ := bind_ok_iff.mp h
  cases h
  have hcovers : ∀ item ∈ byModel.entries, SameMembers (Dict.keys item.2)
      (observations.map Phase4MarketObservation.observationId) :=
    fun item hitem => require_ok.mp (checkAll_ok.mp hcover item hitem)
  refine ⟨?_, ?_⟩
  · intro p hp
    exact exists_result hresults (((addPredictions_ok hbyModel).2.2 _).mpr ⟨p, hp, rfl⟩)
  · intro result hr
    obtain ⟨name, strongest, path, hpath, hresult⟩ := exists_of_mem_allResults hresults hr
    obtain ⟨pairs, hfst, hsnd, hmodel, hfigures, hregimes⟩ := modelResult_figures hresult
    subst hmodel
    have hname : result.modelName ∈ byModel.keys := by
      obtain ⟨predicted, hpredicted, -⟩ := bind_ok_iff.mp hpath
      exact Dict.mem_keys_iff.mpr ⟨predicted, itemAt_ok.mp hpredicted⟩
    have hpairs : ∀ pair ∈ pairs, predictionOf (ofModel predictions result.modelName)
        pair.1.observationId = .ok pair.2 := by
      have hforall := modelPath_ok hbyModel hpath
      rw [← hfst, ← hsnd, forall₂_map_left_iff, forall₂_map_right_iff,
        forall₂_same] at hforall
      exact hforall
    refine ⟨ofModel_path hbyModel hne hids hcovers hname, hregimes, _, map_fst_sorted hfst hids,
      ?_, hfigures⟩
    exact fun pair hpair => hpairs pair ((sortedByRank_perm _ pairs).mem_iff.mp hpair)

end Report

/-- **The sign-only signals of a path** are measured at the figures of the path. -/
theorem signOnly_measured {spec : SignalPolicySpec} {scenario : SignalCostScenario}
    {policy : Phase4UtilityPolicy} {observations : List Phase4MarketObservation}
    {predictions : List Phase4Prediction} {modelName : RequiredText}
    {pairs : List (Phase4MarketObservation × Phase4Prediction)}
    (hfamily : spec.family = .signOnly) (hfee : policy.feeBps = scenario.feeBps)
    (hcosts : ∀ o ∈ observations, CostsOf scenario o)
    (hpath : OneModelPath observations predictions modelName)
    (hfst : pairs.map Prod.fst = sortedByRank Phase4MarketObservation.rank observations)
    (hpairs : ∀ pair ∈ pairs, predictionOf predictions pair.1.observationId = .ok pair.2) :
    ∃ metrics, applySignalPolicy observations predictions spec
        = .ok (outputs (signalStep spec modelName) .start pairs) ∧
      evaluatePolicySignals observations (outputs (signalStep spec modelName) .start pairs) scenario
        = .ok metrics ∧
      metrics.figures = figuresOf (paperOutcomes policy pairs) ∧
      metrics.SharedBy metrics.instrumentMetrics ∧ metrics.SharedBy metrics.regimeMetrics := by
  have hids := hpath.observations_nodup
  have hmember : ∀ pair ∈ pairs, pair.1 ∈ observations := by
    intro pair hpair
    refine (sortedByRank_perm Phase4MarketObservation.rank observations).mem_iff.mp ?_
    rw [← hfst]
    exact mem_map_of_mem hpair
  obtain ⟨rows, hrowSignals, hrows, houtcomes⟩ := signOnly_rows hfamily hfee
    (fun pair hpair => hcosts _ (hmember pair hpair)) modelName .start
  have hmeasurable : ∀ row ∈ rows, row.Priced scenario ∧
      observationOf observations row.signal.observationId = .ok row.observation := by
    intro row hrow
    obtain ⟨hpriced, ⟨pair, hpair, hrowObservation⟩, hid⟩ := hrows row hrow
    refine ⟨hpriced, (observationOf_ok hids).mpr ⟨?_, hid.symm⟩⟩
    rw [hrowObservation]
    exact hmember pair hpair
  obtain ⟨metrics, hmetrics, hmeasured, hinstruments, hregimeSlices⟩ :=
    evaluatePolicySignals_ok scenario (signals_cover hpath.nonempty hfst hids rfl)
      (hrowSignals.trans (signals_sorted hfst hids rfl).symm) hmeasurable
  refine ⟨metrics, applySignalPolicy_ok.mpr ⟨modelName, hpath, pairs, hfst, hpairs, rfl⟩, hmetrics,
    ?_, hinstruments, hregimeSlices⟩
  rw [hmeasured, houtcomes]
  rfl

/-- **One path, one set of figures.** The observations of a report have the costs of the scenario,
and the fee is the same. Then every model is reported, and measured at its sign-only signals each
has the figures of its result; instruments share them, and so do regimes, here and in the
result. -/
theorem sign_only_agrees (sqrt : ℚ → ℚ) (now : Timestamp)
    (observations : List Phase4MarketObservation) (predictions : List Phase4Prediction)
    (policy : Phase4UtilityPolicy) (gateHash : Option Digest) (evaluatedAt : Option Datetime)
    (scenario : SignalCostScenario) (spec : SignalPolicySpec) (report : Phase4EvaluationReport)
    (hcosts : ∀ o ∈ observations, CostsOf scenario o) (hfee : policy.feeBps = scenario.feeBps)
    (hfamily : spec.family = .signOnly)
    (h : evaluatePaperUtility sqrt now observations predictions policy gateHash evaluatedAt
      = .ok report) :
    (∀ p ∈ predictions, ∃ result ∈ report.results, result.modelName = p.modelName) ∧
    ∀ result ∈ report.results, ∃ signals metrics,
      applySignalPolicy observations (ofModel predictions result.modelName) spec = .ok signals ∧
      evaluatePolicySignals observations signals scenario = .ok metrics ∧
      metrics.figures = result.figures ∧
      metrics.SharedBy metrics.instrumentMetrics ∧ metrics.SharedBy metrics.regimeMetrics ∧
      (result.regimeSlices.map Phase4RegimeSlice.netUtilityBps).sum = result.netUtilityBps := by
  obtain ⟨hmodels, hresults⟩ := report_path h
  refine ⟨hmodels, ?_⟩
  intro result hr
  obtain ⟨honePath, hregimes, pairs, hfst, hpairs, hfigures⟩ := hresults result hr
  obtain ⟨metrics, happlied, hmetrics, hmeasured, hinstruments, hregimeSlices⟩ :=
    signOnly_measured hfamily hfee hcosts honePath hfst hpairs
  exact ⟨_, metrics, happlied, hmetrics, hmeasured.trans hfigures.symm, hinstruments,
    hregimeSlices, hregimes⟩

theorem signOnlyId_ne : "sign-only-v1" ≠ "" := by decide
theorem scenarioId_ne : "modeled-10" ≠ "" := by decide
theorem policyVersion_ne : "phase4-paper-utility-v1" ≠ "" := by decide
theorem feeSchedule_ne : "binance-spot-testnet-conservative-v1" ≠ "" := by decide
theorem thirty_pos : 1 ≤ 30 := by decide
theorem ten_nonneg : (0 : ℚ) ≤ 10 := by decide +kernel

def exampleSignOnly : SignalPolicySpec where
  policyId := ⟨"sign-only-v1", signOnlyId_ne⟩
  family := .signOnly
  thresholdBps := 0
  flipThresholdBps := 0
  expectedAllInCostBps := 0
  uncertaintyBufferBps := 0
  minHoldObservations := 0
  confidenceThreshold := 0
  threshold_nonneg := free_nonneg
  flip_nonneg := free_nonneg
  cost_nonneg := free_nonneg
  buffer_nonneg := free_nonneg
  confidence_fraction := zero_isFraction
  hysteresis_thresholds h := absurd h SignalPolicyFamily.noConfusion
  magnitude_threshold h := absurd h SignalPolicyFamily.noConfusion
  cooldown_hold h := absurd h SignalPolicyFamily.noConfusion
  confidence_threshold h := absurd h SignalPolicyFamily.noConfusion

def exampleScenario : SignalCostScenario where
  scenarioId := ⟨"modeled-10", scenarioId_ne⟩
  feeBps := 10
  spreadBps := 0
  slippageBps := 0
  fee_nonneg := ten_nonneg
  spread_nonneg := free_nonneg
  slippage_nonneg := free_nonneg

def examplePolicy : Phase4UtilityPolicy where
  policyVersion := ⟨"phase4-paper-utility-v1", policyVersion_ne⟩
  feeScheduleId := ⟨"binance-spot-testnet-conservative-v1", feeSchedule_ne⟩
  feeBps := 10
  minimumIncrementalUtilityBps := 0
  minimumObservations := 30
  fee_nonneg := ten_nonneg
  minimum_nonneg := free_nonneg
  observations_pos := thirty_pos

def squareRoot (q : ℚ) : ℚ := (Nat.sqrt q.num.natAbs : ℚ) / Nat.sqrt q.den

theorem squareRoot_nonneg (q : ℚ) : 0 ≤ squareRoot q :=
  div_nonneg (Nat.cast_nonneg _) (Nat.cast_nonneg _)

def exampleBaselines : List Phase4Prediction :=
  mandatoryBaselines.map fun name => examplePrediction ⟨"2026-01-01", firstId_ne⟩ name 5

def exampleReturn : List Phase4MarketObservation :=
  [exampleObservation ⟨"2026-01-01", firstId_ne⟩ ⟨"BTCUSDT", bitcoin_ne⟩ 0 5]

theorem epoch_aware : ((none : Option Datetime).getD (Datetime.ofTimestamp 0)).aware
    "Phase-4 evaluation timestamp must include a timezone" = .ok 0 :=
  Datetime.aware_ofTimestamp epoch_valid

theorem exampleReturn_reported : ∃ report,
    evaluatePaperUtility squareRoot 0 exampleReturn exampleBaselines examplePolicy
      (some paperDigest) none = .ok report :=
  evaluatePaperUtility_returns (fun q _ => squareRoot_nonneg q) (cons_ne_nil _ _)
    (by decide +kernel) (by decide +kernel) (by decide +kernel) (by decide +kernel)
    (by decide +kernel) epoch_aware

theorem baselines_agree : ∃ report,
    evaluatePaperUtility squareRoot 0 exampleReturn exampleBaselines examplePolicy
      (some paperDigest) none = .ok report ∧
    ∃ result ∈ report.results, ∃ signals metrics,
      applySignalPolicy exampleReturn (ofModel exampleBaselines result.modelName) exampleSignOnly
        = .ok signals ∧
      evaluatePolicySignals exampleReturn signals exampleScenario = .ok metrics ∧
      metrics.figures = result.figures := by
  obtain ⟨report, hreport⟩ := exampleReturn_reported
  obtain ⟨hmodels, hagree⟩ := sign_only_agrees squareRoot 0 exampleReturn exampleBaselines
    examplePolicy (some paperDigest) none exampleScenario exampleSignOnly report
    (fun o ho => by rw [mem_singleton.mp ho]; exact ⟨rfl, rfl⟩) rfl rfl hreport
  obtain ⟨result, hresult, -⟩ := hmodels _ mem_cons_self
  obtain ⟨signals, metrics, hsignals, hmetrics, hfigures, -⟩ := hagree result hresult
  exact ⟨report, hreport, result, hresult, signals, metrics, hsignals, hmetrics, hfigures⟩

end AdvisorAI
