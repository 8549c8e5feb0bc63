import AdvisorAI.Phase4.SignOnlyUtility

/-!
# The drawdown of a path

Both evaluators report the largest decline of the cumulative net utility along the path: the
observations by instrument, then cutoff, then identifier. For one instrument this is the order of
time. For several it is not, and other names of the instruments give another drawdown
(`renamed_drawdown_differs`), unless they sort as the old ones did.
-/

namespace AdvisorAI

open Lib List

/-! ## The net utilities of a path -/

/-- The sorted observations that have a prediction, with it. -/
def pathOf (observations : List Phase4MarketObservation) (predictions : List Phase4Prediction) :
    List (Phase4MarketObservation × Phase4Prediction) :=
  (sortedByRank Phase4MarketObservation.rank observations).filterMap fun o =>
    (predictions.find? fun p => p.observationId = o.observationId).map (o, ·)

/-- The net utilities of a model, in the order of the evaluation. -/
def paperNets (policy : Phase4UtilityPolicy) (observations : List Phase4MarketObservation)
    (predictions : List Phase4Prediction) : List ℚ :=
  (paperOutcomes policy (pathOf observations predictions)).map Outcome.net

/-- The net utilities of signals, in the order of the evaluation. -/
def signalNets (observations : List Phase4MarketObservation) (signals : List PolicySignal)
    (scenario : SignalCostScenario) : List ℚ :=
  (sortedByRank PolicySignal.rank signals).filterMap fun signal =>
    (observations.find? fun o => o.observationId = signal.observationId).map fun o =>
      (PolicyRow.of scenario signal o).outcome.net

section Nets

variable {observations : List Phase4MarketObservation} {predictions : List Phase4Prediction}
  {signals : List PolicySignal} {scenario : SignalCostScenario}

theorem predictionOf_eq_ok {id : RequiredText} {p : Phase4Prediction} :
    predictionOf predictions id = .ok p ↔
      predictions.find? (fun p => p.observationId = id) = some p := by
  unfold predictionOf
  cases predictions.find? fun p => p.observationId = id with
  | none => exact ⟨fun h => (by cases h), fun h => (by cases h)⟩
  | some q => exact ⟨fun h => congrArg some (Except.ok.inj h), fun h => congrArg Except.ok (Option.some.inj h)⟩

theorem observationOf_eq_ok {id : RequiredText} {o : Phase4MarketObservation} :
    observationOf observations id = .ok o ↔
      observations.find? (fun o => o.observationId = id) = some o := by
  unfold observationOf
  cases observations.find? fun o => o.observationId = id with
  | none => exact ⟨fun h => (by cases h), fun h => (by cases h)⟩
  | some q => exact ⟨fun h => congrArg some (Except.ok.inj h), fun h => congrArg Except.ok (Option.some.inj h)⟩

theorem eq_pathOf {pairs : List (Phase4MarketObservation × Phase4Prediction)}
    (hfst : pairs.map Prod.fst = sortedByRank Phase4MarketObservation.rank observations)
    (hpairs : ∀ pair ∈ pairs, predictionOf predictions pair.1.observationId = .ok pair.2) :
    pathOf observations predictions = pairs := by
  unfold pathOf
  rw [← hfst]
  clear hfst
  induction pairs with
  | nil => rfl
  | cons pair rest ih =>
    obtain ⟨hpair, hrest⟩ := forall_mem_cons.mp hpairs
    rw [map_cons, filterMap_cons, predictionOf_eq_ok.mp hpair, ih hrest]
    rfl

/-- **A model's drawdown** is the largest decline along its path. -/
theorem paper_drawdown {sqrt : ℚ → ℚ} {policy : Phase4UtilityPolicy} {now : Timestamp}
    {gateHash : Option Digest} {evaluatedAt : Option Datetime} {report : Phase4EvaluationReport}
    (h : evaluatePaperUtility sqrt now observations predictions policy gateHash evaluatedAt
      = .ok report) {result : Phase4UtilityResult} (hr : result ∈ report.results) :
    result.drawdownBps
      = decline (paperNets policy observations (ofModel predictions result.modelName)) := by
  obtain ⟨-, -, pairs, hfst, hpairs, hfigures⟩ := (report_path h).2 result hr
  unfold paperNets
  rw [eq_pathOf hfst hpairs]
  exact congrArg UtilityFigures.drawdownBps hfigures

variable {metrics : PolicyUtilityMetrics}

theorem signals_measured (h : evaluatePolicySignals observations signals scenario = .ok metrics) :
    SignalsCover observations signals := by
  obtain ⟨⟨hobservations, hsignals⟩, h⟩ := require_bind_ok.mp h
  obtain ⟨hids, h⟩ := require_bind_ok.mp h
  obtain ⟨⟨hsignalled, hcover⟩, -⟩ := require_bind_ok.mp h
  exact ⟨hobservations, hsignals, hids, hsignalled, hcover⟩

theorem signalNets_eq {rows : List PolicyRow}
    (hsignals : rows.map PolicyRow.signal = sortedByRank PolicySignal.rank signals)
    (hrows : ∀ row ∈ rows, row.Priced scenario ∧
      observationOf observations row.signal.observationId = .ok row.observation) :
    signalNets observations signals scenario = rows.map fun row => row.outcome.net := by
  unfold signalNets
  rw [← hsignals]
  clear hsignals
  induction rows with
  | nil => rfl
  | cons row rest ih =>
    obtain ⟨⟨hpriced, hobservation⟩, hrest⟩ := forall_mem_cons.mp hrows
    rw [map_cons, filterMap_cons, observationOf_eq_ok.mp hobservation, ih hrest]
    exact congrArg (· :: _) (congrArg (fun r : PolicyRow => r.outcome.net) hpriced.symm)

/-- **The drawdown of signals** is the largest decline along their path. -/
theorem signal_drawdown (h : evaluatePolicySignals observations signals scenario = .ok metrics) :
    metrics.maxDrawdownBps = decline (signalNets observations signals scenario) := by
  have hcover := signals_measured h
  obtain ⟨rows, hsignals, hrows⟩ := exists_rows scenario hcover
  obtain ⟨measured, hmeasured, hfigures, -⟩ :=
    evaluatePolicySignals_ok scenario hcover hsignals hrows
  rw [h] at hmeasured
  cases hmeasured
  rw [signalNets_eq hsignals hrows, ← map_outcome]
  exact congrArg UtilityFigures.drawdownBps hfigures

end Nets

/-! ## Other names for the instruments -/

/-- An observation of the instrument under its new name. -/
def Phase4MarketObservation.renamed (rename : RequiredText → RequiredText)
    (o : Phase4MarketObservation) : Phase4MarketObservation :=
  { o with instrument := rename o.instrument }

def PolicySignal.renamed (rename : RequiredText → RequiredText) (s : PolicySignal) :
    PolicySignal := { s with instrument := rename s.instrument }

section Renaming

variable {rename : RequiredText → RequiredText}

theorem pathRank_lt (hrename : StrictMono rename) {i i' : RequiredText} {t t' : Timestamp}
    {id id' : RequiredText} (h : pathRank i t id < pathRank i' t' id') :
    pathRank (rename i) t id < pathRank (rename i') t' id' := by
  unfold pathRank at h ⊢
  rw [Prod.Lex.toLex_lt_toLex] at h ⊢
  rcases h with h | ⟨heq, h⟩
  · exact Or.inl (hrename h)
  · exact Or.inr ⟨congrArg rename heq, h⟩

theorem sorted_renamed {α : Type} (rank : α → RequiredText ×ₗ Timestamp ×ₗ RequiredText)
    {f : α → α} (hf : ∀ a b, rank a < rank b → rank (f a) < rank (f b)) {l : List α}
    (hl : (l.map rank).Nodup) : sortedByRank rank (l.map f) = (sortedByRank rank l).map f := by
  refine sortedByRank_eq ((sortedByRank_perm rank l).symm.map f) ?_
  rw [pairwise_map]
  exact (sortedByRank_strict hl).imp fun hab => hf _ _ hab

theorem paperStep_renamed (hrename : Function.Injective rename) (policy : Phase4UtilityPolicy)
    {previous previous' : Dict RequiredText SignType}
    (hprevious : ∀ i, previous'.getD (rename i) 0 = previous.getD i 0)
    (pairs : List (Phase4MarketObservation × Phase4Prediction)) :
    (outputs (paperStep policy) previous' (pairs.map fun pair => (pair.1.renamed rename, pair.2))).map
        Outcome.net
      = (outputs (paperStep policy) previous pairs).map Outcome.net := by
  induction pairs generalizing previous previous' with
  | nil => rfl
  | cons pair rest ih =>
    have hhead : (paperStep policy previous' (pair.1.renamed rename, pair.2)).2.net
        = (paperStep policy previous pair).2.net := by
      unfold paperStep Outcome.net Outcome.gross
      simp only [Phase4MarketObservation.renamed, hprevious]
    have hnext : ∀ i, (paperStep policy previous' (pair.1.renamed rename, pair.2)).1.getD (rename i) 0
        = (paperStep policy previous pair).1.getD i 0 := by
      intro i
      show ((previous'.set (rename pair.1.instrument) _).get (rename i)).getD 0
        = ((previous.set pair.1.instrument _).get i).getD 0
      rw [Dict.get_set, Dict.get_set]
      by_cases hi : i = pair.1.instrument
      · rw [if_pos hi, if_pos (congrArg rename hi)]
      · rw [if_neg hi, if_neg fun heq => hi (hrename heq)]
        exact hprevious i
    show _ :: _ = _ :: _
    rw [hhead]
    exact congrArg (_ :: ·) (ih hnext)

variable {observations : List Phase4MarketObservation}

theorem pathOf_renamed (hrename : StrictMono rename)
    (hids : (observations.map Phase4MarketObservation.observationId).Nodup)
    (predictions : List Phase4Prediction) :
    pathOf (observations.map (·.renamed rename)) predictions
      = (pathOf observations predictions).map fun pair => (pair.1.renamed rename, pair.2) := by
  have hsorted := sorted_renamed Phase4MarketObservation.rank (f := fun o => o.renamed rename)
    (fun a b hab => pathRank_lt hrename hab) (ranks_nodup hids)
  unfold pathOf
  rw [hsorted, filterMap_map, map_filterMap]
  refine filterMap_congr fun o _ => ?_
  show Option.map _ (predictions.find? fun p => p.observationId = o.observationId) = _
  rw [Option.map_map]
  rfl

theorem paperNets_renamed (hrename : StrictMono rename) (policy : Phase4UtilityPolicy)
    (hids : (observations.map Phase4MarketObservation.observationId).Nodup)
    (predictions : List Phase4Prediction) :
    paperNets policy (observations.map (·.renamed rename)) predictions
      = paperNets policy observations predictions := by
  unfold paperNets
  rw [pathOf_renamed hrename hids]
  exact paperStep_renamed hrename.injective policy (fun i => rfl) _

theorem signalNets_renamed (hrename : StrictMono rename)
    (observations : List Phase4MarketObservation) {signals : List PolicySignal}
    (hids : (signals.map PolicySignal.observationId).Nodup) (scenario : SignalCostScenario) :
    signalNets (observations.map (·.renamed rename)) (signals.map (·.renamed rename)) scenario
      = signalNets observations signals scenario := by
  have hranks : (signals.map PolicySignal.rank).Nodup := by
    refine List.Nodup.of_map (fun r => (ofLex (ofLex r).2).2) ?_
    rw [map_map]
    exact hids
  have hsorted := sorted_renamed PolicySignal.rank (f := fun s => s.renamed rename)
    (fun a b hab => pathRank_lt hrename hab) hranks
  unfold signalNets
  rw [hsorted, filterMap_map]
  refine filterMap_congr fun signal _ => ?_
  show Option.map _ ((observations.map (·.renamed rename)).find?
    fun o => o.observationId = signal.observationId) = _
  rw [List.find?_map, Option.map_map]
  rfl

end Renaming

/-! ## One instrument -/

theorem path_chronological {α : Type} {instrumentOf idOf : α → RequiredText}
    {cutoffOf : α → Timestamp} {l : List α} {instrument : RequiredText}
    (h : ∀ a ∈ l, instrumentOf a = instrument) :
    (sortedByRank (fun a => pathRank (instrumentOf a) (cutoffOf a) (idOf a)) l).Pairwise
      fun a b => cutoffOf a ≤ cutoffOf b := by
  refine (sortedByRank_pairwise _ l).imp_of_mem ?_
  intro a b ha hb hab
  have hinstrument : instrumentOf a = instrumentOf b :=
    (h a ((sortedByRank_perm _ l).mem_iff.mp ha)).trans
      (h b ((sortedByRank_perm _ l).mem_iff.mp hb)).symm
  unfold pathRank at hab
  rw [hinstrument, Prod.Lex.toLex_le_toLex] at hab
  rcases hab with hlt | ⟨-, hab⟩
  · exact absurd hlt (lt_irrefl _)
  · rw [Prod.Lex.toLex_le_toLex] at hab
    rcases hab with hlt | ⟨heq, -⟩
    · exact hlt.le
    · exact heq.le

/-- **The drawdown follows the order of the instruments.** Both evaluators report the largest
decline of the cumulative net utility along the observations by instrument, cutoff and identifier.
This is the order of time where there is one instrument, and other names that sort as the old ones
do not change what is reported. -/
theorem drawdown_along_instruments :
    (∀ sqrt now observations predictions policy gateHash evaluatedAt report,
      evaluatePaperUtility sqrt now observations predictions policy gateHash evaluatedAt
        = .ok report → ∀ result ∈ report.results, IsGreatest
          (declines (paperNets policy observations (ofModel predictions result.modelName)))
            result.drawdownBps) ∧
    (∀ observations signals scenario metrics,
      evaluatePolicySignals observations signals scenario = .ok metrics →
        IsGreatest (declines (signalNets observations signals scenario)) metrics.maxDrawdownBps) ∧
    (∀ instrument, (∀ observations, (∀ o ∈ observations, o.instrument = instrument) →
        (sortedByRank Phase4MarketObservation.rank observations).Pairwise
          fun a b => a.cutoff ≤ b.cutoff) ∧
      ∀ signals, (∀ s ∈ signals, s.instrument = instrument) →
        (sortedByRank PolicySignal.rank signals).Pairwise fun a b => a.cutoff ≤ b.cutoff) ∧
    ∀ rename : RequiredText → RequiredText, StrictMono rename →
      (∀ sqrt now observations predictions policy gateHash evaluatedAt report report',
        evaluatePaperUtility sqrt now observations predictions policy gateHash evaluatedAt
          = .ok report →
        evaluatePaperUtility sqrt now (observations.map (·.renamed rename)) predictions policy
          gateHash evaluatedAt = .ok report' →
          ∀ result ∈ report.results, ∀ result' ∈ report'.results,
            result.modelName = result'.modelName → result.drawdownBps = result'.drawdownBps) ∧
      (∀ observations signals scenario metrics metrics',
        evaluatePolicySignals observations signals scenario = .ok metrics →
        evaluatePolicySignals (observations.map (·.renamed rename))
          (signals.map (·.renamed rename)) scenario = .ok metrics' →
          metrics.maxDrawdownBps = metrics'.maxDrawdownBps) := by
  refine ⟨?_, ?_, ?_, ?_⟩
  · intro sqrt now observations predictions policy gateHash evaluatedAt report h result hr
    rw [paper_drawdown h hr]
    exact decline_isGreatest _
  · intro observations signals scenario metrics h
    rw [signal_drawdown h]
    exact decline_isGreatest _
  · intro instrument
    exact ⟨fun observations h => path_chronological h, fun signals h => path_chronological h⟩
  · intro rename hrename
    refine ⟨?_, ?_⟩
    · intro sqrt now observations predictions policy gateHash evaluatedAt report report' h h'
        result hr result' hr' hmodel
      have hids := ((report_path h).2 result hr).1.observations_nodup
      rw [paper_drawdown h hr, paper_drawdown h' hr', paperNets_renamed hrename policy hids, hmodel]
    · intro observations signals scenario metrics metrics' h h'
      have hids := (signals_measured h).signals_nodup
      rw [signal_drawdown h, signal_drawdown h', signalNets_renamed hrename observations hids]

/-- The drawdowns of the example are greatest declines. -/
theorem baseline_drawdowns : ∃ report,
    evaluatePaperUtility squareRoot 0 exampleReturn exampleBaselines examplePolicy
      (some paperDigest) none = .ok report ∧
    ∀ result ∈ report.results, IsGreatest
      (declines (paperNets examplePolicy exampleReturn
        (ofModel exampleBaselines result.modelName))) result.drawdownBps := by
  obtain ⟨report, hreport⟩ := exampleReturn_reported
  exact ⟨report, hreport, drawdown_along_instruments.1 _ _ _ _ _ _ _ _ hreport⟩

theorem avax_ne : "AVAX" ≠ "" := by decide
theorem zec_ne : "ZEC" ≠ "" := by decide

def exampleTwoInstruments : List Phase4MarketObservation :=
  [exampleObservation ⟨"2026-01-01", firstId_ne⟩ ⟨"AVAX", avax_ne⟩ 0 (-4),
    exampleObservation ⟨"2026-01-02", secondId_ne⟩ ⟨"BTCUSDT", bitcoin_ne⟩ 1 3,
    exampleObservation ⟨"2026-01-03", thirdId_ne⟩ ⟨"BTCUSDT", bitcoin_ne⟩ 2 (-5)]

def exampleRises : List Phase4Prediction :=
  mandatoryBaselines.flatMap fun name =>
    [examplePrediction ⟨"2026-01-01", firstId_ne⟩ name 2,
      examplePrediction ⟨"2026-01-02", secondId_ne⟩ name 9,
      examplePrediction ⟨"2026-01-03", thirdId_ne⟩ name 1]

def exampleRenaming : RequiredText → RequiredText :=
  Equiv.swap ⟨"AVAX", avax_ne⟩ ⟨"ZEC", zec_ne⟩

def exampleFree : Phase4UtilityPolicy :=
  { examplePolicy with
    feeBps := 0
    fee_nonneg := free_nonneg }

def exampleFreeScenario : SignalCostScenario :=
  { exampleScenario with
    feeBps := 0
    fee_nonneg := free_nonneg }

theorem exampleTwoInstruments_sorted :
    sortedByRank Phase4MarketObservation.rank exampleTwoInstruments = exampleTwoInstruments :=
  sortedByRank_eq (List.Perm.refl _) (by decide +kernel)

theorem exampleRenamed_sorted :
    sortedByRank Phase4MarketObservation.rank (exampleTwoInstruments.map (·.renamed exampleRenaming))
      = (exampleTwoInstruments.map (·.renamed exampleRenaming)).rotate 1 :=
  sortedByRank_eq (rotate_perm _ 1).symm (by decide +kernel)

theorem example_measured (observations : List Phase4MarketObservation)
    (h : observations = exampleTwoInstruments ∨
      observations = exampleTwoInstruments.map (·.renamed exampleRenaming)) :
    ∃ report, evaluatePaperUtility squareRoot 0 observations exampleRises exampleFree
      (some paperDigest) none = .ok report ∧
    ∃ result ∈ report.results, result.modelName = ⟨"naive", naive_ne⟩ ∧
    ∃ signals metrics, applySignalPolicy observations (ofModel exampleRises ⟨"naive", naive_ne⟩)
        exampleSignOnly = .ok signals ∧
      evaluatePolicySignals observations signals exampleFreeScenario = .ok metrics ∧
      metrics.maxDrawdownBps = result.drawdownBps ∧
      result.drawdownBps = decline (paperNets exampleFree observations
        (ofModel exampleRises ⟨"naive", naive_ne⟩)) := by
  have hexists : ∃ report, evaluatePaperUtility squareRoot 0 observations exampleRises exampleFree
      (some paperDigest) none = .ok report := by
    rcases h with rfl | rfl
    · exact evaluatePaperUtility_returns (fun q _ => squareRoot_nonneg q) (cons_ne_nil _ _)
        (by decide +kernel) (by decide +kernel) (by decide +kernel) (by decide +kernel)
        (by decide +kernel) epoch_aware
    · exact evaluatePaperUtility_returns (fun q _ => squareRoot_nonneg q) (cons_ne_nil _ _)
        (by decide +kernel) (by decide +kernel) (by decide +kernel) (by decide +kernel)
        (by decide +kernel) epoch_aware
  have hcosts : ∀ o ∈ observations, CostsOf exampleFreeScenario o := by
    rcases h with rfl | rfl
    · unfold CostsOf
      decide +kernel
    · unfold CostsOf
      decide +kernel
  obtain ⟨report, hreport⟩ := hexists
  obtain ⟨hmodels, hresults⟩ := report_path hreport
  obtain ⟨result, hr, hmodel⟩ := hmodels
    (examplePrediction ⟨"2026-01-01", firstId_ne⟩ ⟨"naive", naive_ne⟩ 2) mem_cons_self
  have hname : result.modelName = ⟨"naive", naive_ne⟩ := hmodel
  obtain ⟨hpath, -, pairs, hfst, hpairs, hfigures⟩ := hresults result hr
  have hfamily : exampleSignOnly.family = .signOnly := rfl
  have hfee : exampleFree.feeBps = exampleFreeScenario.feeBps := rfl
  obtain ⟨metrics, happlied, hmetrics, hmeasured, -⟩ :=
    signOnly_measured hfamily hfee hcosts hpath hfst hpairs
  have hdrawdown := paper_drawdown hreport hr
  rw [hname] at happlied hmetrics hdrawdown
  exact ⟨report, hreport, result, hr, hname, _, metrics, happlied, hmetrics,
    congrArg UtilityFigures.drawdownBps (hmeasured.trans hfigures.symm), hdrawdown⟩

/-- **Other names, another drawdown.** The renaming is injective, and both evaluators report six
basis points before it and nine after it. -/
theorem renamed_drawdown_differs :
    Function.Injective exampleRenaming ∧
    ∃ report report',
      evaluatePaperUtility squareRoot 0 exampleTwoInstruments exampleRises exampleFree
        (some paperDigest) none = .ok report ∧
      evaluatePaperUtility squareRoot 0 (exampleTwoInstruments.map (·.renamed exampleRenaming))
        exampleRises exampleFree (some paperDigest) none = .ok report' ∧
      ∃ result ∈ report.results, ∃ result' ∈ report'.results,
        result.modelName = result'.modelName ∧ result.drawdownBps = 6 ∧ result'.drawdownBps = 9 ∧
        ∃ signals signals' metrics metrics',
          applySignalPolicy exampleTwoInstruments (ofModel exampleRises ⟨"naive", naive_ne⟩)
            exampleSignOnly = .ok signals ∧
          applySignalPolicy (exampleTwoInstruments.map (·.renamed exampleRenaming))
            (ofModel exampleRises ⟨"naive", naive_ne⟩) exampleSignOnly = .ok signals' ∧
          evaluatePolicySignals exampleTwoInstruments signals exampleFreeScenario
            = .ok metrics ∧
          evaluatePolicySignals (exampleTwoInstruments.map (·.renamed exampleRenaming)) signals'
            exampleFreeScenario = .ok metrics' ∧
          metrics.maxDrawdownBps = 6 ∧ metrics'.maxDrawdownBps = 9 := by
  obtain ⟨report, hreport, result, hr, hname, signals, metrics, happlied, hmetrics, hagree,
    hdrawdown⟩ := example_measured _ (Or.inl rfl)
  obtain ⟨report', hreport', result', hr', hname', signals', metrics', happlied', hmetrics',
    hagree', hdrawdown'⟩ := example_measured _ (Or.inr rfl)
  have hsix : result.drawdownBps = 6 := by
    rw [hdrawdown]
    unfold paperNets pathOf
    rw [exampleTwoInstruments_sorted]
    decide +kernel
  have hnine : result'.drawdownBps = 9 := by
    rw [hdrawdown']
    unfold paperNets pathOf
    rw [exampleRenamed_sorted]
    decide +kernel
  exact ⟨Equiv.injective _, report, report', hreport, hreport', result, hr, result', hr',
    hname.trans hname'.symm, hsix, hnine, signals, signals', metrics, metrics', happlied, happlied',
    hmetrics, hmetrics', hagree.trans hsix, hagree'.trans hnine⟩

end AdvisorAI
