import AdvisorAI.Contracts.Scalars
import AdvisorAI.Lib.ByKey
import AdvisorAI.Lib.Checks
import Mathlib.Data.Prod.Lex
import Mathlib.Data.Sign.Defs
import Mathlib.Data.String.Basic

/-!
# Paper utility

Models are measured on observations that were admitted before. `modelResult` goes through the
observations of one model, by instrument, cutoff and identifier, and adds up what the sign of each
prediction would have earned and what the changes of position would have cost;
`evaluatePaperUtility` measures the mandatory baselines and then the other models. Numbers are
exact. The square root and the validation of a result are all that may raise there.
-/

namespace AdvisorAI

open Lib

abbrev RequiredText := { s : String // s ≠ "" }

/-! ## Records -/

/-- One point-in-time observation paired with a later realized return. -/
structure Phase4MarketObservation where
  observationId : RequiredText
  instrument : RequiredText
  cutoff : Timestamp
  realizedAt : Timestamp
  realizedReturnBps : ℚ
  spreadBps : ℚ
  slippageBps : ℚ
  regime : RequiredText
  sourceSnapshotHash : Digest
  phase3Admitted : Bool
  spread_nonneg : 0 ≤ spreadBps
  slippage_nonneg : 0 ≤ slippageBps
  realized_later : cutoff < realizedAt

/-- One model output with the provenance needed for later review. -/
structure Phase4Prediction where
  observationId : RequiredText
  modelName : RequiredText
  predictedReturnBps : ℚ
  confidence : ℚ
  intervalLowerBps : Option ℚ
  intervalUpperBps : Option ℚ
  modelCodeHash : Digest
  modelArtifactHash : Digest
  pastOnly : Bool
  resourceLimitPassed : Bool
  confidence_bounds : 0 ≤ confidence ∧ confidence ≤ 1
  interval_together : intervalLowerBps.isSome = intervalUpperBps.isSome
  interval_ordered : ∀ lower ∈ intervalLowerBps, ∀ upper ∈ intervalUpperBps, lower ≤ upper

/-- Versioned conservative cost and promotion thresholds. -/
structure Phase4UtilityPolicy where
  policyVersion : RequiredText
  feeScheduleId : RequiredText
  feeBps : ℚ
  minimumIncrementalUtilityBps : ℚ
  minimumObservations : ℕ
  fee_nonneg : 0 ≤ feeBps
  minimum_nonneg : 0 ≤ minimumIncrementalUtilityBps
  observations_pos : 1 ≤ minimumObservations

structure Phase4RegimeSlice where
  regime : RequiredText
  observations : ℕ
  tradeCount : ℕ
  directionalAccuracy : ℚ
  netUtilityBps : ℚ
deriving DecidableEq

/-- `Decimal = Field(ge=0, le=1)`. -/
def IsFraction (q : ℚ) : Prop := 0 ≤ q ∧ q ≤ 1

instance (q : ℚ) : Decidable (IsFraction q) := inferInstanceAs (Decidable (_ ∧ _))

def Phase4RegimeSlice.Valid (s : Phase4RegimeSlice) : Prop :=
  1 ≤ s.observations ∧ IsFraction s.directionalAccuracy

instance (s : Phase4RegimeSlice) : Decidable s.Valid := inferInstanceAs (Decidable (_ ∧ _))

/-- Measured model utility; it is not a roster or admission decision. -/
structure Phase4UtilityFields where
  modelName : RequiredText
  maeBps : ℚ
  rmseBps : ℚ
  observations : ℕ
  tradeCount : ℕ
  abstentionCount : ℕ
  directionalAccuracy : ℚ
  calibrationCoverage : Option ℚ
  confidenceBrierScore : Option ℚ
  turnover : ℚ
  grossUtilityBps : ℚ
  estimatedCostBps : ℚ
  netUtilityBps : ℚ
  drawdownBps : ℚ
  strongestBaselineNetUtilityBps : ℚ
  incrementalNetUtilityBps : ℚ
  regimeSlices : List Phase4RegimeSlice
  pastOnly : Bool
  provenanceComplete : Bool
  resourceLimitPassed : Bool
  addsMarginalValue : Bool
  rejectionReasons : List String
deriving DecidableEq

/-- The constraints of the fields, and `validate_counts`. -/
def Phase4UtilityFields.Valid (r : Phase4UtilityFields) : Prop :=
  0 ≤ r.maeBps ∧ 0 ≤ r.rmseBps ∧ 1 ≤ r.observations ∧ IsFraction r.directionalAccuracy ∧
    (∀ q ∈ r.calibrationCoverage, IsFraction q) ∧ (∀ q ∈ r.confidenceBrierScore, IsFraction q) ∧
      0 ≤ r.turnover ∧ 0 ≤ r.estimatedCostBps ∧ 0 ≤ r.drawdownBps ∧
        (∀ s ∈ r.regimeSlices, s.Valid) ∧ r.tradeCount + r.abstentionCount = r.observations ∧
          r.netUtilityBps = r.grossUtilityBps - r.estimatedCostBps ∧
            r.incrementalNetUtilityBps = r.netUtilityBps - r.strongestBaselineNetUtilityBps ∧
              ¬(r.addsMarginalValue = true ∧ r.rejectionReasons ≠ [])

instance (r : Phase4UtilityFields) : Decidable r.Valid :=
  inferInstanceAs (Decidable (_ ∧ _ ∧ _ ∧ _ ∧ _ ∧ _ ∧ _ ∧ _ ∧ _ ∧ _ ∧ _ ∧ _ ∧ _ ∧ _))

structure Phase4UtilityResult extends Phase4UtilityFields where
  valid : toPhase4UtilityFields.Valid

/-- `Phase4UtilityResult(...)`. -/
def Phase4UtilityFields.validate (r : Phase4UtilityFields) : Except PyError Phase4UtilityResult :=
  if h : r.Valid then .ok ⟨r, h⟩ else .error ⟨"ValidationError", "Phase4UtilityResult"⟩

theorem Phase4UtilityFields.validate_ok {r : Phase4UtilityFields} {result : Phase4UtilityResult} :
    r.validate = .ok result ↔ result.toPhase4UtilityFields = r := by
  unfold validate
  by_cases h : r.Valid
  · rw [dif_pos h]
    refine ⟨?_, ?_⟩
    · intro heq
      cases heq
      rfl
    · intro heq
      cases result with
      | mk fields valid =>
        cases heq
        rfl
  · rw [dif_neg h]
    refine ⟨?_, ?_⟩
    · intro heq
      cases heq
    · intro heq
      exact absurd (heq ▸ result.valid) h

/-- A measured report. Admission stays closed. -/
structure Phase4EvaluationReport where
  evaluatedAt : Timestamp
  phase3GateRecordHash : Digest
  sourceSnapshotHashes : List String
  policy : Phase4UtilityPolicy
  results : List Phase4UtilityResult

theorem naive_ne : "naive" ≠ "" := by decide
theorem drift_ne : "drift" ≠ "" := by decide
theorem seasonal7_ne : "seasonal-7" ≠ "" := by decide
theorem linear_ne : "linear" ≠ "" := by decide
theorem lightgbm_ne : "lightgbm" ≠ "" := by decide

def mandatoryBaselines : List RequiredText :=
  [⟨"naive", naive_ne⟩, ⟨"drift", drift_ne⟩, ⟨"seasonal-7", seasonal7_ne⟩, ⟨"linear", linear_ne⟩,
    ⟨"lightgbm", lightgbm_ne⟩]

/-! ## One model -/

def position (value : ℚ) : SignType := if value > 0 then 1 else if value < 0 then -1 else 0

/-- The order of the evaluation: by instrument, then cutoff, then identifier. -/
def pathRank (instrument : RequiredText) (cutoff : Timestamp) (observationId : RequiredText) :
    RequiredText ×ₗ Timestamp ×ₗ RequiredText :=
  toLex (instrument, toLex (cutoff, observationId))

def Phase4MarketObservation.rank (o : Phase4MarketObservation) :
    RequiredText ×ₗ Timestamp ×ₗ RequiredText := pathRank o.instrument o.cutoff o.observationId

/-- `sorted(items, key=...)` of items that belong to observations. -/
def sortedByRank {α : Type} (rank : α → RequiredText ×ₗ Timestamp ×ₗ RequiredText) (l : List α) :
    List α := l.mergeSort fun a b => decide (rank a ≤ rank b)

/-- `zip(xs, ys, strict=True)`. -/
def zipStrict {α β : Type} : List α → List β → Except PyError (List (α × β))
  | [], [] => .ok []
  | x :: xs, y :: ys => (zipStrict xs ys).map ((x, y) :: ·)
  | [], _ :: _ => .error (valueError "zip() argument 2 is longer than argument 1")
  | _ :: _, [] => .error (valueError "zip() argument 2 is shorter than argument 1")

/-- What the loop remembers of an observation for its regime. -/
structure RegimeValue where
  position : SignType
  utility : ℚ
  active : Bool
  realizedReturnBps : ℚ

structure ModelTotals where
  previous : Dict RequiredText SignType
  gross : ℚ
  costs : ℚ
  turnover : ℚ
  running : ℚ
  peak : ℚ
  drawdown : ℚ
  activeCorrect : ℕ
  activeCount : ℕ
  confidenceBrierTotal : ℚ
  forecastErrors : List ℚ
  calibrationHits : ℕ
  calibrationCount : ℕ
  tradeCount : ℕ
  abstentionCount : ℕ
  regimeValues : Dict RequiredText (List RegimeValue)

namespace ModelTotals

def start : ModelTotals where
  previous := .empty
  gross := 0
  costs := 0
  turnover := 0
  running := 0
  peak := 0
  drawdown := 0
  activeCorrect := 0
  activeCount := 0
  confidenceBrierTotal := 0
  forecastErrors := []
  calibrationHits := 0
  calibrationCount := 0
  tradeCount := 0
  abstentionCount := 0
  regimeValues := .empty

variable (t : ModelTotals) (o : Phase4MarketObservation)

/-- A prediction that is not flat is a trade: right when its sign is that of the return. -/
def countTrade (p : Phase4Prediction) :
    ModelTotals :=
  if position p.predictedReturnBps = 0 then { t with abstentionCount := t.abstentionCount + 1 }
  else
    let correct : ℕ :=
      if decide (p.predictedReturnBps > 0) = decide (o.realizedReturnBps > 0) then 1 else 0
    { t with
      tradeCount := t.tradeCount + 1
      activeCount := t.activeCount + 1
      activeCorrect := t.activeCorrect + correct
      confidenceBrierTotal := t.confidenceBrierTotal + (p.confidence - correct) ^ 2 }

variable (policy : Phase4UtilityPolicy)

/-- What the change of position earns and costs, and how deep the path has fallen. -/
def account (o : Phase4MarketObservation) (p : Phase4Prediction) :
    ModelTotals :=
  let position := position p.predictedReturnBps
  let change : ℚ := |(position : ℚ) - (t.previous.getD o.instrument 0 : SignType)|
  let tradeCost := change * (policy.feeBps + o.spreadBps + o.slippageBps)
  let contribution := position * o.realizedReturnBps
  let running := t.running + (contribution - tradeCost)
  let peak := max t.peak running
  let utility := o.realizedReturnBps * position - tradeCost
  let value : RegimeValue := ⟨position, utility, position ≠ 0, o.realizedReturnBps⟩
  { t with
    turnover := t.turnover + change
    previous := t.previous.set o.instrument position
    gross := t.gross + contribution
    costs := t.costs + tradeCost
    running := running
    peak := peak
    drawdown := max t.drawdown (peak - running)
    regimeValues := t.regimeValues.set o.regime (t.regimeValues.getD o.regime [] ++ [value]) }

/-- Whether the return is within the interval of the prediction. -/
def calibrate (p : Phase4Prediction) :
    ModelTotals :=
  match p.intervalLowerBps, p.intervalUpperBps with
  | some lower, some upper =>
    { t with
      calibrationCount := t.calibrationCount + 1
      calibrationHits := t.calibrationHits +
        if lower ≤ o.realizedReturnBps ∧ o.realizedReturnBps ≤ upper then 1 else 0 }
  | _, _ => t

def step (byId : List RequiredText) (t : ModelTotals)
    (pair : Phase4MarketObservation × Phase4Prediction) : Except PyError ModelTotals := do
  require (pair.2.observationId ∈ byId)
    (valueError "prediction refers to an unknown observation")
  let error := pair.2.predictedReturnBps - pair.1.realizedReturnBps
  let t := { t with forecastErrors := t.forecastErrors ++ [error] }
  let t := t.countTrade pair.1 pair.2
  let t := t.account policy pair.1 pair.2
  return t.calibrate pair.1 pair.2

end ModelTotals

/-- `Decimal(part) / Decimal(whole) if whole else Decimal("0")`. -/
def fraction (part whole : ℕ) : ℚ := if whole = 0 then 0 else (part : ℚ) / whole

def regimeSlice (regime : RequiredText) (values : List RegimeValue) : Phase4RegimeSlice :=
  let active := values.filter RegimeValue.active
  { regime
    observations := values.length
    tradeCount := active.length
    directionalAccuracy := fraction (active.countP fun value =>
      decide (value.position > 0) = decide (value.realizedReturnBps > 0)) active.length
    netUtilityBps := (values.map RegimeValue.utility).sum }

/-- `sorted(d.items())`, where the keys decide. -/
def sortedItems {ν : Type} (d : Dict RequiredText ν) : List (RequiredText × ν) :=
  d.entries.mergeSort fun a b => decide (a.1 ≤ b.1)

def rejectionReasons (policy : Phase4UtilityPolicy) (observations : ℕ)
    (predictions : List Phase4Prediction) : List String :=
  (if observations < policy.minimumObservations then ["insufficient_observations"] else []) ++
  (if predictions.all Phase4Prediction.pastOnly then [] else ["non_past_only_prediction"]) ++
  (if predictions.all Phase4Prediction.resourceLimitPassed then [] else ["resource_limit_failed"])

variable (sqrt : ℚ → ℚ)

def modelResult (modelName : RequiredText) (observations : List Phase4MarketObservation)
    (predictions : List Phase4Prediction) (policy : Phase4UtilityPolicy)
    (strongestBaseline : Option ℚ) :
    Except PyError Phase4UtilityResult := do
  let byId := observations.map Phase4MarketObservation.observationId
  let pairs ← zipStrict observations predictions
  let ordered := sortedByRank (fun pair => pair.1.rank) pairs
  let t ← ordered.foldlM (ModelTotals.step policy byId) .start
  let count := ordered.length
  require (count ≠ 0) ⟨"InvalidOperation", "0 / 0"⟩
  let strongest := strongestBaseline.getD 0
  let net := t.gross - t.costs
  let incremental := net - strongest
  -- digests are never empty, so the provenance is complete
  let reasons := rejectionReasons policy count predictions
  let adds := decide (modelName ∉ mandatoryBaselines) && reasons.isEmpty &&
    decide (incremental > policy.minimumIncrementalUtilityBps)
  let rejected := !adds && decide (modelName ∉ mandatoryBaselines)
  Phase4UtilityFields.validate
    { modelName
      maeBps := (t.forecastErrors.map abs).sum / count
      rmseBps := sqrt ((t.forecastErrors.map fun e => e * e).sum / count)
      observations := count
      tradeCount := t.tradeCount
      abstentionCount := t.abstentionCount
      directionalAccuracy := fraction t.activeCorrect t.activeCount
      calibrationCoverage := if t.calibrationCount = 0 then none
        else some ((t.calibrationHits : ℚ) / t.calibrationCount)
      confidenceBrierScore := if t.activeCount = 0 then none
        else some (t.confidenceBrierTotal / t.activeCount)
      turnover := t.turnover / count
      grossUtilityBps := t.gross
      estimatedCostBps := t.costs
      netUtilityBps := net
      drawdownBps := t.drawdown
      strongestBaselineNetUtilityBps := strongest
      incrementalNetUtilityBps := incremental
      regimeSlices := (sortedItems t.regimeValues).map fun item => regimeSlice item.1 item.2
      pastOnly := decide ("non_past_only_prediction" ∉ reasons)
      provenanceComplete := true
      resourceLimitPassed := decide ("resource_limit_failed" ∉ reasons)
      addsMarginalValue := adds
      rejectionReasons := reasons ++ if rejected then ["no_incremental_net_utility"] else [] }

/-! ## All models -/

/-- A dictionary of what was predicted for each model and observation. -/
abbrev PredictionsByModel := Dict RequiredText (Dict RequiredText Phase4Prediction)

variable (byModel : PredictionsByModel)

/-- One prediction is put under its model and observation. -/
def addPrediction (p : Phase4Prediction) :
    Except PyError PredictionsByModel := do
  let predicted := byModel.getD p.modelName .empty
  require (p.observationId ∉ predicted.keys)
    (valueError "duplicate model prediction for one observation")
  return byModel.set p.modelName (predicted.set p.observationId p)

/-- `d[key]`. -/
def itemAt {ν : Type} (d : Dict RequiredText ν) (key : RequiredText) : Except PyError ν :=
  match d.get key with
  | some value => .ok value
  | none => .error ⟨"KeyError", pyRepr key.val⟩

/-- `tuple(by_model[model_name][item.observation_id] for item in observations)`. -/
def modelPath (modelName : RequiredText) (observations : List Phase4MarketObservation) :
    Except PyError (List Phase4Prediction) := do
  let predicted ← itemAt byModel modelName
  observations.mapM fun o => itemAt predicted o.observationId

def SameMembers (l m : List RequiredText) : Prop := (∀ a ∈ l, a ∈ m) ∧ ∀ a ∈ m, a ∈ l

instance (l m : List RequiredText) : Decidable (SameMembers l m) :=
  inferInstanceAs (Decidable (_ ∧ _))

variable (names : List RequiredText)

/-- `sorted(names)`. -/
def sortedNames : List RequiredText :=
  names.mergeSort fun a b => decide (a ≤ b)

/-- `repr(sorted(names))`. -/
def namesRepr : String :=
  "[" ++ String.intercalate ", " ((sortedNames names).map fun name => pyRepr name.val) ++ "]"

/-- `max(values)` of at least one value. -/
def largestOf : List ℚ → ℚ
  | [] => 0
  | value :: rest => rest.foldl max value

/-- The models that are not baselines, in order. -/
def otherModels : List RequiredText :=
  sortedNames (byModel.keys.filter (· ∉ mandatoryBaselines))

/-- The results of all models, the baselines first. -/
def allResults (byModel : PredictionsByModel) (observations : List Phase4MarketObservation)
    (policy : Phase4UtilityPolicy) :
    Except PyError (List Phase4UtilityResult) := do
  let baselineResults ← mandatoryBaselines.mapM fun name => do
    modelResult sqrt name observations (← modelPath byModel name observations) policy none
  let strongest := largestOf (baselineResults.map fun r => r.netUtilityBps)
  let others ← (otherModels byModel).mapM fun name => do
    modelResult sqrt name observations (← modelPath byModel name observations) policy
      (some strongest)
  return baselineResults ++ others

def requiredHash : Option Digest → Except PyError Digest
  | some hash => .ok hash
  | none => .error ⟨"Phase4PrerequisiteError", "an immutable Phase-3 gate record hash is required"⟩

/-- `evaluate_paper_utility`. The policy that is the default is given as well. -/
def evaluatePaperUtility (now : Timestamp) (observations : List Phase4MarketObservation)
    (predictions : List Phase4Prediction) (policy : Phase4UtilityPolicy)
    (phase3GateRecordHash : Option Digest) (evaluatedAt : Option Datetime) :
    Except PyError Phase4EvaluationReport := do
  require (observations ≠ []) (valueError "Phase-4 utility evaluation requires observations")
  require (∀ o ∈ observations, o.phase3Admitted = true) ⟨"Phase4PrerequisiteError",
    "Phase-3 admission is required before paper utility can be measured"⟩
  let gateHash ← requiredHash phase3GateRecordHash
  let ids := observations.map Phase4MarketObservation.observationId
  require ids.Nodup (valueError "Phase-4 observation identities must be unique")
  let byModel ← predictions.foldlM addPrediction .empty
  let missing := mandatoryBaselines.filter (· ∉ byModel.keys)
  require (missing = [])
    (valueError ("mandatory baseline predictions are missing: " ++ namesRepr missing))
  checkAll (fun item => require (SameMembers (Dict.keys item.2) ids)
    (valueError (item.1.val ++ " predictions do not cover the complete observation set")))
    byModel.entries
  let results ← allResults sqrt byModel observations policy
  let timestamp ← (evaluatedAt.getD (Datetime.ofTimestamp now)).aware
    "Phase-4 evaluation timestamp must include a timezone"
  let hashes := (observations.map fun o => o.sourceSnapshotHash.text).dedup
  return {
    evaluatedAt := timestamp
    phase3GateRecordHash := gateHash
    sourceSnapshotHashes := hashes.mergeSort fun a b => decide (a ≤ b)
    policy
    results }

end AdvisorAI
