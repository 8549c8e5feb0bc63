import AdvisorAI.Lib.LocalStates
import AdvisorAI.Phase4.PaperUtility

/-!
# Signal policies

A policy turns the forecasts of one model into target positions. The loop goes through the
observations by instrument, cutoff and identifier, and keeps for each instrument its position, when
that changed last, and how many observations it has seen (`SignalStates`). So it is one machine for
each instrument (`step_keptApart`): a signal depends on the forecasts of its instrument up to its
own observation only, and in no way on the order in which they are passed.
-/

namespace AdvisorAI

open Lib

/-! ## Policies and signals -/

/-- Small, reviewed policy families permitted by this research boundary. -/
inductive SignalPolicyFamily where
  | signOnly | magnitudeThreshold | edgeOverCost | hysteresis | cooldown | confidenceThreshold
deriving DecidableEq

/-- A frozen, finite policy configuration with no executable code fields. -/
structure SignalPolicySpec where
  policyId : RequiredText
  family : SignalPolicyFamily
  thresholdBps : ℚ
  flipThresholdBps : ℚ
  expectedAllInCostBps : ℚ
  uncertaintyBufferBps : ℚ
  minHoldObservations : ℕ
  confidenceThreshold : ℚ
  threshold_nonneg : 0 ≤ thresholdBps
  flip_nonneg : 0 ≤ flipThresholdBps
  cost_nonneg : 0 ≤ expectedAllInCostBps
  buffer_nonneg : 0 ≤ uncertaintyBufferBps
  confidence_fraction : IsFraction confidenceThreshold
  hysteresis_thresholds : family = .hysteresis → 0 < thresholdBps ∧ thresholdBps ≤ flipThresholdBps
  magnitude_threshold : family = .magnitudeThreshold → 0 < thresholdBps
  cooldown_hold : family = .cooldown → 1 ≤ minHoldObservations
  confidence_threshold : family = .confidenceThreshold → 0 < confidenceThreshold

/-- A target-direction signal, intentionally not an order or portfolio. -/
@[ext]
structure PolicySignal where
  policyId : RequiredText
  modelName : RequiredText
  observationId : RequiredText
  instrument : RequiredText
  cutoff : Timestamp
  predictedReturnBps : ℚ
  confidence : ℚ
  rawPosition : SignType
  previousPosition : SignType
  targetPosition : SignType
  changed : Bool
  confidence_bounds : 0 ≤ confidence ∧ confidence ≤ 1
  changed_eq : changed = decide (targetPosition ≠ previousPosition)

def PolicySignal.rank (s : PolicySignal) : RequiredText ×ₗ Timestamp ×ₗ RequiredText :=
  pathRank s.instrument s.cutoff s.observationId

/-! ## The loop -/

/-- What the loop keeps of one instrument. -/
structure SignalState where
  previous : SignType
  lastChange : Int
  index : Int

/-- The three dictionaries of the loop. -/
structure SignalStates where
  previous : Dict RequiredText SignType
  lastChange : Dict RequiredText Int
  instrumentIndex : Dict RequiredText Int

namespace SignalStates

def start : SignalStates := ⟨.empty, .empty, .empty⟩

/-- The entries of one instrument, with the defaults of the dictionaries. -/
def view (s : SignalStates) (instrument : RequiredText) : SignalState where
  previous := s.previous.getD instrument 0
  lastChange := s.lastChange.getD instrument (-1)
  index := s.instrumentIndex.getD instrument 0

end SignalStates

variable (spec : SignalPolicySpec)

def targetForPolicy (rawPosition : SignType) (p : Phase4Prediction) (s : SignalState) : SignType :=
  let magnitude := |p.predictedReturnBps|
  match spec.family with
  | .signOnly => rawPosition
  | .magnitudeThreshold =>
    if rawPosition ≠ 0 ∧ magnitude ≥ spec.thresholdBps then rawPosition else s.previous
  | .edgeOverCost =>
    let threshold := spec.expectedAllInCostBps + spec.uncertaintyBufferBps
    if rawPosition ≠ 0 ∧ magnitude > threshold then rawPosition else s.previous
  | .hysteresis =>
    if rawPosition = 0 then s.previous
    else if s.previous = 0 then if magnitude ≥ spec.thresholdBps then rawPosition else 0
    else if rawPosition = s.previous then s.previous
    else if magnitude ≥ spec.flipThresholdBps then rawPosition else s.previous
  | .cooldown =>
    if rawPosition = s.previous then s.previous
    else if s.lastChange < 0 ∨ s.index - s.lastChange ≥ spec.minHoldObservations then rawPosition
    else s.previous
  | .confidenceThreshold =>
    if rawPosition ≠ 0 ∧ p.confidence ≥ spec.confidenceThreshold then rawPosition else s.previous

variable (modelName : RequiredText)

/-- The signal of an observation, from what is kept of its instrument. -/
def signalFrom (s : SignalState) (pair : Phase4MarketObservation × Phase4Prediction) :
    PolicySignal :=
  let rawPosition := position pair.2.predictedReturnBps
  let target := targetForPolicy spec rawPosition pair.2 s
  { policyId := spec.policyId
    modelName
    observationId := pair.1.observationId
    instrument := pair.1.instrument
    cutoff := pair.1.cutoff
    predictedReturnBps := pair.2.predictedReturnBps
    confidence := pair.2.confidence
    rawPosition
    previousPosition := s.previous
    targetPosition := target
    changed := decide (target ≠ s.previous)
    confidence_bounds := pair.2.confidence_bounds
    changed_eq := rfl }

def signalStep (s : SignalStates) (pair : Phase4MarketObservation × Phase4Prediction) :
    SignalStates × PolicySignal :=
  let instrument := pair.1.instrument
  let kept := s.view instrument
  let signal := signalFrom spec modelName kept pair
  ({ previous := s.previous.set instrument signal.targetPosition
     lastChange := if signal.changed = true then s.lastChange.set instrument kept.index
       else s.lastChange
     instrumentIndex := s.instrumentIndex.set instrument (kept.index + 1) }, signal)

variable (predictions : List Phase4Prediction)

/-- `prediction_by_id[observation_id]`: an identifier has one prediction. -/
def predictionOf (observationId : RequiredText) :
    Except PyError Phase4Prediction :=
  match predictions.find? fun p => p.observationId = observationId with
  | some p => .ok p
  | none => .error ⟨"KeyError", pyRepr observationId.val⟩

def signalLoop (spec : SignalPolicySpec) (modelName : RequiredText)
    (predictions : List Phase4Prediction) (s : SignalStates) :
    List Phase4MarketObservation → Except PyError (List PolicySignal)
  | [] => .ok []
  | o :: rest => do
    let p ← predictionOf predictions o.observationId
    let next := signalStep spec modelName s (o, p)
    let signals ← signalLoop spec modelName predictions next.1 rest
    return next.2 :: signals

/-- `next(iter(names))` of a set that has one name. -/
def onlyModel : Except PyError RequiredText :=
  match (predictions.map Phase4Prediction.modelName).dedup with
  | [name] => .ok name
  | _ => .error (valueError "signal policy accepts exactly one model path")

def applySignalPolicy (observations : List Phase4MarketObservation)
    (predictions : List Phase4Prediction) (spec : SignalPolicySpec) :
    Except PyError (List PolicySignal) := do
  require (observations ≠ []) (valueError "signal policy requires observations")
  let ids := observations.map Phase4MarketObservation.observationId
  let predicted := predictions.map Phase4Prediction.observationId
  require ids.Nodup (valueError "signal policy observations must be unique")
  require predicted.Nodup (valueError "signal policy predictions must be unique")
  require (SameMembers predicted ids)
    (valueError "signal policy predictions must cover observations exactly")
  let modelName ← onlyModel predictions
  signalLoop spec modelName predictions .start
    (sortedByRank Phase4MarketObservation.rank observations)

end AdvisorAI
