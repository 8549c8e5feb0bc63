import AdvisorAI.Contracts.Scalars

/-!
# Closed-data readiness

A decision at a cutoff needs every observation bucket of the decision interval
before it. `CadenceGate.check` compares the buckets that are expected with the
cutoffs that were observed, all of which have to align with the cadence.
-/

namespace AdvisorAI

/-- The intervals of a cadence, in seconds. -/
structure CadencePolicy where
  observationIntervalSeconds : ℕ
  decisionIntervalSeconds : ℕ
  observation_bounds : 60 ≤ observationIntervalSeconds ∧ observationIntervalSeconds ≤ 3600
  decision_bounds : 300 ≤ decisionIntervalSeconds ∧ decisionIntervalSeconds ≤ 86400
  whole_observations : observationIntervalSeconds ∣ decisionIntervalSeconds

structure CadenceReadiness where
  passed : Bool
  reasons : List String
  passed_iff : passed = true ↔ reasons = []

namespace CadenceGate

variable (policy : CadencePolicy)

def second : Int := 1000000

/-- `_closed`: the timestamp has to fall on a whole interval. -/
def closed (label : String) (value : Datetime) : Except PyError Timestamp := do
  let normalized ← value.aware (label ++ " must include a timezone")
  if normalized.tdiv second % policy.observationIntervalSeconds ≠ 0 then
    .error (valueError (label ++ " must align to the configured cadence"))
  else .ok normalized

/-- `expected_observation_cutoffs`, of a cutoff that is closed. -/
def expectedObservationCutoffs (cutoff : Timestamp) : Except PyError (List Timestamp) :=
  let interval : Int := policy.observationIntervalSeconds * second
  let decision : Int := policy.decisionIntervalSeconds * second
  if cutoff - decision < datetimeMin then
    .error ⟨"OverflowError", "date value out of range"⟩
  else
    let count := policy.decisionIntervalSeconds / policy.observationIntervalSeconds
    .ok ((List.range count).map fun index => cutoff - decision + interval + interval * index)

/-- `check`, as the runtime calls it: without a snapshot. -/
def check (cutoff : Timestamp) (observedCutoffs : List Datetime) :
    Except PyError CadenceReadiness := do
  let normalized ← closed policy "decision cutoff" (.ofTimestamp cutoff)
  let expected ← expectedObservationCutoffs policy normalized
  let observed ← observedCutoffs.mapM (closed policy "observation cutoff")
  if expected.any fun item => item ∉ observed then
    .ok ⟨false, ["missing_closed_observation_data"], by decide⟩
  else .ok ⟨true, [], by decide⟩

end CadenceGate

end AdvisorAI
