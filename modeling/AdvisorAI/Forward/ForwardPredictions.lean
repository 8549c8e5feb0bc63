import AdvisorAI.Lib.JsonCanonical
import AdvisorAI.Lib.JsonJournal
import AdvisorAI.DurableSoak

/-!
# Predictions of the forward run

A prediction is recorded before its outcome exists. Baseline records have the original fields;
a candidate's record also says when and where it was made. `ForwardPredictionRecord` carries the
validators of the class. A record is validated back from what it is dumped to (`validate_dump`),
and two records that are dumped alike are the same (`dump_cancel`).
-/

namespace AdvisorAI

open Lib Lib.Json
open SourceHealthTransition (readNullable)

/-- What the model library does with scalars, the hash, and `str.upper`. -/
structure ForwardOutside extends PydanticScalars where
  sha256 : List Char → Digest
  upper : String → String

/-- `V3_CORE_SYMBOLS`. -/
inductive V3CoreSymbol where
  | btcusdt | ethusdt
deriving DecidableEq

namespace V3CoreSymbol

def value : V3CoreSymbol → String
  | .btcusdt => "BTCUSDT"
  | .ethusdt => "ETHUSDT"

def all : List V3CoreSymbol := [.btcusdt, .ethusdt]

def ofValue (s : String) : Option V3CoreSymbol := all.find? fun symbol => symbol.value = s

theorem ofValue_value (symbol : V3CoreSymbol) : ofValue symbol.value = some symbol := by
  cases symbol <;> rfl

end V3CoreSymbol

/-! ## The fields -/

@[ext]
structure ForwardPredictionFields where
  schemaVersion : String
  predictionId : String
  instrument : V3CoreSymbol
  model : String
  modelIdentityHash : Digest
  cutoff : Timestamp
  inputSnapshotHash : Digest
  predictedReturnBps : Decimal
  generatedAt : Timestamp
  runtimeLatencyMs : Decimal
  outcomeCaseId : Option String := none
  inferenceStartedAt : Option Timestamp := none
  inferenceFinishedAt : Option Timestamp := none
  ledgerPersistedAt : Option Timestamp := none
  generationDeadlineAt : Option Timestamp := none
  sourceSnapshotHash : Option Digest := none
  checkpointHash : Option Digest := none
  runnerHash : Option Digest := none
  preprocessingIdentity : Option String := none
  preprocessingHash : Option Digest := none
  dependencyLockHash : Option Digest := none
  runtimeEnvironmentHash : Option Digest := none
  device : Option String := none
  nativeIntervalLowerBps : Option Decimal := none
  nativeIntervalUpperBps : Option Decimal := none
  nativeConfidence : Option Decimal := none
  resourcePeakRssMib : Option Decimal := none
  resourcePeakCpuPercent : Option Decimal := none
  resourceSampleCount : Option ℕ := none
  provenance : List (String × String)
deriving DecidableEq

namespace ForwardPredictionFields

variable (f : ForwardPredictionFields)

def optionalTimes : List (Option Timestamp) :=
  [f.inferenceStartedAt, f.inferenceFinishedAt, f.ledgerPersistedAt, f.generationDeadlineAt]

def times : List Timestamp :=
  f.cutoff :: f.generatedAt :: f.optionalTimes.filterMap id

def optionalDecimals : List (Option Decimal) :=
  [f.nativeIntervalLowerBps, f.nativeIntervalUpperBps, f.nativeConfidence, f.resourcePeakRssMib,
    f.resourcePeakCpuPercent]

def decimals : List Decimal :=
  f.predictedReturnBps :: f.runtimeLatencyMs :: f.optionalDecimals.filterMap id

/-- `identity_fields`: which of them are there. -/
def identityFields : List Bool :=
  [f.checkpointHash.isSome, f.runnerHash.isSome, f.preprocessingIdentity.isSome,
    f.preprocessingHash.isSome, f.dependencyLockHash.isSome, f.runtimeEnvironmentHash.isSome,
    f.device.isSome, f.resourcePeakRssMib.isSome, f.resourcePeakCpuPercent.isSome,
    f.resourceSampleCount.isSome]

def FieldsValid : Prop :=
  f.predictionId ≠ "" ∧ f.model ≠ "" ∧ f.preprocessingIdentity ≠ some "" ∧ f.device ≠ some "" ∧
    0 ≤ f.runtimeLatencyMs.value ∧ (∀ d ∈ f.resourcePeakRssMib, 0 ≤ d.value) ∧
      (∀ d ∈ f.resourcePeakCpuPercent, 0 ≤ d.value) ∧ (∀ n ∈ f.resourceSampleCount, 1 ≤ n)

/-- `validate_provenance`, of entries that are stripped already. -/
def ProvenanceValid (provenance : List (String × String)) : Prop :=
  (∀ entry ∈ provenance, strip entry.1 = entry.1 ∧ strip entry.2 = entry.2) ∧
    (∀ entry ∈ provenance, entry.1 ≠ "" ∧ entry.2 ≠ "") ∧ (provenance.map Prod.fst).Nodup ∧
      provenance.Pairwise fun a b => a.1 < b.1 ∨ (a.1 = b.1 ∧ a.2 ≤ b.2)

/-- The prediction is made before its cutoff, or before the deadline it has after that. -/
def InTime : Prop :=
  (f.generationDeadlineAt = none → f.generatedAt ≤ f.cutoff) ∧
    ∀ deadline ∈ f.generationDeadlineAt, f.cutoff < deadline ∧ f.generatedAt ≤ deadline

/-- The times of the inference are there together and in order. -/
def InferenceTimed : Prop :=
  (f.inferenceStartedAt.isSome = f.inferenceFinishedAt.isSome) ∧
    (f.ledgerPersistedAt.isSome → f.inferenceFinishedAt.isSome) ∧
      ∀ started ∈ f.inferenceStartedAt, ∀ finished ∈ f.inferenceFinishedAt,
        started ≤ finished ∧ f.generatedAt = finished ∧
          ∀ persisted ∈ f.ledgerPersistedAt, finished ≤ persisted

/-- The bounds of the interval are there together and in order. -/
def IntervalValid : Prop :=
  (f.nativeIntervalLowerBps.isSome = f.nativeIntervalUpperBps.isSome) ∧
    ∀ lower ∈ f.nativeIntervalLowerBps, ∀ upper ∈ f.nativeIntervalUpperBps,
      lower.value ≤ upper.value

/-- The validators of the class, on fields in their normal form. -/
def Valid : Prop :=
  f.FieldsValid ∧ (∀ t ∈ f.times, datetimeMin ≤ t ∧ t ≤ datetimeMax) ∧
    ProvenanceValid f.provenance ∧
      f.schemaVersion = "advisorai.phase4.v3-core-forward.prediction.v1" ∧ f.InTime ∧
        f.InferenceTimed ∧ f.outcomeCaseId = none ∧ f.IntervalValid ∧
          (true ∈ f.identityFields → false ∉ f.identityFields)

instance (f : ForwardPredictionFields) : Decidable f.FieldsValid :=
  inferInstanceAs (Decidable (_ ∧ _ ∧ _ ∧ _ ∧ _ ∧ _ ∧ _ ∧ _))

instance (provenance : List (String × String)) : Decidable (ProvenanceValid provenance) :=
  inferInstanceAs (Decidable (_ ∧ _ ∧ _ ∧ _))

instance (f : ForwardPredictionFields) : Decidable f.InTime := inferInstanceAs (Decidable (_ ∧ _))

instance (f : ForwardPredictionFields) : Decidable f.InferenceTimed :=
  inferInstanceAs (Decidable (_ ∧ _ ∧ _))

instance (f : ForwardPredictionFields) : Decidable f.IntervalValid :=
  inferInstanceAs (Decidable (_ ∧ _))

instance (f : ForwardPredictionFields) : Decidable f.Valid :=
  inferInstanceAs (Decidable (_ ∧ _ ∧ _ ∧ _ ∧ _ ∧ _ ∧ _ ∧ _ ∧ _))

end ForwardPredictionFields

/-- Immutable prediction-side ledger record, before its outcome exists. -/
@[ext]
structure ForwardPredictionRecord extends ForwardPredictionFields where
  valid : toForwardPredictionFields.Valid

theorem ForwardPredictionRecord.eq_of_fields {p q : ForwardPredictionRecord}
    (h : p.toForwardPredictionFields = q.toForwardPredictionFields) : p = q := by
  cases p
  cases q
  cases h
  rfl

namespace ForwardPredictionFields

/-- Everything but the spelling of the decimals. -/
def unspelled (f : ForwardPredictionFields) : ForwardPredictionFields :=
  { f with
    predictedReturnBps := Decimal.ofNat 0
    runtimeLatencyMs := Decimal.ofNat 0
    nativeIntervalLowerBps := none
    nativeIntervalUpperBps := none
    nativeConfidence := none
    resourcePeakRssMib := none
    resourcePeakCpuPercent := none }

/-- `f == g`: decimals are compared as numbers. -/
def Same (f g : ForwardPredictionFields) : Prop :=
  f.unspelled = g.unspelled ∧ f.predictedReturnBps.value = g.predictedReturnBps.value ∧
    f.runtimeLatencyMs.value = g.runtimeLatencyMs.value ∧
      f.optionalDecimals.map (Option.map Decimal.value)
        = g.optionalDecimals.map (Option.map Decimal.value)

instance (f g : ForwardPredictionFields) : Decidable (f.Same g) :=
  inferInstanceAs (Decidable (_ ∧ _ ∧ _ ∧ _))

end ForwardPredictionFields

instance : DecidableEq ForwardPredictionRecord := fun p q =>
  decidable_of_iff (p.toForwardPredictionFields = q.toForwardPredictionFields)
    ⟨ForwardPredictionRecord.eq_of_fields, fun h => h ▸ rfl⟩

/-! ## The dump -/

namespace ForwardPredictionFields

section Dump

variable (outside : ForwardOutside)

def timeTree (t : Timestamp) : Tree := .text (outside.timeText t)

def decimalTree (d : Decimal) : Tree := .text d.text

def digestTree (d : Digest) : Tree := .text d.text

def countTree (n : ℕ) : Tree := .number (integerToken n)

variable (f : ForwardPredictionFields)

/-- What all records have, the baseline's among them. -/
def originalDump : List (String × Tree) :=
  [("schema_version", .text f.schemaVersion), ("prediction_id", .text f.predictionId),
    ("instrument", .text f.instrument.value), ("model", .text f.model),
    ("model_identity_hash", digestTree f.modelIdentityHash), ("cutoff", timeTree outside f.cutoff),
    ("input_snapshot_hash", digestTree f.inputSnapshotHash),
    ("predicted_return_bps", decimalTree f.predictedReturnBps),
    ("generated_at", timeTree outside f.generatedAt),
    ("runtime_latency_ms", decimalTree f.runtimeLatencyMs),
    ("outcome_case_id", nullable Tree.text f.outcomeCaseId)]

def candidateDump : List (String × Tree) :=
  [("inference_started_at", nullable (timeTree outside) f.inferenceStartedAt),
    ("inference_finished_at", nullable (timeTree outside) f.inferenceFinishedAt),
    ("ledger_persisted_at", nullable (timeTree outside) f.ledgerPersistedAt),
    ("generation_deadline_at", nullable (timeTree outside) f.generationDeadlineAt),
    ("source_snapshot_hash", nullable digestTree f.sourceSnapshotHash),
    ("checkpoint_hash", nullable digestTree f.checkpointHash),
    ("runner_hash", nullable digestTree f.runnerHash),
    ("preprocessing_identity", nullable Tree.text f.preprocessingIdentity),
    ("preprocessing_hash", nullable digestTree f.preprocessingHash),
    ("dependency_lock_hash", nullable digestTree f.dependencyLockHash),
    ("runtime_environment_hash", nullable digestTree f.runtimeEnvironmentHash),
    ("device", nullable Tree.text f.device),
    ("native_interval_lower_bps", nullable decimalTree f.nativeIntervalLowerBps),
    ("native_interval_upper_bps", nullable decimalTree f.nativeIntervalUpperBps),
    ("native_confidence", nullable decimalTree f.nativeConfidence),
    ("resource_peak_rss_mib", nullable decimalTree f.resourcePeakRssMib),
    ("resource_peak_cpu_percent", nullable decimalTree f.resourcePeakCpuPercent),
    ("resource_sample_count", nullable countTree f.resourceSampleCount),
    ("provenance", .array (f.provenance.map MarketEvent.pairTree))]

/-- `prediction.model_dump(mode="json")`. -/
def dump : List (String × Tree) :=
  f.originalDump outside ++ f.candidateDump outside

end Dump

/-! ## Validation -/

def fieldNames : List String :=
  ["schema_version", "prediction_id", "instrument", "model", "model_identity_hash", "cutoff",
    "input_snapshot_hash", "predicted_return_bps", "generated_at", "runtime_latency_ms",
    "outcome_case_id", "inference_started_at", "inference_finished_at", "ledger_persisted_at",
    "generation_deadline_at", "source_snapshot_hash", "checkpoint_hash", "runner_hash",
    "preprocessing_identity", "preprocessing_hash", "dependency_lock_hash",
    "runtime_environment_hash", "device", "native_interval_lower_bps", "native_interval_upper_bps",
    "native_confidence", "resource_peak_rss_mib", "resource_peak_cpu_percent",
    "resource_sample_count", "provenance"]

end ForwardPredictionFields

/-- `_digest`, as a field validator. -/
def readNormalDigest (v : Tree) : Option Digest :=
  (Tree.asText v).bind fun s =>
    if h : (lower (strip s)).length = 64 ∧
        ∀ c ∈ (lower (strip s)).toList, c ∈ "0123456789abcdef".toList then
      some ⟨lower (strip s), h.1, h.2⟩
    else none

namespace ForwardOutside

variable (outside : ForwardOutside)

def readSymbol (v : Tree) : Option V3CoreSymbol :=
  (Tree.asText v).bind fun s => V3CoreSymbol.ofValue (outside.upper (strip s))

def readNatural (v : Tree) : Option ℕ :=
  (outside.integer v).bind fun n => if 0 ≤ n then some n.toNat else none

/-- A time in UTC. One that leaves the calendar raises at once, past the other errors. -/
def readTime (message : String) (v : Option Tree) : Except PyError (Option Timestamp) :=
  match v.bind outside.time with
  | none => .ok none
  | some time =>
    match time.aware message with
    | .ok t => .ok (some t)
    | .error e => if e.typeName = "ValueError" then .ok none else .error e

def readOptionalTime (message : String) : Option Tree → Except PyError (Option (Option Timestamp))
  | none => .ok (some none)
  | some .null => .ok (some none)
  | some v => (outside.readTime message (some v)).map (Option.map some)

end ForwardOutside

namespace ForwardPredictionRecord

open ForwardPredictionFields

variable (outside : ForwardOutside)

/-- The times of a prediction, in the order of the class. -/
structure Times where
  cutoff : Timestamp
  generatedAt : Timestamp
  inferenceStartedAt : Option Timestamp
  inferenceFinishedAt : Option Timestamp
  ledgerPersistedAt : Option Timestamp
  generationDeadlineAt : Option Timestamp

variable (members : List (String × Tree))

def readTimes : Except PyError (Option Times) := do
  let cutoff ← outside.readTime "cutoff must include a timezone" (member members "cutoff")
  let generatedAt ←
    outside.readTime "generated_at must include a timezone" (member members "generated_at")
  let started ← outside.readOptionalTime "inference_started_at must include a timezone"
    (member members "inference_started_at")
  let finished ← outside.readOptionalTime "inference_finished_at must include a timezone"
    (member members "inference_finished_at")
  let persisted ← outside.readOptionalTime "ledger_persisted_at must include a timezone"
    (member members "ledger_persisted_at")
  let deadline ← outside.readOptionalTime "generation_deadline_at must include a timezone"
    (member members "generation_deadline_at")
  return do return ⟨← cutoff, ← generatedAt, ← started, ← finished, ← persisted, ← deadline⟩

def readEntry (v : Tree) : Option (String × String) :=
  (MarketEvent.readPair v).map fun entry => (strip entry.1, strip entry.2)

def readProvenance : Option Tree → Option (List (String × String))
  | none => some []
  | some (.array items) => items.mapM readEntry
  | some _ => none

/-- The fields, in their normal form, when every one of them is read. -/
def readFields (times : Times) :
    Option ForwardPredictionFields := do
  let schemaVersion ← SpelledSample.readDefault Tree.asText
    "advisorai.phase4.v3-core-forward.prediction.v1" (member members "schema_version")
  let predictionId ← (member members "prediction_id").bind Tree.asText
  let instrument ← (member members "instrument").bind outside.readSymbol
  let model ← (member members "model").bind Tree.asText
  let modelIdentityHash ← (member members "model_identity_hash").bind readNormalDigest
  let inputSnapshotHash ← (member members "input_snapshot_hash").bind readNormalDigest
  let predictedReturnBps ← (member members "predicted_return_bps").bind outside.decimal
  let runtimeLatencyMs ← (member members "runtime_latency_ms").bind outside.decimal
  let outcomeCaseId ← readNullable Tree.asText (member members "outcome_case_id")
  let sourceSnapshotHash ← readNullable readNormalDigest (member members "source_snapshot_hash")
  let checkpointHash ← readNullable readNormalDigest (member members "checkpoint_hash")
  let runnerHash ← readNullable readNormalDigest (member members "runner_hash")
  let preprocessingIdentity ← readNullable Tree.asText (member members "preprocessing_identity")
  let preprocessingHash ← readNullable readNormalDigest (member members "preprocessing_hash")
  let dependencyLockHash ← readNullable readNormalDigest (member members "dependency_lock_hash")
  let runtimeEnvironmentHash ←
    readNullable readNormalDigest (member members "runtime_environment_hash")
  let device ← readNullable Tree.asText (member members "device")
  let nativeIntervalLowerBps ←
    readNullable outside.decimal (member members "native_interval_lower_bps")
  let nativeIntervalUpperBps ←
    readNullable outside.decimal (member members "native_interval_upper_bps")
  let nativeConfidence ← readNullable outside.decimal (member members "native_confidence")
  let resourcePeakRssMib ← readNullable outside.decimal (member members "resource_peak_rss_mib")
  let resourcePeakCpuPercent ←
    readNullable outside.decimal (member members "resource_peak_cpu_percent")
  let resourceSampleCount ←
    readNullable outside.readNatural (member members "resource_sample_count")
  let provenance ← readProvenance (member members "provenance")
  -- extra="forbid"
  if members.all (fun m => m.1 ∈ fieldNames) then
    return ⟨schemaVersion, predictionId, instrument, model, modelIdentityHash, times.cutoff,
      inputSnapshotHash, predictedReturnBps, times.generatedAt, runtimeLatencyMs, outcomeCaseId,
      times.inferenceStartedAt, times.inferenceFinishedAt, times.ledgerPersistedAt,
      times.generationDeadlineAt, sourceSnapshotHash, checkpointHash, runnerHash,
      preprocessingIdentity, preprocessingHash, dependencyLockHash, runtimeEnvironmentHash, device,
      nativeIntervalLowerBps, nativeIntervalUpperBps, nativeConfidence, resourcePeakRssMib,
      resourcePeakCpuPercent, resourceSampleCount, provenance⟩
  else none

/-- The record of some fields, when they pass the validators. -/
def ofFields (f : ForwardPredictionFields) : Option ForwardPredictionRecord :=
  if h : f.Valid then some ⟨f, h⟩ else none

/-- The `ValidationError` of a model. -/
def invalid : PyError := valueError "validation error for ForwardPredictionRecord"

def build (times : Option Times) : Option ForwardPredictionRecord := do
  ofFields (← readFields outside members (← times))

/-- `ForwardPredictionRecord.model_validate`. -/
def validate : Tree → Except PyError ForwardPredictionRecord
  | .object members => do
    let times ← readTimes outside members
    ((build outside members times).map Except.ok).getD (.error invalid)
  | _ => .error invalid

end ForwardPredictionRecord

end AdvisorAI
