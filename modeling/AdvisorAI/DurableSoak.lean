import AdvisorAI.Collectors.HealthReload
import AdvisorAI.Execution.EventSpool
import AdvisorAI.Lib.JsonLayout
import AdvisorAI.GateSoak

/-!
# The records of a durable soak

A soak of the paper runtime leaves one line of JSON for each interval. A record carries the
identity and the hash of the configuration, its place in the file, the hash of the record
before it, and the hash of all of this. `SoakRecord` carries its validators; what
`make_soak_record` makes of a sample is read back from the line that is written
(`SoakRecord.readLine_line`).
-/

namespace AdvisorAI

open Lib Lib.Json
open RawEventSpool (maxStrDigits)
open SourceHealthTransition (readNullable readDigest optionalDigest)

/-- What the model library does with scalars, `uuid4`, the hash, and how the `float` is printed
that is nearest to a number. -/
structure SoakOutside extends PydanticScalars where
  boolean : Tree → Option Bool
  uuid4 : UUID
  sha256 : List Char → Digest
  floatToken : ℚ → NumberToken

/-! ## Samples -/

namespace FailureScenario

def value : FailureScenario → String
  | .priceGap => "price_gap"
  | .volatilityJump => "volatility_jump"
  | .correlationBreakdown => "correlation_breakdown"
  | .spreadDepthCollapse => "spread_depth_collapse"
  | .haltDelist => "halt_delist"
  | .fundingLiquidationCascade => "funding_liquidation_cascade"
  | .stablecoinDepeg => "stablecoin_depeg"
  | .venueOutage => "venue_outage"
  | .withdrawalFreeze => "withdrawal_freeze"
  | .counterpartyFailure => "counterparty_failure"
  | .staleDuplicateData => "stale_duplicate_data"
  | .clockDrift => "clock_drift"
  | .duplicatePartialFill => "duplicate_partial_fill"

def all : List FailureScenario :=
  [.priceGap, .volatilityJump, .correlationBreakdown, .spreadDepthCollapse, .haltDelist,
    .fundingLiquidationCascade, .stablecoinDepeg, .venueOutage, .withdrawalFreeze,
    .counterpartyFailure, .staleDuplicateData, .clockDrift, .duplicatePartialFill]

def ofValue (s : String) : Option FailureScenario := all.find? fun scenario => scenario.value = s

theorem ofValue_value (scenario : FailureScenario) : ofValue scenario.value = some scenario := by
  cases scenario <;> rfl

end FailureScenario

/-- A sample with its decimals as they are spelled, and a time that a `datetime` can show. -/
structure SpelledSample extends SoakSample where
  utility : Decimal
  headroom : Option Decimal
  noTrade : Option Decimal
  benchmark : Option Decimal
  utility_value : utility.value = netUtilityAfterCosts
  headroom_value : headroom.map Decimal.value = headroomGib
  noTrade_value : noTrade.map Decimal.value = noTradeNetUtility
  benchmark_value : benchmark.map Decimal.value = benchmarkNetUtility
  takenAt_valid : datetimeMin ≤ takenAt ∧ takenAt ≤ datetimeMax

/-- `json.dumps` prints no integer of more digits. -/
def ShortInteger (n : ℕ) : Prop := ¬ maxStrDigits < (Nat.toDigits 10 n).length

instance (n : ℕ) : Decidable (ShortInteger n) := inferInstanceAs (Decidable (¬ _ < _))

namespace SpelledSample

variable (outside : SoakOutside)

def optionalDecimal (d : Option Decimal) : Tree := (d.map fun v => Tree.text v.text).getD .null

/-- `sample.model_dump(mode="json")`, its keys sorted. -/
def dump (s : SpelledSample) : List (String × Tree) :=
  [("adverse_scenarios", .array (s.adverseScenarios.map fun scenario => Tree.text scenario.value)),
    ("agent_scorecard_passed", .bool s.agentScorecardPassed),
    ("at", .text (outside.timeText s.takenAt)), ("benchmark_net_utility", optionalDecimal s.benchmark),
    ("data_scorecard_passed", .bool s.dataScorecardPassed),
    ("decision_count", .number (integerToken s.decisionCount)),
    ("execution_scorecard_passed", .bool s.executionScorecardPassed),
    ("headroom_gib", optionalDecimal s.headroom),
    ("model_scorecard_passed", .bool s.modelScorecardPassed),
    ("net_utility_after_costs", .text s.utility.text),
    ("no_trade_net_utility", optionalDecimal s.noTrade),
    ("reconciliation_clean", .bool s.reconciliationClean),
    ("resource_stable", .bool s.resourceStable),
    ("risk_scorecard_passed", .bool s.riskScorecardPassed), ("safety_clean", .bool s.safetyClean),
    ("sample_id", .text (uuidText s.sampleId)),
    ("trade_count", .number (integerToken s.tradeCount))]

def fieldNames : List String :=
  ["sample_id", "at", "decision_count", "trade_count", "net_utility_after_costs", "resource_stable",
    "reconciliation_clean", "safety_clean", "adverse_scenarios", "data_scorecard_passed",
    "model_scorecard_passed", "agent_scorecard_passed", "risk_scorecard_passed",
    "execution_scorecard_passed", "headroom_gib", "no_trade_net_utility", "benchmark_net_utility"]

def readDefault {α : Type} (read : Tree → Option α) (default : α) (v : Option Tree) : Option α :=
  (v.map read).getD (some default)

/-- An integer with `ge=0`. -/
def readCount (v : Tree) : Option ℕ :=
  (outside.integer v).bind fun n => if 0 ≤ n then some n.toNat else none

def readScenario (v : Tree) : Option FailureScenario :=
  (Tree.asText v).bind FailureScenario.ofValue

def readScenarios : Tree → Option (List FailureScenario)
  | .array items => items.mapM readScenario
  | _ => none

/-- The sample, when every field is there and passes its validators. -/
def read (members : List (String × Tree)) (takenAt : Timestamp) : Option SpelledSample := do
  let sampleId ← readDefault outside.uuid outside.uuid4 (member members "sample_id")
  let decisionCount ← (member members "decision_count").bind (readCount outside)
  let tradeCount ← (member members "trade_count").bind (readCount outside)
  let utility ← (member members "net_utility_after_costs").bind outside.decimal
  let resourceStable ← (member members "resource_stable").bind outside.boolean
  let reconciliationClean ← (member members "reconciliation_clean").bind outside.boolean
  let safetyClean ← (member members "safety_clean").bind outside.boolean
  let adverseScenarios ← readDefault readScenarios [] (member members "adverse_scenarios")
  let data ← readDefault outside.boolean true (member members "data_scorecard_passed")
  let model ← readDefault outside.boolean true (member members "model_scorecard_passed")
  let agent ← readDefault outside.boolean true (member members "agent_scorecard_passed")
  let risk ← readDefault outside.boolean true (member members "risk_scorecard_passed")
  let execution ← readDefault outside.boolean true (member members "execution_scorecard_passed")
  let headroom ← readNullable outside.decimal (member members "headroom_gib")
  let noTrade ← readNullable outside.decimal (member members "no_trade_net_utility")
  let benchmark ← readNullable outside.decimal (member members "benchmark_net_utility")
  if members.all (fun m => m.1 ∈ fieldNames) then
    if h : (tradeCount ≤ decisionCount ∧ adverseScenarios.Nodup) ∧
        (∀ v ∈ headroom.map Decimal.value, 0 ≤ v) ∧
        datetimeMin ≤ takenAt ∧ takenAt ≤ datetimeMax then
      return ⟨⟨sampleId, takenAt, decisionCount, tradeCount, utility.value, resourceStable,
        reconciliationClean, safetyClean, adverseScenarios, data, model, agent, risk, execution,
        headroom.map Decimal.value, noTrade.map Decimal.value, benchmark.map Decimal.value,
        h.1.1, h.1.2, h.2.1⟩, utility, headroom, noTrade, benchmark, rfl, rfl, rfl, rfl, h.2.2⟩
    else none
  else none

end SpelledSample

/-! ## Records -/

structure SoakFields where
  schemaVersion : String
  runId : String
  configHash : Digest
  sequence : ℕ
  sampledAt : Timestamp
  sample : SpelledSample
  previousRecordHash : Option Digest

namespace SoakFields

variable (outside : SoakOutside)

/-- `record.model_dump(mode="json", exclude={"record_hash"})`, its keys sorted. -/
def dump (f : SoakFields) : List (String × Tree) :=
  [("config_hash", .text f.configHash.text),
    ("previous_record_hash", optionalDigest f.previousRecordHash), ("run_id", .text f.runId),
    ("sample", .object (f.sample.dump outside)), ("sampled_at", .text (outside.timeText f.sampledAt)),
    ("schema_version", .text f.schemaVersion), ("sequence", .number (integerToken f.sequence))]

variable (f : SoakFields)

def hashedDump (recordHash : Digest) : List (String × Tree) :=
  [("config_hash", .text f.configHash.text),
    ("previous_record_hash", optionalDigest f.previousRecordHash),
    ("record_hash", .text recordHash.text), ("run_id", .text f.runId),
    ("sample", .object (f.sample.dump outside)), ("sampled_at", .text (outside.timeText f.sampledAt)),
    ("schema_version", .text f.schemaVersion), ("sequence", .number (integerToken f.sequence))]

/-- `_payload_hash` of the dump. -/
def payloadHash : Digest := outside.sha256 (write quotedAscii (.object (f.dump outside)))

/-- The integers of the record can be printed. -/
def Printable : Prop :=
  ShortInteger f.sequence ∧ ShortInteger f.sample.decisionCount ∧ ShortInteger f.sample.tradeCount

instance (f : SoakFields) : Decidable f.Printable := inferInstanceAs (Decidable (_ ∧ _ ∧ _))

/-- The validators of a record besides those of its fields and its hash. -/
def Valid : Prop :=
  isBlank f.runId = false ∧ (datetimeMin ≤ f.sampledAt ∧ f.sampledAt ≤ datetimeMax) ∧
    (f.sequence = 0 ↔ f.previousRecordHash = none) ∧ f.sample.takenAt ≤ f.sampledAt ∧ f.Printable

instance (f : SoakFields) : Decidable f.Valid := inferInstanceAs (Decidable (_ ∧ _ ∧ _ ∧ _ ∧ _))

end SoakFields

/-- One hash-chained interval observation. -/
structure SoakRecord (outside : SoakOutside) extends SoakFields where
  recordHash : Digest
  valid : toSoakFields.Valid
  recordHash_eq : recordHash = toSoakFields.payloadHash outside

namespace SoakRecord

variable (outside : SoakOutside)

/-- The `ValidationError` of a model. -/
def invalid : PyError := valueError "validation error for SoakRecord"

def fieldNames : List String :=
  ["schema_version", "run_id", "config_hash", "sequence", "sampled_at", "sample",
    "previous_record_hash", "record_hash"]

/-- A time in UTC. One that leaves the calendar raises at once, past the other errors. -/
def readTime (message : String) (v : Option Tree) : Except PyError (Option Timestamp) :=
  match v.bind outside.time with
  | none => .ok none
  | some time =>
    match time.aware message with
    | .ok t => .ok (some t)
    | .error e => if e.typeName = "ValueError" then .ok none else .error e

variable (members : List (String × Tree))

def sampleMembers : List (String × Tree) :=
  match member members "sample" with
  | some (.object sample) => sample
  | _ => []

def readFields (sampledAt takenAt : Timestamp) :
    Option SoakFields := do
  let schemaVersion ← SpelledSample.readDefault Tree.asText "advisorai.phase7.soak-record.v1"
    (member members "schema_version")
  let runId ← (member members "run_id").bind Tree.asText
  let configHash ← (member members "config_hash").bind readDigest
  let sequence ← (member members "sequence").bind (SpelledSample.readCount outside)
  let sample ← SpelledSample.read outside (sampleMembers members) takenAt
  let previousRecordHash ←
    (member members "previous_record_hash").bind fun v => readNullable readDigest (some v)
  if members.all (fun m => m.1 ∈ fieldNames) then
    return ⟨schemaVersion, runId, configHash, sequence, sampledAt, sample, previousRecordHash⟩
  else none

/-- The record of some fields and a hash, when they pass its validators. -/
def hashed (f : SoakFields) (recordHash : Digest) : Option (SoakRecord outside) :=
  if h : f.Valid ∧ recordHash = f.payloadHash outside then some ⟨f, recordHash, h.1, h.2⟩ else none

def build (sampledAt takenAt : Option Timestamp) :
    Option (SoakRecord outside) := do
  let fields ← readFields outside members (← sampledAt) (← takenAt)
  let recordHash ← (member members "record_hash").bind readDigest
  hashed outside fields recordHash

/-- `SoakRecord.model_validate`. -/
def validate : Tree → Except PyError (SoakRecord outside)
  | .object members => do
    let sampledAt ← readTime outside "soak record timestamp must include a timezone"
      (member members "sampled_at")
    let takenAt ← readTime outside "soak sample timestamp must include a timezone"
      (member (sampleMembers members) "at")
    ((build outside members sampledAt takenAt).map Except.ok).getD (.error invalid)
  | _ => .error invalid

/-- `_canonical_bytes(record.model_dump(mode="json"))`. -/
def line (r : SoakRecord outside) : List Char :=
  write quotedAscii (.object (r.toSoakFields.hashedDump outside r.recordHash))

/-- `SoakRecord.model_validate_json(line)`. -/
def readLine (line : List Char) : Except PyError (SoakRecord outside) :=
  match loads line with
  | none => .error invalid
  | some value => validate outside value

end SoakRecord

/-! ## The configuration -/

/-- Immutable identity and timing of one soak. -/
@[ext]
structure SoakRunConfig where
  schemaVersion : String
  runId : String
  startedAt : Timestamp
  requiredCalendarDays : ℕ
  sampleIntervalSeconds : ℕ
  codeSha256 : Digest
  configurationSha256 : Digest
  policySha256 : Digest
  modelRosterSha256 : Digest
  sourceRosterSha256 : Digest
  venueIdentity : String
  venueEnvironment : String
  command : String
  stopProcedure : String
  restartProcedure : String
  startedAt_valid : datetimeMin ≤ startedAt ∧ startedAt ≤ datetimeMax
  requiredCalendarDays_ge : 60 ≤ requiredCalendarDays
  sampleIntervalSeconds_ge : 1 ≤ sampleIntervalSeconds
  venueEnvironment_paper : venueEnvironment ∈ ["paper", "testnet", "paper_testnet"]
  identity_visible : isBlank runId = false ∧ isBlank venueIdentity = false
  procedures_visible : isBlank command = false ∧ isBlank stopProcedure = false ∧
    isBlank restartProcedure = false

namespace SoakRunConfig

variable (outside : SoakOutside) (c : SoakRunConfig)

/-- `config.model_dump(mode="json")`, its keys sorted. -/
def dump : List (String × Tree) :=
  [("code_sha256", .text c.codeSha256.text), ("command", .text c.command),
    ("configuration_sha256", .text c.configurationSha256.text),
    ("model_roster_sha256", .text c.modelRosterSha256.text),
    ("policy_sha256", .text c.policySha256.text),
    ("required_calendar_days", .number (integerToken c.requiredCalendarDays)),
    ("restart_procedure", .text c.restartProcedure), ("run_id", .text c.runId),
    ("sample_interval_seconds", .number (integerToken c.sampleIntervalSeconds)),
    ("schema_version", .text c.schemaVersion), ("source_roster_sha256", .text c.sourceRosterSha256.text),
    ("started_at", .text (outside.timeText c.startedAt)), ("stop_procedure", .text c.stopProcedure),
    ("venue_environment", .text c.venueEnvironment), ("venue_identity", .text c.venueIdentity)]

def configHash : Digest := outside.sha256 (write quotedAscii (.object (c.dump outside)))

/-- What `_write_immutable_json` writes of it. -/
def text : List Char := indented quotedAscii (c.dump outside) ++ [newline]

/-- The integers of the configuration can be printed. -/
def Printable : Prop :=
  ShortInteger c.requiredCalendarDays ∧ ShortInteger c.sampleIntervalSeconds

instance (c : SoakRunConfig) : Decidable c.Printable := inferInstanceAs (Decidable (_ ∧ _))

def day : ℤ := 86400000000

/-- `started_at + timedelta(days=required_calendar_days)`. -/
def targetEnd : Except PyError Timestamp :=
  if 999999999 < c.requiredCalendarDays then
    .error ⟨"OverflowError",
      "days=" ++ c.requiredCalendarDays.repr ++ "; must have magnitude <= 999999999"⟩
  else if datetimeMax < c.startedAt + c.requiredCalendarDays * day then
    .error ⟨"OverflowError", "date value out of range"⟩
  else .ok (c.startedAt + c.requiredCalendarDays * day)

end SoakRunConfig

/-! ## Making, reading and appending records -/

section Records

variable (outside : SoakOutside)

/-- What `json.dumps` raises on an integer that is too long. -/
def integerTooLong : PyError :=
  valueError "Exceeds the limit (4300 digits) for integer string conversion"

/-- `make_soak_record`, at a time that is in UTC already. -/
def makeSoakRecord (config : SoakRunConfig) (sample : SpelledSample) (sequence : ℕ)
    (sampledAt : Timestamp) (previousRecordHash : Option Digest) :
    Except PyError (SoakRecord outside) :=
  let unsealed : SoakFields := ⟨"advisorai.phase7.soak-record.v1", config.runId,
    config.configHash outside, sequence, sampledAt, sample, previousRecordHash⟩
  if unsealed.Printable then
    SoakRecord.validate outside (.object (unsealed.hashedDump outside (unsealed.payloadHash outside)))
  else .error integerTooLong

/-- How the lines are read; the chain is checked afterwards. -/
def soakReader : LineReader (List (SoakRecord outside)) (SoakRecord outside) PyError where
  read := fun _ line => SoakRecord.readLine outside line
  check := fun _ _ => .ok ()
  take := fun records record => records ++ [record]

variable {outside}

/-- What the loop over the records has seen when it comes to one. -/
def checkChainFrom (index : ℕ) (prior : Option (SoakRecord outside)) :
    List (SoakRecord outside) → Except PyError Unit
  | [] => .ok ()
  | record :: records =>
    if record.sequence ≠ index then .error (valueError "soak record sequence contains a gap")
    else if record.previousRecordHash ≠ prior.map SoakRecord.recordHash then
      .error (valueError "soak record hash chain is broken")
    else if ∃ p ∈ prior, record.sampledAt ≤ p.sampledAt then
      .error (valueError "soak records are not strictly time ordered")
    else checkChainFrom (index + 1) (some record) records

variable (outside) (file : Option (List Char))

def readSoakRecords : Except PyError (List (SoakRecord outside)) :=
  match file with
  | none => .ok []
  | some text =>
    ((soakReader outside).readFile [] text).bind fun records =>
      (checkChainFrom 0 none records).map fun _ => records

/-- `append_soak_record`: the text of the file with one line more. -/
def appendSoakRecord (record : SoakRecord outside) :
    Except PyError (List Char) :=
  (readSoakRecords outside file).bind fun existing =>
    if record.sequence ≠ existing.length then
      .error (valueError "soak record append sequence is not contiguous")
    else if record.previousRecordHash ≠ existing.getLast?.map SoakRecord.recordHash then
      .error (valueError "soak record predecessor hash is inconsistent")
    else if ∃ last ∈ existing.getLast?, record.sampledAt ≤ last.sampledAt then
      .error (valueError "soak records must be appended in time order")
    else .ok (file.getD [] ++ (record.line outside ++ [newline]))

end Records

end AdvisorAI
