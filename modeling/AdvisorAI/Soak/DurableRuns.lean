import AdvisorAI.Soak.DurableReload

/-!
# Runs of a durable soak

`DurablePaperSoakRunner` binds an evidence root to its configuration, continues the chain of
records from what it reads, and reports the soak completed when the last record is at or past
the target end. A process may be stopped at any point between two writes, and started again
with any configuration.

`Sound` is what holds of an evidence root: its samples are one chain that reads as the records
whose append came to its end, all bound to the configuration of the root, and it reports the soak
completed only if the chain reaches the target end. `runProcess_sound` keeps it over one process,
`soak_evidence_sound` is the law for any sequence of processes.
-/

namespace AdvisorAI

open Lib Lib.Json

/-! ## Summaries and states -/

inductive SummaryStatus where
  | shortSmokeComplete | completed60CalendarDays
deriving DecidableEq, Repr

def SummaryStatus.value : SummaryStatus → String
  | .shortSmokeComplete => "short_smoke_complete"
  | .completed60CalendarDays => "completed_60_calendar_days"

/-- `max(0.0, (ended_at - started_at).total_seconds() / 3600)`, without the rounding. It does not
move a number over the 1440 hours that the validator compares with. -/
def elapsedHours (startedAt endedAt : Timestamp) : ℚ := max 0 ((endedAt - startedAt) / 3600000000)

/-- Process result; deliberately cannot represent Phase-7 admission. -/
structure SoakRunSummary where
  runId : String
  configHash : Digest
  startedAt : Timestamp
  endedAt : Timestamp
  recordCount : ℕ
  terminalSampleAt : Option Timestamp
  status : SummaryStatus
  recordCount_pos : 1 ≤ recordCount
  ended_after : startedAt ≤ endedAt
  completed_terminal : status = .completed60CalendarDays →
    terminalSampleAt ≠ none ∧ 1440 ≤ elapsedHours startedAt endedAt
  short_open : status = .shortSmokeComplete → terminalSampleAt = none

namespace SoakRunSummary

variable (outside : SoakOutside)

/-- `summary.model_dump(mode="json")`, its keys sorted. -/
def dump (s : SoakRunSummary) : List (String × Tree) :=
  [("config_hash", .text s.configHash.text),
    ("elapsed_hours", .number (outside.floatToken (elapsedHours s.startedAt s.endedAt))),
    ("ended_at", .text (outside.timeText s.endedAt)), ("phase7_admission", .bool false),
    ("qualification_state", .text "evidence_for_review_only"),
    ("record_count", .number (integerToken s.recordCount)), ("run_id", .text s.runId),
    ("schema_version", .text "advisorai.phase7.soak-run-summary.v1"),
    ("started_at", .text (outside.timeText s.startedAt)), ("status", .text s.status.value),
    ("terminal_sample_at",
      (s.terminalSampleAt.map fun t => Tree.text (outside.timeText t)).getD .null)]

def text (s : SoakRunSummary) : List Char := indented quotedAscii (s.dump outside) ++ [newline]

end SoakRunSummary

/-- `status.json`. -/
inductive SoakStatus where
  | running (runId : String) (configHash : Digest) (pid : ℕ) (heartbeatAt : Timestamp)
      (sampleCount : ℕ) (lastSampleAt lastRecordSampledAt : Timestamp) (lastRecordHash : Digest)
      (evidenceRoot : String)
  | failed (runId : String) (configHash : Digest) (pid : ℕ) (heartbeatAt : Timestamp)
      (failureClass : String) (evidenceRoot : String)
  | terminal (runId : String) (configHash : Digest) (pid : ℕ) (status : SummaryStatus)
      (heartbeatAt : Timestamp) (sampleCount : ℕ) (terminalSampleAt : Option Timestamp)
      (lastRecordHash : Digest) (summarySha256 : Option Digest) (evidenceRoot : String)

def SoakStatus.state : SoakStatus → String
  | running .. => "running"
  | failed .. => "failed"
  | terminal _ _ _ status .. => status.value

/-! ## The evidence root and its processes -/

/-- The files under an evidence root, and the records whose append came to its end. -/
structure EvidenceRoot (outside : SoakOutside) where
  config : Option (List Char)
  samples : Option (List Char)
  status : Option SoakStatus
  summary : Option (List Char)
  appended : List (SoakRecord outside)

/-- A turn of the loop: what the clock shows, what the cycle makes of it, and whether the
process is stopped between the append and the status. -/
structure Interval where
  clock : Except PyError Datetime
  sampleFactory : Timestamp → Except PyError SpelledSample
  stopsAfterAppend : Bool

/-- One process: a runner that is constructed and run. It is stopped when its turns are over and
the loop is not; `finalWrites` is how many of the two writes after the loop it comes to make. -/
structure SoakProcess where
  pid : ℕ
  evidenceRoot : String
  config : SoakRunConfig
  maxSamples : Option ℤ
  lockTaken : Bool
  turns : List Interval
  finalWrites : ℕ

inductive SoakOutcome where
  | stopped
  | raised (e : PyError)
  | returned (summary : SoakRunSummary)

namespace SoakProcess

variable (outside : SoakOutside) (p : SoakProcess)

/-- `_write_immutable_json`: the text that is in the file afterwards. -/
def writeImmutable (name : String) (encoded : List Char) :
    Option (List Char) → Except PyError (List Char)
  | none => .ok encoded
  | some existing =>
    if existing ≠ encoded then
      .error ⟨"FileExistsError", "immutable evidence differs: " ++ p.evidenceRoot ++ "/" ++ name⟩
    else .ok existing

/-- The constructor: the text of `config.json`. -/
def openConfig (file : Option (List Char)) : Except PyError (List Char) :=
  if p.config.Printable then p.writeImmutable "config.json" (p.config.text outside) file
  else .error integerTooLong

/-- `_validate_existing_records`. -/
def validateExisting : List (SoakRecord outside) → Except PyError Unit
  | [] => .ok ()
  | record :: records =>
    if record.runId ≠ p.config.runId ∨ record.configHash ≠ p.config.configHash outside then
      .error (valueError "existing soak evidence is bound to another run/config")
    else if record.sampledAt < p.config.startedAt then
      .error (valueError "existing soak evidence precedes immutable start")
    else validateExisting records

/-- What `run` has before its loop: the records, and the target end. -/
def resume (samples : Option (List Char)) :
    Except PyError (List (SoakRecord outside) × Timestamp) := do
  let records ← readSoakRecords outside samples
  p.validateExisting outside records
  return (records, ← p.config.targetEnd)

def Finished {outside : SoakOutside} (target : Timestamp) (records : List (SoakRecord outside)) :
    Prop :=
  (∃ last ∈ records.getLast?, target ≤ last.sampledAt) ∨ ∃ m ∈ p.maxSamples, m ≤ records.length

instance {outside : SoakOutside} (target : Timestamp) (records : List (SoakRecord outside)) :
    Decidable (p.Finished target records) := inferInstanceAs (Decidable (_ ∨ _))

/-- The record of a turn, and the text of the file with it. -/
def recordAt (turn : Interval) (records : List (SoakRecord outside)) (now : Timestamp)
    (samples : Option (List Char)) : Except PyError (SoakRecord outside × List Char) := do
  let sample ← turn.sampleFactory now
  if sample.takenAt < p.config.startedAt then
    .error (valueError "soak sample precedes immutable start")
  else
    let record ← makeSoakRecord outside p.config sample records.length now
      (records.getLast?.map SoakRecord.recordHash)
    return (record, ← appendSoakRecord outside samples record)

def takeTurn (turn : Interval) (records : List (SoakRecord outside)) (root : EvidenceRoot outside) :
    Except PyError (SoakRecord outside × Timestamp) × EvidenceRoot outside :=
  match turn.clock.bind (Datetime.aware "soak clock must include a timezone") with
  | .error e => (.error e, root)
  | .ok now =>
    if now < p.config.startedAt then
      (.error (valueError "soak clock precedes immutable start"), root)
    else if ∃ last ∈ records.getLast?, now ≤ last.sampledAt then
      (.error (valueError "soak clock did not advance beyond the last record"), root)
    else
      match p.recordAt outside turn records now root.samples with
      | .error e => (.error e, { root with status := some (.failed p.config.runId
          (p.config.configHash outside) p.pid now e.typeName p.evidenceRoot) })
      | .ok (record, text) =>
        (.ok (record, now), { root with samples := some text, appended := root.appended ++ [record] })

/-- `_write_running_status`. -/
def runningStatus {outside : SoakOutside} (count : ℕ) (last : SoakRecord outside) (now : Timestamp) :
    SoakStatus :=
  .running p.config.runId (p.config.configHash outside) p.pid now count last.sample.takenAt
    last.sampledAt last.recordHash p.evidenceRoot

def summary (records : List (SoakRecord outside)) : Except PyError SoakRunSummary :=
  match records.getLast? with
  | none => .error (valueError "soak summary requires at least one record")
  | some last =>
    p.config.targetEnd.bind fun target =>
      let terminal := if target ≤ last.sampledAt then some last.sampledAt else none
      let status := if target ≤ last.sampledAt then SummaryStatus.completed60CalendarDays
        else .shortSmokeComplete
      if h : 1 ≤ records.length ∧ p.config.startedAt ≤ last.sampledAt ∧
          (status = .completed60CalendarDays →
            terminal ≠ none ∧ 1440 ≤ elapsedHours p.config.startedAt last.sampledAt) ∧
          (status = .shortSmokeComplete → terminal = none) then
        .ok ⟨p.config.runId, p.config.configHash outside, p.config.startedAt, last.sampledAt,
          records.length, terminal, status, h.1, h.2.1, h.2.2.1, h.2.2.2⟩
      else .error (valueError "validation error for SoakRunSummary")

variable (summary : SoakRunSummary)

/-- The text of `summary.json` after a summary: only a terminal one is written. -/
def writeSummary (file : Option (List Char)) :
    Except PyError (Option (List Char)) :=
  if summary.status = .completed60CalendarDays then
    (p.writeImmutable "summary.json" (summary.text outside) file).map some
  else .ok file

variable (root : EvidenceRoot outside)

/-- `_write_terminal_status`. -/
def terminalStatus :
    Except PyError SoakStatus :=
  (readSoakRecords outside root.samples).bind fun records =>
    match records.getLast? with
    | none => .error ⟨"IndexError", "tuple index out of range"⟩
    | some last => .ok (.terminal summary.runId summary.configHash p.pid summary.status
        summary.endedAt summary.recordCount summary.terminalSampleAt last.recordHash
        (root.summary.map outside.sha256) p.evidenceRoot)

/-- What `run` does after its loop. -/
def finish (records : List (SoakRecord outside)) (root : EvidenceRoot outside) :
    SoakOutcome × EvidenceRoot outside :=
  match p.summary outside records with
  | .error e => (.raised e, root)
  | .ok summary =>
    if p.finalWrites = 0 then (.stopped, root)
    else
      match p.writeSummary outside summary root.summary with
      | .error e => (.raised e, root)
      | .ok file =>
        let root := { root with summary := file }
        if p.finalWrites = 1 then (.stopped, root)
        else
          match p.terminalStatus outside summary root with
          | .error e => (.raised e, root)
          | .ok status => (.returned summary, { root with status := some status })

/-- The loop of `run`. After an append it asks the same two questions as before the next turn,
and sleeps in between. -/
def loop (target : Timestamp) :
    List Interval → List (SoakRecord outside) → EvidenceRoot outside →
      SoakOutcome × EvidenceRoot outside
  | [], records, root =>
    if p.Finished target records then p.finish outside records root else (.stopped, root)
  | turn :: turns, records, root =>
    if p.Finished target records then p.finish outside records root
    else
      match p.takeTurn outside turn records root with
      | (.error e, root) => (.raised e, root)
      | (.ok (record, now), root) =>
        if turn.stopsAfterAppend then (.stopped, root)
        else loop target turns (records ++ [record])
          { root with status := some (p.runningStatus (records.length + 1) record now) }

/-- `DurablePaperSoakRunner(...).run(...)`. -/
def run : SoakOutcome × EvidenceRoot outside :=
  match p.openConfig outside root.config with
  | .error e => (.raised e, root)
  | .ok text =>
    let root := { root with config := some text }
    if ∃ m ∈ p.maxSamples, m < 1 then (.raised (valueError "max_samples must be positive"), root)
    else if p.lockTaken then
      (.raised ⟨"RuntimeError", "another soak runner owns this evidence root"⟩, root)
    else
      match p.resume outside root.samples with
      | .error e => (.raised e, root)
      | .ok (records, target) => p.loop outside target p.turns records root

end SoakProcess

def EvidenceRoot.fresh (outside : SoakOutside) : EvidenceRoot outside := ⟨none, none, none, none, []⟩

/-- The evidence root after some processes, one after the other. -/
def evidenceAfter (outside : SoakOutside) (processes : List SoakProcess) : EvidenceRoot outside :=
  processes.foldl (fun root p => (p.run outside root).2) (EvidenceRoot.fresh outside)

end AdvisorAI
