import AdvisorAI.Forward.LongRunProjection

/-!
# The calls of a long run's coordinators

Several processes hold a coordinator on one file. A call of one of them goes in stages: each
reads the file again, and at most one event is appended in a stage, under the lock of the file.
Between two stages the others may append, and the process may stop. `Stage.run` is one stage, and
`LongRunWorld.step` a stage of any call in progress, a new call, or a stop.
-/

namespace AdvisorAI

open Lib Lib.Json

/-! ## The arguments of a call -/

/-- `_aware`. -/
def awareUtc (fieldName : String) (d : Datetime) : Except PyError Timestamp :=
  if d.offset.any (fun offset => offset ≠ 0) then
    .error (valueError (fieldName ++ " must use UTC"))
  else d.aware (fieldName ++ " must include a timezone")

structure CaseArguments where
  symbol : String
  ordinal : ℤ
  cutoff : Datetime
  observedAt : Datetime

structure RecoveryArguments where
  incidentId : String
  component : String
  oldPid : ℤ
  oldCommandIdentity : String
  failure : String
  beforeHashes : List (String × String)
  newPid : ℤ
  newCommandIdentity : String
  resumeValid : Bool
  cutoffsImpacted : List ℤ
  observedAt : Datetime

/-- The methods of `LongRunCoordinator` that append. -/
inductive CoordinatorCall where
  | transition (state : LongRunState) (eventType : String) (payload : List (String × Tree))
      (observedAt : Datetime)
  | fail (incident detail : String) (observedAt : Datetime)
  | recordCasePending (case : CaseArguments) (predictionId : String)
  | recordCaseExcluded (case : CaseArguments) (reason : String) (predictionId : Option String)
  | recordCaseClean (case : CaseArguments) (predictionId outcomeCaseId : String)
  | recordRecovery (recovery : RecoveryArguments)
  | recordWatchdogCheck (decision : String) (reasons : List String) (observedAt : Datetime)

/-- The arguments of `_append`. -/
structure Draft where
  eventType : String
  state : LongRunState
  payload : List (String × Tree)
  observedAt : Datetime

/-- What a call does after its append. -/
inductive AfterAppend where
  | finish | checkFeasible | failResume

inductive Stage where
  | start (call : CoordinatorCall)
  | scientificState (decision : String) (reasons : List String) (observedAt : Datetime)
  | accounting (observedAt : Datetime)
  | append (draft : Draft) (after : AfterAppend)

/-! ## Accounting -/

structure SymbolAccounting where
  opportunitiesElapsed : ℕ
  predictionsDurable : ℕ
  casesPendingOutcome : ℕ
  cleanCasesProvisional : ℕ
  casesExcluded : ℕ
  casesTerminallyCertified : ℕ
  opportunitiesRemaining : ℤ
  feasible : Bool
deriving DecidableEq

namespace Projection

variable {outside : LongRunOutside} (prereg : LongRunPreregistration) (p : Projection outside)

variable (symbol : V3CoreSymbol)

def symbolStates : List LongRunCaseState :=
  (p.cases.entries.filter fun entry => entry.1.1 = symbol).map fun entry => entry.2.state

/-- `accounting`, for one symbol. -/
def accounting : SymbolAccounting :=
  let states := p.symbolStates symbol
  let provisional := states.countP fun state => state = .pendingOutcome ∨ state = .clean
  let remaining := (prereg.targetOpportunitiesPerSymbol : ℤ) - states.length
  { opportunitiesElapsed := states.length
    predictionsDurable := provisional
    casesPendingOutcome := states.countP fun state => state = .pendingOutcome
    cleanCasesProvisional := provisional
    casesExcluded := states.countP fun state => state = .excluded
    casesTerminallyCertified := states.countP fun state => state = .clean
    opportunitiesRemaining := remaining
    feasible := decide ((prereg.minimumCleanCasesPerSymbol : ℤ) ≤ provisional + remaining) }

/-- The clean minimum can be reached for each symbol. -/
def Feasible : Prop := ∀ symbol ∈ V3CoreSymbol.all, (p.accounting prereg symbol).feasible = true

instance : Decidable (p.Feasible prereg) :=
  inferInstanceAs (Decidable (∀ symbol ∈ V3CoreSymbol.all, _))

def scientificState : LongRunState := if p.fatalLatched then .generationFatal else p.state

/-! ## The beginning of a call -/

def validateCutoff (outside : LongRunOutside) (prereg : LongRunPreregistration)
    (case : CaseArguments) : Except PyError CaseKey := do
  let key ← validateKey outside prereg case.symbol case.ordinal
  let cutoff ← awareUtc "cutoff" case.cutoff
  require (cutoff = prereg.cutoffAt key.2)
    (valueError "cutoff does not match its preregistered ordinal")
  return key

/-- The payload of a case event, up to its identities. -/
def casePayload (outside : LongRunOutside) (prereg : LongRunPreregistration) (key : CaseKey)
    (state : LongRunCaseState) : List (String × Tree) :=
  [("symbol", .text key.1.value), ("ordinal", .number (integerToken key.2)),
    ("cutoff", .text (outside.timeText (prereg.cutoffAt key.2))), ("case_state", .text state.value)]

/-- What a call does first: it returns, or it has something to append. -/
def transition (state : LongRunState) (eventType : String) (payload : List (String × Tree))
    (observedAt : Datetime) : Except PyError (Option Stage) := do
  require (¬ (p.fatalLatched = true ∧ state ∈ LongRunState.active))
    ( runtimeError' "fatal long-run state is absorbing")
  if state = p.state then return none
  require (state ∈ p.state.transitions)
    (runtimeError' ("invalid long-run state transition " ++ p.state.value ++ " -> " ++ state.value))
  return some (.append ⟨eventType, state, payload, observedAt⟩ .finish)

def fail (incident detail : String) (observedAt : Datetime) : Option Stage :=
  if p.fatalLatched then none
  else some (.append ⟨"GENERATION_FATAL", .generationFatal,
    [("incident", .text incident), ("detail", .text detail)], observedAt⟩ .finish)

variable (case : CaseArguments)

def recordCasePending (predictionId : String) :
    Except PyError (Option Stage) := do
  let key ← validateCutoff outside prereg case
  if p.cases.get key = some ⟨.pendingOutcome, some predictionId, none⟩ then return none
  require (p.cases.get key = none) ( runtimeError' "case cannot be assigned a second prediction")
  return some (.append ⟨"CASE_PENDING", p.state,
    casePayload outside prereg key .pendingOutcome ++ [("prediction_id", .text predictionId)],
    case.observedAt⟩ .finish)

def recordCaseExcluded (reason : String) (predictionId : Option String) :
    Except PyError (Option Stage) := do
  let key ← validateCutoff outside prereg case
  let prior := p.cases.get key
  require (∀ c ∈ prior, c.state = .pendingOutcome →
      Truthy predictionId ∧ predictionId = c.predictionId)
    ( runtimeError' "pending case exclusion must retain its prediction identity")
  require (∀ c ∈ prior, c.state ≠ .pendingOutcome → predictionId = none)
    ( runtimeError' "excluded case cannot acquire a prediction identity")
  if prior = some ⟨.excluded, predictionId, none⟩ then return none
  require (∀ c ∈ prior, c.state = .pendingOutcome)
    ( runtimeError' "a predicted or certified case cannot be silently excluded")
  return some (.append ⟨"CASE_EXCLUDED", p.state,
    casePayload outside prereg key .excluded ++
      [("reason", .text reason), ("prediction_id", nullable Tree.text predictionId)],
    case.observedAt⟩ .checkFeasible)

def recordCaseClean (predictionId outcomeCaseId : String) :
    Except PyError (Option Stage) := do
  let key ← validateCutoff outside prereg case
  let prior := p.cases.get key
  if prior = some ⟨.clean, some predictionId, some outcomeCaseId⟩ then return none
  require (prior = some ⟨.pendingOutcome, some predictionId, none⟩)
    ( runtimeError' "clean case must follow its exact pending prediction")
  return some (.append ⟨"CASE_CLEAN", p.state,
    casePayload outside prereg key .clean ++
      [("prediction_id", .text predictionId), ("outcome_case_id", .text outcomeCaseId)],
    case.observedAt⟩ .finish)

variable (r : RecoveryArguments)

def recoveryPayload : List (String × Tree) :=
  [("incident_id", .text r.incidentId), ("component", .text r.component),
    ("old_pid", .number (integerToken r.oldPid)),
    ("old_command_identity", .text r.oldCommandIdentity), ("failure", .text r.failure),
    ("before_hashes", .object (r.beforeHashes.map fun entry => (entry.1, .text entry.2))),
    ("recovery_ordinal", .number (integerToken
      (p.recoveryCounts.getD (r.component, r.incidentId) 0 + 1))),
    ("component_recovery_ordinal", .number (integerToken
      (p.recoveryComponentCounts.getD r.component 0 + 1))),
    ("repository_commit", .text prereg.repositoryCommit),
    ("component_code_sha256", .text (prereg.componentCode r.component).text),
    ("model_checkpoint_sha256", .text prereg.checkpointSha256.text),
    ("runtime_lock_hashes", .object [("uv_lock_sha256", .text prereg.uvLockSha256.text),
      ("requirements_lock_sha256", .text prereg.requirementsLockSha256.text)]),
    ("new_pid", .number (integerToken r.newPid)),
    ("new_command_identity", .text r.newCommandIdentity),
    ("resume_validation_passed", .bool r.resumeValid),
    ("cutoffs_impacted", .array (r.cutoffsImpacted.map fun n => .number (integerToken n)))]

def recordRecovery : Except PyError (Option Stage) := do
  require (p.fatalLatched = false)
    ( runtimeError' "component recovery cannot follow a generation fatal")
  require (r.component ≠ "watchdog") (runtimeError'
    "watchdog process death is generation-fatal in the V1 long-run contract")
  require (r.component ∈ ["collector", "candidate"])
    (valueError "only collector and candidate recovery are supported")
  require (isBlank r.incidentId = false ∧ isBlank r.failure = false)
    (valueError "recovery incidents require stable identity and failure detail")
  require (isDigestText r.oldCommandIdentity = true)
    (valueError "old_command_identity must be a SHA-256 digest")
  require (isDigestText r.newCommandIdentity = true)
    (valueError "new_command_identity must be a SHA-256 digest")
  checkAll (fun entry : String × String => require (isDigestText entry.2 = true)
    (valueError ("before_hashes." ++ entry.1 ++ " must be a SHA-256 digest"))) r.beforeHashes
  require (∀ n ∈ r.cutoffsImpacted, 1 ≤ n ∧ n ≤ prereg.targetOpportunitiesPerSymbol)
    (valueError "recovery cutoffs must be within the preregistered schedule")
  require (p.recoveryCounts.getD (r.component, r.incidentId) 0 < 1)
    ( runtimeError' "long-run recovery exceeded one attempt per component incident")
  return some (.append ⟨"RECOVERY_ATTEMPT", p.state, recoveryPayload prereg p r, r.observedAt⟩
    (if r.resumeValid then .finish else .failResume))

def recordWatchdogCheck (decision : String) (reasons : List String) (observedAt : Datetime) :
    Except PyError (Option Stage) := do
  require (decision = "LONG_RUN_HEALTHY" ∨ decision = "GENERATION_FATAL")
    (valueError "watchdog decision is not part of the long-run contract")
  require (¬ (p.fatalLatched = true ∧ decision = "LONG_RUN_HEALTHY"))
    ( runtimeError' "a latched generation fatal cannot emit a healthy scientific decision")
  require (¬ (decision = "GENERATION_FATAL" ∧ p.fatalLatched = false))
    ( runtimeError' "watchdog fatal observations require a latched fatal state")
  return some (.scientificState decision reasons observedAt)

def begin : CoordinatorCall → Except PyError (Option Stage)
  | .transition state eventType payload observedAt =>
    transition p state eventType payload observedAt
  | .fail incident detail observedAt => .ok (fail p incident detail observedAt)
  | .recordCasePending case predictionId => recordCasePending prereg p case predictionId
  | .recordCaseExcluded case reason predictionId =>
    recordCaseExcluded prereg p case reason predictionId
  | .recordCaseClean case predictionId outcomeCaseId =>
    recordCaseClean prereg p case predictionId outcomeCaseId
  | .recordRecovery recovery => recordRecovery prereg p recovery
  | .recordWatchdogCheck decision reasons observedAt =>
    recordWatchdogCheck p decision reasons observedAt

/-! ## Appending -/

def nextFields (draft : Draft) (observedAt : Timestamp) : LongRunEventFields :=
  { sequence := p.events.length + 1
    generationId := prereg.generationId
    eventType := draft.eventType
    state := draft.state
    observedAt
    payload := draft.payload
    previousRecordHash := p.lastRecordHash }

def signEvent (outside : LongRunOutside) (fields : LongRunEventFields) :
    Except PyError (LongRunEvent outside) := do
  require (constantsAt fields.payload = [])
    (valueError "Out of range float values are not JSON compliant")
  require fields.Printable integerTooLong
  if hvalid : fields.Valid then .ok ⟨fields, fields.hash outside, hvalid, rfl⟩
  else .error (valueError "validation error for LongRunEvent")

/-- The event that `_append` writes, of the projection under the lock. -/
def nextEvent (draft : Draft) : Except PyError (LongRunEvent outside) := do
  let observedAt ← awareUtc "event_observed_at" draft.observedAt
  let event ← signEvent outside (nextFields prereg p draft observedAt)
  validateAppend prereg p draft.eventType draft.state draft.payload
  return event

end Projection

/-! ## Stages -/

/-- What comes after a stage: another one, or the return of the call with what its coordinator
holds. -/
inductive Progress (outside : LongRunOutside) where
  | more (stage : Stage)
  | returned (memory : Projection outside)

section Stages

variable {outside : LongRunOutside} (prereg : LongRunPreregistration) (memory : Projection outside)

def Progress.ofOption : Option Stage → Progress outside
  | none => .returned memory
  | some stage => .more stage

variable (observedAt : Datetime)

/-- The incident of a run that cannot reach its clean minimum. -/
def infeasibleCall : CoordinatorCall :=
  .fail "GENERATION_CANNOT_SATISFY_PHASE4_ADMISSION"
    "clean minimum is no longer mathematically attainable" observedAt

/-- The incident of a component that did not resume. -/
def resumeCall : CoordinatorCall :=
  .fail "IDENTITY_MISMATCH" "resume validation failed" observedAt

def AfterAppend.next (observedAt : Datetime) :
    AfterAppend → Progress outside
  | .finish => .returned memory
  | .checkFeasible => .more (.accounting observedAt)
  | .failResume => .more (.start (resumeCall observedAt))

/-- The observation of a watchdog, with the state that it has read. -/
def watchdogAppend (p : Projection outside) (decision : String) (reasons : List String)
    (observedAt : Datetime) : Stage :=
  .append ⟨"WATCHDOG_CHECK", p.scientificState,
    [("decision", .text decision), ("reasons", .array (reasons.map Tree.text))], observedAt⟩ .finish

/-- `_append` up to the write: the projection under the lock, and the event. -/
def prepare (draft : Draft) (read : Except PyError (Projection outside)) :
    Except PyError (Projection outside × LongRunEvent outside) := do
  safePayload draft.payload
  let p ← read
  let event ← p.nextEvent prereg draft
  return (p, event)

/-- **One stage of a call**, with what is read of the file: the event that is written, and what
comes after. An event may be written and then not be applied. -/
def Stage.run (stage : Stage) (read : Except PyError (Projection outside)) :
    Option (LongRunEvent outside) × Except PyError (Progress outside) :=
  match stage with
  | .start call =>
    (none, do
      let p ← read
      let next ← p.begin prereg call
      return .ofOption p next)
  | .scientificState decision reasons observedAt =>
    (none, do
      let p ← read
      return .more (watchdogAppend p decision reasons observedAt))
  | .accounting observedAt =>
    (none, do
      let p ← read
      if p.Feasible prereg then return .returned p
      return .more (.start (infeasibleCall observedAt)))
  | .append draft after =>
    match prepare prereg draft read with
    | .error e => (none, .error e)
    | .ok prepared =>
      (some prepared.2, (prepared.1.advance prereg prepared.2).map fun memory =>
        after.next memory draft.observedAt)

end Stages

/-! ## Several coordinators -/

/-- A file of events: how it begins, is read, and takes another event. -/
structure EventStore (outside : LongRunOutside) where
  File : Type
  empty : File
  read : File → Except PyError (Projection outside)
  write : File → LongRunEvent outside → File

abbrev eventList (outside : LongRunOutside) (prereg : LongRunPreregistration) :
    EventStore outside where
  File := List (LongRunEvent outside)
  empty := []
  read := Projection.load prereg
  write := fun events event => events ++ [event]

/-- A call in progress, and whether it has appended an event. -/
structure CallInProgress where
  call : CoordinatorCall
  stage : Stage
  appended : Bool

inductive CallEnd (outside : LongRunOutside) where
  | returned (memory : Projection outside)
  | raised (e : PyError)
  | crashed (appended : Bool)

/-- The file, the calls in progress, and how those before ended. -/
structure LongRunWorld {outside : LongRunOutside} (store : EventStore outside) where
  file : store.File
  calls : List CallInProgress
  history : List (CoordinatorCall × CallEnd outside)

/-- A new call; a stage of a call in progress; or its process stops. -/
inductive LongRunAction where
  | call (call : CoordinatorCall)
  | proceed (index : ℕ)
  | crash (index : ℕ)

namespace LongRunWorld

variable {outside : LongRunOutside} (prereg : LongRunPreregistration) {store : EventStore outside}

def fresh (store : EventStore outside) : LongRunWorld store := ⟨store.empty, [], []⟩

variable (w : LongRunWorld store)

def fileAfter : Option (LongRunEvent outside) → store.File
  | none => w.file
  | some event => store.write w.file event

def proceedWith (index : ℕ) (c : CallInProgress) : LongRunWorld store :=
  let result := c.stage.run prereg (store.read w.file)
  match result.2 with
  | .ok (.more stage) =>
    ⟨w.fileAfter result.1, w.calls.set index ⟨c.call, stage, c.appended || result.1.isSome⟩,
      w.history⟩
  | .ok (.returned memory) =>
    ⟨w.fileAfter result.1, w.calls.eraseIdx index, w.history ++ [(c.call, .returned memory)]⟩
  | .error e =>
    ⟨w.fileAfter result.1, w.calls.eraseIdx index, w.history ++ [(c.call, .raised e)]⟩

def step : LongRunAction → Option (LongRunWorld store)
  | .call call => some { w with calls := w.calls ++ [⟨call, .start call, false⟩] }
  | .proceed index => (w.calls[index]?).map (w.proceedWith prereg index)
  | .crash index => (w.calls[index]?).map fun c =>
    ⟨w.file, w.calls.eraseIdx index, w.history ++ [(c.call, .crashed c.appended)]⟩

end LongRunWorld

end AdvisorAI
