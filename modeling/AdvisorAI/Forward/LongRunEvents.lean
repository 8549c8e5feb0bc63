import AdvisorAI.Collectors.PlainTexts
import AdvisorAI.Lib.JsonParts
import AdvisorAI.Forward.PredictionDumps

/-!
# Events of a long run

A long run is a file of events. A coordinator holds what the events leave, its projection: the
state of the run, whether it has failed, the case of each cutoff, and the recoveries. `validate`
is the check of an event against the projection before it, `apply` what the event does, and
`project` what all events leave.
-/

namespace AdvisorAI

open Lib Lib.Json List
open ForwardPredictionFields (digestTree)

/-! ## States and kinds -/

inductive LongRunState where
  | preregistered | preflightReady | runningWarmup | running | recoveringComponent | terminalizing
  | deadlineReached | generationFatal | completedPendingAudit | audited
deriving DecidableEq

namespace LongRunState

def value : LongRunState → String
  | .preregistered => "PREREGISTERED"
  | .preflightReady => "PREFLIGHT_READY"
  | .runningWarmup => "RUNNING_WARMUP"
  | .running => "RUNNING"
  | .recoveringComponent => "RECOVERING_COMPONENT"
  | .terminalizing => "TERMINALIZING"
  | .deadlineReached => "DEADLINE_REACHED"
  | .generationFatal => "GENERATION_FATAL"
  | .completedPendingAudit => "COMPLETED_PENDING_AUDIT"
  | .audited => "AUDITED"

def all : List LongRunState :=
  [.preregistered, .preflightReady, .runningWarmup, .running, .recoveringComponent, .terminalizing,
    .deadlineReached, .generationFatal, .completedPendingAudit, .audited]

/-- `_STATE_TRANSITIONS`. -/
def transitions : LongRunState → List LongRunState
  | .preregistered => [.preflightReady, .generationFatal]
  | .preflightReady => [.runningWarmup, .generationFatal]
  | .runningWarmup => [.running, .generationFatal]
  | .running => [.recoveringComponent, .terminalizing, .generationFatal]
  | .recoveringComponent => [.running, .generationFatal]
  | .terminalizing => [.deadlineReached, .completedPendingAudit, .generationFatal]
  | .deadlineReached => [.completedPendingAudit, .generationFatal]
  | .generationFatal => [.terminalizing, .completedPendingAudit, .audited]
  | .completedPendingAudit => [.audited]
  | .audited => []

/-- The states that a failed run does not enter. -/
def active : List LongRunState := [.preflightReady, .runningWarmup, .running, .recoveringComponent]

/-- `_CASE_ACCOUNTING_STATES`. -/
def caseAccounting : List LongRunState :=
  [.running, .recoveringComponent, .terminalizing, .deadlineReached]

/-- The states in which a component is recovered. -/
def recovery : List LongRunState := [.runningWarmup, .running, .recoveringComponent]

end LongRunState

inductive LongRunCaseState where
  | pendingOutcome | excluded | clean
deriving DecidableEq

namespace LongRunCaseState

def value : LongRunCaseState → String
  | .pendingOutcome => "PENDING_OUTCOME"
  | .excluded => "EXCLUDED"
  | .clean => "CLEAN"

def ofValue (s : String) : Option LongRunCaseState :=
  [pendingOutcome, excluded, clean].find? fun state => state.value = s

theorem ofValue_value (state : LongRunCaseState) : ofValue state.value = some state := by
  cases state <;> rfl

end LongRunCaseState

/-- The values of `LongRunIncident`. -/
def longRunIncidents : List String :=
  ["SOURCE_PROCESS_DEATH", "CANDIDATE_PROCESS_DEATH", "WATCHDOG_PROCESS_DEATH",
    "MISSED_MANDATORY_CUTOFF", "SOURCE_CONTEXT_UNAVAILABLE", "CANDIDATE_REJECTION",
    "CANDIDATE_SCHEMA_FAILURE", "CANDIDATE_RUNTIME_FAILURE", "POST_ADMISSION_REVISION",
    "RAW_HASH_CHAIN_FAILURE", "ADMITTED_IDENTITY_FAILURE", "PREDICTION_LEDGER_CONFLICT",
    "IDENTITY_MISMATCH", "RUNTIME_LOCK_DRIFT", "FUTURE_LEAKAGE", "LATE_PREDICTION",
    "MISSING_OUTCOME", "CREDENTIAL_DETECTED", "ORDER_WRITE_DETECTED", "CUDA_FAILURE",
    "SOURCE_CLOCK_ERROR", "CANDIDATE_CLOCK_ERROR", "OUTCOME_CLOCK_ERROR",
    "GENERATION_CANNOT_SATISFY_PHASE4_ADMISSION", "UNKNOWN"]

/-- `_KNOWN_EVENT_TYPES`. -/
inductive LongRunEventType where
  | preflightReady | candidateStarted | runningWarmup | warmupComplete | deadlineReached
  | candidateTerminal | generationFatal | casePending | caseExcluded | caseClean | recoveryAttempt
  | watchdogCheck
deriving DecidableEq

namespace LongRunEventType

def value : LongRunEventType → String
  | .preflightReady => "PREFLIGHT_READY"
  | .candidateStarted => "CANDIDATE_STARTED"
  | .runningWarmup => "RUNNING_WARMUP"
  | .warmupComplete => "WARMUP_COMPLETE"
  | .deadlineReached => "DEADLINE_REACHED"
  | .candidateTerminal => "CANDIDATE_TERMINAL"
  | .generationFatal => "GENERATION_FATAL"
  | .casePending => "CASE_PENDING"
  | .caseExcluded => "CASE_EXCLUDED"
  | .caseClean => "CASE_CLEAN"
  | .recoveryAttempt => "RECOVERY_ATTEMPT"
  | .watchdogCheck => "WATCHDOG_CHECK"

def all : List LongRunEventType :=
  [.preflightReady, .candidateStarted, .runningWarmup, .warmupComplete, .deadlineReached,
    .candidateTerminal, .generationFatal, .casePending, .caseExcluded, .caseClean,
    .recoveryAttempt, .watchdogCheck]

def ofValue (s : String) : Option LongRunEventType := all.find? fun kind => kind.value = s

theorem ofValue_value (kind : LongRunEventType) : ofValue kind.value = some kind := by
  cases kind <;> rfl

/-- `_FIXED_EVENT_STATES`. -/
def fixedState : LongRunEventType → Option LongRunState
  | .preflightReady => some .preflightReady
  | .candidateStarted => some .runningWarmup
  | .runningWarmup => some .runningWarmup
  | .warmupComplete => some .running
  | .deadlineReached => some .terminalizing
  | .candidateTerminal => some .deadlineReached
  | _ => none

/-- `_CASE_EVENT_STATES`: what a case event makes of its case. -/
def caseState : LongRunEventType → Option LongRunCaseState
  | .casePending => some .pendingOutcome
  | .caseExcluded => some .excluded
  | .caseClean => some .clean
  | _ => none

end LongRunEventType

/-! ## The preregistration -/

/-- What a coordinator uses of the preregistration, and the validators of this. -/
structure LongRunPreregistration where
  generationId : String
  mandatoryCutoffs : List Timestamp
  targetOpportunitiesPerSymbol : ℕ
  minimumCleanCasesPerSymbol : ℕ
  collectorMaxAttemptsTotal : ℕ
  candidateMaxAttemptsTotal : ℕ
  repositoryCommit : String
  collectorCodeSha256 : Digest
  candidateWorkerCodeSha256 : Digest
  checkpointSha256 : Digest
  uvLockSha256 : Digest
  requirementsLockSha256 : Digest
  generationId_ne : generationId ≠ ""
  cutoffs_length : mandatoryCutoffs.length = targetOpportunitiesPerSymbol
  target_eq : targetOpportunitiesPerSymbol = 80
  minimum_eq : minimumCleanCasesPerSymbol = 64
  attempts_eq : collectorMaxAttemptsTotal = 1 ∧ candidateMaxAttemptsTotal = 1

namespace LongRunPreregistration

variable (prereg : LongRunPreregistration)

/-- `mandatory_cutoffs[ordinal - 1]`. -/
def cutoffAt (ordinal : ℕ) : Timestamp :=
  prereg.mandatoryCutoffs.getD (ordinal - 1) 0

variable (component : String)

def componentLimit : ℕ :=
  if component = "collector" then prereg.collectorMaxAttemptsTotal
  else prereg.candidateMaxAttemptsTotal

def componentCode : Digest :=
  if component = "collector" then prereg.collectorCodeSha256 else prereg.candidateWorkerCodeSha256

theorem componentLimit_eq : prereg.componentLimit component = 1 := by
  unfold componentLimit
  split
  · exact prereg.attempts_eq.1
  · exact prereg.attempts_eq.2

end LongRunPreregistration

/-! ## Events -/

/-- What Python makes of values that are no texts: `str`, `int`, and `==` with an integer. -/
structure LongRunOutside extends ForwardOutside where
  repr : Tree → String
  int : Tree → Option ℤ
  equalsInt : Tree → ℤ → Bool

namespace LongRunOutside

variable (outside : LongRunOutside)

/-- `str(value)`. -/
def str : Tree → String
  | .text s => s
  | v => outside.repr v

/-- `None` where a value is missing or `None`, and its text otherwise. -/
def optionalStr (payload : List (String × Tree)) (name : String) : Option String :=
  match member payload name with
  | none => none
  | some .null => none
  | some v => some (outside.str v)

end LongRunOutside

structure LongRunEventFields where
  sequence : ℕ
  generationId : String
  eventType : String
  state : LongRunState
  observedAt : Timestamp
  payload : List (String × Tree)
  previousRecordHash : Option Digest

/-- A name that `_safe_payload` does not let through. -/
def namesCredential (name : String) : Bool :=
  let normalized := String.ofList ((lower name).toList.map fun c => if c = '-' then '_' else c)
  ["api_key", "apikey", "api_secret", "secret", "password", "token", "private_key"].any
      (fun part => containsText part normalized) ||
    normalized ∈ ["credential", "credentials", "broker_secret", "withdrawal_address"]

/-- The parts `namesCredential` looks for, letter by letter. -/
def credentialParts : List (List Char) :=
  [['a', 'p', 'i', '_', 'k', 'e', 'y'],
    ['a', 'p', 'i', 'k', 'e', 'y'],
    ['a', 'p', 'i', '_', 's', 'e', 'c', 'r', 'e', 't'],
    ['s', 'e', 'c', 'r', 'e', 't'],
    ['p', 'a', 's', 's', 'w', 'o', 'r', 'd'],
    ['t', 'o', 'k', 'e', 'n'],
    ['p', 'r', 'i', 'v', 'a', 't', 'e', '_', 'k', 'e', 'y']]

def credentialNames : List (List Char) :=
  [['c', 'r', 'e', 'd', 'e', 'n', 't', 'i', 'a', 'l'],
    ['c', 'r', 'e', 'd', 'e', 'n', 't', 'i', 'a', 'l', 's'],
    ['b', 'r', 'o', 'k', 'e', 'r', '_', 's', 'e', 'c', 'r', 'e', 't'],
    ['w', 'i', 't', 'h', 'd', 'r', 'a', 'w', 'a', 'l', '_', 'a', 'd', 'd', 'r', 'e', 's', 's']]

/-- The letters of a name as it compares them. -/
def spelled (name : String) : List Char :=
  (name.toList.map lowerChar).map fun c => if c = '-' then '_' else c

theorem namesCredential_iff {name : String} : namesCredential name = false ↔
    (∀ part ∈ credentialParts, ¬part <:+: spelled name) ∧ spelled name ∉ credentialNames := by
  have hparts : ["api_key", "apikey", "api_secret", "secret", "password", "token", "private_key"]
      = credentialParts.map String.ofList := rfl
  have hnames : ["credential", "credentials", "broker_secret", "withdrawal_address"]
      = credentialNames.map String.ofList := rfl
  have hspelled : (lower name).toList.map (fun c => if c = '-' then '_' else c) = spelled name := by
    unfold lower spelled
    rw [String.toList_ofList]
  unfold namesCredential
  rw [hspelled, hparts, hnames, Bool.or_eq_false_iff, any_eq_false, decide_eq_false_iff_not,
    forall_mem_map, mem_map_of_injective fun _ _ h => String.ofList_injective h]
  refine and_congr_left fun _ => forall₂_congr fun part _ => ?_
  unfold containsText
  rw [String.toList_ofList, String.toList_ofList, decide_eq_true_eq]

/-- No name in a payload is one of a credential. -/
def Safe (payload : List (String × Tree)) : Prop :=
  ∀ name ∈ namesAt payload, namesCredential name = false

-- Each name is spelled out once, and not for each part it is compared with.
instance (payload : List (String × Tree)) : Decidable (Safe payload) :=
  decidable_of_iff (∀ name ∈ namesAt payload,
      (∀ part ∈ credentialParts, ¬part <:+: spelled name) ∧ spelled name ∉ credentialNames)
    (forall₂_congr fun _ _ => namesCredential_iff.symm)

def safePayload (payload : List (String × Tree)) : Except PyError Unit :=
  require (Safe payload) (valueError "long-run events cannot contain credential material")

/-- An integer that `json.dumps` prints. -/
def ShortToken (token : NumberToken) : Prop :=
  (∀ c ∈ token.text, c.isDigit = true ∨ c = '-') →
    ¬ RawEventSpool.maxStrDigits < (token.text.filter Char.isDigit).length

instance (token : NumberToken) : Decidable (ShortToken token) :=
  inferInstanceAs (Decidable ((∀ c ∈ token.text, _) → _))

namespace LongRunEventFields

variable (outside : LongRunOutside) (f : LongRunEventFields)

def unsigned : List (String × Tree) :=
  [("schema", .text "advisorai.phase4.v3-core.long-run.event.v1"),
    ("sequence", .number (integerToken f.sequence)), ("generation_id", .text f.generationId),
    ("event_type", .text f.eventType), ("state", .text f.state.value),
    ("observed_at", .text (outside.timeText f.observedAt)), ("payload", .object f.payload),
    ("previous_record_hash", nullable digestTree f.previousRecordHash)]

/-- `_hash_payload(unsigned)`. -/
def hash : Digest := outside.sha256 (canonical (.object (f.unsigned outside)))

/-- `json.dumps` prints the fields. -/
def Printable : Prop :=
  ShortInteger f.sequence ∧ (∀ token ∈ numbersAt f.payload, ShortToken token) ∧
    constantsAt f.payload = []

def Valid : Prop :=
  1 ≤ f.sequence ∧ f.generationId ≠ "" ∧ f.eventType ≠ "" ∧ Safe f.payload ∧ f.Printable ∧
    datetimeMin ≤ f.observedAt ∧ f.observedAt ≤ datetimeMax

instance (f : LongRunEventFields) : Decidable f.Printable :=
  inferInstanceAs (Decidable (_ ∧ _ ∧ _))

instance (f : LongRunEventFields) : Decidable f.Valid :=
  inferInstanceAs (Decidable (_ ∧ _ ∧ _ ∧ _ ∧ _ ∧ _ ∧ _))

end LongRunEventFields

/-- An event with its hash, `validate_event`. -/
structure LongRunEvent (outside : LongRunOutside) extends LongRunEventFields where
  recordHash : Digest
  valid : toLongRunEventFields.Valid
  signed : toLongRunEventFields.hash outside = recordHash

namespace LongRunEvent

variable {outside : LongRunOutside} (event : LongRunEvent outside)

def written : List (String × Tree) :=
  event.unsigned outside ++ [("record_hash", digestTree event.recordHash)]

def Legible : Prop := Unbroken (.object event.written)

instance (event : LongRunEvent outside) : Decidable event.Legible :=
  inferInstanceAs (Decidable (Unbroken _))

theorem legible_iff {event : LongRunEvent outside} : event.Legible ↔
    UnbrokenText event.generationId ∧ UnbrokenText event.eventType ∧
      UnbrokenText (outside.timeText event.observedAt) ∧ Unbroken (.object event.payload) := by
  have hnames : ∀ name ∈ ["schema", "sequence", "generation_id", "event_type", "state",
      "observed_at", "payload", "previous_record_hash", "record_hash",
      "advisorai.phase4.v3-core.long-run.event.v1"], UnbrokenText name := by decide
  have hstates : ∀ state ∈ LongRunState.all, UnbrokenText state.value := by decide
  have hstate : UnbrokenText event.state.value := hstates _ (by cases event.state <;> decide)
  have hprevious : Unbroken (nullable digestTree event.previousRecordHash) := by
    cases event.previousRecordHash with
    | none => exact fun s hs => absurd hs not_mem_nil
    | some d => exact (unbroken_text _).mpr (unbrokenText_digest d)
  have hhash : Unbroken (digestTree event.recordHash) :=
    (unbroken_text _).mpr (unbrokenText_digest _)
  simp only [forall_mem_cons, not_mem_nil, IsEmpty.forall_iff, implies_true, and_true]
    at hnames
  unfold Legible
  rw [unbroken_object]
  simp only [written, LongRunEventFields.unsigned, cons_append, nil_append,
    forall_mem_cons, not_mem_nil, IsEmpty.forall_iff, implies_true, and_true, hnames,
    unbroken_text, unbroken_number, hprevious, hhash, hstate, true_and]

end LongRunEvent

/-! ## The projection -/

/-- `(symbol, ordinal)`. -/
abbrev CaseKey := V3CoreSymbol × ℕ

/-- `(state, prediction_id, outcome_case_id)`. -/
structure LongRunCase where
  state : LongRunCaseState
  predictionId : Option String
  outcomeCaseId : Option String
deriving DecidableEq

structure Projection (outside : LongRunOutside) where
  events : List (LongRunEvent outside)
  state : LongRunState
  fatalLatched : Bool
  fatalEvents : List (LongRunEvent outside)
  cases : Dict CaseKey LongRunCase
  recoveryCounts : Dict (String × String) ℕ
  recoveryComponentCounts : Dict String ℕ

namespace Projection

/-- `_reset_projection`. -/
def initial (outside : LongRunOutside) : Projection outside :=
  ⟨[], .preregistered, false, [], Dict.empty, Dict.empty, Dict.empty⟩

def lastRecordHash {outside : LongRunOutside} (p : Projection outside) : Option Digest :=
  p.events.getLast?.map LongRunEvent.recordHash

end Projection

def runtimeError' (message : String) : PyError := ⟨"RuntimeError", message⟩

/-! ## The check of an event -/

namespace Projection

section Validate

variable {outside : LongRunOutside} (prereg : LongRunPreregistration) (p : Projection outside)

def validateKey (outside : LongRunOutside) (prereg : LongRunPreregistration) (symbol : String)
    (ordinal : ℤ) : Except PyError CaseKey :=
  match V3CoreSymbol.ofValue (outside.upper (strip symbol)) with
  | none => .error (valueError "long-run accounting is restricted to BTCUSDT and ETHUSDT")
  | some key =>
    if ordinal < 1 ∨ prereg.targetOpportunitiesPerSymbol < ordinal then
      .error (valueError "cutoff ordinal is outside the preregistered 1..80 range")
    else .ok (key, ordinal.toNat)

variable (kind : LongRunEventType)

def validateState (state : LongRunState) : Except PyError Unit := do
  require (∀ fixed ∈ kind.fixedState, state = fixed)
    (runtimeError' ("event " ++ kind.value ++ " cannot use state " ++ state.value))
  require (state = p.state ∨ state ∈ p.state.transitions)
    (runtimeError' ("invalid long-run state transition " ++ p.state.value ++ " -> " ++ state.value))
  require (¬ (p.fatalLatched = true ∧ state ∈ LongRunState.active))
    ( runtimeError' "fatal long-run state is absorbing")
  require (¬ (state = .generationFatal ∧ kind ≠ .generationFatal ∧ p.fatalLatched = false))
    ( runtimeError' "only the generation-fatal event may first enter fatal state")
  require (¬ (kind = .generationFatal ∧ state ≠ .generationFatal))
    ( runtimeError' "generation-fatal event must use the fatal state")

variable (payload : List (String × Tree))

def validateFatalPayload : Except PyError Unit := do
  let incident := (member payload "incident").bind Tree.asText
  require (∃ s ∈ incident, isBlank s = false)
    ( runtimeError' "generation-fatal event has no incident identity")
  require (∃ s ∈ incident, s ∈ longRunIncidents)
    ( runtimeError' "generation-fatal event incident identity is unknown")
  require (((member payload "detail").bind Tree.asText).isSome)
    ( runtimeError' "generation-fatal event detail is not a string")

def isTexts : Option Tree → Bool
  | some (.array items) => items.all fun item => (Tree.asText item).isSome
  | _ => false

variable (state : LongRunState)

def validateWatchdogPayload (payload : List (String × Tree)) :
    Except PyError Unit := do
  require (state = p.state) ( runtimeError' "watchdog observation cannot change coordinator state")
  let decision := (member payload "decision").bind Tree.asText
  require (decision = some "LONG_RUN_HEALTHY" ∨ decision = some "GENERATION_FATAL")
    ( runtimeError' "watchdog observation has an unknown decision")
  require (isTexts (member payload "reasons"))
    ( runtimeError' "watchdog observation reasons must be a string list")
  if decision = some "GENERATION_FATAL" then
    require (p.fatalLatched = true ∧ state = .generationFatal)
      ( runtimeError' "watchdog fatal observation lacks a latched fatal state")
  else
    require (p.fatalLatched = false ∧ state ≠ .generationFatal)
      ( runtimeError' "healthy watchdog observation contradicts fatal history")

/-! ### Cases -/

/-- The key and the state that a case event names. -/
def caseIdentity (outside : LongRunOutside) (prereg : LongRunPreregistration)
    (payload : List (String × Tree)) : Option (CaseKey × LongRunCaseState) := do
  let symbol ← member payload "symbol"
  let ordinal ← (member payload "ordinal").bind outside.int
  let key ← (validateKey outside prereg (outside.str symbol) ordinal).toOption
  let state ← (member payload "case_state").bind fun v => LongRunCaseState.ofValue (outside.str v)
  return (key, state)

/-- The cutoff in a case event is the preregistered one. -/
def cutoffMatches (outside : LongRunOutside) (prereg : LongRunPreregistration)
    (payload : List (String × Tree)) (key : CaseKey) : Prop :=
  (member payload "cutoff").bind Tree.asText = some (outside.timeText (prereg.cutoffAt key.2))

instance (outside : LongRunOutside) (prereg : LongRunPreregistration)
    (payload : List (String × Tree)) (key : CaseKey) :
    Decidable (cutoffMatches outside prereg payload key) :=
  inferInstanceAs (Decidable (_ = _))

def desiredCase (outside : LongRunOutside) (state : LongRunCaseState)
    (payload : List (String × Tree)) : LongRunCase :=
  ⟨state, outside.optionalStr payload "prediction_id",
    outside.optionalStr payload "outcome_case_id"⟩

def Truthy (s : Option String) : Prop := s ≠ none ∧ s ≠ some ""

instance (s : Option String) : Decidable (Truthy s) := inferInstanceAs (Decidable (_ ∧ _))

variable (prior desired : LongRunCase)

/-- A pending case is excluded with its prediction. -/
def PendingToExcluded : Prop :=
  kind = .caseExcluded ∧ prior.state = .pendingOutcome ∧ desired.state = .excluded ∧
    prior.predictionId = desired.predictionId ∧ desired.outcomeCaseId = none

/-- A pending case is completed with its prediction. -/
def PendingToClean : Prop :=
  kind = .caseClean ∧ prior.state = .pendingOutcome ∧ desired.state = .clean ∧
    prior.predictionId = desired.predictionId

instance (kind : LongRunEventType) (prior desired : LongRunCase) :
    Decidable (PendingToExcluded kind prior desired) :=
  inferInstanceAs (Decidable (_ ∧ _ ∧ _ ∧ _ ∧ _))

instance (kind : LongRunEventType) (prior desired : LongRunCase) :
    Decidable (PendingToClean kind prior desired) :=
  inferInstanceAs (Decidable (_ ∧ _ ∧ _ ∧ _))

/-- No other case has the prediction or the outcome. -/
def checkBound (key : CaseKey) (desired : LongRunCase) : Except PyError Unit :=
  checkAll (fun entry : CaseKey × LongRunCase => do
    require (entry.1 = key ∨ desired.predictionId = none ∨
        entry.2.predictionId ≠ desired.predictionId)
      ( runtimeError' "prediction identity is already bound to another case")
    require (entry.1 = key ∨ desired.outcomeCaseId = none ∨
        entry.2.outcomeCaseId ≠ desired.outcomeCaseId)
      ( runtimeError' "outcome identity is already bound to another case")) p.cases.entries

/-- The checks of a case event: its key, and the case that it describes. -/
def validateCase (caseState : LongRunCaseState) (payload : List (String × Tree)) :
    Except PyError (CaseKey × LongRunCase) := do
  require (p.fatalLatched = false)
    ( runtimeError' "fatal long-run state cannot accept case accounting")
  require (p.state ∈ LongRunState.caseAccounting)
    ( runtimeError' "case accounting is only valid while the run is active or terminalizing")
  let identity ← ((caseIdentity outside prereg payload).map Except.ok).getD
    (.error ( runtimeError' "long-run case event has invalid identity"))
  let key := identity.1
  let desired := desiredCase outside identity.2 payload
  require (cutoffMatches outside prereg payload key)
    ( runtimeError' "long-run case event cutoff is not the exact preregistered cutoff")
  require (desired.state = caseState)
    ( runtimeError' "long-run case event type and state disagree")
  require (kind = .caseExcluded →
      isBlank (((member payload "reason").map outside.str).getD "") = false)
    ( runtimeError' "excluded case requires a non-blank reason")
  require (kind = .casePending → Truthy desired.predictionId)
    ( runtimeError' "pending case requires a prediction identity")
  require (kind = .caseClean → Truthy desired.predictionId ∧ Truthy desired.outcomeCaseId)
    ( runtimeError' "clean case requires prediction and outcome identities")
  checkBound p key desired
  require (∀ prior ∈ p.cases.get key, prior = desired ∨ PendingToExcluded kind prior desired ∨
      PendingToClean kind prior desired)
    ( runtimeError' "long-run event would contradict existing case accounting")
  require (∀ prior ∈ p.cases.get key, PendingToExcluded kind prior desired ∨
      PendingToClean kind prior desired)
    ( runtimeError' "duplicate case accounting event")
  return (key, desired)

/-! ### Recoveries -/

/-- A digest as `_digest` reads it. -/
def isDigestText (s : String) : Bool := (readNormalDigest (.text s)).isSome

/-- An `int` that is no `bool`. -/
def asInt : Tree → Option ℤ
  | .number token =>
    match token.text with
    | '-' :: digits =>
      if digits.all Char.isDigit then some (-(Nat.ofDigitChars 10 digits 0 : ℤ)) else none
    | digits => if digits.all Char.isDigit then some (Nat.ofDigitChars 10 digits 0 : ℤ) else none
  | _ => none

def isPositiveInt (v : Option Tree) : Bool := (v.bind asInt).any fun n => 0 < n

/-- `before_hashes`: an object with a digest for each name, and at least one. -/
def areDigests (outside : LongRunOutside) : Option Tree → Bool
  | some (.object members) =>
    !members.isEmpty && members.all fun m => isDigestText (outside.str m.2)
  | _ => false

/-- The lock hashes are those of the preregistration, and no others. -/
def lockHashesMatch : Option Tree → Bool
  | some (.object members) =>
    members.all (fun m => m.1 ∈ ["uv_lock_sha256", "requirements_lock_sha256"]) &&
      decide ((member members "uv_lock_sha256").bind Tree.asText = some prereg.uvLockSha256.text) &&
        decide ((member members "requirements_lock_sha256").bind Tree.asText
          = some prereg.requirementsLockSha256.text)
  | _ => false

def areImpacted : Option Tree → Bool
  | some (.array items) =>
    match items.mapM asInt with
    | none => false
    | some ordinals =>
      ordinals.all (fun n => 1 ≤ n ∧ n ≤ prereg.targetOpportunitiesPerSymbol) &&
        decide (ordinals.Pairwise (· < ·))
  | _ => false

def isBool : Option Tree → Bool
  | some (.bool _) => true
  | _ => false

def isVisible (v : Option Tree) : Bool := (v.bind Tree.asText).any fun s => !isBlank s

/-- `_validate_recovery_payload`: the component and its incident. -/
def validateRecoveryPayload :
    Except PyError (String × String) := do
  let component := ((member payload "component").bind Tree.asText).getD ""
  require (component ∈ ["collector", "candidate"])
    ( runtimeError' "long-run recovery component is not recoverable")
  let incident := ((member payload "incident_id").bind Tree.asText).getD ""
  require (isVisible (member payload "incident_id"))
    ( runtimeError' "recovery incident identity is missing")
  require (isVisible (member payload "failure"))
    ( runtimeError' "recovery failure detail is missing")
  checkAll (fun name => require (isPositiveInt (member payload name))
    (runtimeError' ("recovery " ++ name ++ " is invalid"))) ["old_pid", "new_pid"]
  checkAll (fun name => do
    let value := (member payload name).bind Tree.asText
    require value.isSome (runtimeError' ("recovery " ++ name ++ " is missing"))
    require (value.any isDigestText) (runtimeError' ("recovery " ++ name ++ " is invalid")))
    ["old_command_identity", "new_command_identity"]
  require (areDigests outside (member payload "before_hashes"))
    ( runtimeError' "recovery state hashes are missing")
  require ((member payload "recovery_ordinal").any fun v =>
      outside.equalsInt v (p.recoveryCounts.getD (component, incident) 0 + 1))
    ( runtimeError' "recovery ordinal is not monotonic")
  require (p.recoveryComponentCounts.getD component 0 < prereg.componentLimit component)
    ( runtimeError' "long-run recovery exceeded the component-wide cap")
  require ((member payload "component_recovery_ordinal").any fun v =>
      outside.equalsInt v (p.recoveryComponentCounts.getD component 0 + 1))
    ( runtimeError' "component recovery ordinal is not monotonic")
  require ((member payload "repository_commit").bind Tree.asText = some prereg.repositoryCommit)
    ( runtimeError' "recovery repository identity differs from preregistration")
  require ((member payload "component_code_sha256").bind Tree.asText
      = some (prereg.componentCode component).text)
    ( runtimeError' "recovery component identity differs from preregistration")
  require ((member payload "model_checkpoint_sha256").bind Tree.asText
      = some prereg.checkpointSha256.text)
    ( runtimeError' "recovery model checkpoint identity differs from preregistration")
  require (lockHashesMatch prereg (member payload "runtime_lock_hashes"))
    ( runtimeError' "recovery runtime-lock identity differs from preregistration")
  require (isBool (member payload "resume_validation_passed"))
    ( runtimeError' "recovery validation result is missing")
  require (areImpacted prereg (member payload "cutoffs_impacted"))
    ( runtimeError' "recovery cutoff impact list is invalid")
  return (component, incident)

def validateRecovery : Except PyError Unit := do
  require (p.state ∈ LongRunState.recovery)
    ( runtimeError' "component recovery is only valid while the run is active")
  let key ← validateRecoveryPayload prereg p payload
  require (p.recoveryCounts.getD key 0 < 1)
    ( runtimeError' "long-run recovery exceeded one attempt per component incident")

def validatePayload (payload : List (String × Tree)) : Except PyError Unit :=
  match kind, kind.caseState with
  | .generationFatal, _ => validateFatalPayload payload
  | .watchdogCheck, _ => validateWatchdogPayload p state payload
  | .recoveryAttempt, _ => validateRecovery prereg p payload
  | _, some caseState => (validateCase prereg p kind caseState payload).map fun _ => ()
  | _, none => .ok ()

def validateAppend (eventType : String) (state : LongRunState) (payload : List (String × Tree)) :
    Except PyError Unit := do
  safePayload payload
  match LongRunEventType.ofValue eventType with
  | none => .error (runtimeError' ("unknown long-run event type: " ++ eventType))
  | some kind => do
    validateState p kind state
    validatePayload prereg p kind state payload

end Validate

end Projection

end AdvisorAI
