import AdvisorAI.Execution.MarketEvents
import AdvisorAI.Lib.JsonTexts
import AdvisorAI.Lib.LineJournal

/-!
# The ledger of source health

A transition of the health of a source is appended to a ledger: its state before has to be the
one the ledger has for the source and the symbol, the provider behind them does not change, and
every record carries the hash of the one before it and its own. The writer prints a record with
the characters outside ASCII as they are; the reader splits the file with `str.splitlines`.

The time, the truth values and the hash are parameters (`HealthOutside`).
-/

namespace AdvisorAI

open Lib Lib.Json

inductive SourceHealthState where
  | healthy | degraded | stale | disconnected | recovering | quarantined
deriving DecidableEq, Repr

namespace SourceHealthState

def value : SourceHealthState → String
  | .healthy => "HEALTHY"
  | .degraded => "DEGRADED"
  | .stale => "STALE"
  | .disconnected => "DISCONNECTED"
  | .recovering => "RECOVERING"
  | .quarantined => "QUARANTINED"

def all : List SourceHealthState :=
  [.healthy, .degraded, .stale, .disconnected, .recovering, .quarantined]

def ofValue (s : String) : Option SourceHealthState := all.find? fun state => state.value = s

theorem ofValue_value (state : SourceHealthState) : ofValue state.value = some state := by
  cases state <;> rfl

end SourceHealthState

/-- How the model library prints and reads a time, reads a truth value, and the hash. -/
structure HealthOutside where
  timeText : Timestamp → String
  time : Tree → Option Datetime
  boolean : Tree → Option Bool
  sha256 : List Char → Digest

@[ext]
structure SourceHealthTransition where
  observedAt : Timestamp
  sourceId : String
  providerIdentity : String
  endpoint : String
  symbol : String
  previousState : Option SourceHealthState
  state : SourceHealthState
  reasonCodes : List String
  failClosed : Bool
  policyVersion : String
  previousRecordHash : Option Digest
  recordHash : Option Digest
  observedAt_valid : datetimeMin ≤ observedAt ∧ observedAt ≤ datetimeMax
  sourceId_identity : IsIdentity sourceId
  providerIdentity_identity : IsIdentity providerIdentity
  endpoint_identity : IsIdentity endpoint
  symbol_identity : IsIdentity symbol
  reasonCodes_ne : reasonCodes ≠ []
  policyVersion_ne : policyVersion ≠ ""

namespace SourceHealthTransition

instance : DecidableEq SourceHealthTransition := fun _ _ =>
  decidable_of_iff' _ SourceHealthTransition.ext_iff

variable (outside : HealthOutside) (t : SourceHealthTransition)

/-- `(source_id, symbol)`. -/
def key : String × String := (t.sourceId, t.symbol)

/-- `(provider_identity, endpoint)`. -/
def provider : String × String := (t.providerIdentity, t.endpoint)

/-- `transition.model_copy(update={"previous_record_hash": ..., "record_hash": ...})`. -/
def withHashes (previous record : Option Digest) :
    SourceHealthTransition :=
  { t with previousRecordHash := previous, recordHash := record }

def optionalState (state : Option SourceHealthState) : Tree :=
  (state.map fun s => Tree.text s.value).getD .null

def optionalDigest (d : Option Digest) : Tree := (d.map fun d => Tree.text d.text).getD .null

def fields : List (String × Tree) :=
  [("observed_at", .text (outside.timeText t.observedAt)), ("source_id", .text t.sourceId),
    ("provider_identity", .text t.providerIdentity), ("endpoint", .text t.endpoint),
    ("symbol", .text t.symbol), ("previous_state", optionalState t.previousState),
    ("state", .text t.state.value), ("reason_codes", .array (t.reasonCodes.map Tree.text)),
    ("fail_closed", .bool t.failClosed), ("policy_version", .text t.policyVersion),
    ("previous_record_hash", optionalDigest t.previousRecordHash),
    ("record_hash", optionalDigest t.recordHash)]

/-- `record.model_dump_json(round_trip=True)`. -/
def line : List Char := write quoted (.object (t.fields outside))

/-- `_record_digest`: the hash of all fields but the hash itself, their names sorted. -/
def recordDigest : Digest :=
  outside.sha256 (write quotedAscii (.object
    [("endpoint", .text t.endpoint), ("fail_closed", .bool t.failClosed),
      ("observed_at", .text (outside.timeText t.observedAt)),
      ("policy_version", .text t.policyVersion),
      ("previous_record_hash", optionalDigest t.previousRecordHash),
      ("previous_state", optionalState t.previousState),
      ("provider_identity", .text t.providerIdentity),
      ("reason_codes", .array (t.reasonCodes.map Tree.text)), ("source_id", .text t.sourceId),
      ("state", .text t.state.value), ("symbol", .text t.symbol)]))

/-! ## Validation -/

def fieldNames : List String :=
  ["observed_at", "source_id", "provider_identity", "endpoint", "symbol", "previous_state", "state",
    "reason_codes", "fail_closed", "policy_version", "previous_record_hash", "record_hash"]

/-- A field that is missing, `null`, or read. -/
def readNullable {α : Type} (read : Tree → Option α) : Option Tree → Option (Option α)
  | none => some none
  | some .null => some none
  | some v => (read v).map some

def readState (v : Tree) : Option SourceHealthState :=
  (Tree.asText v).bind SourceHealthState.ofValue

def readDigest (v : Tree) : Option Digest :=
  (Tree.asText v).bind fun s =>
    if h : s.length = 64 ∧ ∀ c ∈ s.toList, c ∈ "0123456789abcdef".toList then
      some ⟨s, h.1, h.2⟩
    else none

theorem readDigest_text (d : Digest) : readDigest (.text d.text) = some d :=
  dif_pos ⟨d.length_eq, d.hexadecimal⟩

def readTexts : Tree → Option (List String)
  | .array items => items.mapM Tree.asText
  | _ => none

/-- The transition, when every field is there and passes its validators. -/
def build (members : List (String × Tree)) (observedAt : Timestamp) :
    Option SourceHealthTransition := do
  let sourceId ← (member members "source_id").bind Tree.asText
  let providerIdentity ← (member members "provider_identity").bind Tree.asText
  let endpoint ← (member members "endpoint").bind Tree.asText
  let symbol ← (member members "symbol").bind Tree.asText
  let previousState ← readNullable readState (member members "previous_state")
  let state ← (member members "state").bind readState
  let reasonCodes ← (member members "reason_codes").bind readTexts
  let failClosed ← (member members "fail_closed").bind outside.boolean
  let policyVersion ← (member members "policy_version").bind Tree.asText
  let previousRecordHash ←
    readNullable readDigest (member members "previous_record_hash")
  let recordHash ← readNullable readDigest (member members "record_hash")
  if members.all (fun m => m.1 ∈ fieldNames) then
    if h : (datetimeMin ≤ observedAt ∧ observedAt ≤ datetimeMax) ∧
        (isBlank sourceId = false ∧ isBlank providerIdentity = false) ∧
        (isBlank endpoint = false ∧ isBlank symbol = false) ∧ reasonCodes ≠ [] ∧
        policyVersion ≠ "" then
      return ⟨observedAt, strip sourceId, strip providerIdentity, strip endpoint, strip symbol,
        previousState, state, reasonCodes, failClosed, policyVersion, previousRecordHash, recordHash,
        h.1, isIdentity_strip h.2.1.1, isIdentity_strip h.2.1.2, isIdentity_strip h.2.2.1.1,
        isIdentity_strip h.2.2.1.2, h.2.2.2.1, h.2.2.2.2⟩
    else none
  else none

/-- The `ValidationError` of a model. -/
def invalid : PyError := valueError "validation error for SourceHealthTransition"

/-- `SourceHealthTransition.model_validate(payload)`. -/
def validate : Tree → Except PyError SourceHealthTransition
  | .object members =>
    match (member members "observed_at").bind outside.time with
    | none => .error invalid
    | some time =>
      match time.aware "source health transition timestamp must include a timezone" with
      | .ok observedAt => ((build outside members observedAt).map Except.ok).getD (.error invalid)
      | .error e => .error (if e.typeName = "ValueError" then invalid else e)
  | _ => .error invalid

end SourceHealthTransition

/-! ## The ledger -/

/-- What a ledger remembers of its records. -/
structure HealthMemory where
  records : List SourceHealthTransition
  lastHash : Option Digest
  latestState : Dict (String × String) SourceHealthState
  identity : Dict (String × String) (String × String)

structure SourceHealthLedger where
  file : Option (List Char)
  memory : HealthMemory

namespace HealthMemory

def empty : HealthMemory := ⟨[], none, Dict.empty, Dict.empty⟩

variable (m : HealthMemory)

def take (record : SourceHealthTransition) : HealthMemory :=
  ⟨m.records ++ [record], record.recordHash, m.latestState.set record.key record.state,
    m.identity.set record.key record.provider⟩

variable (t : SourceHealthTransition)

/-- The record goes on from the latest state of its source. -/
def StateFollows : Prop :=
  t.previousState = m.latestState.get t.key

/-- The provider of the source does not change. -/
def KeepsProvider : Prop :=
  ∀ p ∈ m.identity.get t.key, t.provider = p

instance (m : HealthMemory) (t : SourceHealthTransition) : Decidable (m.StateFollows t) :=
  inferInstanceAs (Decidable (_ = _))

instance (m : HealthMemory) (t : SourceHealthTransition) : Decidable (m.KeepsProvider t) :=
  inferInstanceAs (Decidable (∀ p ∈ m.identity.get t.key, _))

end HealthMemory

namespace SourceHealthLedger

variable (outside : HealthOutside)

def runtimeError (message : String) : PyError := ⟨"RuntimeError", message⟩

def corrupted (lineNumber : ℕ) : PyError :=
  runtimeError ("source-health ledger is corrupted at line " ++ lineNumber.repr)

def readLine (lineNumber : ℕ) (line : List Char) : Except PyError SourceHealthTransition :=
  match loads line with
  | none => .error (corrupted lineNumber)
  | some payload =>
    match SourceHealthTransition.validate outside payload with
    | .ok record => .ok record
    | .error e => .error (if e.typeName = "ValueError" then corrupted lineNumber else e)

/-- What a record of the file has to agree with. -/
def checkRecord (m : HealthMemory) (record : SourceHealthTransition) : Except PyError Unit :=
  match record.recordHash with
  | none => .error (runtimeError "source-health ledger record has no hash")
  | some hash =>
    if hash ≠ record.recordDigest outside then
      .error (runtimeError "source-health ledger record hash does not match content")
    else if record.previousRecordHash ≠ m.lastHash then
      .error (runtimeError "source-health ledger hash chain is not append-only")
    else if ¬ m.StateFollows record then
      .error (runtimeError "source-health ledger state chain does not match the previous state")
    else if ¬ m.KeepsProvider record then
      .error (runtimeError "source-health ledger provider identity changed for a source stream")
    else .ok ()

def reader : LineReader HealthMemory SourceHealthTransition PyError where
  read := readLine outside
  check := checkRecord outside
  take := HealthMemory.take

/-- `SourceHealthLedger(path)`. -/
def openFile : Option (List Char) → Except PyError SourceHealthLedger
  | none => .ok ⟨none, HealthMemory.empty⟩
  | some text =>
    ((reader outside).readFile HealthMemory.empty text).map fun memory => ⟨some text, memory⟩

/-- The record that `append` makes of a transition: chained to the last one, and hashed. -/
def recordOf (m : HealthMemory) (t : SourceHealthTransition) : SourceHealthTransition :=
  t.withHashes m.lastHash (some ((t.withHashes m.lastHash t.recordHash).recordDigest outside))

variable (ledger : SourceHealthLedger)

/-- `append`. A transition that is refused leaves the ledger as it is. -/
def append (t : SourceHealthTransition) :
    Except PyError (SourceHealthTransition × SourceHealthLedger) :=
  let m := ledger.memory
  if t.recordHash ≠ none then
    .error (valueError "source-health transitions must be appended without a precomputed hash")
  else if ¬ m.StateFollows t then
    .error (valueError "source-health transition previous state does not match the ledger")
  else if ¬ m.KeepsProvider t then
    .error (valueError "source-health transition cannot silently change provider identity")
  else
    let record := recordOf outside m t
    .ok (record, ⟨some (ledger.file.getD [] ++ (record.line outside ++ [newline])), m.take record⟩)

def read : List SourceHealthTransition := ledger.memory.records

/-- Transitions offered one after the other; a refusal goes to the caller, who goes on. -/
def appendAll (ledger : SourceHealthLedger) : List SourceHealthTransition → SourceHealthLedger
  | [] => ledger
  | t :: rest =>
    match append outside ledger t with
    | .ok result => appendAll result.2 rest
    | .error _ => appendAll ledger rest

def fresh : SourceHealthLedger := ⟨none, HealthMemory.empty⟩

end SourceHealthLedger

end AdvisorAI
