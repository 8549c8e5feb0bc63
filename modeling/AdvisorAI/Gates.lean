import AdvisorAI.Ledger.Sqlite
import AdvisorAI.Lib.Journal
import AdvisorAI.Lib.Runs

/-!
# Phase gates

A phase of the architecture is admitted by a recorded gate, not by a calendar.
A gate record names the evidence it requires and carries it; a passed record of
a later phase is accepted only while the phases before it are admitted, and a
phase is admitted while its latest record and those of all earlier phases are
passed with evidence valid at that moment.

`PhaseGateRegistry` is the projection of the MODEL ledger on these records. The
namespace has other writers (the gateway, the challengers, the learning loop),
whose events the registry skips. `appendLocal` is what recording and hydrating
share, and it reads the clock.
-/

namespace AdvisorAI

open Lib

/-! ## Evidence -/

inductive GateEvidenceKind where
  | localTest | externalTimed | operational | humanApproval
deriving DecidableEq, Repr

inductive GateDecision where
  | pending | passed | failed
deriving DecidableEq, Repr

/-- One auditable assertion supporting (or blocking) a phase gate. -/
structure GateEvidence where
  evidenceId : UUID
  name : String
  kind : GateEvidenceKind
  passed : Bool
  artifactHash : Option Digest
  source : String
  verifiedBy : String
  observedAt : Timestamp
  expiresAt : Option Timestamp
  details : String
  texts_normal : ∀ t ∈ [name, source, verifiedBy], isBlank t = false ∧ strip t = t
  details_normal : strip details = details
  passed_hashed : passed = true → artifactHash.isSome
  expires_later : ∀ t ∈ expiresAt, observedAt < t
deriving DecidableEq

namespace GateEvidence

/-- The evidence has not expired at `t`. -/
def UnexpiredAt (e : GateEvidence) (t : Timestamp) : Prop := ∀ x ∈ e.expiresAt, t < x

instance (e : GateEvidence) (t : Timestamp) : Decidable (e.UnexpiredAt t) :=
  inferInstanceAs (Decidable (∀ x ∈ e.expiresAt, t < x))

/-- Whether this evidence is still usable at a gate decision time. -/
def isValidAt (e : GateEvidence) (t : Timestamp) : Bool :=
  decide (e.observedAt ≤ t) && match e.expiresAt with
    | none => true
    | some x => decide (t < x)

theorem isValidAt_iff {e : GateEvidence} {t : Timestamp} :
    e.isValidAt t = true ↔ e.observedAt ≤ t ∧ e.UnexpiredAt t := by
  unfold isValidAt UnexpiredAt
  cases e.expiresAt with
  | none => simp
  | some x => simp

end GateEvidence

/-! ## Records -/

variable (evidence : List GateEvidence)

def availableEvidence (name : String) : Option GateEvidence :=
  evidence.find? fun item => item.name = name

variable (names : List String)

/-- Every name is that of an evidence item that passed and is valid at `t`. -/
def allValidAt (t : Timestamp) : Bool :=
  names.all fun name => (availableEvidence evidence name).any fun item =>
    item.passed && item.isValidAt t

/-- Some required evidence item has the kind. -/
def requiresKind (kind : GateEvidenceKind) :
    Bool :=
  names.any fun name => (availableEvidence evidence name).any fun item => item.kind = kind

/-- Immutable result for one numbered architecture phase. -/
@[ext]
structure PhaseGateRecord where
  recordId : UUID
  phase : Nat
  name : String
  decision : GateDecision
  requiredEvidence : List String
  evidence : List GateEvidence
  prerequisitePhase : Option Nat
  recordedBy : String
  recordedAt : Timestamp
  reasons : List String
  phase_le : phase ≤ 10
  prerequisite_earlier : ∀ p ∈ prerequisitePhase, p < phase
  prerequisite_precedes : 0 < phase → ∀ p ∈ prerequisitePhase, p = phase - 1
  identity_normal : ∀ t ∈ [name, recordedBy], isBlank t = false ∧ strip t = t
  tokens_normal : ∀ t ∈ requiredEvidence ++ reasons, isBlank t = false ∧ strip t = t
  required_nodup : requiredEvidence.Nodup
  reasons_nodup : reasons.Nodup
  evidence_nodup : (evidence.map GateEvidence.name).Nodup
  passed_required : decision = .passed → requiredEvidence ≠ []
  passed_supported : decision = .passed → allValidAt evidence requiredEvidence recordedAt = true
  passed_timed : decision = .passed → phase = 0 ∨ phase = 7 →
    requiresKind evidence requiredEvidence .externalTimed = true
  passed_approved : decision = .passed → phase = 10 →
    requiresKind evidence requiredEvidence .humanApproval = true
  reasons_iff : reasons = [] ↔ decision = .passed

instance : DecidableEq PhaseGateRecord := fun _ _ =>
  decidable_of_iff' _ PhaseGateRecord.ext_iff

namespace PhaseGateRecord

variable (g : PhaseGateRecord)

/-- Whether this passing record is still supported at `t`. -/
def isValidAt (t : Timestamp) : Bool :=
  decide (g.decision = .passed) && allValidAt g.evidence g.requiredEvidence t

/-- None of the evidence the record requires has expired at `t`. -/
def UnexpiredAt (g : PhaseGateRecord) (t : Timestamp) : Prop :=
  ∀ e ∈ g.evidence, e.name ∈ g.requiredEvidence → e.UnexpiredAt t

instance (g : PhaseGateRecord) (t : Timestamp) : Decidable (g.UnexpiredAt t) :=
  inferInstanceAs (Decidable (∀ e ∈ g.evidence, e.name ∈ g.requiredEvidence → e.UnexpiredAt t))

/-- The phase a record depends on: the one it names, or the preceding one. -/
def prerequisite : Nat := g.prerequisitePhase.getD (g.phase - 1)

theorem prerequisite_eq {g : PhaseGateRecord} (h : 0 < g.phase) : g.prerequisite = g.phase - 1 := by
  unfold prerequisite
  cases hp : g.prerequisitePhase with
  | none => rfl
  | some p => exact g.prerequisite_precedes h p hp

end PhaseGateRecord

/-! ## The registry -/

/-- The records of each phase, in the order they were accepted. -/
structure PhaseGateRegistry where
  records : Nat → List PhaseGateRecord
  phase_eq : ∀ phase, ∀ g ∈ records phase, g.phase = phase

namespace PhaseGateRegistry

def empty : PhaseGateRegistry := ⟨fun _ => [], fun _ _ h => absurd h List.not_mem_nil⟩

@[ext] theorem ext {r s : PhaseGateRegistry} (h : ∀ phase, r.records phase = s.records phase) :
    r = s := by
  obtain ⟨records, _⟩ := r
  obtain ⟨records', _⟩ := s
  have heq : records = records' := funext h
  subst heq
  rfl

variable (r : PhaseGateRegistry) (g : PhaseGateRecord)

/-- `self._records[record.phase].append(record)`. -/
def add : PhaseGateRegistry where
  records phase := if phase = g.phase then r.records phase ++ [g] else r.records phase
  phase_eq := by
    intro phase h hmem
    split at hmem
    · next hp =>
      rcases List.mem_append.mp hmem with hold | hnew
      · exact r.phase_eq phase h hold
      · rw [List.mem_singleton.mp hnew, hp]
    · exact r.phase_eq phase h hmem

def latest (phase : Nat) : Except PyError (Option PhaseGateRecord) :=
  if phase ≤ 10 then .ok (r.records phase).getLast?
  else .error (valueError "phase must be between zero and ten")

/-- A phase is admitted while its latest record and, in turn, its prerequisite
are. The prerequisite of a record of phase `p + 1` is `p`: `prerequisite_eq`. -/
def isAdmitted (r : PhaseGateRegistry) (t : Timestamp) (phase : Nat) : Except PyError Bool :=
  match r.latest phase with
  | .error e => .error e
  | .ok none => .ok false
  | .ok (some latest) =>
    if latest.isValidAt t = false then .ok false
    else match phase with
      | 0 => .ok true
      | p + 1 => r.isAdmitted t p

def prior : Option PhaseGateRecord :=
  (r.records g.phase).find? fun item => item.recordId = g.recordId

variable (now : Timestamp)

/-- A passed record of a later phase needs its prerequisite admitted now. -/
def checkPrerequisite (g : PhaseGateRecord) :
    Except PyError Unit :=
  if g.decision = .passed ∧ 0 < g.phase then
    match r.isAdmitted now g.prerequisite with
    | .error e => .error e
    | .ok true => .ok ()
    | .ok false => .error (valueError ("phase " ++ g.phase.repr ++ " cannot pass before phase "
        ++ g.prerequisite.repr ++ " passes"))
  else .ok ()

def recordIdImmutable : PyError := valueError "phase gate record ID is immutable"

def appendLocal (g : PhaseGateRecord) :
    Except PyError PhaseGateRegistry :=
  match r.checkPrerequisite now g with
  | .error e => .error e
  | .ok () =>
    match r.prior g with
    | some item => if item ≠ g then .error recordIdImmutable else .ok r
    | none => .ok (r.add g)

/-- Raise a permission error when a gated component is not admitted. -/
def requireAdmitted (phase : Nat) (component : String) :
    Except PyError Unit :=
  if isBlank component then .error (valueError "gated component name cannot be blank")
  else match r.isAdmitted now phase with
    | .error e => .error e
    | .ok true => .ok ()
    | .ok false => .error ⟨"PermissionError", component ++ " requires an admitted Phase "
        ++ phase.repr ++ " gate"⟩

end PhaseGateRegistry

/-! ## The ledger -/

inductive GateEventType where
  | phaseGateRecorded
  | other (name : String)
deriving DecidableEq

inductive GatePayload where
  | gate (record : PhaseGateRecord) (actor : String)
  /-- The payload of another writer, as its JSON text. -/
  | other (json : String)
deriving DecidableEq

/-- `event.payload.get("record")`, when it is a record. -/
def GatePayload.record? : GatePayload → Option PhaseGateRecord
  | .gate record _ => some record
  | .other _ => none

abbrev GateEvent := LedgerEvent GateEventType GatePayload

/-- What the keys of gate records start with. -/
def gateKeyPrefix : String := "phase-gate:"

section Operations

variable (canonicalHash : PhaseGateRecord → Digest)

/-- `f"phase-gate:{record.phase}:{record.record_id}:{record.canonical_hash()}"`. -/
def gateKey (g : PhaseGateRecord) : String :=
  gateKeyPrefix ++ (g.phase.repr ++ ":" ++ uuidText g.recordId ++ ":" ++ (canonicalHash g).text)

def gateEvent (eventId : UUID) (now : Timestamp) (g : PhaseGateRecord) : GateEvent where
  eventId := eventId
  eventType := .phaseGateRecorded
  idempotencyKey := gateKey canonicalHash g
  occurredAt := now
  payload := .gate g g.recordedBy

/-- The ledger, the registry of the running process and the next unused event id. -/
structure GateWorld where
  modelEvents : List GateEvent
  registry : PhaseGateRegistry
  nextEventId : UUID

/-- A new ledger and the registry constructed on it. -/
def GateWorld.init : GateWorld := ⟨[], .empty, 0⟩

/-- Record a gate only after validating phase dependencies. The memory has the
record before the ledger does. -/
def recordGate (now : Timestamp) (g : PhaseGateRecord) (w : GateWorld) :
    Except PyError PhaseGateRecord × GateWorld :=
  match w.registry.prior g with
  | some item => if item ≠ g then (.error PhaseGateRegistry.recordIdImmutable, w) else (.ok item, w)
  | none =>
    match w.registry.appendLocal now g with
    | .error e => (.error e, w)
    | .ok registry =>
      match SqliteLedgers.append w.modelEvents (gateEvent canonicalHash w.nextEventId now g) with
      | (.error e, events) => (.error e, ⟨events, registry, w.nextEventId + 1⟩)
      | (.ok _, events) => (.ok g, ⟨events, registry, w.nextEventId + 1⟩)

variable (clock : UUID → Timestamp)

/-- Replay one event into a registry, at the time the clock shows then. -/
def hydrateGate (r : PhaseGateRegistry) (event : GateEvent) :
    Except PyError PhaseGateRegistry :=
  if event.eventType ≠ .phaseGateRecorded then .ok r
  else match event.payload.record? with
    | none => .error (valueError "phase gate ledger contains an invalid record")
    | some g => r.appendLocal (clock event.eventId) g

/-- `PhaseGateRegistry(ledgers)`. `clock id` is the time at which the event with
that id is replayed. -/
def hydrateGates (events : List GateEvent) :
    Except PyError PhaseGateRegistry :=
  Journal.replay (hydrateGate clock) .empty events

end Operations

end AdvisorAI
