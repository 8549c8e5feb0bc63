import AdvisorAI.Live.Guard

/-!
# The live control plane

The plane is in paper, ready, active or rolled-back state and writes every change
into the INCIDENT ledger; a new process reads the state back from there. The
memory changes before the append.
-/

namespace AdvisorAI

open Lib Runs

/-! ## The plane and its ledger -/

inductive LiveEventType where
  | authorizationRecorded
  | stateChanged
  | other (name : String)
deriving DecidableEq

inductive LivePayload where
  | authorization (authorization : LiveAuthorization)
  | status (status : LiveControlStatus)
  /-- The payload of another writer, as its JSON text. -/
  | other (json : String)
deriving DecidableEq

abbrev LiveEvent := LedgerEvent LiveEventType LivePayload

structure LiveControlPlane where
  authorization : Option LiveAuthorization
  status : LiveControlStatus
deriving DecidableEq

/-- The ledger, the plane of the running process and the next unused event id. -/
structure LiveWorld where
  incidentEvents : List LiveEvent
  plane : LiveControlPlane
  nextEventId : UUID

/-- What a call meets: the clock as each reader of it finds it, the phase gates
at that moment, and what the database raises. -/
structure LiveSurroundings where
  evaluatedAt : Timestamp
  changedAt : Timestamp
  occurredAt : Timestamp
  phaseGates : Option PhaseGateRegistry
  fault : Option PyError

inductive LiveOperation where
  | recordAuthorization (authorization : LiveAuthorization)
  | evaluateReadiness (request : ReadinessRequest)
  | start (evaluationAt : Option Datetime)
  | rollback (reason : String)
  | returnToPaper

inductive LiveAnswer where
  | authorization (authorization : LiveAuthorization)
  | gate (result : LiveGateResult)
  | status (status : LiveControlStatus)
deriving DecidableEq

def permissionError (message : String) : PyError := ⟨"PermissionError", message⟩

/-- `LiveControlPlane()` before it hydrates. -/
def LiveControlPlane.fresh (startedAt : Timestamp) : LiveControlPlane :=
  ⟨none, .plain .paper (by decide) none startedAt⟩

/-- `f"live-authorization:{authorization.authorization_id}"`. -/
def authorizationKey (a : LiveAuthorization) : String :=
  "live-authorization:" ++ uuidText a.authorizationId

section Operations

variable (isoformat : Timestamp → String)

/-- `f"live-state:{state}:{authorization_id}:{changed_at}"`. -/
def stateKey (status : LiveControlStatus) : String :=
  "live-state:" ++ (status.state.value ++ ":" ++ (status.authorizationId.map uuidText).getD "None"
    ++ ":" ++ isoformat status.changedAt)

/-! ### Hydration -/

def hydrateLiveEvent (p : LiveControlPlane) (event : LiveEvent) :
    Except PyError LiveControlPlane :=
  match event.eventType with
  | .authorizationRecorded =>
    match event.payload with
    | .authorization a => .ok { p with authorization := some a }
    | _ => .error (valueError "live authorization ledger contains invalid payload")
  | .stateChanged =>
    match event.payload with
    | .status status =>
      if status.state = .active ∧ p.status.state ≠ .ready then
        .error (valueError "live ledger contains an active state without readiness")
      else if status.state = .ready ∨ status.state = .active then
        match p.authorization with
        | none => .error (valueError "live ledger state requires a recorded authorization")
        | some a =>
          if status.authorizationId ≠ some a.authorizationId then
            .error (valueError "live ledger state authorization does not match approval")
          else .ok { p with status := status }
      else .ok { p with status := status }
    | _ => .error (valueError "live state ledger contains invalid payload")
  | .other _ => .ok p

/-- `LiveControlPlane(ledgers=ledgers)`. -/
def hydrateLive (startedAt : Timestamp) (events : List LiveEvent) :
    Except PyError LiveControlPlane :=
  Journal.replay hydrateLiveEvent (.fresh startedAt) events

/-! ### The operations -/

variable (s : LiveSurroundings)

/-- `self.ledgers.append(LedgerEvent(...))`. -/
def LiveWorld.append (eventType : LiveEventType) (key : String) (payload : LivePayload)
    (w : LiveWorld) : Except PyError Unit × LiveWorld :=
  match SqliteLedgers.appendUnder s.fault w.incidentEvents
      ⟨w.nextEventId, eventType, key, s.occurredAt, payload⟩ with
  | (result, events) =>
    (result.map fun _ => (), { w with incidentEvents := events, nextEventId := w.nextEventId + 1 })

namespace LiveControlPlane

def remember (w : LiveWorld) (status : LiveControlStatus) : LiveWorld :=
  { w with plane := { w.plane with status := status } }

def transition (status : LiveControlStatus) (s : LiveSurroundings) (w : LiveWorld) :
    Except PyError LiveControlStatus × LiveWorld :=
  if status.state = .active ∧ w.plane.status.state ≠ .ready then
    (.error (permissionError "live active state must follow ready state"), w)
  else
    match (remember w status).append s .stateChanged (stateKey isoformat status)
        (.status status) with
    | (result, w') => (result.map fun _ => status, w')

def recordAuthorization (a : LiveAuthorization) (s : LiveSurroundings) (w : LiveWorld) :
    Except PyError LiveAuthorization × LiveWorld :=
  if w.plane.authorization.any fun known => !decide (known.same a) then
    (.error (valueError "live authorization is immutable once recorded"), w)
  else
    match LiveWorld.append s .authorizationRecorded (authorizationKey a) (.authorization a)
        { w with plane := { w.plane with authorization := some a } } with
    | (result, w') => (result.map fun _ => a, w')

def evaluateReadiness (request : ReadinessRequest) (s : LiveSurroundings) (w : LiveWorld) :
    Except PyError LiveGateResult × LiveWorld :=
  match LiveReadinessGate.evaluate request w.plane.authorization s.phaseGates s.evaluatedAt with
  | .error e => (.error e, w)
  | .ok result =>
    if result.passed then
      match transition isoformat (.plain .ready (by decide)
          (result.authorizationId.or w.plane.status.authorizationId) s.changedAt) s w with
      | (outcome, w') => (outcome.map fun _ => result, w')
    else (.ok result, w)

def start (evaluationAt : Option Datetime) (s : LiveSurroundings) (w : LiveWorld) :
    Except PyError LiveControlStatus × LiveWorld :=
  match w.plane.authorization with
  | none => (.error (permissionError "live start requires explicit human authorization"), w)
  | some a =>
    match evaluationTime "live start evaluation timestamp must include a timezone"
        evaluationAt s.evaluatedAt with
    | .error e => (.error e, w)
    | .ok t =>
      if a.isValidAt t = false then
        (.error (permissionError "live authorization is expired or not yet active"), w)
      else
        match phaseAdmitted s.phaseGates t 10 with
        | .error e => (.error e, w)
        | .ok false =>
          (.error (permissionError "live start requires an admitted Phase 10 gate"), w)
        | .ok true =>
          if w.plane.status.state ≠ .ready then
            (.error (permissionError "live start requires a passed readiness evaluation"), w)
          else
            transition isoformat (.plain .active (by decide) w.plane.status.authorizationId
              s.changedAt) s w

def rollback (reason : String) (s : LiveSurroundings) (w : LiveWorld) :
    Except PyError LiveControlStatus × LiveWorld :=
  if h : isBlank reason = false then
    transition isoformat (.rolledBack reason h w.plane.status.authorizationId s.changedAt) s w
  else (.error (valueError "live rollback requires a reason"), w)

def returnToPaper (s : LiveSurroundings) (w : LiveWorld) :
    Except PyError LiveControlStatus × LiveWorld :=
  transition isoformat (.plain .paper (by decide) w.plane.status.authorizationId s.changedAt) s w

def call (s : LiveSurroundings) (w : LiveWorld) :
    LiveOperation → Except PyError LiveAnswer × LiveWorld
  | .recordAuthorization a => (recordAuthorization a s w).map (.map .authorization) id
  | .evaluateReadiness request =>
    (evaluateReadiness isoformat request s w).map (.map .gate) id
  | .start evaluationAt => (start isoformat evaluationAt s w).map (.map .status) id
  | .rollback reason => (rollback isoformat reason s w).map (.map .status) id
  | .returnToPaper => (returnToPaper isoformat s w).map (.map .status) id

end LiveControlPlane

/-! ### Runs -/

/-- The plane with its ledger, and what its operations returned or raised. -/
structure LiveSystem where
  world : LiveWorld
  trace : List (LiveOperation × Except PyError LiveAnswer)

inductive LiveAction where
  | call (operation : LiveOperation) (s : LiveSurroundings)
  | restart (startedAt : Timestamp)

namespace LiveSystem

def init (startedAt : Timestamp) : LiveSystem := ⟨⟨[], .fresh startedAt, 0⟩, []⟩

/-- There is no plane after a restart that raises. -/
def step (sys : LiveSystem) : LiveAction → Option LiveSystem
  | .call operation s =>
    match LiveControlPlane.call isoformat s sys.world operation with
    | (result, w) => some ⟨w, sys.trace ++ [(operation, result)]⟩
  | .restart startedAt =>
    match hydrateLive startedAt sys.world.incidentEvents with
    | .error _ => none
    | .ok plane => some { sys with world := { sys.world with plane := plane } }

end LiveSystem

/-- A rollback or a return to paper that was made. -/
def StandsDown (x : LiveOperation × Except PyError LiveAnswer) : Prop :=
  match x with
  | (.rollback _, .ok _) => True
  | (.returnToPaper, .ok _) => True
  | _ => False

/-- A readiness evaluation passed, and nothing left that state since. -/
def ReadySince (trace : List (LiveOperation × Except PyError LiveAnswer)) : Prop :=
  ∃ earlier request result later,
    trace = earlier ++ (.evaluateReadiness request, .ok (.gate result)) :: later ∧
    result.passed = true ∧ ∀ x ∈ later, ¬StandsDown x

/-- The status a call changes to, when nothing but its append can stop it. -/
def LiveOperation.next (p : LiveControlPlane) :
    LiveOperation → Option LiveControlStatus
  | .recordAuthorization _ => none
  | .evaluateReadiness request =>
    match LiveReadinessGate.evaluate request p.authorization s.phaseGates s.evaluatedAt with
    | .error _ => none
    | .ok result =>
      if result.passed then
        some (.plain .ready (by decide) (result.authorizationId.or p.status.authorizationId)
          s.changedAt)
      else none
  | .start evaluationAt => do
    let a ← p.authorization
    let t ← (evaluationTime "live start evaluation timestamp must include a timezone"
      evaluationAt s.evaluatedAt).toOption
    if a.isValidAt t && (phaseAdmitted s.phaseGates t 10).toOption.any id &&
        p.status.state = .ready then
      some (.plain .active (by decide) p.status.authorizationId s.changedAt)
    else none
  | .rollback reason =>
    if h : isBlank reason = false then
      some (.rolledBack reason h p.status.authorizationId s.changedAt)
    else none
  | .returnToPaper => some (.plain .paper (by decide) p.status.authorizationId s.changedAt)

/-- What the append of a change of status meets: the database does not fail, and
no other change is recorded for that state, authorization and time. -/
def ChangeWritten (sys : LiveSystem) : LiveAction → Prop
  | .restart _ => True
  | .call operation s => ∀ status ∈ operation.next s sys.world.plane, s.fault = none ∧
      (status = sys.world.plane.status ∨
        ∀ e ∈ sys.world.incidentEvents, e.idempotencyKey ≠ stateKey isoformat status)

instance (sys : LiveSystem) (a : LiveAction) : Decidable (ChangeWritten isoformat sys a) := by
  cases a <;> unfold ChangeWritten <;> infer_instance

end Operations

end AdvisorAI
