import AdvisorAI.Execution.Risk

/-!
# The kill switch and the controls of the runtime

The kill switch is a reason in memory, with a trip or a reset in the INCIDENT
ledger for every change of it. The dashboard writes its commands into the same
ledger; `syncDashboardControl` applies the newest accepted one, unless a trip or
a reset was written after it.
-/

namespace AdvisorAI

open Lib

/-! ## The INCIDENT ledger -/

inductive IncidentEventType where
  | killSwitchTripped
  | killSwitchReset
  | dashboardCommandRecorded
  | other (name : String)
deriving DecidableEq

def IncidentEventType.name : IncidentEventType → String
  | .killSwitchTripped => "kill_switch_tripped"
  | .killSwitchReset => "kill_switch_reset"
  | .dashboardCommandRecorded => "dashboard_command_recorded"
  | .other name => name

/-- The fields of a command receipt the runtime reads, empty where they are missing. -/
structure CommandReceipt where
  commandId : String
  status : String
  command : String
deriving DecidableEq

/-- The fields of an INCIDENT payload the controls read or write. -/
structure IncidentPayload where
  reason : Option String
  approvedBy : Option String
  actor : Option String
  receipt : Option CommandReceipt
deriving DecidableEq

abbrev IncidentEvent := LedgerEvent IncidentEventType IncidentPayload

/-- `{"reason": reason}`. -/
def IncidentPayload.tripped (reason : String) : IncidentPayload := ⟨some reason, none, none, none⟩

/-- `{"approved_by": approved_by}`. -/
def IncidentPayload.reset (approvedBy : String) : IncidentPayload :=
  ⟨none, some approvedBy, none, none⟩

/-- `str(payload)` of a payload with the one field a trip or a reset writes. -/
def IncidentPayload.repr (payload : IncidentPayload) : String :=
  match payload.reason, payload.approvedBy with
  | some reason, _ => "\x7b'reason': " ++ pyRepr reason ++ "\x7d"
  | none, some approvedBy => "\x7b'approved_by': " ++ pyRepr approvedBy ++ "\x7d"
  | none, none => "\x7b\x7d"

/-! ## The state -/

/-- The INCIDENT ledger, and in memory the reason the kill switch is tripped for
and whether the scheduler is stopped. -/
structure ControlWorld where
  incidents : List IncidentEvent
  nextEventId : UUID
  killSwitch : Option String
  stopped : Bool

def ControlWorld.init : ControlWorld := ⟨[], 0, none, false⟩

abbrev Control := Prog ControlWorld PyError

namespace KillSwitch

/-- What an event of the ledger does to the switch. -/
def hydrateEvent (killSwitch : Option String) (event : IncidentEvent) : Option String :=
  match event.eventType with
  | .killSwitchTripped => some (event.payload.reason.getD "durably tripped")
  | .killSwitchReset => none
  | _ => killSwitch

def hydrate (incidents : List IncidentEvent) : Option String :=
  incidents.foldl hydrateEvent none

def eventKey (o : KernelOutside) (eventType : IncidentEventType) (sequence : ℕ)
    (payload : IncidentPayload) : String :=
  let digest := (o.sha256 (eventType.name ++ ":" ++ sequence.repr ++ ":" ++ payload.repr)).text
  "kill-switch:" ++ sequence.repr ++ ":" ++ String.ofList (digest.toList.take 16)

def record (o : KernelOutside) (now : Timestamp) (eventType : IncidentEventType)
    (payload : IncidentPayload) : Control Unit :=
  Prog.atomic fun w =>
    let event : IncidentEvent := ⟨w.nextEventId, eventType,
      eventKey o eventType (w.incidents.length + 1) payload, now, payload⟩
    match SqliteLedgers.append w.incidents event with
    | (result, incidents) => (result.map fun _ => (),
      { w with incidents := incidents, nextEventId := w.nextEventId + 1 })

def trip (o : KernelOutside) (now : Timestamp) (reason : String) : Control Unit := do
  if isBlank reason then Prog.raise (valueError "kill switch trip requires a reason")
  else if (← Prog.read ControlWorld.killSwitch) = some (strip reason) then pure ()
  else do
    record o now .killSwitchTripped (.tripped (strip reason))
    Prog.modify fun w => { w with killSwitch := some (strip reason) }

def reset (o : KernelOutside) (now : Timestamp) (approvedBy : String) : Control Unit := do
  if isBlank approvedBy then
    Prog.raise (valueError "kill switch reset requires explicit human approver")
  else if (← Prog.read ControlWorld.killSwitch) = none then pure ()
  else do
    record o now .killSwitchReset (.reset (strip approvedBy))
    Prog.modify fun w => { w with killSwitch := none }

end KillSwitch

/-! ## Commands of the dashboard -/

inductive ControlCommand where
  | halt (reason : String)
  | resume (actor : String)
deriving DecidableEq

/-- The command an event carries, when it was accepted and is for the runtime. -/
def acceptedCommand (event : IncidentEvent) : Option ControlCommand :=
  match event.eventType, event.payload.receipt with
  | .dashboardCommandRecorded, some receipt =>
    if receipt.status ≠ "accepted" then none
    else if receipt.command = "halt_paper" then
      some (.halt (event.payload.reason.getD "dashboard control"))
    else if receipt.command = "resume_paper" then
      some (.resume (event.payload.actor.getD "owner"))
    else none
  | _, _ => none

/-- What the scan over the ledger has seen: the newest command, and the newest
trip or reset, each with its index. -/
structure ControlScan where
  latestCommand : Option (ℕ × ControlCommand)
  latestSecurityEvent : Option ℕ

def ControlScan.step (scan : ControlScan) (entry : IncidentEvent × ℕ) : ControlScan :=
  let (event, index) := entry
  if event.eventType = .killSwitchTripped ∨ event.eventType = .killSwitchReset then
    { scan with latestSecurityEvent := some index }
  else match acceptedCommand event with
    | none => scan
    | some command => { scan with latestCommand := some (index, command) }

variable (incidents : List IncidentEvent)

def scanControls : ControlScan :=
  incidents.zipIdx.foldl ControlScan.step ⟨none, none⟩

/-- The command that is newer than every trip and reset. -/
def pendingCommand : Option ControlCommand :=
  match (scanControls incidents).latestCommand with
  | none => none
  | some (index, command) =>
    if (scanControls incidents).latestSecurityEvent.any fun security => index ≤ security then none
    else some command

variable (o : KernelOutside) (now : Timestamp)

def syncDashboardControl : Control Unit := do
  match ← Prog.read fun w => pendingCommand w.incidents with
  | none => pure ()
  | some (.halt reason) => do
    KillSwitch.trip o now reason
    Prog.modify fun w => { w with stopped := true }
  | some (.resume actor) => do
    if (← Prog.read ControlWorld.killSwitch) = none then pure ()
    else do
      KillSwitch.reset o now actor
      Prog.modify fun w => { w with stopped := false }

def halt (reason : String) : Control Unit := do
  KillSwitch.trip o now reason
  Prog.modify fun w => { w with stopped := true }

def resume (approvedBy : String) : Control Unit := do
  KillSwitch.reset o now approvedBy
  Prog.modify fun w => { w with stopped := false }

end AdvisorAI
