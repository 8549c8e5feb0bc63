import AdvisorAI.Execution.KillSwitch

/-!
# The dashboard and the kill switch

The dashboard writes every command it takes into the INCIDENT ledger, with the
status it gave it, and shows the kill switch as the newest trip, reset or accepted
command leaves it. `killSwitchStatus_eq` says that this is what a runtime that
starts now would make of the ledger.
-/

namespace AdvisorAI

open Lib

namespace Dashboard

/-! ## Commands -/

inductive CommandKind where
  | haltPaper
  | resumePaper
  | setMode
  | proposeConfig
  | rollbackConfig
  | refreshData
deriving DecidableEq

def CommandKind.value : CommandKind → String
  | .haltPaper => "halt_paper"
  | .resumePaper => "resume_paper"
  | .setMode => "set_mode"
  | .proposeConfig => "propose_config"
  | .rollbackConfig => "rollback_config"
  | .refreshData => "refresh_data"

/-- The fields of a `DashboardCommandRequest` the controls read. -/
structure CommandRequest where
  command : CommandKind
  idempotencyKey : String
  reason : String

/-- What a call of `execute` meets: the identifier and the time it draws, whether
the overview shows a clean reconciliation, and whether the mode registry or the
bundle store takes the command. -/
structure CommandSurroundings where
  commandId : String
  now : Timestamp
  clean : Bool
  admitted : Bool

def resultStatus (s : CommandSurroundings) : CommandKind → String
  | .haltPaper | .proposeConfig | .refreshData => "accepted"
  | .resumePaper => if s.clean then "accepted" else "rejected"
  | .setMode | .rollbackConfig => if s.admitted then "accepted" else "rejected"

/-- `execute` of a dashboard that remembers these receipts and is not bound to a
runtime. One that is bound calls `halt` or `resume` of its runtime before. -/
def execute (receipts : Dict String CommandReceipt) (request : CommandRequest) (actor : String)
    (s : CommandSurroundings) : Control CommandReceipt :=
  match receipts.get request.idempotencyKey with
  | some prior => pure prior
  | none =>
    let receipt : CommandReceipt :=
      ⟨s.commandId, resultStatus s request.command, request.command.value⟩
    Prog.atomic fun w =>
      let event : IncidentEvent := ⟨w.nextEventId, .dashboardCommandRecorded,
        "dashboard-command:" ++ request.idempotencyKey, s.now,
        ⟨some request.reason, none, some actor, some receipt⟩⟩
      match SqliteLedgers.append w.incidents event with
      | (result, incidents) => (result.map fun _ => receipt,
        { w with incidents := incidents, nextEventId := w.nextEventId + 1 })

/-! ## The overview -/

/-- What an event does to the kill switch the overview shows. -/
def killSwitchStatusEvent (engaged : Bool) (event : IncidentEvent) : Bool :=
  match event.eventType with
  | .killSwitchTripped => true
  | .killSwitchReset => false
  | _ =>
    match acceptedCommand event with
    | some (.halt _) => true
    | some (.resume _) => false
    | none => engaged

/-- The kill switch in `build_ledger_overview`: is it engaged? -/
def killSwitchStatus (incidents : List IncidentEvent) : Bool :=
  incidents.foldl killSwitchStatusEvent false

end Dashboard

/-! ## The scan over the ledger -/

def IncidentEventType.Security (eventType : IncidentEventType) : Prop :=
  eventType = .killSwitchTripped ∨ eventType = .killSwitchReset

variable {e : IncidentEvent}

theorem acceptedCommand_security (h : e.eventType.Security) : acceptedCommand e = none := by
  unfold acceptedCommand
  rcases h with h | h
  · rw [h]
  · rw [h]

variable (l : List IncidentEvent)

theorem scanControls_concat (e : IncidentEvent) :
    scanControls (l ++ [e]) = (scanControls l).step (e, l.length) := by
  unfold scanControls
  rw [List.zipIdx_append, List.foldl_append, Nat.zero_add]
  rfl

theorem scanControls_bounded :
    (∀ i command, (scanControls l).latestCommand = some (i, command) → i < l.length) ∧
    (∀ i, (scanControls l).latestSecurityEvent = some i → i < l.length) := by
  induction l using List.reverseRecOn with
  | nil =>
    refine ⟨?_, ?_⟩
    · intro i command h
      cases h
    · intro i h
      cases h
  | append_singleton l e ih =>
    obtain ⟨hcommand, hsecurity⟩ := ih
    rw [scanControls_concat, List.length_append, List.length_singleton]
    unfold ControlScan.step
    dsimp only
    split
    · refine ⟨fun i command h => Nat.lt_succ_of_lt (hcommand i command h), ?_⟩
      intro i h
      cases h
      exact Nat.lt_succ_self _
    · split
      · exact ⟨fun i command h => Nat.lt_succ_of_lt (hcommand i command h),
          fun i h => Nat.lt_succ_of_lt (hsecurity i h)⟩
      · refine ⟨?_, fun i h => Nat.lt_succ_of_lt (hsecurity i h)⟩
        intro i command h
        cases h
        exact Nat.lt_succ_self _

theorem pendingCommand_security (h : e.eventType.Security) : pendingCommand (l ++ [e]) = none := by
  have hscan : scanControls (l ++ [e])
      = { scanControls l with latestSecurityEvent := some l.length } := by
    rw [scanControls_concat]
    exact if_pos h
  unfold pendingCommand
  rw [hscan]
  cases hlatest : (scanControls l).latestCommand with
  | none => rfl
  | some entry =>
    obtain ⟨i, command⟩ := entry
    have hlt := (scanControls_bounded l).1 i command hlatest
    exact if_pos (decide_eq_true (Nat.le_of_lt hlt))

theorem pendingCommand_accepted {command : ControlCommand} (h : acceptedCommand e = some command) :
    pendingCommand (l ++ [e]) = some command := by
  have hplain : ¬e.eventType.Security := by
    intro hsecurity
    rw [acceptedCommand_security hsecurity] at h
    cases h
  have hscan : scanControls (l ++ [e])
      = { scanControls l with latestCommand := some (l.length, command) } := by
    rw [scanControls_concat]
    refine (if_neg hplain).trans ?_
    rw [h]
  unfold pendingCommand
  rw [hscan]
  refine if_neg ?_
  intro hlater
  obtain ⟨i, hi, hle⟩ := (Option.any_eq_true _ _).mp hlater
  have hlt := (scanControls_bounded l).2 i hi
  exact absurd (of_decide_eq_true hle) (Nat.not_le.mpr hlt)

theorem pendingCommand_other (hplain : ¬e.eventType.Security) (h : acceptedCommand e = none) :
    pendingCommand (l ++ [e]) = pendingCommand l := by
  have hscan : scanControls (l ++ [e]) = scanControls l := by
    rw [scanControls_concat]
    refine (if_neg hplain).trans ?_
    rw [h]
  unfold pendingCommand
  rw [hscan]

theorem hydrate_concat (e : IncidentEvent) :
    KillSwitch.hydrate (l ++ [e]) = KillSwitch.hydrateEvent (KillSwitch.hydrate l) e := by
  unfold KillSwitch.hydrate
  rw [List.foldl_append]
  rfl

theorem hydrate_other (hplain : ¬e.eventType.Security) :
    KillSwitch.hydrate (l ++ [e]) = KillSwitch.hydrate l := by
  rw [hydrate_concat]
  unfold KillSwitch.hydrateEvent
  split
  · next htype => exact absurd (Or.inl htype) hplain
  · next htype => exact absurd (Or.inr htype) hplain
  · rfl

/-! ## What the overview shows is what a start reads -/

namespace Dashboard

theorem killSwitchStatus_append (l more : List IncidentEvent) :
    killSwitchStatus (l ++ more) = more.foldl killSwitchStatusEvent (killSwitchStatus l) := by
  unfold killSwitchStatus
  rw [List.foldl_append]

theorem killSwitchStatus_concat (l : List IncidentEvent) (e : IncidentEvent) :
    killSwitchStatus (l ++ [e]) = killSwitchStatusEvent (killSwitchStatus l) e :=
  killSwitchStatus_append l [e]

theorem killSwitchStatusEvent_plain {e : IncidentEvent} (hplain : ¬e.eventType.Security)
    (engaged : Bool) : killSwitchStatusEvent engaged e =
      match acceptedCommand e with
      | some (.halt _) => true
      | some (.resume _) => false
      | none => engaged := by
  unfold killSwitchStatusEvent
  split
  · next htype => exact absurd (Or.inl htype) hplain
  · next htype => exact absurd (Or.inr htype) hplain
  · rfl

/-- **The overview and a start agree.** The dashboard shows the kill switch as
engaged exactly when a runtime that starts on the ledger is halted by it. -/
theorem killSwitchStatus_eq (l : List IncidentEvent) :
    killSwitchStatus l =
      match pendingCommand l with
      | some (.halt _) => true
      | some (.resume _) => false
      | none => (KillSwitch.hydrate l).isSome := by
  induction l using List.reverseRecOn with
  | nil => rfl
  | append_singleton l e ih =>
    rw [killSwitchStatus_concat]
    by_cases hsecurity : e.eventType.Security
    · rw [pendingCommand_security l hsecurity, hydrate_concat]
      unfold killSwitchStatusEvent KillSwitch.hydrateEvent
      rcases hsecurity with htype | htype
      · rw [htype]
        rfl
      · rw [htype]
        rfl
    · rw [killSwitchStatusEvent_plain hsecurity]
      cases hcommand : acceptedCommand e with
      | none =>
        rw [pendingCommand_other l hsecurity hcommand, hydrate_other l hsecurity]
        exact ih
      | some command =>
        rw [pendingCommand_accepted l hcommand]
        cases command with
        | halt reason => rfl
        | resume actor => rfl

end Dashboard

end AdvisorAI
