import AdvisorAI.Runtime.Controls

/-!
# Halts and the runtime

A halt reaches the runtime in two ways: its own kill switch is tripped, which
sets the memory and writes a trip into the INCIDENT ledger, or something else
writes into the ledger, a dashboard command or the kill switch of another
process. `run_once` goes by its memory after applying the pending command.

Memory and ledger come apart in two ways. A trip for the reason the switch is
tripped for already is not written again, even if the ledger's newest word is a
resume by now; and a trip written by another process is not read before the next
restart. `no_routing_while_halted` shows that these two are all: in every run
without them nothing is routed while the newest control action is a halt.
-/

namespace AdvisorAI

open Lib Runs Prog Option

/-! ## The process -/

/-- What a reconciliation run comes to. -/
inductive Finding where
  | clean
  | mismatch
  | venueError (e : PyError)

/-- `reconcile_once`, as far as it is a control. An error of the venue is what it
raises again. -/
def reconcileOnce (o : KernelOutside) (now : Timestamp) : Finding → Control (Except PyError Bool)
  | .clean => pure (.ok true)
  | .mismatch => do
    KillSwitch.trip o now "paper_reconciliation_mismatch"
    pure (.ok false)
  | .venueError e => do
    KillSwitch.trip o now "paper_venue_reconciliation_error"
    pure (.error e)

/-- `_hydrate` of the learning loop. -/
def hydrateDecisions (missions : List MissionEvent) : Dict UUID PaperDecisionRecord :=
  missions.foldl (fun decisions e =>
    match e.payload with
    | .decision decision => decisions.set decision.decisionId decision
    | _ => decisions) Dict.empty

/-- The memory of the controls in a new process, before the runtime in it starts. -/
def ControlWorld.reread (c : ControlWorld) : ControlWorld :=
  { c with killSwitch := KillSwitch.hydrate c.incidents, stopped := false }

/-- A new process on the same ledgers. There is none where reading them raises. -/
def PaperRuntime.restart (o : KernelOutside) (now : Timestamp) (w : RuntimeWorld) :
    Option RuntimeWorld := do
  let oms ← AdvisorAI.restart w.oms
  match (syncDashboardControl o now).run w.control.reread with
  | (.ok _, control) =>
    some { w with oms := oms, control := control, decisions := hydrateDecisions w.missions }
  | (.error _, _) => none

/-! ## The system -/

/-- The runtime among everything that controls it. `halted` says whether the
newest control action is a halting one. -/
structure ControlSystem where
  world : RuntimeWorld
  halted : Bool

/-- How the keys of the other events of the INCIDENT ledger start. -/
def incidentKeys : List String :=
  ["incident:", "soak:", "live-authorization:", "live-state:", "archive:"]

/-- What happens to a runtime and its INCIDENT ledger. A dashboard may be any
process, with any receipts in memory; one that is bound to the runtime is a
`halt` or a `resume` followed by a `command`. -/
inductive ControlAction where
  | trip (now : Timestamp) (reason : String)
  | reset (now : Timestamp) (approvedBy : String)
  | halt (now : Timestamp) (reason : String)
  | resume (now : Timestamp) (approvedBy : String)
  | reconcile (now : Timestamp) (finding : Finding)
  | command (receipts : Dict String CommandReceipt) (request : Dashboard.CommandRequest)
      (actor : String) (s : Dashboard.CommandSurroundings)
  | tripElsewhere (now : Timestamp) (reason : String)
  | resetElsewhere (now : Timestamp) (approvedBy : String)
  | incident (name key : String) (now : Timestamp) (payload : IncidentPayload)
      (h : ∃ start ∈ incidentKeys, start.toList <+: key.toList)
  | restart (now : Timestamp)
  | runOnce (rt : PaperRuntime) (s : CycleSurroundings) (cutoff : Datetime)
      (crashAt : Option ℕ) (restartedAt : Timestamp)

namespace ControlSystem

def init (adapter : Adapter) : ControlSystem := ⟨.init adapter, false⟩

def control (sys : ControlSystem) : ControlWorld := sys.world.control

variable (sys : ControlSystem)

def withControl (c : ControlWorld) (halted : Bool) : ControlSystem :=
  ⟨{ sys.world with control := c }, halted⟩

/-- A control of the process itself: `halted` is what it says if it returns. -/
def called {α : Type} (x : Control α) (halted : Bool) : ControlSystem :=
  match x.run sys.control with
  | (.ok _, c) => sys.withControl c halted
  | (.error _, c) => sys.withControl c sys.halted

/-- A write of another process: `halted` is what the events written say. -/
def written {α : Type} (x : Control α) : ControlSystem :=
  let c := (x.run sys.control).2
  sys.withControl c ((c.incidents.drop sys.control.incidents.length).foldl
    Dashboard.killSwitchStatusEvent sys.halted)

def afterFinding (halted : Bool) : Finding → Bool
  | .clean => halted
  | .mismatch | .venueError _ => true

def recordIncident (name key : String) (now : Timestamp) (payload : IncidentPayload) :
    Control Unit :=
  Prog.atomic fun w =>
    let event : IncidentEvent := ⟨w.nextEventId, .other name, key, now, payload⟩
    match SqliteLedgers.append w.incidents event with
    | (result, incidents) => (result.map fun _ => (),
      { w with incidents := incidents, nextEventId := w.nextEventId + 1 })

def restarted (o : KernelOutside) (now : Timestamp) (sys : ControlSystem) :
    Option ControlSystem :=
  (PaperRuntime.restart o now sys.world).map fun world => { sys with world := world }

/-- One action. A call of `run_once` that died is followed by a restart. -/
def step (o : RuntimeOutside) (sys : ControlSystem) : ControlAction → Option ControlSystem
  | .trip now reason => some (sys.called (KillSwitch.trip o.toKernelOutside now reason) true)
  | .reset now approvedBy =>
    some (sys.called (KillSwitch.reset o.toKernelOutside now approvedBy) false)
  | .halt now reason => some (sys.called (AdvisorAI.halt o.toKernelOutside now reason) true)
  | .resume now approvedBy =>
    some (sys.called (AdvisorAI.resume o.toKernelOutside now approvedBy) false)
  | .reconcile now finding =>
    some (sys.called (reconcileOnce o.toKernelOutside now finding)
      (afterFinding sys.halted finding))
  | .command receipts request actor s =>
    some (sys.written (Dashboard.execute receipts request actor s))
  | .tripElsewhere now reason =>
    some (sys.written (KillSwitch.record o.toKernelOutside now .killSwitchTripped
      (.tripped (strip reason))))
  | .resetElsewhere now approvedBy =>
    some (sys.written (KillSwitch.record o.toKernelOutside now .killSwitchReset
      (.reset (strip approvedBy))))
  | .incident name key now payload _ => some (sys.written (recordIncident name key now payload))
  | .restart now => sys.restarted o.toKernelOutside now
  | .runOnce rt s cutoff crashAt restartedAt =>
    match PaperRuntime.runOnce o rt s cutoff crashAt sys.world with
    | (.error .crashed, _, world) =>
      { sys with world := world }.restarted o.toKernelOutside restartedAt
    | (_, _, world) => some { sys with world := world }

end ControlSystem

/-! ## What every step keeps -/

/-- More events were written, and the ledger is still numbered. -/
def Wrote (o : KernelOutside) (c c' : ControlWorld) : Prop :=
  IncidentsNumbered o c' ∧ ∃ more, c'.incidents = c.incidents ++ more

section Writing

variable {o : KernelOutside} {c : ControlWorld} {payload : IncidentPayload}

variable {now : Timestamp} {eventType : IncidentEventType} {key actor name : String}

theorem append_wrote {α : Type} (h : IncidentsNumbered o c) (a : α)
    (hkey : ∀ t n p, key ≠ KillSwitch.eventKey o t n p) :
    Prog.wp (Prog.atomic fun w : ControlWorld =>
      match SqliteLedgers.append w.incidents ⟨w.nextEventId, eventType, key, now, payload⟩ with
      | (result, incidents) => (result.map fun _ => a,
        { w with incidents := incidents, nextEventId := w.nextEventId + 1 }))
      (fun _ c' => Wrote o c c') (fun _ c' => Wrote o c c') c := by
  have hstored : Wrote o c { c with nextEventId := c.nextEventId + 1 } := by
    refine ⟨⟨fun e he => Nat.lt_succ_of_lt (h.ids e he), h.keys⟩, [], ?_⟩
    exact (List.append_nil _).symm
  refine wp_atomic ⟨h, [], (List.append_nil _).symm⟩ ?_
  rcases SqliteLedgers.append_cases c.incidents ⟨c.nextEventId, eventType, key, now, payload⟩ with
    ⟨e, happend⟩ | ⟨existing, -, -, -, happend⟩ | ⟨-, happend⟩
  · rw [happend]
    exact hstored
  · rw [happend]
    exact hstored
  · rw [happend]
    exact ⟨h.logged fun t n p heq => absurd heq (hkey t n p), _, rfl⟩

theorem killSwitchRecord_wrote (h : IncidentsNumbered o c) :
    Prog.wp (KillSwitch.record o now eventType payload)
      (fun _ c' => Wrote o c c') (fun _ c' => Wrote o c c') c := by
  refine wp_mono (killSwitchRecord_wp h) ?_ ?_
  · intro _ c' hc'
    rw [hc']
    exact ⟨h.logged fun _ _ _ heq => Nat.le_of_eq (eventKey_sequence heq).symm, _, rfl⟩
  · intro _ c' hc'
    rw [hc']
    exact ⟨h, [], (List.append_nil _).symm⟩

theorem execute_wrote (h : IncidentsNumbered o c) {receipts : Dict String CommandReceipt}
    {request : Dashboard.CommandRequest} {s : Dashboard.CommandSurroundings} :
    Prog.wp (Dashboard.execute receipts request actor s)
      (fun _ c' => Wrote o c c') (fun _ c' => Wrote o c c') c := by
  unfold Dashboard.execute
  cases receipts.get request.idempotencyKey with
  | some prior => exact wp_pure ⟨h, [], (List.append_nil _).symm⟩
  | none =>
    refine append_wrote h _ ?_
    intro t n p
    apply ne_eventKey
    have hhead : "dashboard-command:".toList.head? = some 'd' := by decide
    rw [String.toList_append, List.head?_append, hhead]
    exact (by decide : some 'd' ≠ some 'k')

theorem recordIncident_wrote (h : IncidentsNumbered o c)
    (hkey : ∃ start ∈ incidentKeys, start.toList <+: key.toList) :
    Prog.wp (ControlSystem.recordIncident name key now payload)
      (fun _ c' => Wrote o c c') (fun _ c' => Wrote o c c') c := by
  refine append_wrote h _ ?_
  intro t n p
  apply ne_eventKey
  obtain ⟨start, hstart, rest, hrest⟩ := hkey
  have hhead : ∀ start ∈ incidentKeys, start.toList.head?.isSome = true ∧
      start.toList.head? ≠ some 'k' := by
    decide
  obtain ⟨hsome, hne⟩ := hhead start hstart
  rw [← hrest, List.head?_append, or_of_isSome hsome]
  exact hne

end Writing

theorem killSwitchStatusEvent_settles (e : IncidentEvent) :
    (∃ settled, ∀ engaged, Dashboard.killSwitchStatusEvent engaged e = settled) ∨
    (∀ engaged, Dashboard.killSwitchStatusEvent engaged e = engaged) := by
  by_cases hsecurity : e.eventType.Security
  · left
    unfold Dashboard.killSwitchStatusEvent
    rcases hsecurity with htype | htype
    · rw [htype]
      exact ⟨true, fun _ => rfl⟩
    · rw [htype]
      exact ⟨false, fun _ => rfl⟩
  · simp only [Dashboard.killSwitchStatusEvent_plain hsecurity]
    rcases acceptedCommand e with _ | _ | _
    · exact Or.inr fun _ => rfl
    · exact Or.inl ⟨true, fun _ => rfl⟩
    · exact Or.inl ⟨false, fun _ => rfl⟩

theorem killSwitchStatus_follows (more : List IncidentEvent) {halted engaged : Bool}
    (h : halted = true → engaged = true)
    (hmore : more.foldl Dashboard.killSwitchStatusEvent halted = true) :
    more.foldl Dashboard.killSwitchStatusEvent engaged = true := by
  induction more generalizing halted engaged with
  | nil => exact h hmore
  | cons e more ih =>
    refine ih ?_ hmore
    rcases killSwitchStatusEvent_settles e with ⟨settled, hsettled⟩ | hleft
    · rw [hsettled, hsettled]
      exact id
    · rw [hleft, hleft]
      exact h

/-! ## Runs -/

/-- The reason a control of the process itself trips the switch for. -/
def ControlAction.trips : ControlAction → Option String
  | .trip _ reason | .halt _ reason => some reason
  | .reconcile _ .mismatch => some "paper_reconciliation_mismatch"
  | .reconcile _ (.venueError _) => some "paper_venue_reconciliation_error"
  | _ => none

def ControlAction.IsCycle : ControlAction → Prop
  | .runOnce .. => True
  | _ => False

/-- No halt goes unheard here: a trip for the reason in memory finds the ledger
showing a halt, and a cycle that starts with the switch open in memory and no
command pending finds no trip in the ledger. -/
structure Heeded (sys : ControlSystem) (a : ControlAction) : Prop where
  repeated : ∀ reason, a.trips = some reason → sys.control.killSwitch = some (strip reason) →
    Dashboard.killSwitchStatus sys.control.incidents = true
  unread : a.IsCycle → sys.control.killSwitch = none →
    pendingCommand sys.control.incidents = none → KillSwitch.hydrate sys.control.incidents = none

namespace ControlSystem

variable {o : RuntimeOutside} {sys sys' : ControlSystem}

/-- Where a halt is the newest control action the ledger shows it. -/
def HaltShown (o : RuntimeOutside) (sys : ControlSystem) : Prop :=
  Heard o.toKernelOutside (sys.halted = true) sys.control

theorem called_shown {α : Type} {x : Control α} {halted : Bool}
    (h : Prog.wp x (fun _ c => Heard o.toKernelOutside (halted = true) c)
      (fun _ c => Heard o.toKernelOutside (sys.halted = true) c) sys.control) :
    HaltShown o (sys.called x halted) := by
  unfold called
  rcases run_of_wp h with ⟨a, c, hrun, hheard⟩ | ⟨e, c, hrun, hheard⟩
  · rw [hrun]
    exact hheard
  · rw [hrun]
    exact hheard

theorem written_shown {α : Type} {x : Control α} (hshown : HaltShown o sys)
    (h : Prog.wp x (fun _ c => Wrote o.toKernelOutside sys.control c)
      (fun _ c => Wrote o.toKernelOutside sys.control c) sys.control) :
    HaltShown o (sys.written x) := by
  have hwrote : Wrote o.toKernelOutside sys.control (x.run sys.control).2 := by
    rcases run_of_wp h with ⟨a, c, hrun, hwrote⟩ | ⟨e, c, hrun, hwrote⟩
    · rw [hrun]
      exact hwrote
    · rw [hrun]
      exact hwrote
  obtain ⟨hnumbered, more, hmore⟩ := hwrote
  refine ⟨hnumbered, ?_⟩
  intro hhalted
  have hfold : more.foldl Dashboard.killSwitchStatusEvent sys.halted = true := by
    have hdrop : (x.run sys.control).2.incidents.drop sys.control.incidents.length = more := by
      rw [hmore]
      exact List.drop_left
    rw [← hdrop]
    exact hhalted
  show Dashboard.killSwitchStatus (x.run sys.control).2.incidents = true
  rw [hmore, Dashboard.killSwitchStatus_append]
  exact killSwitchStatus_follows more hshown.shows hfold

variable {now restartedAt : Timestamp}

theorem trip_shown (hshown : HaltShown o sys) {reason : String}
    (hheeded : sys.control.killSwitch = some (strip reason) →
      Dashboard.killSwitchStatus sys.control.incidents = true) :
    Prog.wp (KillSwitch.trip o.toKernelOutside now reason)
      (fun _ c => Heard o.toKernelOutside True c)
      (fun _ c => Heard o.toKernelOutside (sys.halted = true) c) sys.control := by
  refine wp_mono (trip_wp hshown.numbered hshown.shows) ?_ (fun _ _ h => h)
  intro _ c ⟨hheard, hshows⟩
  exact ⟨hheard.numbered, fun _ => hshows hheeded⟩

theorem reset_shown (hshown : HaltShown o sys) {approvedBy : String} :
    Prog.wp (KillSwitch.reset o.toKernelOutside now approvedBy)
      (fun _ c => Heard o.toKernelOutside (false = true) c)
      (fun _ c => Heard o.toKernelOutside (sys.halted = true) c) sys.control := by
  refine wp_mono (reset_wp hshown.numbered) ?_ ?_
  · intro _ c hnumbered
    exact ⟨hnumbered, fun h => absurd h Bool.false_ne_true⟩
  · intro _ c hc
    rw [hc]
    exact hshown

theorem restarted_shown (hshown : HaltShown o sys)
    (h : sys.restarted o.toKernelOutside now = some sys') : HaltShown o sys' := by
  obtain ⟨world, hworld, rfl⟩ := map_eq_some_iff.mp h
  obtain ⟨oms, -, hworld⟩ := bind_eq_some_iff.mp hworld
  have hreread : Heard o.toKernelOutside (sys.halted = true) sys.control.reread :=
    ⟨⟨hshown.numbered.ids, hshown.numbered.keys⟩, hshown.shows⟩
  have hsync : Prog.wp (syncDashboardControl o.toKernelOutside now)
      (fun _ c => Heard o.toKernelOutside (sys.halted = true) c)
      (fun _ c => Heard o.toKernelOutside (sys.halted = true) c) sys.control.reread :=
    sync_wp hreread
  rcases run_of_wp hsync with ⟨a, c, hrun, hheard⟩ | ⟨e, c, hrun, -⟩
  · rw [show sys.world.control.reread = sys.control.reread from rfl, hrun] at hworld
    cases hworld
    exact hheard
  · rw [show sys.world.control.reread = sys.control.reread from rfl, hrun] at hworld
    cases hworld

theorem restarted_submissions (h : sys.restarted o.toKernelOutside now = some sys') :
    sys'.world.oms.submissions = sys.world.oms.submissions := by
  obtain ⟨world, hworld, rfl⟩ := map_eq_some_iff.mp h
  obtain ⟨oms, homs, hworld⟩ := bind_eq_some_iff.mp hworld
  have hsub : oms.submissions = sys.world.oms.submissions := by
    unfold AdvisorAI.restart at homs
    split at homs
    · cases homs
      rfl
    · cases homs
  split at hworld
  · cases hworld
    exact hsub
  · cases hworld

theorem step_cycle {rt : PaperRuntime} {s : CycleSurroundings} {cutoff : Datetime}
    {crashAt : Option ℕ} (h : sys.step o (.runOnce rt s cutoff crashAt restartedAt) = some sys') :
    let left : ControlSystem :=
      { sys with world := (PaperRuntime.runOnce o rt s cutoff crashAt sys.world).2.2 }
    sys' = left ∨ left.restarted o.toKernelOutside restartedAt = some sys' := by
  change (match PaperRuntime.runOnce o rt s cutoff crashAt sys.world with
    | (.error .crashed, _, world) =>
      { sys with world := world }.restarted o.toKernelOutside restartedAt
    | (_, _, world) => some { sys with world := world }) = some sys' at h
  rcases hrun : PaperRuntime.runOnce o rt s cutoff crashAt sys.world with
    ⟨(e | _) | cycle, n, world⟩
  · rw [hrun] at h
    left
    exact (Option.some.inj h).symm
  · rw [hrun] at h
    exact Or.inr h
  · rw [hrun] at h
    left
    exact (Option.some.inj h).symm

/-- **Step lemma.** A step that heeds its halts keeps the newest one in the ledger. -/
theorem step_shown {a : ControlAction} (hshown : HaltShown o sys) (hheeded : Heeded sys a)
    (hstep : sys.step o a = some sys') : HaltShown o sys' := by
  cases a with
  | trip now reason =>
    cases hstep
    refine called_shown (wp_mono (trip_shown hshown (hheeded.repeated reason rfl)) ?_
      (fun _ _ h => h))
    exact fun _ _ h => ⟨h.numbered, fun _ => h.shows trivial⟩
  | reset now approvedBy =>
    cases hstep
    exact called_shown (reset_shown hshown)
  | halt now reason =>
    cases hstep
    refine called_shown (wp_bind (wp_mono
      (trip_shown hshown (hheeded.repeated reason rfl)) ?_ (fun _ _ h => h)))
    intro _ c h
    exact wp_modify ⟨⟨h.numbered.ids, h.numbered.keys⟩, fun _ => h.shows trivial⟩
  | resume now approvedBy =>
    cases hstep
    refine called_shown (wp_bind (wp_mono (reset_shown hshown) ?_ (fun _ _ h => h)))
    intro _ c h
    exact wp_modify ⟨⟨h.numbered.ids, h.numbered.keys⟩, h.shows⟩
  | reconcile now finding =>
    cases hstep
    cases finding with
    | clean => exact called_shown (wp_pure hshown)
    | mismatch | venueError =>
      refine called_shown (wp_bind (wp_mono
        (trip_shown hshown (hheeded.repeated _ rfl)) ?_ (fun _ _ h => h)))
      exact fun _ c h => wp_pure ⟨h.numbered, fun _ => h.shows trivial⟩
  | command receipts request actor s =>
    cases hstep
    exact written_shown hshown (execute_wrote hshown.numbered)
  | tripElsewhere | resetElsewhere =>
    cases hstep
    exact written_shown hshown (killSwitchRecord_wrote hshown.numbered)
  | incident name key now payload hkey =>
    cases hstep
    exact written_shown hshown (recordIncident_wrote hshown.numbered hkey)
  | restart now => exact restarted_shown hshown hstep
  | runOnce rt s cutoff crashAt restartedAt =>
    have hsync : Prog.Keeps (Heard o.toKernelOutside (sys.halted = true))
        (syncDashboardControl o.toKernelOutside s.controlAt) :=
      keeps_of_wp fun c h => sync_wp h
    have hleft : HaltShown o
        { sys with world := (PaperRuntime.runOnce o rt s cutoff crashAt sys.world).2.2 } :=
      PaperRuntime.runOnce_keeps hsync crashAt sys.world hshown
    rcases step_cycle hstep with rfl | hrestart
    · exact hleft
    · exact restarted_shown hleft hrestart

theorem HaltShown.settled (hshown : HaltShown o sys) (hhalted : sys.halted = true)
    (hread : sys.control.killSwitch = none → pendingCommand sys.control.incidents = none →
      KillSwitch.hydrate sys.control.incidents = none) :
    PaperRuntime.settledSwitch sys.control ≠ none := by
  have hshows := hshown.shows hhalted
  rw [Dashboard.killSwitchStatus_eq] at hshows
  intro hnone
  unfold PaperRuntime.settledSwitch at hnone
  cases hpending : pendingCommand sys.control.incidents with
  | none =>
    rw [hpending] at hshows hnone
    have hhydrate := hread hnone hpending
    rw [hhydrate] at hshows
    cases hshows
  | some command =>
    rw [hpending] at hshows hnone
    cases command with
    | halt reason => cases hnone
    | resume actor => cases hshows

/-- **Nothing is routed under a halt.** In a run of controls and cycles in which
every halt is heeded, a cycle sends nothing to the venue while the newest control
action is a halting one. -/
theorem no_routing_while_halted {adapter : Adapter} {acts : List ControlAction}
    {rt : PaperRuntime} {s : CycleSurroundings} {cutoff : Datetime} {crashAt : Option ℕ}
    {restartedAt : Timestamp} (hheeded : Along (step o) Heeded (init adapter) acts)
    (hrun : runFrom (step o) (init adapter) acts = some sys) (hhalted : sys.halted = true)
    (hcycle : Heeded sys (.runOnce rt s cutoff crashAt restartedAt))
    (hcall : sys.step o (.runOnce rt s cutoff crashAt restartedAt) = some sys') :
    sys'.world.oms.submissions = sys.world.oms.submissions := by
  have hinit : HaltShown o (init adapter) := by
    refine ⟨⟨?_, ?_⟩, fun h => nomatch h⟩
    · intro e he
      cases he
    · intro e he
      cases he
  have hshown : HaltShown o sys :=
    along_invariant (fun _ _ _ h hmeet hstep => step_shown h hmeet hstep) hinit hheeded hrun
  have hsettled := hshown.settled hhalted (hcycle.unread trivial)
  have homs : (PaperRuntime.runOnce o rt s cutoff crashAt sys.world).2.2.oms = sys.world.oms := by
    have hwp : Prog.wp (PaperRuntime.runOnce o rt s cutoff) (fun _ w => w.oms = sys.world.oms)
        (fun _ w => w.oms = sys.world.oms) sys.world :=
      PaperRuntime.runOnce_halted_wp hsettled
    obtain ⟨hok, herr⟩ := wp_apply hwp crashAt
    rcases hcase : PaperRuntime.runOnce o rt s cutoff crashAt sys.world with ⟨e | cycle, n, world⟩
    · exact herr _ _ _ hcase
    · exact hok _ _ _ hcase
  rw [← homs]
  rcases step_cycle hcall with rfl | hrestart
  · rfl
  · exact restarted_submissions hrestart

end ControlSystem

/-! ## A paper runtime under control -/

open ControlSystem

def onePaperCycle : ControlAction :=
  .runOnce onePaperOrder (paperCycle venueFailsLater) (.ofTimestamp 0) none 0

/-- A halt, then a cycle: nothing is sent. -/
theorem no_routing_while_halted_paper :
    ∃ sys sys', runFrom (step paperRuntimeOutside) (init .paper) [.trip 0 "drill"] = some sys ∧
      sys.step paperRuntimeOutside onePaperCycle = some sys' ∧
      sys'.world.oms.submissions = sys.world.oms.submissions := by
  have htripped : (runFrom (step paperRuntimeOutside) (init .paper) [.trip 0 "drill"]).any
      (fun sys => decide (sys.halted = true ∧ sys.control.killSwitch = some "drill") &&
        (sys.step paperRuntimeOutside onePaperCycle).isSome) = true := by
    decide +kernel
  obtain ⟨sys, hrun, hsys⟩ := (any_eq_true _ _).mp htripped
  obtain ⟨hstate, hcall⟩ := Bool.and_eq_true_iff.mp hsys
  obtain ⟨hhalted, hswitch⟩ := of_decide_eq_true hstate
  obtain ⟨sys', hcall⟩ := isSome_iff_exists.mp hcall
  have hheeded : Along (step paperRuntimeOutside) Heeded (init .paper) [.trip 0 "drill"] :=
    ⟨⟨fun _ _ hsame => (nomatch hsame), fun hcycle => (nomatch hcycle)⟩, fun _ _ => trivial⟩
  have hcycle : Heeded sys onePaperCycle := by
    refine ⟨fun _ htrips => (nomatch htrips), ?_⟩
    intro _ hopen
    rw [hswitch] at hopen
    cases hopen
  exact ⟨sys, sys', hrun, hcall, no_routing_while_halted hheeded hrun hhalted hcycle hcall⟩

def unreadTrip : List ControlAction := [.tripElsewhere 0 "drill"]

def repeatedTrip : List ControlAction :=
  [.trip 0 "drill",
    .command Dict.empty ⟨.resumePaper, "resume-paper-1", "checked"⟩ "owner" ⟨"cmd-1", 0, true, true⟩,
    .trip 0 "drill"]

def GoesUnheard (acts : List ControlAction) : Prop :=
  ∃ sys sys', runFrom (step paperRuntimeOutside) (init .paper) acts = some sys ∧
    sys.halted = true ∧ sys.step paperRuntimeOutside onePaperCycle = some sys' ∧
    PaperRuntime.attempted sys.world sys'.world = [1]

theorem goesUnheard_of_computed {acts : List ControlAction}
    (h : (runFrom (step paperRuntimeOutside) (init .paper) acts).any (fun sys => sys.halted &&
      (sys.step paperRuntimeOutside onePaperCycle).any fun sys' =>
        decide (PaperRuntime.attempted sys.world sys'.world = [1])) = true) :
    GoesUnheard acts := by
  obtain ⟨sys, hrun, hsys⟩ := (any_eq_true _ _).mp h
  obtain ⟨hhalted, hcall⟩ := Bool.and_eq_true_iff.mp hsys
  obtain ⟨sys', hcall, hsent⟩ := (any_eq_true _ _).mp hcall
  exact ⟨sys, sys', hrun, hhalted, hcall, of_decide_eq_true hsent⟩

/-- **Two halts that go unheard.** One is a trip of another process, the other a trip
that repeats the reason of an earlier one. -/
theorem halts_go_unheard : GoesUnheard unreadTrip ∧ GoesUnheard repeatedTrip :=
  ⟨goesUnheard_of_computed (by decide +kernel), goesUnheard_of_computed (by decide +kernel)⟩

end AdvisorAI
