import AdvisorAI.Contracts.Decisions
import AdvisorAI.Lib.Prog
import AdvisorAI.Lib.Runs
import AdvisorAI.Observability.Incidents

/-!
# Problems of the paper learning loop

The loop keeps decisions, problems and replays in memory, and in the MISSION ledger, from which a
new process reads them. A problem of certain kinds is given an incident first: the call writes to
the INCIDENT ledger under an id it draws, and the problem is stored with that id. The caller does
not know the id, and the same problem is another one when it is handed over again.

`retries_alike` says which runs answer every retry as they answered at first, with one incident at
most. A process may die between any two writes, and is replaced by a new one.
-/

namespace AdvisorAI

open Lib Prog
open List hiding after

/-! ## The records -/

inductive ProblemKind where
  | dataAvailability | lineage | calibration | evidenceIndependence | targetConstruction
  | riskRejection | executionCost | venueApi | reconciliation | resources | operatorProcess
deriving DecidableEq

def ProblemKind.value : ProblemKind → String
  | .dataAvailability => "data_availability_quality"
  | .lineage => "lineage"
  | .calibration => "calibration"
  | .evidenceIndependence => "evidence_independence"
  | .targetConstruction => "target_construction"
  | .riskRejection => "risk_rejection"
  | .executionCost => "execution_cost"
  | .venueApi => "venue_api"
  | .reconciliation => "reconciliation"
  | .resources => "resources"
  | .operatorProcess => "operator_process"

structure LearningProblem where
  problemId : UUID
  decisionId : UUID
  kind : ProblemKind
  severity : IncidentSeverity
  summary : String
  evidenceIds : List UUID
  detectedAt : Timestamp
  incidentId : Option UUID := none
  replayRequired : Bool := true
  replayId : Option UUID := none
  correctiveTest : Option String := none
deriving DecidableEq

structure ReplayResult where
  replayId : UUID
  problemId : UUID
  passed : Bool
  outputHash : String
  regressionTest : String
  details : List String
  replayedAt : Timestamp
deriving DecidableEq

/-- The payloads of the loop in the MISSION ledger. -/
inductive LearningRecord where
  | decision (decision : PaperDecisionRecord)
  | problem (problem : LearningProblem)
  | replay (replay : ReplayResult) (problem : LearningProblem)
deriving DecidableEq

def LearningRecord.eventType : LearningRecord → String
  | .decision _ => "paper_decision_chain"
  | .problem _ => "paper_learning_problem"
  | .replay _ _ => "paper_replay_recorded"

abbrev LearningEvent := LedgerEvent String LearningRecord

/-- The two ledgers and the memory of the process. -/
structure LearningWorld where
  missions : List LearningEvent := []
  incidents : List IncidentRow := []
  decisions : Dict UUID PaperDecisionRecord := Dict.empty
  problems : Dict UUID LearningProblem := Dict.empty
  replays : Dict UUID ReplayResult := Dict.empty

/-! ## The loop -/

namespace PaperLearningLoop

abbrev Learning (α : Type) := Prog LearningWorld PyError α

/-- One event of the scan of `_hydrate`. The type of an event is that of its payload. -/
def hydrateEvent (w : LearningWorld) (event : LearningEvent) : LearningWorld :=
  match event.payload with
  | .decision decision =>
    { w with decisions := w.decisions.set decision.decisionId decision }
  | .problem problem => { w with problems := w.problems.set problem.problemId problem }
  | .replay replay _ => { w with replays := w.replays.set replay.problemId replay }

def hydrate (w : LearningWorld) : LearningWorld :=
  w.missions.foldl hydrateEvent { missions := w.missions, incidents := w.incidents }

variable (at_ : IncidentLedger.RowSurroundings)

def event (key : String) (record : LearningRecord) :
    LearningEvent where
  eventId := at_.eventId
  eventType := record.eventType
  idempotencyKey := key
  occurredAt := at_.occurredAt
  payload := record

def append (e : LearningEvent) : Learning LearningEvent :=
  Prog.atomic fun w =>
    let (result, missions) := SqliteLedgers.append w.missions e
    (result, { w with missions })

def recordDecision (decision : PaperDecisionRecord) :
    Learning PaperDecisionRecord := do
  let prior ← Prog.read fun w => w.decisions.get decision.decisionId
  if prior.any (· ≠ decision) then
    Prog.raise (valueError "paper decision ID is immutable")
  else
    let _ ← append (event at_ decision.key (.decision decision))
    Prog.modify fun w => { w with decisions := w.decisions.set decision.decisionId decision }
    return decision

/-- The arguments of `record_problem`. -/
structure ProblemCall where
  problem : LearningProblem
  createIncident : Option Bool := none
deriving DecidableEq

/-- What a call of `record_problem` draws and reads from the clock. -/
structure ProblemSurroundings where
  incidentId : UUID
  now : Timestamp
  incidentRow : IncidentLedger.RowSurroundings
  missionRow : IncidentLedger.RowSurroundings

def incidentKinds : List ProblemKind :=
  [.riskRejection, .venueApi, .reconciliation, .resources, .operatorProcess]

namespace ProblemCall

variable (c : ProblemCall) (s : ProblemSurroundings)

def shouldIncident : Bool := c.createIncident.getD (c.problem.kind ∈ incidentKinds)

/-- The call is to give the problem an incident. -/
def makesIncident : Bool := c.shouldIncident && c.problem.incidentId.isNone

def incident : IncidentFields where
  incidentId := s.incidentId
  severity := c.problem.severity
  owner := "paper-learning"
  summary := c.problem.summary
  runbook := "docs/runbooks/paper-problem-" ++ c.problem.kind.value ++ ".md"
  evidenceIds := c.problem.evidenceIds
  timeline := []
  containment := "keep paper runtime fail-closed; do not promote a challenger"
  reconciliation := "pending"
  rootCause := none
  correctiveTest := none
  rollbackLink := none
  closedAt := none
  openedAt := s.now

def stored : LearningProblem :=
  if c.makesIncident then { c.problem with incidentId := some s.incidentId } else c.problem

def event : LearningEvent :=
  PaperLearningLoop.event s.missionRow ("paper-problem:" ++ uuidText c.problem.problemId)
    (.problem (c.stored s))

end ProblemCall

variable (digest : IncidentContent → String) (uuid5 : String → UUID)

/-- `self.incidents.record(incident)`. -/
def recordIncident (s : ProblemSurroundings) (c : ProblemCall) : Learning Incident :=
  Prog.atomic fun w =>
    let (result, incidents) := IncidentLedger.record digest s.incidentRow (c.incident s) w.incidents
    (result, { w with incidents })

def recordProblem (s : ProblemSurroundings) (c : ProblemCall) : Learning LearningProblem := do
  let decision ← Prog.read fun w => w.decisions.get c.problem.decisionId
  let existing ← Prog.read fun w => w.problems.get c.problem.problemId
  if decision = none then
    Prog.raise ⟨"KeyError", pyRepr ("unknown paper decision " ++ uuidText c.problem.decisionId)⟩
  else if existing.any (· ≠ c.problem) then
    Prog.raise (valueError "paper learning problem ID is immutable")
  else
    if c.makesIncident then
      let _ ← recordIncident digest s c
    let _ ← append (c.event s)
    Prog.modify fun w => { w with problems := w.problems.set c.problem.problemId (c.stored s) }
    return c.stored s

/-- What the runner of a replay returns. -/
structure ReplayOutput where
  outputHash : String
  passed : Bool
  regressionTest : String
  details : List String

def replayOf (problem : LearningProblem) (decision : PaperDecisionRecord) (out : ReplayOutput) :
    ReplayResult where
  replayId := uuid5 ("advisorai-v3/paper-replay/" ++ uuidText problem.problemId ++ "/"
    ++ out.outputHash)
  problemId := problem.problemId
  passed := out.passed
  outputHash := out.outputHash
  regressionTest := out.regressionTest
  details := out.details
  replayedAt := decision.recordedAt

def replay (first second : IncidentLedger.RowSurroundings) (problemId : UUID)
    (output : Except PyError ReplayOutput) : Learning ReplayResult := do
  let w ← Prog.read id
  match w.problems.get problemId with
  | none => Prog.raise ⟨"KeyError", pyRepr (uuidText problemId)⟩
  | some problem =>
    match w.decisions.get problem.decisionId with
    | none => Prog.raise ⟨"KeyError", "UUID(" ++ pyRepr (uuidText problem.decisionId) ++ ")"⟩
    | some decision =>
      let out ← Prog.lift output
      if (w.replays.get problemId).any (·.outputHash ≠ out.outputHash) then
        Prog.raise (valueError "a paper problem cannot be replayed with a different output")
      else if out.regressionTest = "" then
        Prog.raise ⟨"ValidationError", "String should have at least 1 character"⟩
      else
        let result := replayOf uuid5 problem decision out
        let updated := { problem with
          replayId := some result.replayId
          replayRequired := false
          correctiveTest := some out.regressionTest }
        Prog.modify fun w => { w with
          problems := w.problems.set problemId updated
          replays := w.replays.set problemId result }
        let _ ← append (event first ("paper-replay:" ++ uuidText result.replayId)
          (.replay result updated))
        let _ ← append (event second ("paper-problem-replayed:" ++ uuidText problemId ++ ":"
          ++ uuidText result.replayId) (.problem updated))
        return result

/-! ## Runs -/

/-- A call of `record_problem` that was made: how it ended, and whether it wrote an incident. -/
structure Attempt where
  call : ProblemCall
  outcome : Except (Stop PyError) LearningProblem
  wrote : Bool

def Attempt.raised (a : Attempt) : Bool :=
  match a.outcome with
  | .error (.raised _) => true
  | _ => false

/-- The loop and what has been asked of it. -/
structure LearningSystem where
  world : LearningWorld := {}
  attempts : List Attempt := []

/-- A call, with the atomic steps after which its process dies; or what others add to the INCIDENT
ledger. `record_outcome` writes to neither ledger, and to none of the three dictionaries. -/
inductive LearningAction where
  | recordDecision (budget : Option ℕ) (at_ : IncidentLedger.RowSurroundings)
      (decision : PaperDecisionRecord)
  | recordProblem (budget : Option ℕ) (s : ProblemSurroundings) (c : ProblemCall)
  | replay (budget : Option ℕ) (first second : IncidentLedger.RowSurroundings) (problemId : UUID)
      (output : Except PyError ReplayOutput)
  | elsewhere (rows : List IncidentRow)

/-- How a call ends, and the world after it: a process that died is replaced. -/
def ended {α : Type} (x : Learning α) (budget : Option ℕ) (w : LearningWorld) :
    Except (Stop PyError) α × LearningWorld :=
  match x budget w with
  | (.error .crashed, _, w) => (.error .crashed, hydrate w)
  | (result, _, w) => (result, w)

def attemptOf (budget : Option ℕ) (s : ProblemSurroundings) (c : ProblemCall) (w : LearningWorld) :
    Attempt :=
  let (outcome, after) := ended (recordProblem digest s c) budget w
  ⟨c, outcome, decide (after.incidents ≠ w.incidents)⟩

namespace LearningSystem

variable (sys : LearningSystem)

def step : LearningAction → Option LearningSystem
  | .recordDecision budget at_ decision =>
    some { sys with world := (ended (PaperLearningLoop.recordDecision at_ decision) budget sys.world).2 }
  | .recordProblem budget s c => some
    { world := (ended (PaperLearningLoop.recordProblem digest s c) budget sys.world).2
      attempts := sys.attempts ++ [attemptOf digest budget s c sys.world] }
  | .replay budget first second problemId output => some { sys with
      world := (ended (PaperLearningLoop.replay uuid5 first second problemId output) budget
        sys.world).2 }
  | .elsewhere rows =>
    some { sys with world := { sys.world with incidents := sys.world.incidents ++ rows } }

/-- The calls like `c` that returned or died. -/
def tried (c : ProblemCall) : List Attempt :=
  sys.attempts.filter fun a => a.call = c && !a.raised

/-- **What is asked of a retry**: it does not raise, it returns what was returned before, and one
incident at most has been written for the problem. -/
def RetriesAlike : LearningAction → Prop
  | .recordProblem budget s c => sys.tried c ≠ [] →
    let now := attemptOf digest budget s c sys.world
    now.raised = false ∧
      (∀ p ∈ now.outcome.toOption, ∀ a ∈ sys.tried c, ∀ q ∈ a.outcome.toOption, q = p) ∧
      ((sys.attempts ++ [now]).filter fun a => a.call = c && a.wrote).length ≤ 1
  | _ => True

/-- The condition. Memory and ledger hold nothing else than the problem under its id and its key;
and the call makes no incident, or those before it died without one and it can write its own. -/
def Meets : LearningAction → Prop
  | .recordProblem _ s c => sys.tried c ≠ [] →
    (∀ p ∈ sys.world.problems.get c.problem.problemId, p = c.problem) ∧
      SqliteLedgers.Agrees sys.world.missions (c.event s) ∧
      (c.makesIncident = true →
        (∀ a ∈ sys.attempts, a.call = c → a.wrote = false ∧ a.outcome.toOption = none) ∧
        (IncidentLedger.record digest s.incidentRow (c.incident s)
          sys.world.incidents).1.toOption.isSome)
  | _ => True

instance (events : List LearningEvent) (e : LearningEvent) :
    Decidable (SqliteLedgers.Agrees events e) :=
  match h : SqliteLedgers.findKey events e.idempotencyKey with
  | some existing =>
    decidable_of_iff (existing.eventType = e.eventType ∧ existing.payload = e.payload)
      (by unfold SqliteLedgers.Agrees; rw [h])
  | none =>
    decidable_of_iff (∀ stored ∈ events, stored.eventId ≠ e.eventId)
      (by unfold SqliteLedgers.Agrees; rw [h])

instance (sys : LearningSystem) :
    (action : LearningAction) → Decidable (sys.RetriesAlike digest action)
  | .recordProblem _ _ _ => inferInstanceAs (Decidable (_ → _ ∧ _ ∧ _))
  | .recordDecision _ _ _ | .replay _ _ _ _ _ | .elsewhere _ => .isTrue trivial

instance (sys : LearningSystem) : (action : LearningAction) → Decidable (sys.Meets digest action)
  | .recordProblem _ _ _ => inferInstanceAs (Decidable (_ → _ ∧ _ ∧ _))
  | .recordDecision _ _ _ | .replay _ _ _ _ _ | .elsewhere _ => .isTrue trivial

end LearningSystem

/-! ## One call -/

variable {digest uuid5} {w w' : LearningWorld} {e : LearningEvent}

/-- The MISSION ledger has a decision of this id. -/
def Decided (w : LearningWorld) (id : UUID) : Prop :=
  ∃ e ∈ w.missions, ∃ d, e.payload = .decision d ∧ d.decisionId = id

/-- The memory knows the decisions of the ledger. -/
def Current (w : LearningWorld) : Prop := ∀ id, w.decisions.get id ≠ none ↔ Decided w id

theorem append_wp {Q : LearningEvent → LearningWorld → Prop}
    {E : Stop PyError → LearningWorld → Prop} (hcrash : E .crashed w)
    (hraise : ¬SqliteLedgers.Agrees w.missions e → ∀ error, E (.raised error) w)
    (hold : (∃ old ∈ w.missions, old.payload = e.payload) → ∀ stored, Q stored w)
    (hnew : Q e { w with missions := w.missions ++ [e] }) : Prog.wp (append e) Q E w := by
  refine wp_atomic hcrash ?_
  rcases SqliteLedgers.append_cases w.missions e with
    ⟨error, happend⟩ | ⟨old, hmem, -, hpayload, happend⟩ | ⟨-, happend⟩
  · rw [happend]
    refine hraise ?_ error
    intro hagrees
    obtain ⟨stored, hstored⟩ := SqliteLedgers.append_of_agrees hagrees
    rw [happend] at hstored
    cases hstored
  · rw [happend]
    exact hold ⟨old, hmem, hpayload⟩ old
  · rw [happend]
    exact hnew

theorem decided_append {id : UUID} : Decided { w with missions := w.missions ++ [e] } id ↔
    Decided w id ∨ ∃ d, e.payload = .decision d ∧ d.decisionId = id := by
  unfold Decided
  simp only [mem_append, mem_singleton, or_and_right, exists_or, exists_eq_left]

theorem hydrate_spec (w : LearningWorld) : (hydrate w).missions = w.missions ∧
    (hydrate w).incidents = w.incidents ∧ Current (hydrate w) := by
  have hscan : ∀ (l : List LearningEvent) (v : LearningWorld),
      (l.foldl hydrateEvent v).missions = v.missions ∧
      (l.foldl hydrateEvent v).incidents = v.incidents ∧
      ∀ id, (l.foldl hydrateEvent v).decisions.get id ≠ none ↔ v.decisions.get id ≠ none ∨
        ∃ e ∈ l, ∃ d, e.payload = .decision d ∧ d.decisionId = id := by
    intro l
    induction l with
    | nil => exact fun v => ⟨rfl, rfl, fun id => by simp⟩
    | cons e rest ih =>
      intro v
      obtain ⟨hmissions, hincidents, hdecisions⟩ := ih (hydrateEvent v e)
      have hone : (hydrateEvent v e).missions = v.missions ∧
          (hydrateEvent v e).incidents = v.incidents ∧
          ∀ id, (hydrateEvent v e).decisions.get id ≠ none ↔ v.decisions.get id ≠ none ∨
            ∃ d, e.payload = .decision d ∧ d.decisionId = id := by
        unfold hydrateEvent
        cases e.payload with
        | decision d =>
          refine ⟨rfl, rfl, ?_⟩
          intro id
          show Dict.get (Dict.set _ _ _) id ≠ none ↔ _
          rw [Dict.get_set]
          by_cases hid : id = d.decisionId
          · simp [hid]
          · simp [hid, Ne.symm hid]
        | problem | replay => exact ⟨rfl, rfl, fun id => by simp⟩
      refine ⟨hmissions.trans hone.1, hincidents.trans hone.2.1, ?_⟩
      intro id
      rw [foldl_cons, hdecisions, hone.2.2, or_assoc]
      simp only [mem_cons, or_and_right, exists_or, exists_eq_left]
  obtain ⟨hmissions, hincidents, hdecisions⟩ :=
    hscan w.missions { missions := w.missions, incidents := w.incidents }
  refine ⟨hmissions, hincidents, ?_⟩
  intro id
  rw [hydrate, hdecisions, Decided, hmissions]
  simp only [ne_eq, or_iff_right_iff_imp]
  exact fun h => absurd rfl h

/-- The memory is still current, and no decision is forgotten. -/
def Goes (w w' : LearningWorld) : Prop := Current w' ∧ ∀ id, Decided w id → Decided w' id

theorem Goes.refl (hw : Current w) : Goes w w := ⟨hw, fun _ h => h⟩

theorem Goes.appended (hw : Current w) (he : ∀ d, e.payload ≠ .decision d)
    (hdecisions : w'.decisions = w.decisions) (hmissions : w'.missions = w.missions ++ [e]) :
    Goes w w' := by
  have hiff : ∀ id, Decided w' id ↔ Decided w id := by
    intro id
    unfold Decided
    rw [hmissions]
    refine decided_append.trans (or_iff_left ?_)
    rintro ⟨d, hd, -⟩
    exact he d hd
  refine ⟨?_, fun id h => (hiff id).mpr h⟩
  intro id
  rw [hdecisions, hiff]
  exact hw id

theorem recordDecision_wp (hw : Current w) (at_ : IncidentLedger.RowSurroundings)
    (decision : PaperDecisionRecord) :
    Prog.wp (recordDecision at_ decision) (fun _ w' => Goes w w') (fun _ w' => Goes w w') w := by
  refine wp_bind (wp_read ?_)
  refine wp_ite (fun _ => wp_raise (.refl hw)) fun _ => ?_
  -- Once the ledger has the decision, the memory is to have it too.
  have hset : ∀ v : LearningWorld, v.decisions = w.decisions →
      (∀ id, Decided v id ↔ Decided w id ∨ decision.decisionId = id) →
      Goes w { v with decisions := v.decisions.set decision.decisionId decision } := by
    intro v hdecisions hdecided
    refine ⟨?_, fun id h => (hdecided id).mpr (.inl h)⟩
    intro id
    show Dict.get (Dict.set _ _ _) id ≠ none ↔ Decided v id
    rw [hdecided, ← hw id, Dict.get_set, hdecisions]
    by_cases hid : id = decision.decisionId
    · simp [hid]
    · simp [hid, Ne.symm hid]
  refine wp_bind (append_wp (.refl hw) (fun _ _ => .refl hw) ?_ ?_)
  · rintro ⟨old, hold, hpayload⟩ stored
    refine wp_bind (wp_modify (wp_pure (hset w rfl ?_)))
    intro id
    refine (or_iff_left_of_imp ?_).symm
    rintro rfl
    exact ⟨old, hold, decision, hpayload, rfl⟩
  · refine wp_bind (wp_modify (wp_pure (hset _ rfl ?_)))
    intro id
    rw [decided_append]
    refine or_congr_right ⟨?_, fun h => ⟨decision, rfl, h⟩⟩
    rintro ⟨d, hd, hid⟩
    cases hd
    exact hid

/-- Nothing stands in the way of a call. -/
def Ready (digest : IncidentContent → String) (w : LearningWorld) (s : ProblemSurroundings)
    (c : ProblemCall) : Prop :=
  w.decisions.get c.problem.decisionId ≠ none ∧
    (∀ p ∈ w.problems.get c.problem.problemId, p = c.problem) ∧
    SqliteLedgers.Agrees w.missions (c.event s) ∧
    (c.makesIncident = true → (IncidentLedger.record digest s.incidentRow (c.incident s)
      w.incidents).1.toOption.isSome)

theorem recordProblem_wp (hw : Current w) (s : ProblemSurroundings) (c : ProblemCall) :
    Prog.wp (recordProblem digest s c)
      (fun p w' => p = c.stored s ∧ w.decisions.get c.problem.decisionId ≠ none ∧ Goes w w' ∧
        (w'.incidents ≠ w.incidents → c.makesIncident = true))
      (fun stop w' => Goes w w' ∧ (w'.incidents ≠ w.incidents → c.makesIncident = true) ∧
        (stop = .crashed → w.decisions.get c.problem.decisionId ≠ none) ∧
        (stop ≠ .crashed → ¬Ready digest w s c)) w := by
  refine wp_bind (wp_read ?_)
  refine wp_bind (wp_read ?_)
  refine wp_ite ?_ ?_
  · intro hnone
    exact wp_raise ⟨.refl hw, fun h => absurd rfl h, nofun, fun _ h => h.1 hnone⟩
  intro hdecision
  refine wp_ite ?_ ?_
  · intro hother
    refine wp_raise ⟨.refl hw, fun h => absurd rfl h, nofun, ?_⟩
    rintro - ⟨-, hsame, -⟩
    obtain ⟨p, hp, hne⟩ := Option.any_eq_true _ _ |>.mp hother
    exact of_decide_eq_true hne (hsame p hp)
  intro _
  -- The two writes: what the first leaves differs in the INCIDENT ledger alone.
  have hrest : ∀ v : LearningWorld, v.missions = w.missions → v.decisions = w.decisions →
      (v.incidents ≠ w.incidents → c.makesIncident = true) →
      Prog.wp (do
        let _ ← append (c.event s)
        Prog.modify fun w => { w with problems := w.problems.set c.problem.problemId (c.stored s) }
        return c.stored s : Learning LearningProblem)
        (fun p w' => p = c.stored s ∧ w.decisions.get c.problem.decisionId ≠ none ∧ Goes w w' ∧
          (w'.incidents ≠ w.incidents → c.makesIncident = true))
        (fun stop w' => Goes w w' ∧ (w'.incidents ≠ w.incidents → c.makesIncident = true) ∧
          (stop = .crashed → w.decisions.get c.problem.decisionId ≠ none) ∧
          (stop ≠ .crashed → ¬Ready digest w s c)) v := by
    intro v hmissions hdecisions hincidents
    have hsame : ∀ u : LearningWorld, u.missions = w.missions → u.decisions = w.decisions →
        Goes w u := by
      intro u hm hd
      have hiff : ∀ id, Decided u id ↔ Decided w id := by
        intro id
        unfold Decided
        rw [hm]
      exact ⟨fun id => by rw [hd, hiff]; exact hw id, fun id h => (hiff id).mpr h⟩
    refine wp_bind (append_wp ⟨hsame v hmissions hdecisions, hincidents, fun _ => hdecision,
      fun h => absurd rfl h⟩ ?_ ?_ ?_)
    · intro hnot error
      refine ⟨hsame v hmissions hdecisions, hincidents, nofun, ?_⟩
      rintro - ⟨-, -, hagrees, -⟩
      exact hnot (hmissions ▸ hagrees)
    · intro _ _
      exact wp_bind (wp_modify (wp_pure
        ⟨rfl, hdecision, hsame _ hmissions hdecisions, hincidents⟩))
    · refine wp_bind (wp_modify (wp_pure ⟨rfl, hdecision, ?_, hincidents⟩))
      exact .appended hw (e := c.event s) (fun _ h => by cases h) hdecisions
        (congrArg (· ++ [c.event s]) hmissions)
  by_cases hmakes : c.makesIncident = true
  · rw [if_pos hmakes]
    refine wp_bind (wp_atomic ⟨.refl hw, fun h => absurd rfl h,
      fun _ => hdecision, fun h => absurd rfl h⟩ ?_)
    cases hrecord : IncidentLedger.record digest s.incidentRow (c.incident s) w.incidents with
    | mk result incidents =>
      cases result with
      | ok incident => exact hrest _ rfl rfl fun _ => hmakes
      | error error =>
        refine ⟨⟨hw, fun _ h => h⟩, fun _ => hmakes, nofun, ?_⟩
        rintro - ⟨-, -, -, hrecords⟩
        have hincident := hrecords hmakes
        rw [hrecord] at hincident
        cases hincident
  · rw [if_neg hmakes]
    exact hrest w rfl rfl fun h => absurd rfl h

theorem replay_wp (hw : Current w) (first second : IncidentLedger.RowSurroundings)
    (problemId : UUID) (output : Except PyError ReplayOutput) :
    Prog.wp (replay uuid5 first second problemId output) (fun _ w' => Goes w w')
      (fun _ w' => Goes w w') w := by
  have hraise : ∀ error : PyError, Prog.wp (Prog.raise error : Learning ReplayResult)
      (fun _ w' => Goes w w') (fun _ w' => Goes w w') w := fun _ => wp_raise (.refl hw)
  refine wp_bind (wp_read ?_)
  dsimp only [id]
  split
  · exact hraise _
  split
  · exact hraise _
  refine wp_bind (wp_lift (fun out _ => ?_) (fun _ _ => .refl hw))
  refine wp_ite (fun _ => hraise _) fun _ => wp_ite (fun _ => hraise _) fun _ => ?_
  have hkept : ∀ {v u : LearningWorld}, Goes w v → u.missions = v.missions →
      u.decisions = v.decisions → Goes w u := by
    intro v u hv hm hd
    unfold Goes Current Decided
    rw [hm, hd]
    exact hv
  have happended : ∀ {v : LearningWorld} {e : LearningEvent}
      {Q : LearningEvent → LearningWorld → Prop}, Goes w v →
      (∀ d, e.payload ≠ .decision d) → (∀ u stored, Goes w u → Q stored u) →
      Prog.wp (append e) Q (fun _ w' => Goes w w') v := by
    intro v e Q hv he hQ
    refine append_wp hv (fun _ _ => hv) (fun _ stored => hQ v stored hv) (hQ _ e ?_)
    obtain ⟨hcurrent, hgrows⟩ : Goes v { v with missions := v.missions ++ [e] } :=
      .appended hv.1 he rfl rfl
    exact ⟨hcurrent, fun id h => hgrows id (hv.2 id h)⟩
  refine wp_bind (wp_modify (wp_bind (happended (hkept (.refl hw) rfl rfl)
    (fun _ h => by cases h) ?_)))
  intro u _ hu
  refine wp_bind (happended hu (fun _ h => by cases h) ?_)
  exact fun _ _ hv => wp_pure hv

/-! ## Runs -/

/-- What holds in every system. -/
structure Follows (sys : LearningSystem) : Prop where
  current : Current sys.world
  decided : ∀ a ∈ sys.attempts, a.raised = false → Decided sys.world a.call.problem.decisionId
  quiet : ∀ a ∈ sys.attempts, a.wrote = true → a.call.makesIncident = true
  plain : ∀ a ∈ sys.attempts, a.call.makesIncident = false →
    ∀ p ∈ a.outcome.toOption, p = a.call.problem

theorem ended_goes {α : Type} {x : Learning α} (h : Prog.wp x (fun _ w' => Goes w w')
    (fun _ w' => Goes w w') w) (budget : Option ℕ) : Goes w (ended x budget w).2 := by
  obtain ⟨hreturns, hstops⟩ := wp_apply h budget
  unfold ended
  rcases hx : x budget w with ⟨_ | _, budget', w'⟩
  · next stop =>
    have hgoes := hstops stop budget' w' hx
    cases stop with
    | raised error => exact hgoes
    | crashed =>
      obtain ⟨hmissions, -, hcurrent⟩ := hydrate_spec w'
      refine ⟨hcurrent, fun id hid => ?_⟩
      show Decided (hydrate w') id
      unfold Decided
      rw [hmissions]
      exact hgoes.2 id hid
  · next a => exact hreturns a budget' w' hx

theorem attemptOf_spec (hw : Current w) (budget : Option ℕ) (s : ProblemSurroundings)
    (c : ProblemCall) :
    ((attemptOf digest budget s c w).raised = true → ¬Ready digest w s c) ∧
    ((attemptOf digest budget s c w).raised = false → w.decisions.get c.problem.decisionId ≠ none) ∧
    ((attemptOf digest budget s c w).wrote = true → c.makesIncident = true) ∧
    ∀ p ∈ (attemptOf digest budget s c w).outcome.toOption, p = c.stored s := by
  obtain ⟨hreturns, hstops⟩ := wp_apply (@recordProblem_wp digest w hw s c) budget
  unfold attemptOf ended Attempt.raised
  rcases hx : recordProblem digest s c budget w with ⟨_ | _, budget', w'⟩
  · next stop =>
    obtain ⟨-, hwrote, hdied, hraised⟩ := hstops stop budget' w' hx
    cases stop with
    | raised error =>
      exact ⟨fun _ => hraised nofun, nofun, fun h => hwrote (of_decide_eq_true h), nofun⟩
    | crashed =>
      refine ⟨nofun, fun _ => hdied rfl, fun h => hwrote ?_, nofun⟩
      rw [← (hydrate_spec w').2.1]
      exact of_decide_eq_true h
  · next p =>
    obtain ⟨hp, hdecision, -, hwrote⟩ := hreturns p budget' w' hx
    exact ⟨nofun, fun _ => hdecision, fun h => hwrote (of_decide_eq_true h),
      fun q hq => (Option.mem_some.mp hq).symm.trans hp⟩

variable {action : LearningAction}

/-- **Step lemma.** -/
theorem Follows.step {sys sys' : LearningSystem} (h : Follows sys)
    (hstep : sys.step digest uuid5 action = some sys') : Follows sys' := by
  have hkept : ∀ w, Goes sys.world w → Follows { sys with world := w } := fun w hw =>
    ⟨hw.1, fun a ha hraised => hw.2 _ (h.decided a ha hraised), h.quiet, h.plain⟩
  cases action with
  | recordDecision budget at_ decision =>
    cases hstep
    exact hkept _ (ended_goes (recordDecision_wp h.current at_ decision) budget)
  | replay budget first second problemId output =>
    cases hstep
    exact hkept _ (ended_goes (replay_wp h.current first second problemId output) budget)
  | elsewhere rows =>
    cases hstep
    exact hkept _ ⟨h.current, fun _ hid => hid⟩
  | recordProblem budget s c =>
    cases hstep
    obtain ⟨-, hdecision, hwrote, hstored⟩ :=
      @attemptOf_spec digest sys.world h.current budget s c
    have hgoes : Goes sys.world (ended (recordProblem digest s c) budget sys.world).2 :=
      ended_goes (wp_mono (recordProblem_wp h.current s c) (fun _ _ hq => hq.2.2.1)
        (fun _ _ hq => hq.1)) budget
    have hlast : ∀ {P : Attempt → Prop}, (∀ a ∈ sys.attempts, P a) →
        P (attemptOf digest budget s c sys.world) →
        ∀ a ∈ sys.attempts ++ [attemptOf digest budget s c sys.world], P a := by
      intro P hall hone a ha
      rcases mem_append.mp ha with ha | ha
      · exact hall a ha
      · rw [mem_singleton.mp ha]
        exact hone
    refine ⟨hgoes.1, hlast (fun a ha hraised => hgoes.2 _ (h.decided a ha hraised)) ?_,
      hlast h.quiet hwrote, hlast h.plain ?_⟩
    · exact fun hraised => hgoes.2 _ ((h.current _).mp (hdecision hraised))
    · intro hquiet p hp
      rw [hstored p hp]
      unfold ProblemCall.stored
      exact if_neg (ne_true_of_eq_false hquiet)

/-- A retry that meets the condition. -/
theorem Follows.retry {sys : LearningSystem} (h : Follows sys) (hmeets : sys.Meets digest action) :
    sys.RetriesAlike digest action := by
  cases action with
  | recordDecision | replay | elsewhere => trivial
  | recordProblem budget s c =>
    intro htried
    obtain ⟨hsame, hagrees, hmakes⟩ := hmeets htried
    obtain ⟨hraised, -, hwrote, hstored⟩ :=
      @attemptOf_spec digest sys.world h.current budget s c
    have hmem : ∀ a ∈ sys.tried c, a ∈ sys.attempts ∧ a.call = c ∧ a.raised = false := by
      intro a ha
      obtain ⟨hmem, hcall⟩ := mem_filter.mp ha
      rw [Bool.and_eq_true, decide_eq_true_eq, Bool.not_eq_true'] at hcall
      exact ⟨hmem, hcall⟩
    refine ⟨?_, ?_, ?_⟩
    · -- The decision was there when the problem was tried, and is not forgotten.
      obtain ⟨a, ha⟩ := exists_mem_of_ne_nil _ htried
      obtain ⟨hmemA, rfl, hraisedA⟩ := hmem a ha
      have hready : Ready digest sys.world s a.call :=
        ⟨(h.current _).mpr (h.decided a hmemA hraisedA), hsame, hagrees, fun hm => (hmakes hm).2⟩
      exact Bool.eq_false_iff.mpr fun hr => hraised hr hready
    · intro p hp a ha q hq
      obtain ⟨hmemA, rfl, -⟩ := hmem a ha
      cases hquiet : a.call.makesIncident with
      | false =>
        rw [h.plain a hmemA hquiet q hq, hstored p hp]
        unfold ProblemCall.stored
        rw [hquiet]
        rfl
      | true =>
        rw [((hmakes hquiet).1 a hmemA rfl).2] at hq
        cases hq
    · rw [filter_append, length_append]
      have hnone : (sys.attempts.filter fun a => decide (a.call = c) && a.wrote) = [] := by
        rw [filter_eq_nil_iff]
        intro a ha hboth
        rw [Bool.and_eq_true, decide_eq_true_eq] at hboth
        obtain ⟨rfl, hwroteA⟩ := hboth
        have hnot := ((hmakes (h.quiet a ha hwroteA)).1 a ha rfl).1
        rw [hwroteA] at hnot
        cases hnot
      rw [hnone]
      exact (Nat.zero_add _).le.trans (length_filter_le _ _)

/-- **Every retry is answered alike** in a run whose retries find nothing else recorded, and make
no incident after one was written. -/
theorem retries_alike (digest : IncidentContent → String) (uuid5 : String → UUID)
    {actions : List LearningAction}
    (hmeets : Runs.Along (LearningSystem.step digest uuid5) (LearningSystem.Meets digest) {}
      actions) :
    Runs.Along (LearningSystem.step digest uuid5) (LearningSystem.RetriesAlike digest) {}
      actions := by
  have hstart : Follows {} := by
    refine ⟨?_, fun _ ha => absurd ha not_mem_nil, fun _ ha => absurd ha not_mem_nil,
      fun _ ha => absurd ha not_mem_nil⟩
    intro id
    refine iff_of_false (fun h => h rfl) ?_
    rintro ⟨e, he, -⟩
    exact not_mem_nil he
  refine Runs.along_iff.mpr ?_
  intro pre a post heq sys hrun
  have hfollows : Follows sys := Runs.run_invariant (fun _ _ _ h hstep => h.step hstep) hstart hrun
  exact hfollows.retry (Runs.along_iff.mp hmeets pre a post heq sys hrun)

/-! ## A problem with an incident -/

def paperDecision : PaperDecisionRecord :=
  ⟨1, 0, 0, [], 0, none, [], "paper-runtime", "v1", "decision", "BTC", "1h", 0, 1, 0, by decide⟩

def paperProblem (kind : ProblemKind) : ProblemCall :=
  { problem := ⟨2, 1, kind, .high, "the kernel rejects the target", [], 0, none, true, none, none⟩ }

/-- What the n-th call draws. -/
def drawn (n : ℕ) : ProblemSurroundings := ⟨100 + n, n, ⟨200 + n, n⟩, ⟨300 + n, n⟩⟩

/-- A decision, and a problem of it that is recorded twice, the first time up to some write. -/
def recordedTwice (kind : ProblemKind) (budget : Option ℕ) : List LearningAction :=
  [.recordDecision none ⟨10, 0⟩ paperDecision, .recordProblem budget (drawn 0) (paperProblem kind),
    .recordProblem none (drawn 1) (paperProblem kind)]

/-- **Witness.** A problem of a kind without incidents, recorded twice. -/
theorem evidence_retried : Runs.Along (LearningSystem.step (fun _ => "") fun _ => 0)
    (LearningSystem.RetriesAlike fun _ => "") {} (recordedTwice .evidenceIndependence none) :=
  retries_alike (fun _ => "") (fun _ => 0) (by decide +kernel)

/-- **Counterexample.** A problem with an incident: the retry raises, and where the process dies
between the two writes it makes a second incident. -/
theorem rejection_not_retried :
    (¬Runs.Along (LearningSystem.step (fun _ => "") fun _ => 0)
      (LearningSystem.RetriesAlike fun _ => "") {} (recordedTwice .riskRejection none)) ∧
    ¬Runs.Along (LearningSystem.step (fun _ => "") fun _ => 0)
      (LearningSystem.RetriesAlike fun _ => "") {} (recordedTwice .riskRejection (some 1)) := by
  decide +kernel

end PaperLearningLoop

end AdvisorAI
