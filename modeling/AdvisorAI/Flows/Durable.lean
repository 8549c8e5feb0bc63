import AdvisorAI.Ledger.Sqlite
import AdvisorAI.Lib.Journal
import AdvisorAI.Lib.Prog
import AdvisorAI.Lib.Runs

/-!
# Durable flows

A flow executes a task with retries and writes every state of the run into the
MISSION ledger. The task and the append of its success share one `try`: an
exception of either starts the next attempt. Every call draws a run id of its own
and asks the ledger nothing, so a task that was done is done again by the next call.

`never_again_of_meets` says when a task is not executed after it returned.
-/

namespace AdvisorAI

open Lib List Prog

/-! ## Runs and events -/

inductive FlowState where
  | pending | running | succeeded | failed | retrying
deriving DecidableEq

structure FlowRun where
  runId : UUID
  flowName : String
  state : FlowState
  attempt : ℕ
  startedAt : Option Timestamp
  finishedAt : Option Timestamp
  error : Option String
deriving DecidableEq

/-- The payload of a MISSION event: a run, or what others record there. -/
inductive FlowPayload where
  | run (run : FlowRun)
  | other (json : String)
deriving DecidableEq

abbrev FlowEvent := LedgerEvent String FlowPayload

/-- `f"flow:{run.run_id}:{event_type}:{run.attempt}"`. -/
def FlowRun.key (run : FlowRun) (eventType : String) : String :=
  "flow:" ++ uuidText run.runId ++ ":" ++ eventType ++ ":" ++ run.attempt.repr

structure DurableFlow where
  name : String
  maxRetries : ℕ
  /-- Whether the flow has a ledger. -/
  ledgers : Bool
  name_ne : isBlank name = false

/-! ## What surrounds a call -/

/-- What one append meets: the id it draws, the clock, and what the database raises. -/
structure AppendSurroundings where
  eventId : UUID
  occurredAt : Timestamp
  fault : Option PyError

/-- What one attempt meets: what the task does, and what its appends meet. -/
structure AttemptSurroundings (V : Type) where
  startedAt : Timestamp
  running : AppendSurroundings
  task : Except PyError V
  finishedAt : Timestamp
  succeeded : AppendSurroundings
  retrying : AppendSurroundings

structure FlowSurroundings (V : Type) where
  runId : UUID
  pending : AppendSurroundings
  attempt : ℕ → AttemptSurroundings V
  finishedAt : Timestamp
  failed : AppendSurroundings

/-- What happens to the task: it starts in some process, which sees the successes of
some runs in the ledger, and it returns, for some run, or raises. -/
inductive TaskEvent where
  | started (process : ℕ) (seen : List UUID)
  | returned (process : ℕ) (runId : UUID)
  | raised
deriving DecidableEq

structure FlowWorld where
  missions : List FlowEvent
  process : ℕ
  trace : List TaskEvent

def succeededRuns (missions : List FlowEvent) : List UUID :=
  missions.filterMap fun e =>
    match e.payload with
    | .run run => if e.eventType = "flow_succeeded" then some run.runId else none
    | .other _ => none

def FlowWorld.log (w : FlowWorld) (e : TaskEvent) : FlowWorld := { w with trace := w.trace ++ [e] }

@[simp] theorem FlowWorld.log_trace (w : FlowWorld) (e : TaskEvent) :
    (w.log e).trace = w.trace ++ [e] := rfl

abbrev Flow := Prog FlowWorld PyError

namespace DurableFlow

variable {V : Type} (flow : DurableFlow) (s : FlowSurroundings V)

/-! ## Running -/

variable (at_ : AppendSurroundings)

def event (run : FlowRun) (eventType : String) : FlowEvent where
  eventId := at_.eventId
  eventType := eventType
  idempotencyKey := run.key eventType
  occurredAt := at_.occurredAt
  payload := .run run

def record (run : FlowRun) (eventType : String) : Flow Unit :=
  if flow.ledgers = false then pure ()
  else Prog.atomic fun w =>
    let (result, missions) :=
      SqliteLedgers.appendUnder at_.fault w.missions (event at_ run eventType)
    (result.map fun _ => (), { w with missions := missions })

/-- `task()`. The process can die while the task is at work. -/
def execute (runId : UUID) (task : Except PyError V) : Flow V := do
  Prog.atomic fun w => (.ok (), w.log (.started w.process (succeededRuns w.missions)))
  Prog.atomic fun w =>
    match task with
    | .ok value => (.ok value, w.log (.returned w.process runId))
    | .error e => (.error e, w.log .raised)

/-- The body of the `try`. -/
def tryTask (a : AttemptSurroundings V) (run : FlowRun) : Flow (FlowRun × V) := do
  let value ← execute run.runId a.task
  let completed : FlowRun := { run with state := .succeeded, finishedAt := some a.finishedAt }
  flow.record a.succeeded completed "flow_succeeded"
  pure (completed, value)

/-- The loop over the attempts: `left` are left, the next one is the `k`-th. -/
def attempts : (left k : ℕ) → FlowRun → Option String → Flow (FlowRun × Option V)
  | 0, _, run, lastError => do
    let failed : FlowRun := { run with
      state := .failed
      finishedAt := some s.finishedAt
      error := lastError }
    flow.record s.failed failed "flow_failed"
    pure (failed, none)
  | left + 1, k, run, _ => do
    let a := s.attempt k
    let run : FlowRun := { run with
      state := .running
      attempt := k + 1
      startedAt := some a.startedAt }
    flow.record a.running run "flow_running"
    match ← Prog.attempt (flow.tryTask a run) with
    | .ok (completed, value) => pure (completed, some value)
    | .error e => do
      let lastError := e.typeName ++ ": " ++ e.message
      let run : FlowRun := { run with state := .retrying, error := some lastError }
      flow.record a.retrying run "flow_retrying"
      attempts left (k + 1) run (some lastError)

def run : Flow (FlowRun × Option V) := do
  let run : FlowRun := ⟨s.runId, flow.name, .pending, 0, none, none, none⟩
  flow.record s.pending run "flow_pending"
  flow.attempts s (flow.maxRetries + 1) 0 run none

end DurableFlow

/-! ## Histories -/

/-- A flow is called, with a point at which the process dies if it does, or its process
is restarted. -/
inductive FlowAction (V : Type) where
  | call (s : FlowSurroundings V) (crash : Option ℕ)
  | restart

def FlowWorld.restart (w : FlowWorld) : FlowWorld := { w with process := w.process + 1 }

/-- One action on the world. A crash is the end of the process. -/
def DurableFlow.step {V : Type} (flow : DurableFlow) (w : FlowWorld) :
    FlowAction V → Option FlowWorld
  | .call s crash =>
    match flow.run s crash w with
    | (.error .crashed, _, w') => some w'.restart
    | (_, _, w') => some w'
  | .restart => some w.restart

/-- What is done is not started again: not in its process, and not by one that sees its success. -/
def NeverAgain (trace : List TaskEvent) : Prop :=
  Journal.Each (fun earlier e => ∀ p seen, e = .started p seen →
    ∀ q runId, TaskEvent.returned q runId ∈ earlier → q ≠ p ∧ runId ∉ seen) trace

/-! ## When a task is not started again -/

/-- Nothing that was done in this process, or that the ledger shows as done. -/
def Undone (w : FlowWorld) : Prop :=
  ∀ q runId, TaskEvent.returned q runId ∈ w.trace →
    q ≠ w.process ∧ runId ∉ succeededRuns w.missions

namespace DurableFlow

variable {V : Type} {flow : DurableFlow} {s : FlowSurroundings V} {w w' : FlowWorld}

/-- Nothing in the table has the key or the id of a success of this call. -/
def Free (s : FlowSurroundings V) (missions : List FlowEvent) : Prop :=
  ∀ e ∈ missions, (∀ run : FlowRun, run.runId = s.runId →
    e.idempotencyKey ≠ run.key "flow_succeeded") ∧
    ∀ k, e.eventId ≠ (s.attempt k).succeeded.eventId

/-- A call that does not start what is done: nothing is done when it starts, the ids
it draws are new, and the ledger takes the success of every attempt after which
another one is left. -/
structure Meets (flow : DurableFlow) (s : FlowSurroundings V) (w : FlowWorld) : Prop where
  undone : Undone w
  free : Free s w.missions
  pending : ∀ k, s.pending.eventId ≠ (s.attempt k).succeeded.eventId
  running : ∀ j k, (s.attempt j).running.eventId ≠ (s.attempt k).succeeded.eventId
  retrying : ∀ j k, (s.attempt j).retrying.eventId ≠ (s.attempt k).succeeded.eventId
  taken : ∀ k < flow.maxRetries, ∀ value, (s.attempt k).task = .ok value →
    (s.attempt k).succeeded.fault = none

/-- The call goes on: its task was not done so far. -/
structure Going (s : FlowSurroundings V) (w : FlowWorld) : Prop where
  law : NeverAgain w.trace
  undone : Undone w
  free : Free s w.missions

theorem colon_not_mem_repr (n : ℕ) : ':' ∉ n.repr.toList := by
  intro h
  rw [Nat.toList_repr] at h
  exact absurd (Nat.isDigit_of_mem_toDigits (by decide) (by decide) h) (by decide)

variable {a b run : FlowRun} {t u eventType : String}

theorem key_inj (hrun : a.runId = b.runId) (h : a.key t = b.key u) : t = u := by
  unfold FlowRun.key at h
  rw [hrun] at h
  have hlist := congrArg String.toList h
  have hsep : ":".toList = [':'] := by decide
  simp only [String.toList_append, hsep, append_assoc, singleton_append] at hlist
  simp only [← append_assoc] at hlist
  obtain ⟨hfront, -⟩ := append_sep_inj (colon_not_mem_repr _) (colon_not_mem_repr _) hlist
  exact String.toList_inj.mp (List.cons.inj (append_cancel_left hfront)).2

theorem succeededRuns_concat (missions : List FlowEvent) {e : FlowEvent}
    (h : e.eventType ≠ "flow_succeeded") :
    succeededRuns (missions ++ [e]) = succeededRuns missions := by
  unfold succeededRuns
  rw [filterMap_append, filterMap_cons, filterMap_nil]
  cases e.payload with
  | run run => simp [h]
  | other json => simp

variable {at_ : AppendSurroundings}

theorem record_wp (hgoing : Going s w) (hrun : run.runId = s.runId)
    (htype : eventType ≠ "flow_succeeded")
    (hid : ∀ k, at_.eventId ≠ (s.attempt k).succeeded.eventId) :
    Prog.wp (flow.record at_ run eventType) (fun _ w' => Going s w')
      (fun _ w' => NeverAgain w'.trace) w := by
  refine wp_ite (fun _ => wp_pure hgoing) ?_
  intro _
  refine wp_atomic hgoing.law ?_
  unfold SqliteLedgers.appendUnder
  cases at_.fault with
  | some e => exact hgoing.law
  | none =>
    rcases SqliteLedgers.append_cases w.missions (event at_ run eventType) with
      ⟨e, happend⟩ | ⟨existing, -, -, -, happend⟩ | ⟨-, happend⟩
    · rw [happend]
      exact hgoing.law
    · rw [happend]
      exact hgoing
    · rw [happend]
      refine ⟨hgoing.law, ?_, ?_⟩
      · intro q runId hreturned
        obtain ⟨hprocess, hsucceeded⟩ := hgoing.undone q runId hreturned
        refine ⟨hprocess, ?_⟩
        rw [succeededRuns_concat _ htype]
        exact hsucceeded
      · intro e he
        rcases mem_append.mp he with hold | hnew
        · exact hgoing.free e hold
        · rw [mem_singleton.mp hnew]
          exact ⟨fun other hother hkey => htype (key_inj (hrun.trans hother.symm) hkey), hid⟩

theorem neverAgain_started (hgoing : Going s w) :
    NeverAgain (w.log (.started w.process (succeededRuns w.missions))).trace := by
  refine Journal.each_concat.mpr ⟨hgoing.law, ?_⟩
  intro p seen heq q runId hreturned
  cases heq
  exact hgoing.undone q runId hreturned

theorem neverAgain_log {e : TaskEvent} (h : NeverAgain w.trace)
    (hne : ∀ p seen, e ≠ .started p seen) : NeverAgain (w.log e).trace :=
  Journal.each_concat.mpr ⟨h, fun p seen heq => absurd heq (hne p seen)⟩

theorem execute_wp {task : Except PyError V} {runId : UUID} (hgoing : Going s w) :
    Prog.wp (execute runId task)
      (fun value w' => task = .ok value ∧ NeverAgain w'.trace ∧ w'.missions = w.missions)
      (fun e w' => NeverAgain w'.trace ∧ (e ≠ .crashed → Going s w')) w := by
  have hstarted := neverAgain_started hgoing
  refine wp_bind (wp_atomic ⟨hgoing.law, fun h => absurd rfl h⟩ ?_)
  refine wp_atomic ⟨hstarted, fun h => absurd rfl h⟩ ?_
  cases task with
  | ok value => exact ⟨rfl, neverAgain_log hstarted (fun _ _ h => nomatch h), rfl⟩
  | error e =>
    have hraised : NeverAgain ((w.log _).log .raised).trace :=
      neverAgain_log hstarted (fun _ _ h => nomatch h)
    refine ⟨hraised, fun _ => ⟨hraised, ?_, hgoing.free⟩⟩
    intro q runId hreturned
    have hmem : TaskEvent.returned q runId ∈ w.trace := by
      simpa using hreturned
    exact hgoing.undone q runId hmem

theorem record_law (h : NeverAgain w.trace) :
    Prog.wp (flow.record at_ run eventType) (fun _ w' => NeverAgain w'.trace)
      (fun _ w' => NeverAgain w'.trace) w := by
  refine wp_ite (fun _ => wp_pure h) ?_
  intro _
  refine wp_atomic h ?_
  dsimp only
  cases (SqliteLedgers.appendUnder at_.fault w.missions (event at_ run eventType)).1 with
  | ok stored => exact h
  | error e => exact h

theorem append_success {missions : List FlowEvent} (run : FlowRun) (k : ℕ)
    (hfree : Free s missions) (hrun : run.runId = s.runId) :
    ∃ stored missions', SqliteLedgers.append missions
      (event (s.attempt k).succeeded run "flow_succeeded") = (.ok stored, missions') :=
  ⟨_, _, SqliteLedgers.append_of_new (fun e he => (hfree e he).1 run hrun)
    (fun e he => (hfree e he).2 k)⟩

theorem tryTask_wp {k : ℕ} (hmeets : ∀ value, (s.attempt k).task = .ok value →
      k < flow.maxRetries → (s.attempt k).succeeded.fault = none) (hgoing : Going s w)
    (hrun : run.runId = s.runId) :
    Prog.wp (flow.tryTask (s.attempt k) run) (fun _ w' => NeverAgain w'.trace)
      (fun e w' => NeverAgain w'.trace ∧ (e ≠ .crashed → k < flow.maxRetries → Going s w')) w := by
  refine wp_bind (wp_mono (execute_wp hgoing) ?_
    (fun e w' ⟨hlaw, hraised⟩ => ⟨hlaw, fun hne _ => hraised hne⟩))
  intro value w₁ ⟨htask, hlaw, hmissions⟩
  refine wp_bind (wp_ite (fun _ => wp_pure (wp_pure hlaw)) ?_)
  intro _
  refine wp_atomic ⟨hlaw, fun h => absurd rfl h⟩ ?_
  by_cases hlast : k < flow.maxRetries
  · -- another attempt is left: the ledger takes the success
    obtain ⟨stored, missions', happend⟩ := append_success
      { run with state := .succeeded, finishedAt := some (s.attempt k).finishedAt } k hgoing.free hrun
    unfold SqliteLedgers.appendUnder
    rw [hmeets value htask hlast, hmissions]
    rw [happend]
    exact wp_pure hlaw
  · dsimp only
    cases (SqliteLedgers.appendUnder (s.attempt k).succeeded.fault w₁.missions _).1 with
    | ok stored => exact wp_pure hlaw
    | error e => exact ⟨hlaw, fun _ h => absurd h hlast⟩

/-- **Loop lemma.** As long as another attempt is left, the task was not done so far. -/
theorem attempts_wp (hmeets : ∀ k < flow.maxRetries, ∀ value, (s.attempt k).task = .ok value →
      (s.attempt k).succeeded.fault = none)
    (hrunning : ∀ j k, (s.attempt j).running.eventId ≠ (s.attempt k).succeeded.eventId)
    (hretrying : ∀ j k, (s.attempt j).retrying.eventId ≠ (s.attempt k).succeeded.eventId) :
    ∀ (left k : ℕ) (run : FlowRun) (lastError : Option String) (w : FlowWorld),
      left + k = flow.maxRetries + 1 → run.runId = s.runId → NeverAgain w.trace →
      (0 < left → Going s w) →
      Prog.wp (flow.attempts s left k run lastError) (fun _ w' => NeverAgain w'.trace)
        (fun _ w' => NeverAgain w'.trace) w := by
  intro left
  induction left with
  | zero =>
    intro k run lastError w _ _ hlaw _
    refine wp_bind (wp_mono (record_law hlaw) ?_ (fun _ _ h => h))
    intro _ w₁ hlaw
    exact wp_pure hlaw
  | succ left ih =>
    intro k run lastError w hk hrun _ hgoing
    refine wp_bind (wp_mono (record_wp (hgoing (Nat.succ_pos left)) hrun (by decide)
      (hrunning k)) ?_ (fun _ _ h => h))
    intro _ w₁ hgoing₁
    refine wp_bind (wp_attempt (wp_mono
      (tryTask_wp (fun value htask hlast => hmeets k hlast value htask) hgoing₁ hrun) ?_ ?_))
    · intro result w₂ hlaw
      exact wp_pure hlaw
    · intro e w₂ ⟨hlaw, hraised⟩
      cases e with
      | crashed => exact hlaw
      | raised e =>
        by_cases hlast : k < flow.maxRetries
        · refine wp_bind (wp_mono (record_wp (hraised (by simp) hlast) hrun (by decide)
            (hretrying k)) ?_ (fun _ _ h => h))
          intro _ w₃ hgoing₃
          exact ih (k + 1) _ _ w₃ (by omega) hrun hgoing₃.law (fun _ => hgoing₃)
        · have hleft : left = 0 := by omega
          refine wp_bind (wp_mono (record_law hlaw) ?_ (fun _ _ h => h))
          intro _ w₃ hlaw₃
          exact ih (k + 1) _ _ w₃ (by omega) hrun hlaw₃ (fun h => by omega)

/-- **One call.** It starts nothing that is done, when it meets its conditions. -/
theorem run_wp (hlaw : NeverAgain w.trace) (hmeets : Meets flow s w) :
    Prog.wp (flow.run s) (fun _ w' => NeverAgain w'.trace) (fun _ w' => NeverAgain w'.trace) w := by
  have hgoing : Going s w := ⟨hlaw, hmeets.undone, hmeets.free⟩
  refine wp_bind (wp_mono (record_wp hgoing rfl (by decide) hmeets.pending) ?_
    (fun _ _ h => h))
  intro _ w₁ hgoing₁
  exact attempts_wp hmeets.taken hmeets.running hmeets.retrying _ _ _ _ w₁ rfl rfl hgoing₁.law
    (fun _ => hgoing₁)

def ActionMeets (flow : DurableFlow) (w : FlowWorld) : FlowAction V → Prop
  | .call s _ => Meets flow s w
  | .restart => True

theorem step_law {a : FlowAction V} (hlaw : NeverAgain w.trace) (hmeets : ActionMeets flow w a)
    (hstep : flow.step w a = some w') : NeverAgain w'.trace := by
  cases a with
  | restart =>
    cases hstep
    exact hlaw
  | call s crash =>
    have hcall := wp_apply (run_wp hlaw hmeets) crash
    simp only [step] at hstep
    rcases hrun : flow.run s crash w with ⟨result, left, w₁⟩
    rw [hrun] at hstep
    cases result with
    | ok value =>
      cases hstep
      exact hcall.1 _ _ _ hrun
    | error e =>
      cases e with
      | raised e =>
        cases hstep
        exact hcall.2 _ _ _ hrun
      | crashed =>
        cases hstep
        show NeverAgain w₁.trace
        exact hcall.2 _ _ _ hrun

end DurableFlow

/-- **A task is not executed again after it returned**, in a history whose calls all
find it undone and have its success taken while an attempt is left. -/
theorem never_again_of_meets {V : Type} {flow : DurableFlow} {acts : List (FlowAction V)}
    {missions : List FlowEvent} {w : FlowWorld}
    (hmeets : Runs.Along flow.step flow.ActionMeets ⟨missions, 0, []⟩ acts)
    (hrun : Runs.runFrom flow.step ⟨missions, 0, []⟩ acts = some w) : NeverAgain w.trace := by
  have hnil : NeverAgain (FlowWorld.mk missions 0 []).trace := Journal.each_nil _
  exact Runs.along_invariant (I := fun w => NeverAgain w.trace)
    (fun _ _ _ hlaw ha hs => DurableFlow.step_law hlaw ha hs) hnil hmeets hrun

/-! ## A flow that does not settle -/

def paperFlow : DurableFlow where
  name := "backfill"
  maxRetries := 1
  ledgers := true
  name_ne := by decide

/-- A call whose task returns. The append of the first success meets `fault`. -/
def paperFlowCall (runId : UUID) (fault : Option PyError) : FlowSurroundings ℕ where
  runId := runId
  pending := ⟨100 * runId, 0, none⟩
  attempt k :=
    { startedAt := 0
      running := ⟨100 * runId + 3 * k + 1, 0, none⟩
      task := .ok 7
      finishedAt := 0
      succeeded := ⟨100 * runId + 3 * k + 2, 0, if k = 0 then fault else none⟩
      retrying := ⟨100 * runId + 3 * k + 3, 0, none⟩ }
  finishedAt := 0
  failed := ⟨100 * runId + 99, 0, none⟩

/-- The world after some actions on the flow. -/
def paperFlowAfter (acts : List (FlowAction ℕ)) : Option FlowWorld :=
  Runs.runFrom paperFlow.step ⟨[], 0, []⟩ acts

/-- One call whose appends are all taken executes its task once. -/
theorem never_again_of_meets_paper :
    ∃ w, paperFlowAfter [.call (paperFlowCall 1 none) none] = some w ∧ NeverAgain w.trace := by
  obtain ⟨w, hw⟩ : ∃ w, paperFlowAfter [.call (paperFlowCall 1 none) none] = some w :=
    Option.isSome_iff_exists.mp (by decide +kernel)
  have hmeets : DurableFlow.Meets paperFlow (paperFlowCall 1 none) ⟨[], 0, []⟩ := by
    refine ⟨?_, ?_, ?_, ?_, ?_, ?_⟩
    · intro q runId h
      exact absurd h not_mem_nil
    · intro e h
      exact absurd h not_mem_nil
    · intro k
      show 100 * 1 ≠ 100 * 1 + 3 * k + 2
      omega
    · intro j k
      show 100 * 1 + 3 * j + 1 ≠ 100 * 1 + 3 * k + 2
      omega
    · intro j k
      show 100 * 1 + 3 * j + 3 ≠ 100 * 1 + 3 * k + 2
      omega
    · intro k _ value _
      show (if k = 0 then none else none) = none
      exact ite_self none
  have halong : Runs.Along paperFlow.step paperFlow.ActionMeets ⟨[], 0, []⟩
      [.call (paperFlowCall 1 none) none] := And.intro hmeets fun _ _ => trivial
  exact ⟨w, hw, never_again_of_meets halong hw⟩

/-- **A task that is done twice.** In the first history the disk is full when the success
is to be written, and the call tries again; in the second a call follows on a restart and
sees the success in the ledger. -/
theorem task_done_twice :
    (paperFlowAfter [.call (paperFlowCall 1 (some diskFull)) none]).map FlowWorld.trace
      = some [.started 0 [], .returned 0 1, .started 0 [], .returned 0 1] ∧
    (paperFlowAfter [.call (paperFlowCall 1 none) none, .restart,
        .call (paperFlowCall 2 none) none]).map FlowWorld.trace
      = some [.started 0 [], .returned 0 1, .started 1 [1], .returned 1 2] ∧
    ¬NeverAgain [.started 0 [], .returned 0 1, .started 0 [], .returned 0 1] ∧
    ¬NeverAgain [.started 0 [], .returned 0 1, .started 1 [1], .returned 1 2] := by
  refine ⟨by decide +kernel, by decide +kernel, ?_, ?_⟩
  · intro h
    exact (h [.started 0 [], .returned 0 1] (.started 0 []) [.returned 0 1] rfl 0 [] rfl 0 1
      (by simp)).1 rfl
  · intro h
    exact (h [.started 0 [], .returned 0 1] (.started 1 [1]) [.returned 1 2] rfl 1 [1] rfl 0 1
      (by simp)).2 (by simp)

end AdvisorAI
