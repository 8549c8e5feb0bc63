import AdvisorAI.Api.Dashboard
import AdvisorAI.Runtime.CycleOrders

/-!
# The controls, one by one

`Heard` says of the controls that the ledger is numbered and that a halt, where
there is one, shows in it. Trips, resets and the dashboard's pending command keep
it; of a cycle nothing but that pending command touches the controls, and a cycle
that finds the switch tripped after it leaves the order manager alone.
-/

namespace AdvisorAI

open Lib List Prog

/-! ## Writing to the ledger -/

variable {t t' eventType : IncidentEventType} {p p' payload : IncidentPayload}

theorem eventKey_sequence {o : KernelOutside} {n n' : ℕ}
    (h : KillSwitch.eventKey o t n p = KillSwitch.eventKey o t' n' p') : n = n' := by
  have hcolon : ∀ (d : Digest), ':' ∉ d.text.toList.take 16 := by
    intro d hmem
    exact absurd (d.hexadecimal _ (mem_of_mem_take hmem)) (by decide)
  have htext := congrArg String.toList h
  unfold KillSwitch.eventKey at htext
  simp only [String.toList_append, String.toList_ofList, append_assoc] at htext
  have hrest := append_cancel_left htext
  have hsplit := append_sep_inj (hcolon _) (hcolon _) hrest
  exact natRepr_injective (String.toList_inj.mp hsplit.1)

variable {key reason approvedBy : String}

theorem ne_eventKey {o : KernelOutside} {n : ℕ} (h : key.toList.head? ≠ some 'k') :
    key ≠ KillSwitch.eventKey o t n p := by
  intro heq
  apply h
  rw [heq]
  unfold KillSwitch.eventKey
  simp only [String.toList_append]
  rfl

/-- The ledger as the programs that write to it leave it: identifiers are not
drawn twice, and a kill switch numbers its events by their place. -/
structure IncidentsNumbered (o : KernelOutside) (c : ControlWorld) : Prop where
  ids : ∀ e ∈ c.incidents, e.eventId < c.nextEventId
  keys : ∀ e ∈ c.incidents, ∀ t n p, e.idempotencyKey = KillSwitch.eventKey o t n p →
    n ≤ c.incidents.length

def ControlWorld.logged (c : ControlWorld) (eventType : IncidentEventType) (key : String)
    (now : Timestamp) (payload : IncidentPayload) : ControlWorld :=
  { c with
    incidents := c.incidents ++ [⟨c.nextEventId, eventType, key, now, payload⟩]
    nextEventId := c.nextEventId + 1 }

variable {c : ControlWorld} {now : Timestamp}

theorem IncidentsNumbered.logged {o : KernelOutside} (h : IncidentsNumbered o c)
    (hkey : ∀ t n p, key = KillSwitch.eventKey o t n p → n ≤ c.incidents.length + 1) :
    IncidentsNumbered o (c.logged eventType key now payload) := by
  refine ⟨?_, ?_⟩
  · intro e he
    rcases mem_append.mp he with hold | hnew
    · exact Nat.lt_succ_of_lt (h.ids e hold)
    · rw [mem_singleton.mp hnew]
      exact Nat.lt_succ_self _
  · intro e he t n p heq
    show n ≤ (c.incidents ++ [_]).length
    rw [length_append, length_singleton]
    rcases mem_append.mp he with hold | hnew
    · exact Nat.le_succ_of_le (h.keys e hold t n p heq)
    · rw [mem_singleton.mp hnew] at heq
      exact hkey t n p heq

theorem killSwitchRecord_wp {o : KernelOutside} (h : IncidentsNumbered o c) :
    Prog.wp (KillSwitch.record o now eventType payload)
      (fun _ c' => c' = c.logged eventType
        (KillSwitch.eventKey o eventType (c.incidents.length + 1) payload) now payload)
      (fun _ c' => c' = c) c := by
  have hkey : ∀ e ∈ c.incidents, e.idempotencyKey
      ≠ KillSwitch.eventKey o eventType (c.incidents.length + 1) payload := by
    intro e he heq
    exact absurd (h.keys e he _ _ _ heq) (Nat.not_succ_le_self _)
  have hid : ∀ e ∈ c.incidents, e.eventId ≠ c.nextEventId := fun e he =>
    Nat.ne_of_lt (h.ids e he)
  refine wp_atomic rfl ?_
  dsimp only
  rw [SqliteLedgers.append_of_new hkey hid]
  rfl

/-! ## What every control keeps -/

/-- What is said of a world: the ledger is numbered, and where `halted` holds it
shows a halt. -/
structure Heard (o : KernelOutside) (halted : Prop) (c : ControlWorld) : Prop where
  numbered : IncidentsNumbered o c
  shows : halted → Dashboard.killSwitchStatus c.incidents = true

theorem trip_wp {o : KernelOutside} (h : IncidentsNumbered o c) {halted : Prop}
    (hhalted : halted → Dashboard.killSwitchStatus c.incidents = true) :
    Prog.wp (KillSwitch.trip o now reason)
      (fun _ c' => Heard o halted c' ∧
        ((c.killSwitch = some (strip reason) → Dashboard.killSwitchStatus c.incidents = true) →
          Dashboard.killSwitchStatus c'.incidents = true))
      (fun _ c' => Heard o halted c') c := by
  have hstay : Heard o halted c := ⟨h, hhalted⟩
  refine wp_ite (fun _ => wp_raise hstay) ?_
  intro _
  refine wp_bind (wp_read ?_)
  refine wp_ite ?_ ?_
  · intro hsame
    exact wp_pure ⟨hstay, fun hheeded => hheeded hsame⟩
  · intro _
    refine wp_bind (wp_mono (killSwitchRecord_wp h) ?_ ?_)
    · intro _ c' hc'
      have htripped : Dashboard.killSwitchStatus c'.incidents = true := by
        rw [hc']
        exact Dashboard.killSwitchStatus_concat _ _
      have hnumbered : IncidentsNumbered o c' := by
        rw [hc']
        exact h.logged fun _ _ _ heq => Nat.le_of_eq (eventKey_sequence heq).symm
      exact wp_modify
        ⟨⟨⟨hnumbered.ids, hnumbered.keys⟩, fun _ => htripped⟩, fun _ => htripped⟩
    · intro e c' hc'
      rw [hc']
      exact hstay

theorem reset_wp {o : KernelOutside} (h : IncidentsNumbered o c) :
    Prog.wp (KillSwitch.reset o now approvedBy) (fun _ c' => IncidentsNumbered o c')
      (fun _ c' => c' = c) c := by
  refine wp_ite (fun _ => wp_raise rfl) ?_
  intro _
  refine wp_bind (wp_read ?_)
  refine wp_ite (fun _ => wp_pure h) ?_
  intro _
  refine wp_bind (wp_mono (killSwitchRecord_wp h) ?_ (fun _ _ hc' => hc'))
  intro _ c' hc'
  have hnumbered : IncidentsNumbered o c' := by
    rw [hc']
    exact h.logged fun _ _ _ heq => Nat.le_of_eq (eventKey_sequence heq).symm
  exact wp_modify ⟨hnumbered.ids, hnumbered.keys⟩

theorem sync_wp {o : KernelOutside} {halted : Prop} (h : Heard o halted c) :
    Prog.wp (syncDashboardControl o now) (fun _ c' => Heard o halted c')
      (fun _ c' => Heard o halted c') c := by
  refine wp_bind (wp_read ?_)
  cases hpending : pendingCommand c.incidents with
  | none => exact wp_pure h
  | some command =>
    cases command with
    | halt reason =>
      refine wp_bind (wp_mono (trip_wp h.numbered h.shows) ?_ (fun _ _ hc' => hc'))
      intro _ c' ⟨hheard, _⟩
      exact wp_modify ⟨⟨hheard.numbered.ids, hheard.numbered.keys⟩, hheard.shows⟩
    | resume actor =>
      -- a pending resume is the newest word, so no halt is
      have hfree : ¬halted := by
        intro hhalted
        have hshows := h.shows hhalted
        rw [Dashboard.killSwitchStatus_eq, hpending] at hshows
        cases hshows
      refine wp_bind (wp_read ?_)
      refine wp_ite (fun _ => wp_pure h) ?_
      intro _
      refine wp_bind (wp_mono (reset_wp h.numbered) ?_ ?_)
      · intro _ c' hnumbered
        exact wp_modify
          ⟨⟨hnumbered.ids, hnumbered.keys⟩, fun hhalted => absurd hhalted hfree⟩
      · intro _ c' hc'
        rw [hc']
        exact h

/-! ## A cycle and the controls -/

namespace PaperRuntime

section Untouched

variable {P : ControlWorld → Prop} {o : RuntimeOutside} {rt : PaperRuntime} {s : CycleSurroundings}

def OfControl (P : ControlWorld → Prop) (w : RuntimeWorld) : Prop := P w.control

theorem onOrders_keeps {α : Type} {x : Oms α} : Prog.Keeps (OfControl P) (onOrders x) :=
  keeps_zoom fun _ _ h => h

theorem appendMission_keeps {eventType : MissionEventType} {key : String} {now : Timestamp}
    {artifact : MissionArtifact} :
    Prog.Keeps (OfControl P) (appendMission eventType key now artifact) := by
  refine keeps_atomic ?_
  intro w h
  dsimp only
  rcases SqliteLedgers.append w.missions _ with ⟨result, missions⟩
  exact h

theorem finish_keeps {e : CycleEnd} : Prog.Keeps (OfControl P) (finish e) :=
  keeps_bind appendMission_keeps fun _ => keeps_pure _

variable {result : DecisionPipelineResult} {snapshot : Snapshot}

theorem recordLearningDecision_keeps {risk : Option RiskDecision} {ids : List UUID} :
    Prog.Keeps (OfControl P) (recordLearningDecision o rt s result snapshot risk ids) := by
  refine keeps_ite (keeps_pure _) ?_
  refine keeps_bind (keeps_read _) ?_
  intro prior
  refine keeps_ite (keeps_raise _) ?_
  exact keeps_bind appendMission_keeps fun _ => keeps_modify fun _ h => h

theorem conclude_keeps {a : Admitted} {stage : RuntimeStage} {reasons : List String}
    {ids : List UUID} : Prog.Keeps (OfControl P) (conclude o rt s a stage reasons ids) :=
  keeps_bind recordLearningDecision_keeps fun _ => keeps_pure _

theorem routeOrders_keeps {a : Admitted} (orders : List Order) :
    ∀ (k : ℕ) (routed : List UUID),
      Prog.Keeps (OfControl P) (routeOrders o rt s a k routed orders) := by
  induction orders with
  | nil => exact fun _ _ => conclude_keeps
  | cons order orders ih =>
    intro k routed
    refine keeps_bind onOrders_keeps ?_
    intro created
    refine keeps_bind (keeps_read _) ?_
    intro killSwitch
    refine keeps_bind (keeps_lift _) ?_
    intro check
    refine keeps_ite ?_ ?_
    · exact keeps_bind onOrders_keeps fun _ => conclude_keeps
    · refine keeps_bind onOrders_keeps ?_
      intro _
      refine keeps_bind onOrders_keeps ?_
      intro answer
      cases answer with
      | none => exact conclude_keeps
      | some acknowledgement => exact keeps_ite conclude_keeps (ih _ _)

theorem takeDecision_keeps {cycle : RuntimeCycle} {market : RiskMarketState} :
    Prog.Keeps (OfControl P) (takeDecision o rt s cycle snapshot market result) := by
  refine keeps_ite ?_ ?_
  · exact keeps_bind recordLearningDecision_keeps fun _ => keeps_pure _
  · refine keeps_bind (keeps_read _) ?_
    intro killSwitch
    refine keeps_bind (keeps_lift _) ?_
    intro risk
    refine keeps_ite conclude_keeps ?_
    refine keeps_bind (keeps_lift _) ?_
    intro materialized
    exact keeps_ite conclude_keeps (routeOrders_keeps _ _ _)

theorem runOnce_keeps (hsync : Prog.Keeps P (syncDashboardControl o.toKernelOutside s.controlAt))
    {cutoff : Datetime} : Prog.Keeps (OfControl P) (runOnce o rt s cutoff) := by
  have hdecide : ∀ {cycle : RuntimeCycle},
      Prog.Keeps (OfControl P) (decideAndRoute o rt s cycle) := by
    intro cycle
    refine keeps_bind (keeps_zoom fun n w h => hsync n w.control h) ?_
    intro _
    refine keeps_bind (keeps_read _) ?_
    intro killSwitch
    cases killSwitch with
    | some reason => exact keeps_pure _
    | none =>
      refine keeps_bind (keeps_lift _) ?_
      intro cadence
      cases cadence with
      | some reasons => exact keeps_pure _
      | none =>
        refine keeps_bind (keeps_lift _) ?_
        intro snapshot
        refine keeps_ite (keeps_pure _) (keeps_ite (keeps_pure _) ?_)
        refine keeps_bind (keeps_lift _) ?_
        intro market
        exact keeps_bind (keeps_lift _) fun _ => takeDecision_keeps
  refine keeps_bind (keeps_lift _) ?_
  intro cutoff
  refine keeps_bind appendMission_keeps ?_
  intro _
  refine keeps_bind (keeps_attempt (keeps_bind hdecide fun _ => finish_keeps)) ?_
  intro result
  cases result with
  | ok finished => exact keeps_pure _
  | error e => exact finish_keeps

end Untouched

/-- Where the switch is tripped once the pending command is applied, the `try`
block leaves the order manager alone. -/
theorem tryBlock_halted_wp {o : RuntimeOutside} {rt : PaperRuntime} {s : CycleSurroundings}
    {cycle : RuntimeCycle} {w : RuntimeWorld} (hswitch : settledSwitch w.control ≠ none) :
    Prog.wp (tryBlock o rt s cycle) (fun _ w' => w'.oms = w.oms) (fun _ w' => w'.oms = w.oms)
      w := by
  refine wp_bind (wp_bind (wp_zoom (wp_mono syncDashboardControl_wp ?_
    (fun _ _ _ => rfl))))
  intro _ control hsettled
  refine wp_bind (wp_read ?_)
  cases hks : control.killSwitch with
  | none =>
    rw [hks] at hsettled
    exact absurd hsettled.symm hswitch
  | some reason =>
    refine wp_pure (wp_mono finish_wp ?_ ?_)
    · intro finished w' ⟨_, homs, _⟩
      exact homs
    · intro _ w' homs
      exact homs

/-- **A halt in force stops the call.** -/
theorem runOnce_halted_wp {o : RuntimeOutside} {rt : PaperRuntime} {s : CycleSurroundings}
    {cutoff : Datetime} {w : RuntimeWorld} (hswitch : settledSwitch w.control ≠ none) :
    Prog.wp (runOnce o rt s cutoff) (fun _ w' => w'.oms = w.oms) (fun _ w' => w'.oms = w.oms)
      w := by
  refine wp_bind (wp_lift ?_ (fun _ _ => rfl))
  intro t _
  refine wp_bind (wp_mono record_wp ?_ (fun _ _ homs => homs))
  intro _ w₁ ⟨homs, hcontrol, _⟩
  rw [← hcontrol] at hswitch
  refine wp_bind (wp_attempt (wp_mono (tryBlock_halted_wp hswitch) ?_ ?_))
  · intro finished w₂ homs₂
    exact wp_pure (homs₂.trans homs)
  · intro stop w₂ homs₂
    cases stop with
    | crashed => exact homs₂.trans homs
    | raised e =>
      exact wp_mono finish_wp (fun _ _ ⟨_, homs₃, _⟩ => homs₃.trans (homs₂.trans homs))
        (fun _ _ homs₃ => homs₃.trans (homs₂.trans homs))

end PaperRuntime

end AdvisorAI
