import AdvisorAI.Execution.OmsSubmissions
import AdvisorAI.Execution.RiskGates
import AdvisorAI.Runtime.Paper

/-!
# What a cycle says about the orders it sent

Every `return` of `run_once` names the orders that were sent to the venue until
then, and, once there is a decision, has recorded it with the same orders. The
loop invariant is that the list `routed` is what has been sent.

The handler around it all starts again from the cycle as it was opened: the
failed cycle names no order and no decision, whatever was sent before the
exception. `cycle_names_orders_iff` says that nothing else goes wrong.
-/

namespace AdvisorAI

open Lib List Prog

namespace PaperRuntime

variable {o : RuntimeOutside} {rt : PaperRuntime} {s : CycleSurroundings}
  {w w₀ w₁ w' : RuntimeWorld}

/-! ## What was sent -/

/-- From one world to the other these orders were sent to the venue. -/
structure Sent (w w' : RuntimeWorld) (ids : List UUID) : Prop where
  keyed : w'.oms.manager.Keyed
  submissions : ∃ sent : List Submission, w'.oms.submissions = w.oms.submissions ++ sent ∧
    sent.map (fun submission => submission.order.artifactId) = ids

theorem Sent.nothing (h : w.oms.manager.Keyed) : Sent w w [] :=
  ⟨h, [], (append_nil _).symm, rfl⟩

variable {ids : List UUID}

theorem Sent.congr (h : Sent w w₁ ids) (homs : w'.oms = w₁.oms) : Sent w w' ids := by
  refine ⟨?_, ?_⟩
  · rw [homs]
    exact h.keyed
  · rw [homs]
    exact h.submissions

theorem Sent.quiet (h : Sent w w₁ ids) (hq : Quiet w₁.oms w'.oms) : Sent w w' ids := by
  obtain ⟨sent, hsub, hids⟩ := h.submissions
  exact ⟨hq.keyed, sent, hq.submissions.trans hsub, hids⟩

theorem Sent.one {id : UUID} (h : Sent w w₁ ids) (hone : SubmittedOne id w₁.oms w'.oms) :
    Sent w w' (ids ++ [id]) := by
  obtain ⟨sent, hsub, hids⟩ := h.submissions
  obtain ⟨hkeyed, submission, hid, hmore⟩ := hone
  refine ⟨hkeyed, sent ++ [submission], ?_, ?_⟩
  · rw [hmore, hsub, append_assoc]
  · rw [map_append, hids, map_singleton, hid]

/-- The orders for which a submission was attempted between two worlds. -/
def attempted (w w' : RuntimeWorld) : List UUID :=
  (w'.oms.submissions.drop w.oms.submissions.length).map fun submission =>
    submission.order.artifactId

theorem Sent.attempted (h : Sent w w' ids) : attempted w w' = ids := by
  obtain ⟨sent, hsub, hids⟩ := h.submissions
  unfold PaperRuntime.attempted
  rw [hsub, drop_left, hids]

/-! ## What was recorded -/

/-- The MISSION ledger holds a decision record. -/
def Recorded (w : RuntimeWorld) (decision : PaperDecisionRecord) : Prop :=
  ∃ e ∈ w.missions, e.payload = .decision decision

variable {now cutoff : Timestamp}

theorem appendMission_wp {eventType : MissionEventType} {key : String}
    {artifact : MissionArtifact} :
    Prog.wp (appendMission eventType key now artifact)
      (fun _ w' => w'.oms = w.oms ∧ w'.control = w.control ∧ (∀ e ∈ w.missions, e ∈ w'.missions) ∧
        ∃ e ∈ w'.missions, e.payload = artifact)
      (fun _ w' => w'.oms = w.oms) w := by
  refine wp_atomic rfl ?_
  dsimp only
  rcases SqliteLedgers.append_cases w.missions
    ⟨w.nextMissionId, eventType, key, now, artifact⟩ with
    ⟨e, happend⟩ | ⟨existing, hmem, -, hpayload, happend⟩ | ⟨-, happend⟩
  · rw [happend]
    rfl
  · rw [happend]
    exact ⟨rfl, rfl, fun e he => he, existing, hmem, hpayload⟩
  · rw [happend]
    exact ⟨rfl, rfl, fun e he => mem_append_left _ he, _,
      mem_append_right _ (mem_singleton.mpr rfl), rfl⟩

variable {result : DecisionPipelineResult} {snapshot : Snapshot}

theorem recordLearningDecision_wp {risk : Option RiskDecision} :
    Prog.wp (recordLearningDecision o rt s result snapshot risk ids)
      (fun _ w' => w'.oms = w.oms ∧ (rt.learning = true →
        Recorded w' (learningRecord o s result snapshot risk ids)))
      (fun _ w' => w'.oms = w.oms) w := by
  refine wp_ite ?_ ?_
  · intro hoff
    refine wp_pure ⟨rfl, ?_⟩
    intro hon
    rw [hoff] at hon
    cases hon
  · intro _
    refine wp_bind (wp_read ?_)
    refine wp_ite (fun _ => wp_raise rfl) ?_
    intro _
    refine wp_bind (wp_mono appendMission_wp ?_ (fun _ _ h => h))
    intro _ w₁ ⟨homs, _, _, hrecorded⟩
    exact wp_modify ⟨homs, fun _ => hrecorded⟩

/-- The end of a cycle that has a decision: it names what was sent, and the
record of the decision names the same. -/
structure Accounted (rt : PaperRuntime) (w w' : RuntimeWorld) (e : CycleEnd) : Prop where
  sent : Sent w w' e.orderIds
  recorded : rt.learning = true → ∃ decision, Recorded w' decision ∧
    e.cycle.decisionId = some decision.decisionId ∧ decision.orderIds = e.orderIds

/-- What holds where an exception is raised: nothing was sent, or `P` held before. -/
def SentOnlyIf (P : Prop) (w w' : RuntimeWorld) : Prop :=
  w'.oms.submissions = w.oms.submissions ∨ P

theorem SentOnlyIf.congr {P : Prop} (hsent : Sent w w₁ []) (homs : w'.oms = w₁.oms) :
    SentOnlyIf P w w' := by
  obtain ⟨sent, hsub, hids⟩ := hsent.submissions
  rw [map_eq_nil_iff] at hids
  left
  rw [homs, hsub, hids, append_nil]

theorem conclude_wp {a : Admitted} {stage : RuntimeStage} {reasons : List String}
    {E : Stop PyError → RuntimeWorld → Prop}
    (hdecision : a.cycle.decisionId = some (decisionId o a.result)) (hsent : Sent w₀ w ids)
    (herr : ∀ e w', w'.oms = w.oms → E e w') :
    Prog.wp (conclude o rt s a stage reasons ids)
      (fun e w' => Accounted rt w₀ w' e ∧ e.orderIds = ids) E w := by
  refine wp_bind (wp_mono recordLearningDecision_wp ?_ herr)
  intro _ w₁ ⟨homs, hrecorded⟩
  refine wp_pure ⟨⟨hsent.congr homs, ?_⟩, rfl⟩
  intro hon
  exact ⟨_, hrecorded hon, hdecision, rfl⟩

/-- **Loop lemma.** While orders are routed one after another, what was sent is
`routed`, and every way out of the loop accounts for it. -/
theorem routeOrders_wp {a : Admitted} {P : Prop} (hP : P)
    (hdecision : a.cycle.decisionId = some (decisionId o a.result)) :
    ∀ (orders : List Order) (k : ℕ) (routed : List UUID) (w : RuntimeWorld), Sent w₀ w routed →
      Prog.wp (routeOrders o rt s a k routed orders) (fun e w' => Accounted rt w₀ w' e)
        (fun _ w' => SentOnlyIf P w₀ w') w := by
  have hend : ∀ {stage : RuntimeStage} {reasons : List String} {ids : List UUID}
      {w : RuntimeWorld}, Sent w₀ w ids → Prog.wp (conclude o rt s a stage reasons ids)
        (fun e w' => Accounted rt w₀ w' e) (fun _ w' => SentOnlyIf P w₀ w') w := fun hsent =>
    wp_mono (conclude_wp hdecision hsent (fun _ _ _ => Or.inr hP)) (fun _ _ h => h.1)
      (fun _ _ h => h)
  intro orders
  induction orders with
  | nil =>
    intro k routed w hsent
    exact hend hsent
  | cons order orders ih =>
    intro k routed w hsent
    refine wp_bind (wp_zoom (wp_mono (create_quiet hsent.keyed order) ?_
      (fun _ _ _ => Or.inr hP)))
    intro created oms₁ hq₁
    have hsent₁ : Sent w₀ { w with oms := oms₁ } routed := hsent.quiet hq₁
    refine wp_bind (wp_read ?_)
    refine wp_bind (wp_lift ?_ (fun _ _ => Or.inr hP))
    intro check _
    refine wp_ite ?_ ?_
    · intro _
      refine wp_bind (wp_zoom (wp_mono (transition_quiet hsent₁.keyed _ _) ?_
        (fun _ _ _ => Or.inr hP)))
      intro _ oms₂ ⟨hq₂, _⟩
      exact hend (hsent₁.quiet hq₂)
    intro _
    refine wp_bind (wp_zoom (wp_mono (approveRisk_quiet hsent₁.keyed _ _ _) ?_
      (fun _ _ _ => Or.inr hP)))
    intro _ oms₂ hq₂
    have hsent₂ : Sent w₀ { w with oms := oms₂ } routed := hsent₁.quiet hq₂
    refine wp_bind (wp_zoom (wp_mono (route_submits hsent₂.keyed _) ?_
      (fun _ _ _ => Or.inr hP)))
    intro answer oms₃ hone
    have hsent₃ : Sent w₀ { w with oms := oms₃ } (routed ++ [created.artifactId]) :=
      hsent₂.one hone
    cases answer with
    | none => exact hend hsent₃
    | some acknowledgement =>
      refine wp_ite ?_ (fun _ => ih _ _ _ hsent₃)
      intro _
      exact hend hsent₃

/-! ## How far a call gets -/

/-- What the dashboard's pending command makes of the kill switch. -/
def settledSwitch (control : ControlWorld) : Option String :=
  match pendingCommand control.incidents with
  | none => control.killSwitch
  | some (.halt reason) => some (strip reason)
  | some (.resume _) => none

theorem syncDashboardControl_wp {control : ControlWorld} :
    Prog.wp (syncDashboardControl o.toKernelOutside now)
      (fun _ c => c.killSwitch = settledSwitch control) (fun _ _ => True) control := by
  unfold syncDashboardControl settledSwitch
  refine wp_bind (wp_read ?_)
  have hrecord : ∀ {eventType : IncidentEventType} {payload : IncidentPayload}
      {f : ControlWorld → ControlWorld} {Q : Unit → ControlWorld → Prop},
      (∀ c, Q () (f c)) → Prog.wp (do
        KillSwitch.record o.toKernelOutside now eventType payload
        Prog.modify f) Q (fun _ _ => True) control := by
    intro eventType payload f Q hQ
    refine wp_bind ?_
    refine wp_atomic trivial ?_
    dsimp only
    rcases SqliteLedgers.append control.incidents _ with ⟨result, incidents⟩
    cases result with
    | ok stored => exact wp_modify (hQ _)
    | error e => trivial
  cases pendingCommand control.incidents with
  | none => exact wp_pure rfl
  | some command =>
    cases command with
    | halt reason =>
      refine wp_bind (wp_ite (fun _ => wp_raise trivial) ?_)
      intro _
      refine wp_bind (wp_read ?_)
      refine wp_ite ?_ ?_
      · intro hsame
        exact wp_pure (wp_modify hsame)
      · intro _
        exact hrecord (fun c => wp_modify rfl)
    | resume actor =>
      refine wp_bind (wp_read ?_)
      refine wp_ite (fun hnone => wp_pure hnone) ?_
      intro hne
      refine wp_bind (wp_ite (fun _ => wp_raise trivial) ?_)
      intro _
      refine wp_bind (wp_read ?_)
      refine wp_ite (fun hnone => absurd hnone hne) ?_
      intro _
      exact hrecord (fun c => wp_modify rfl)

/-- A call gets as far as asking for a decision: no halt is in force, the cadence
is ready, and there is a snapshot of the cutoff with admitted quality. -/
def AsksForDecision (rt : PaperRuntime) (control : ControlWorld) (cutoff : Timestamp) : Prop :=
  settledSwitch control = none ∧ rt.cadenceReasons cutoff = .ok none ∧
  ∃ snapshot, rt.snapshotProvider cutoff = .ok snapshot ∧ snapshot.asOf ≤ cutoff ∧
    lower snapshot.dataQualityState ∈ admittedQuality

/-- The decision builder's decision is not abstained, passed its evidence gate,
and its target is one the kernel does not reject. -/
def AdmitsTarget (o : RuntimeOutside) (rt : PaperRuntime) (s : CycleSurroundings)
    (cutoff : Timestamp) : Prop :=
  ∃ snapshot market result risk, rt.snapshotProvider cutoff = .ok snapshot ∧
    rt.marketProvider snapshot = .ok market ∧
    rt.decisionBuilder snapshot rt.account market = .ok result ∧
    result.decision.abstained = false ∧ result.decision.gate.passed = true ∧
    RiskKernel.evaluate o.toKernelOutside none s.riskDecisionId
      ⟨result.decision.targetPortfolio, rt.account, market, rt.riskPolicy⟩ false = .ok risk ∧
    risk.outcome ≠ .rejected

/-- How a call can end that was not interrupted by an exception. -/
structure Ended (o : RuntimeOutside) (rt : PaperRuntime) (s : CycleSurroundings)
    (cutoff : Timestamp) (w w' : RuntimeWorld) (e : CycleEnd) : Prop where
  sent : Sent w w' e.orderIds
  admitted : e.orderIds = [] ∨ AdmitsTarget o rt s cutoff
  decided : AsksForDecision rt w.control cutoff → Accounted rt w w' e
  undecided : ¬AsksForDecision rt w.control cutoff → e.cycle.decisionId = none

theorem Ended.sentOnlyIf {e : CycleEnd} (h : Ended o rt s cutoff w w₁ e) (homs : w'.oms = w₁.oms) :
    SentOnlyIf (AdmitsTarget o rt s cutoff) w w' := by
  rcases h.admitted with hnone | hadmits
  · have hsent : Sent w w₁ [] := by
      rw [← hnone]
      exact h.sent
    exact SentOnlyIf.congr hsent homs
  · exact Or.inr hadmits

variable {cycle : RuntimeCycle}

theorem takeDecision_wp {market : RiskMarketState} (hsent : Sent w₀ w [])
    (hswitch : w.control.killSwitch = none)
    (hsnapshot : rt.snapshotProvider cycle.cutoff = .ok snapshot)
    (hmarket : rt.marketProvider snapshot = .ok market)
    (hresult : rt.decisionBuilder snapshot rt.account market = .ok result) :
    Prog.wp (takeDecision o rt s cycle snapshot market result)
      (fun e w' => Accounted rt w₀ w' e ∧ (e.orderIds = [] ∨ AdmitsTarget o rt s cycle.cutoff))
      (fun _ w' => SentOnlyIf (AdmitsTarget o rt s cycle.cutoff) w₀ w') w := by
  have hstay : ∀ {w' : RuntimeWorld}, w'.oms = w.oms →
      SentOnlyIf (AdmitsTarget o rt s cycle.cutoff) w₀ w' := fun homs =>
    SentOnlyIf.congr hsent homs
  refine wp_ite ?_ ?_
  · intro _
    refine wp_bind (wp_mono recordLearningDecision_wp ?_ (fun _ _ homs => hstay homs))
    intro _ w₁ ⟨homs, hrecorded⟩
    exact wp_pure ⟨⟨hsent.congr homs, fun hon => ⟨_, hrecorded hon, rfl, rfl⟩⟩, Or.inl rfl⟩
  intro hactive
  rw [not_or, Bool.not_eq_true, Bool.not_eq_false] at hactive
  refine wp_bind (wp_read ?_)
  rw [hswitch]
  refine wp_bind (wp_lift ?_ (fun _ _ => hstay rfl))
  intro risk hrisk
  have hempty : ∀ {a : Admitted} {reasons : List String},
      a.cycle.decisionId = some (decisionId o a.result) →
      Prog.wp (conclude o rt s a .riskRejected reasons [])
        (fun e w' => Accounted rt w₀ w' e ∧
          (e.orderIds = [] ∨ AdmitsTarget o rt s cycle.cutoff))
        (fun _ w' => SentOnlyIf (AdmitsTarget o rt s cycle.cutoff) w₀ w') w := by
    intro a reasons hdecision
    exact wp_mono (conclude_wp hdecision hsent (fun _ _ homs => hstay homs))
      (fun _ _ ⟨haccounted, hids⟩ => ⟨haccounted, Or.inl hids⟩) (fun _ _ h => h)
  refine wp_ite (fun _ => hempty rfl) ?_
  intro houtcome
  have hadmits : AdmitsTarget o rt s cycle.cutoff :=
    ⟨snapshot, market, result, risk, hsnapshot, hmarket, hresult, hactive.1, hactive.2, hrisk,
      houtcome⟩
  refine wp_bind (wp_lift ?_ (fun _ _ => Or.inr hadmits))
  intro materialized _
  refine wp_ite (fun _ => hempty rfl) ?_
  intro _
  exact wp_mono (routeOrders_wp hadmits rfl materialized 0 [] w hsent)
    (fun _ _ h => ⟨h, Or.inr hadmits⟩) (fun _ _ h => h)

/-- **The body of the `try`.** -/
theorem decideAndRoute_wp (hkeyed : w.oms.manager.Keyed) (hfresh : cycle.decisionId = none) :
    Prog.wp (decideAndRoute o rt s cycle) (fun e w' => Ended o rt s cycle.cutoff w w' e)
      (fun _ w' => SentOnlyIf (AdmitsTarget o rt s cycle.cutoff) w w') w := by
  have hnothing : Sent w w [] := Sent.nothing hkeyed
  -- an early return says nothing of a decision, and there was none
  have hearly : ∀ {w' : RuntimeWorld} {stage : RuntimeStage} {reasons : List String}
      {snapshotId : Option UUID}, w'.oms = w.oms →
      ¬AsksForDecision rt w.control cycle.cutoff →
      Ended o rt s cycle.cutoff w w' ⟨cycle, stage, reasons, snapshotId, []⟩ := by
    intro w' stage reasons snapshotId homs hnot
    exact ⟨hnothing.congr homs, Or.inl rfl, fun h => absurd h hnot, fun _ => hfresh⟩
  have hstay : ∀ {w' : RuntimeWorld}, w'.oms = w.oms →
      SentOnlyIf (AdmitsTarget o rt s cycle.cutoff) w w' := fun homs =>
    SentOnlyIf.congr hnothing homs
  refine wp_bind (wp_zoom (wp_mono syncDashboardControl_wp ?_
    (fun _ _ _ => hstay rfl)))
  intro _ control hswitch
  refine wp_bind (wp_read ?_)
  cases hks : control.killSwitch with
  | some reason =>
    refine wp_pure (hearly rfl ?_)
    intro ⟨hnone, _⟩
    rw [← hswitch, hks] at hnone
    cases hnone
  | none =>
    have hsettled : settledSwitch w.control = none := hswitch.symm.trans hks
    refine wp_bind (wp_lift ?_ (fun _ _ => hstay rfl))
    intro cadence hcadence
    cases cadence with
    | some reasons =>
      refine wp_pure (hearly rfl ?_)
      intro ⟨_, hready, _⟩
      rw [hcadence] at hready
      cases hready
    | none =>
      refine wp_bind (wp_lift ?_ (fun _ _ => hstay rfl))
      intro snapshot hsnapshot
      refine wp_ite ?_ ?_
      · intro hafter
        refine wp_pure (hearly rfl ?_)
        intro ⟨_, _, other, hother, hle, _⟩
        rw [hsnapshot] at hother
        cases hother
        exact absurd hafter (not_lt.mpr hle)
      intro hbefore
      refine wp_ite ?_ ?_
      · intro hquality
        refine wp_pure (hearly rfl ?_)
        intro ⟨_, _, other, hother, _, hgood⟩
        rw [hsnapshot] at hother
        cases hother
        exact absurd hgood hquality
      intro hquality
      have hasks : AsksForDecision rt w.control cycle.cutoff :=
        ⟨hsettled, hcadence, snapshot, hsnapshot, not_lt.mp hbefore, not_not.mp hquality⟩
      refine wp_bind (wp_lift ?_ (fun _ _ => hstay rfl))
      intro market hmarket
      refine wp_bind (wp_lift ?_ (fun _ _ => hstay rfl))
      intro result hresult
      have hsent : Sent w { w with control := control } [] := hnothing.congr rfl
      refine wp_mono (takeDecision_wp hsent hks hsnapshot hmarket hresult) ?_
        (fun _ _ h => h)
      intro e w' ⟨haccounted, hadmitted⟩
      exact ⟨haccounted.sent, hadmitted, fun _ => haccounted, fun hnot => absurd hasks hnot⟩

/-! ## The whole call -/

theorem record_wp :
    Prog.wp (record cycle)
      (fun _ w' => w'.oms = w.oms ∧ w'.control = w.control ∧ ∀ e ∈ w.missions, e ∈ w'.missions)
      (fun _ w' => w'.oms = w.oms) w :=
  wp_mono appendMission_wp (fun _ _ ⟨homs, hcontrol, hkeep, _⟩ => ⟨homs, hcontrol, hkeep⟩)
    (fun _ _ h => h)

theorem finish_wp {e : CycleEnd} :
    Prog.wp (finish e) (fun cycle w' => cycle = e.finished ∧ w'.oms = w.oms ∧
      ∀ e ∈ w.missions, e ∈ w'.missions) (fun _ w' => w'.oms = w.oms) w := by
  refine wp_bind (wp_mono record_wp ?_ (fun _ _ h => h))
  intro _ w₁ ⟨homs, _, hkeep⟩
  exact wp_pure ⟨rfl, homs, hkeep⟩

/-- The cycle a `try` block returns names what was sent; if the call asked for a
decision the cycle names it, and its record names the same orders. -/
theorem tryBlock_wp (hkeyed : w.oms.manager.Keyed) (hfresh : cycle.decisionId = none) :
    Prog.wp (tryBlock o rt s cycle)
      (fun finished w' => ∃ e w₁, finished = e.finished ∧ Ended o rt s cycle.cutoff w w₁ e ∧
        w'.oms = w₁.oms ∧ ∀ e ∈ w₁.missions, e ∈ w'.missions)
      (fun _ w' => SentOnlyIf (AdmitsTarget o rt s cycle.cutoff) w w') w := by
  refine wp_bind (wp_mono (decideAndRoute_wp hkeyed hfresh) ?_ (fun _ _ h => h))
  intro e w₁ hended
  refine wp_mono finish_wp ?_ ?_
  · intro finished w' ⟨hfinished, homs, hkeep⟩
    exact ⟨e, w₁, hfinished, hended, homs, hkeep⟩
  · intro _ w' homs
    exact hended.sentOnlyIf homs

theorem runOnce_wp {cutoff : Datetime} (hkeyed : w.oms.manager.Keyed) :
    Prog.wp (runOnce o rt s cutoff)
      (fun _ w' => SentOnlyIf (∃ t, closedCutoff cutoff = .ok t ∧ AdmitsTarget o rt s t) w w')
      (fun _ w' => SentOnlyIf (∃ t, closedCutoff cutoff = .ok t ∧ AdmitsTarget o rt s t) w w')
      w := by
  refine wp_bind (wp_lift ?_ (fun _ _ => Or.inl rfl))
  intro t ht
  refine wp_bind (wp_mono record_wp ?_ ?_)
  · intro _ w₁ ⟨homs, _⟩
    have hback : ∀ {w₂ : RuntimeWorld}, SentOnlyIf (AdmitsTarget o rt s t) w₁ w₂ →
        SentOnlyIf (∃ t, closedCutoff cutoff = .ok t ∧ AdmitsTarget o rt s t) w w₂ := by
      intro w₂ h
      unfold SentOnlyIf at h
      rw [homs] at h
      exact h.imp id fun hadmits => ⟨t, ht, hadmits⟩
    rw [← homs] at hkeyed
    refine wp_bind (wp_attempt (wp_mono (tryBlock_wp hkeyed rfl) ?_ ?_))
    · intro finished w₂ ⟨e, w₃, _, hended, homs₂, _⟩
      exact wp_pure (hback (hended.sentOnlyIf homs₂))
    · intro stop w₂ h
      cases stop with
      | crashed => exact hback h
      | raised e =>
        have hfinish : ∀ w₃ : RuntimeWorld, w₃.oms = w₂.oms →
            SentOnlyIf (AdmitsTarget o rt s t) w₁ w₃ := by
          intro w₃ homs₃
          unfold SentOnlyIf
          rw [homs₃]
          exact h
        exact wp_mono finish_wp (fun _ _ ⟨_, homs₃, _⟩ => hback (hfinish _ homs₃))
          (fun _ _ homs₃ => hback (hfinish _ homs₃))
  · intro _ w₁ homs
    left
    rw [homs]

/-- The `try` block of a call raises, leaving a world to the handler. -/
def Raises (o : RuntimeOutside) (rt : PaperRuntime) (s : CycleSurroundings) (cutoff : Timestamp)
    (w w' : RuntimeWorld) : Prop :=
  ∃ w₁ e, (record (rt.started s cutoff)).run w = (.ok (), w₁) ∧
    (tryBlock o rt s (rt.started s cutoff)).run w₁ = (.error (.raised e), w')

/-- The steps of a call that returned: the cutoff is closed, the start is on
record, and either the `try` block returned the cycle or the handler made it. -/
theorem runOnce_returned {cutoff : Datetime} (hkeyed : w.oms.manager.Keyed)
    (hrun : (runOnce o rt s cutoff).run w = (.ok cycle, w')) :
    ∃ t w₁, closedCutoff cutoff = .ok t ∧
      (record (rt.started s t)).run w = (.ok (), w₁) ∧ w₁.oms = w.oms ∧ w₁.control = w.control ∧
      ((tryBlock o rt s (rt.started s t)).run w₁ = (.ok cycle, w') ∨
        ∃ e w₂, (tryBlock o rt s (rt.started s t)).run w₁ = (.error (.raised e), w₂) ∧
          (finish ⟨rt.started s t, .failed, [e.typeName], none, []⟩).run w₂ = (.ok cycle, w')) := by
  obtain ⟨n', hrun⟩ := Prog.run_eq.mp hrun
  obtain ⟨t, n₀, w₀, hlift, hrun⟩ := bind_ok hrun
  obtain ⟨ht, rfl, rfl⟩ := Prog.lift_ok hlift
  obtain ⟨_, n₁, w₁, hrecord, hrun⟩ := bind_ok hrun
  obtain rfl := unlimited_of_wp record_wp hrecord
  obtain ⟨homs, hcontrol, -⟩ := (wp_apply record_wp none).1 _ _ _ hrecord
  refine ⟨t, w₁, ht, Prog.run_eq.mpr ⟨none, hrecord⟩, homs, hcontrol, ?_⟩
  obtain ⟨r, n₂, w₂, hattempt, hrun⟩ := bind_ok hrun
  rcases attempt_ok hattempt with ⟨finished, rfl, htry⟩ | ⟨e, rfl, htry⟩
  · left
    cases hrun
    exact Prog.run_eq.mpr ⟨_, htry⟩
  · right
    rw [← homs] at hkeyed
    obtain rfl := unlimited_of_wp (tryBlock_wp hkeyed rfl) htry
    exact ⟨e, w₂, Prog.run_eq.mpr ⟨_, htry⟩, Prog.run_eq.mpr ⟨_, hrun⟩⟩

/-- The cycle lists every order that was submitted during the call. -/
def ListsAttempts (w w' : RuntimeWorld) (cycle : RuntimeCycle) : Prop :=
  ∀ id ∈ attempted w w', id ∈ cycle.orderIds

/-- Where a learning loop is bound, the decision of the cycle is on record with
the orders of the cycle. -/
def RecordsDecision (rt : PaperRuntime) (w : RuntimeWorld) (cycle : RuntimeCycle) : Prop :=
  rt.learning = true → ∃ decision, Recorded w decision ∧
    cycle.decisionId = some decision.decisionId ∧ decision.orderIds = cycle.orderIds

/-- **Which calls account for what they sent.** The returned cycle lists every
submitted order and the decision is on record with them exactly when no
exception was raised after a submission, and, with a learning loop bound, none
was raised at all and the call got to ask for a decision. -/
theorem cycle_names_orders_iff {adapter : Adapter} {acts : List OmsAction}
    (hreach : omsRun (.init adapter) acts = some w.oms) {cutoff : Datetime} {cycle : RuntimeCycle}
    (hrun : (runOnce o rt s cutoff).run w = (.ok cycle, w')) :
    (ListsAttempts w w' cycle ∧ RecordsDecision rt w' cycle) ↔
      ∃ t, closedCutoff cutoff = .ok t ∧
        (∀ w₂, Raises o rt s t w w₂ → attempted w w₂ = []) ∧
        (rt.learning = true → (∀ w₂, ¬Raises o rt s t w w₂) ∧ AsksForDecision rt w.control t) := by
  have hkeyed := keyed_of_run hreach
  obtain ⟨t, w₁, ht, hrecord, homs, hcontrol, hend⟩ := runOnce_returned hkeyed hrun
  have htime : ∀ {P : Timestamp → Prop}, (∃ t', closedCutoff cutoff = .ok t' ∧ P t') ↔ P t := by
    intro P
    rw [ht]
    constructor
    · intro ⟨t', h, hP⟩
      cases h
      exact hP
    · intro hP
      exact ⟨t, rfl, hP⟩
  rw [htime]
  -- the `try` block is run once: whatever raises is this run
  have honly : ∀ {w₂}, Raises o rt s t w w₂ → ∃ e,
      (tryBlock o rt s (rt.started s t)).run w₁ = (.error (.raised e), w₂) := by
    intro w₂ ⟨w₁', e, hrecord', htry⟩
    rw [hrecord] at hrecord'
    cases hrecord'
    exact ⟨e, htry⟩
  have hkeyed₁ : w₁.oms.manager.Keyed := by
    rw [homs]
    exact hkeyed
  rcases hend with htry | ⟨e, w₂, htry, hfinish⟩
  · have hnever : ∀ w₂, ¬Raises o rt s t w w₂ := by
      intro w₂ hraises
      obtain ⟨e, htry'⟩ := honly hraises
      rw [htry] at htry'
      cases htry'
    obtain ⟨n', htry⟩ := Prog.run_eq.mp htry
    obtain ⟨e, w₂, rfl, hended, homs', hkeep⟩ :=
      (wp_apply (tryBlock_wp hkeyed₁ rfl) none).1 _ _ _ htry
    have hsent : attempted w w' = e.orderIds := by
      unfold attempted
      rw [← homs, homs']
      exact hended.sent.attempted
    have hcontrol' : AsksForDecision rt w₁.control t ↔ AsksForDecision rt w.control t := by
      rw [hcontrol]
    constructor
    · intro ⟨_, hrecords⟩
      refine ⟨fun w₂ h => absurd h (hnever w₂), fun hon => ⟨hnever, ?_⟩⟩
      obtain ⟨decision, -, hid, -⟩ := hrecords hon
      by_contra hnot
      have hnone := hended.undecided (fun h => hnot (hcontrol'.mp h))
      rw [show e.finished.decisionId = e.cycle.decisionId from rfl, hnone] at hid
      cases hid
    · intro ⟨_, hlearning⟩
      refine ⟨?_, ?_⟩
      · intro id hid
        rw [hsent] at hid
        exact hid
      · intro hon
        have haccounted := hended.decided (hcontrol'.mpr (hlearning hon).2)
        obtain ⟨decision, ⟨entry, hentry, hpayload⟩, hid, horders⟩ := haccounted.recorded hon
        exact ⟨decision, ⟨entry, hkeep entry hentry, hpayload⟩, hid, horders⟩
  · obtain ⟨n', hfinish⟩ := Prog.run_eq.mp hfinish
    obtain ⟨rfl, homs', -⟩ := (wp_apply finish_wp none).1 _ _ _ hfinish
    have hraises : Raises o rt s t w w₂ := ⟨w₁, e, hrecord, htry⟩
    have hsame : attempted w w' = attempted w w₂ := by
      unfold attempted
      rw [homs']
    constructor
    · intro ⟨hlists, hrecords⟩
      have hoff : rt.learning ≠ true := by
        intro hon
        obtain ⟨decision, -, hid, -⟩ := hrecords hon
        cases hid
      refine ⟨?_, fun hon => absurd hon hoff⟩
      intro w₃ hraises'
      obtain ⟨e', htry'⟩ := honly hraises'
      rw [htry] at htry'
      cases htry'
      rw [← hsame]
      exact eq_nil_iff_forall_not_mem.mpr fun id hid => absurd (hlists id hid) not_mem_nil
    · intro ⟨hquiet, hlearning⟩
      refine ⟨?_, fun hon => absurd hraises ((hlearning hon).1 w₂)⟩
      intro id hid
      rw [hsame, hquiet w₂ hraises] at hid
      cases hid

end PaperRuntime

/-! ## A paper runtime -/

def paperRuntimeOutside : RuntimeOutside where
  toKernelOutside := paperOutside
  uuid5 _ := 72

def paperDecision (createdAt : Timestamp) : DecisionBundle where
  missionId := 70
  snapshotId := 61
  createdAt := createdAt
  targetPortfolio := paperTarget
  evidenceIds := [71]
  missingEvidence := []
  abstained := false
  expiresAt := createdAt + PaperRuntime.hour
  gate := ⟨true, [], EvidenceGateResult.nothing_against⟩
  target_snapshot := rfl
  evidenceIds_nodup := by decide
  evidenceIds_ne := by decide
  abstained_iff := by decide
  missingEvidence_ne := by simp
  missingEvidence_nodup := nodup_nil
  expires := by
    show createdAt < createdAt + 3600000000
    exact lt_add_of_pos_right createdAt (by decide)

def paperSnapshot : Snapshot where
  artifactId := 61
  createdAt := 0
  asOf := 0
  purpose := "paper"
  observationIds := []
  artifactReferences := []
  dataQualityState := "validated"
  observationIds_nodup := by decide
  texts_ne := by decide +kernel
  references_available := by simp

def paperLimitOrder (artifactId : UUID) (idempotencyKey : String)
    (h : isBlank idempotencyKey = false ∧ strip idempotencyKey = idempotencyKey
      := by decide +kernel) : Order where
  artifactId := artifactId
  createdAt := 0
  parentIntentId := 70
  executionPlanId := 3
  instrument := paperInstrument
  side := .buy
  quantity := .ofNat 2
  orderType := "limit"
  price := some (.ofNat 100)
  timeInForce := "gtc"
  idempotencyKey := idempotencyKey
  state := .created
  quantity_pos := by simp
  price_pos := by simp
  tokens_normal := by decide +kernel
  limit_priced := by decide
  idempotencyKey_normal := h

def paperRuntime (decision : DecisionBundle) (orders : List Order) : PaperRuntime where
  runId := "paper"
  maxOrderCountPerCycle := 8
  snapshotProvider _ := .ok paperSnapshot
  marketProvider _ := .ok paperMarket
  decisionBuilder _ _ _ := .ok ⟨decision, none⟩
  orderFactory _ _ _ := .ok orders
  cadence := none
  account := paperHoldings Dict.empty
  riskPolicy := grossPolicy
  learning := true
  runId_ne := by decide
  maxOrderCount_le := by decide

def paperOrderSurroundings (submit : SubmitAnswer) : OrderSurroundings where
  create := .quiet 0
  reject := .quiet 0
  approve := .quiet 0
  route := { Surroundings.quiet 0 with submit := submit }

def paperCycle (submit : ℕ → SubmitAnswer) : CycleSurroundings where
  cycleId := 80
  createdAt := 0
  controlAt := 0
  riskDecisionId := 81
  recordedAt := 0
  order k := paperOrderSurroundings (submit k)

def venueFailsLater : ℕ → SubmitAnswer
  | 0 => .acknowledged (paperAcknowledgement true)
  | _ + 1 => .failed ⟨"ConnectionError", "connection reset by peer"⟩

def onePaperOrder : PaperRuntime := paperRuntime (paperDecision 0) [paperLimitOrder 1 "key-1" paperKey_normal]

def twoPaperOrders : PaperRuntime :=
  paperRuntime (paperDecision 0) [paperLimitOrder 1 "key-1" paperKey_normal, paperLimitOrder 4 "key-4"]

open PaperRuntime

def paperRunOnce (rt : PaperRuntime) : Except (Stop PyError) RuntimeCycle × RuntimeWorld :=
  (runOnce paperRuntimeOutside rt (paperCycle venueFailsLater) (.ofTimestamp 0)).run (.init .paper)

/-- One acknowledged order: the cycle and the decision record name it. -/
theorem cycle_names_orders_iff_paper :
    ∃ cycle w', paperRunOnce onePaperOrder = (.ok cycle, w') ∧ attempted (.init .paper) w' = [1] ∧
      ListsAttempts (.init .paper) w' cycle ∧ RecordsDecision onePaperOrder w' cycle := by
  have hrun : (paperRunOnce onePaperOrder).1.toOption.any (fun _ => true) = true := by
    decide +kernel
  have hsent : attempted (.init .paper) (paperRunOnce onePaperOrder).2 = [1] := by
    decide +kernel
  obtain ⟨cycle, hcycle, -⟩ := ok_of_toOption_any hrun
  have hclean : ((tryBlock paperRuntimeOutside onePaperOrder (paperCycle venueFailsLater)
      (onePaperOrder.started (paperCycle venueFailsLater) 0)).run
        ((PaperRuntime.record (onePaperOrder.started (paperCycle venueFailsLater) 0)).run
          (.init .paper)).2).1.toOption.isSome = true := by
    decide +kernel
  have hnever : ∀ w₂, ¬Raises paperRuntimeOutside onePaperOrder (paperCycle venueFailsLater) 0
      (.init .paper) w₂ := by
    intro w₂ ⟨w₁, e, hrecord, htry⟩
    rw [hrecord, htry] at hclean
    cases hclean
  have hasks : AsksForDecision onePaperOrder (RuntimeWorld.init .paper).control 0 :=
    ⟨rfl, rfl, paperSnapshot, rfl, le_refl _, by decide +kernel⟩
  have hreach : omsRun (.init .paper) [] = some (RuntimeWorld.init .paper).oms := rfl
  have hboth := (cycle_names_orders_iff hreach (Prod.ext hcycle rfl)).mpr
    ⟨0, by decide +kernel, fun w₂ h => absurd h (hnever w₂), fun _ => ⟨hnever, hasks⟩⟩
  exact ⟨cycle, _, Prod.ext hcycle rfl, hsent, hboth⟩

/-- **An exception makes the cycle forget its orders.** Both orders were
submitted, the first is acknowledged; the cycle that comes back lists none. -/
theorem interrupted_cycle_forgets_orders :
    ∃ cycle w', paperRunOnce twoPaperOrders = (.ok cycle, w') ∧
      attempted (.init .paper) w' = [1, 4] ∧ ¬ListsAttempts (.init .paper) w' cycle ∧
      ¬RecordsDecision twoPaperOrders w' cycle := by
  have hrun : (paperRunOnce twoPaperOrders).1.toOption.any
      (fun cycle => decide (cycle.orderIds = [] ∧ cycle.decisionId = none)) = true := by
    decide +kernel
  have hsent : attempted (.init .paper) (paperRunOnce twoPaperOrders).2 = [1, 4] := by
    decide +kernel
  obtain ⟨cycle, hcycle, hforgets⟩ := ok_of_toOption_any hrun
  obtain ⟨hids, hdecision⟩ := of_decide_eq_true hforgets
  refine ⟨cycle, _, Prod.ext hcycle rfl, hsent, ?_, ?_⟩
  · intro hlists
    have hlisted := hlists 1 (by rw [hsent]; decide)
    rw [hids] at hlisted
    cases hlisted
  · intro hrecords
    obtain ⟨decision, -, hid, -⟩ := hrecords rfl
    rw [hdecision] at hid
    cases hid

end AdvisorAI
