import AdvisorAI.Execution.OmsFills

/-!
# Delivering a fill again

`record_fill` on a fill that is already recorded skips the append and goes
straight to the transition its fills call for. Whether that leaves the manager
alone depends on the order's state: it does when the order is already in the
state its fills put it in, and only then. In CANCEL_PENDING the transition moves
the order back to a fill state; in ACKNOWLEDGED, after a crash, it completes the
torn recording; in the terminal states it is refused.
-/

namespace AdvisorAI

open Lib OrderJournal Prog Option

variable {c : OrderJournal} {w : OmsWorld} {env : Surroundings} {f : Fill} {o : Order}
  {side : String} {Q : Order → OmsWorld → Prop} {E : Stop PyError → OmsWorld → Prop}

theorem fillIdentity_recorded (hs : Sound c) (hf : c.memory.fills.get f.venueFillId = some f) :
    fillIdentity c.memory.fills f = .ok () := by
  have hlogged := (hs.projects.get_fill.mp hf).1
  have hartifact : (c.memory.fills.values.find? fun item => item.artifactId = f.artifactId).any
      (fun existing => existing.logicalPayload ≠ f.logicalPayload) = false := by
    cases hfind : c.memory.fills.values.find? fun item =>
        decide (item.artifactId = f.artifactId) with
    | none => rfl
    | some g =>
      have hg : .fill g ∈ c.entries := by
        rw [← mem_loggedFills, ← hs.projects.values]
        exact List.mem_of_find?_eq_some hfind
      have hid : g.artifactId = f.artifactId := by
        simpa using List.find?_some hfind
      rw [hs.wellFormed.fillArtifacts g f hg hlogged hid]
      simp
  unfold fillIdentity
  rw [hartifact, hf]
  simp

theorem wp_recordFill_recorded (hrep : Represents w c) (hs : Sound c)
    (hf : c.memory.fills.get f.venueFillId = some f)
    (ho : c.memory.orders.get f.orderId = some o) (hside : parseSide side = some o.side)
    (h : ∀ stored, SqliteLedgers.findKey w.orderEvents (fillKey f.venueFillId) = some stored →
      Prog.wp (do
        let _ ← transition env o.artifactId (c.stateOfFills o)
        publishEvent env stored .fillRecorded f.artifactId
        getOrder o.artifactId) Q E w) :
    Prog.wp (recordFill env f side) Q E w := by
  have hid : o.artifactId = f.orderId := hs.projects.orderId ho
  unfold recordFill
  rw [hside]
  refine wp_bind (wp_read ?_)
  rw [hrep.memory, fillIdentity_recorded hs hf]
  refine wp_bind (wp_pure ?_)
  refine wp_bind (wp_getOrder hrep ?_ ?_)
  · intro e hnone
    rw [ho] at hnone
    cases hnone
  intro o' ho'
  rw [ho] at ho'
  cases ho'
  rw [if_neg (not_not.mpr rfl), hf]
  have hroom : ¬(filledQuantity c.memory.fills o.artifactId > o.quantity.value) := by
    rw [hid]
    exact not_lt_of_ge (hs.filled_le ho)
  show Prog.wp (if filledQuantity c.memory.fills o.artifactId > o.quantity.value then _ else _) _ _ _
  rw [if_neg hroom]
  refine wp_bind (wp_bind (wp_read ?_))
  obtain ⟨stored, -, hfind, -, -⟩ := hrep.durable.findKey_present hs.wellFormed
    (hs.projects.get_fill.mp hf).1
  have hfind' : SqliteLedgers.findKey w.orderEvents (fillKey f.venueFillId) = some stored := hfind
  rw [hfind']
  exact wp_pure (h stored hfind')

/-- The notifications a redelivery repeats when nothing changes: the order's
state and the fill. -/
def redeliveryEnvelopes (w : OmsWorld) (f : Fill) (o : Order) : List EventEnvelope :=
  ((SqliteLedgers.findKey w.orderEvents (orderKey o.idempotencyKey (.order o.state))).toList.map
    fun e => envelopeOf e (.order o.state) o.artifactId) ++
  ((SqliteLedgers.findKey w.orderEvents (fillKey f.venueFillId)).toList.map
    fun e => envelopeOf e .fillRecorded f.artifactId)

/-- The event bus, if there is one, takes every notification of a list. -/
def Surroundings.TakesAll (env : Surroundings) (envelopes : List EventEnvelope) : Prop :=
  ∀ envelope ∈ envelopes, ∀ e, ¬env.Refuses envelope e

/-- The delivery returned, and orders and fills are what they were. -/
def LeavesAlone (x : Oms Order) (w : OmsWorld) : Prop :=
  ∃ o w', Prog.run x w = (.ok o, w') ∧ w'.manager.orders = w.manager.orders ∧
    w'.manager.fills = w.manager.fills

/-- In the state its fills call for, an order is left alone by a bus that listens. -/
private theorem redelivery_leaves (hrep : Represents w c) (hs : Sound c)
    (hf : c.memory.fills.get f.venueFillId = some f)
    (ho : c.memory.orders.get f.orderId = some o) (hside : parseSide side = some o.side)
    (hstate : o.state = c.stateOfFills o) (hbus : env.TakesAll (redeliveryEnvelopes w f o)) :
    LeavesAlone (recordFill env f side) w := by
  have hid : o.artifactId = f.orderId := hs.projects.orderId ho
  have hwp : Prog.wp (recordFill env f side)
      (fun _ w' => w'.manager = w.manager) (fun e _ => e = .crashed) w := by
    refine wp_recordFill_recorded hrep hs hf ho hside ?_
    intro stored hstored
    rw [← hstate, hid]
    refine wp_bind (wp_transition_same hrep ho rfl ?_ ?_)
    · intro event e hevent hrefuse
      refine absurd hrefuse (hbus _ ?_ e)
      unfold redeliveryEnvelopes
      rw [hevent]
      simp
    · intro _ p
      refine wp_bind (wp_publishEvent rfl ?_ ?_)
      · intro e hrefuse
        refine absurd hrefuse (hbus _ ?_ e)
        unfold redeliveryEnvelopes
        rw [hstored]
        simp
      · intro _ q
        have hrep' := (hrep.published p).published q
        refine wp_getOrder hrep' ?_ ?_
        · intro e hnone
          rw [ho] at hnone
          cases hnone
        · intro o' _
          rfl
  rcases run_of_wp hwp with ⟨o', w', hrun, hm⟩ | ⟨e, w', -, he⟩
  · exact ⟨o', w', hrun, congrArg OrderManager.orders hm, congrArg OrderManager.fills hm⟩
  · cases he

private theorem redelivery_refused (hrep : Represents w c) (hs : Sound c)
    (hf : c.memory.fills.get f.venueFillId = some f)
    (ho : c.memory.orders.get f.orderId = some o) (hside : parseSide side = some o.side)
    (hstate : o.state = c.stateOfFills o) (hbus : ¬env.TakesAll (redeliveryEnvelopes w f o)) :
    ¬LeavesAlone (recordFill env f side) w := by
  have hid : o.artifactId = f.orderId := hs.projects.orderId ho
  have hwp : Prog.wp (recordFill env f side) (fun _ _ => False) (fun _ _ => True) w := by
    refine wp_recordFill_recorded hrep hs hf ho hside ?_
    intro stored hstored
    rw [← hstate, hid]
    refine wp_bind (wp_transition_same hrep ho trivial (fun _ _ _ _ => trivial) ?_)
    intro htakes p
    refine wp_bind (wp_publishEvent trivial (fun _ _ => trivial) ?_)
    intro htakes' q
    refine absurd ?_ hbus
    intro envelope hmem e
    rcases List.mem_append.mp hmem with hm | hm
    · obtain ⟨event, hevent, rfl⟩ := List.mem_map.mp hm
      exact htakes event e (mem_toList.mp hevent)
    · obtain ⟨event, hevent, rfl⟩ := List.mem_map.mp hm
      rw [mem_toList] at hevent
      rw [hstored] at hevent
      cases hevent
      exact htakes' e
  intro ⟨o', w', hrun, _⟩
  rcases run_of_wp hwp with ⟨_, _, _, hfalse⟩ | ⟨e, w'', hrun', -⟩
  · exact hfalse
  · rw [hrun] at hrun'
    cases hrun'

/-- Out of the state its fills call for, an order is moved or the delivery raises. -/
private theorem redelivery_moves (hrep : Represents w c) (hs : Sound c)
    (hf : c.memory.fills.get f.venueFillId = some f)
    (ho : c.memory.orders.get f.orderId = some o) (hside : parseSide side = some o.side)
    (hstate : o.state ≠ c.stateOfFills o) : ¬LeavesAlone (recordFill env f side) w := by
  have hid : o.artifactId = f.orderId := hs.projects.orderId ho
  have hwp : Prog.wp (recordFill env f side)
      (fun _ w' => w'.manager.orders ≠ w.manager.orders) (fun _ _ => True) w := by
    refine wp_recordFill_recorded hrep hs hf ho hside ?_
    intro stored _
    rw [hid]
    refine wp_bind (wp_transition hrep hs (fun _ _ => trivial) (fun _ _ _ _ => trivial) ?_
      (fun _ _ _ _ _ _ => trivial) (fun _ _ _ _ _ _ _ _ => trivial) ?_)
    · intro o' w' ho' hsame _
      rw [ho] at ho'
      cases ho'
      exact absurd hsame.symm hstate
    · intro o' w' ho' hal hne hr
      rw [ho] at ho'
      cases ho'
      refine wp_bind (wp_publishEvent trivial (fun _ _ => trivial) ?_)
      intro _ p
      refine wp_getOrder (hr.published p) (fun _ _ => trivial) ?_
      intro o' _
      -- The order itself is different now.
      show w'.manager.orders ≠ w.manager.orders
      rw [hr.memory, hrep.memory]
      intro heq
      have hget : (c.memory.orders.set o.artifactId (o.withState (c.stateOfFills o))).get
          f.orderId = c.memory.orders.get f.orderId := congrArg (fun d => Dict.get d f.orderId) heq
      rw [hid, Dict.get_set_self, ho] at hget
      exact hne (congrArg Order.state (Option.some.inj hget))
  intro ⟨o', w', hrun, horders, _⟩
  rcases run_of_wp hwp with ⟨o'', w'', hrun', hmoved⟩ | ⟨e, w'', hrun', -⟩
  · rw [hrun] at hrun'
    cases hrun'
    exact hmoved horders
  · rw [hrun] at hrun'
    cases hrun'

/-- **Redelivery.** In every reachable state, delivering a recorded fill again,
with its side, returns and leaves orders and fills unchanged exactly when the
order is in the state its fills call for, FILLED when they sum to its quantity
and PARTIALLY_FILLED when they do not, and the event bus takes the repeated
notifications. -/
theorem redelivery_leaves_alone_iff {adapter : Adapter} {acts : List OmsAction}
    (hrun : omsRun (.init adapter) acts = some w) (hf : w.manager.fills.get f.venueFillId = some f)
    (ho : w.manager.orders.get f.orderId = some o) (hside : parseSide side = some o.side) :
    LeavesAlone (recordFill env f side) w ↔
      (o.state = .filled ∧ filledQuantity w.manager.fills f.orderId = o.quantity.value ∨
        o.state = .partiallyFilled ∧
          filledQuantity w.manager.fills f.orderId ≠ o.quantity.value) ∧
      env.TakesAll (redeliveryEnvelopes w f o) := by
  obtain ⟨c, hrep, hs⟩ := run_sound hrun
  rw [hrep.memory] at hf ho ⊢
  have hid : o.artifactId = f.orderId := hs.projects.orderId ho
  have hcall : (o.state = .filled ∧
        filledQuantity c.memory.fills f.orderId = o.quantity.value ∨
      o.state = .partiallyFilled ∧
        filledQuantity c.memory.fills f.orderId ≠ o.quantity.value) ↔
      o.state = c.stateOfFills o := by
    unfold stateOfFills fillState
    rw [hid]
    by_cases hsum : filledQuantity c.memory.fills f.orderId = o.quantity.value
    · simp [hsum]
    · simp [hsum]
  rw [hcall]
  constructor
  · intro hleaves
    by_contra hnot
    by_cases hstate : o.state = c.stateOfFills o
    · refine redelivery_refused hrep hs hf ho hside hstate ?_ hleaves
      intro hbus
      exact hnot ⟨hstate, hbus⟩
    · exact redelivery_moves hrep hs hf ho hside hstate hleaves
  · intro ⟨hstate, hbus⟩
    exact redelivery_leaves hrep hs hf ho hside hstate hbus

/-- The fill of the partly filled paper order is delivered again, and nothing changes. -/
theorem redelivery_leaves_alone_iff_paper :
    ∃ w o, omsRun (.init .paper) paperPartlyFilled = some w ∧
      w.manager.orders.get 1 = some o ∧
      (LeavesAlone (recordFill (paperSurroundings true) (paperFill 11 "v-1" 4 fourUnits_pos paperFillId_normal) "buy") w ↔
        (o.state = .filled ∧ filledQuantity w.manager.fills 1 = o.quantity.value ∨
          o.state = .partiallyFilled ∧ filledQuantity w.manager.fills 1 ≠ o.quantity.value) ∧
        (paperSurroundings true).TakesAll
          (redeliveryEnvelopes w (paperFill 11 "v-1" 4 fourUnits_pos paperFillId_normal) o)) := by
  have hrun : (omsRun (.init .paper) paperPartlyFilled).any (fun w =>
      (w.manager.orders.get 1).any fun o => o.side = .buy ∧
        w.manager.fills.get "v-1" = some (paperFill 11 "v-1" 4 fourUnits_pos paperFillId_normal)) = true := by
    decide +kernel
  obtain ⟨w, hw, hany⟩ := (any_eq_true _ _).mp hrun
  obtain ⟨o, ho, hfacts⟩ := (any_eq_true _ _).mp hany
  obtain ⟨hside, hf⟩ := of_decide_eq_true hfacts
  have hparse : parseSide "buy" = some o.side := by
    rw [hside]
    decide +kernel
  exact ⟨w, o, hw, ho, redelivery_leaves_alone_iff (f := paperFill 11 "v-1" 4 fourUnits_pos paperFillId_normal) hw hf ho hparse⟩

/-- The partly filled paper order is being cancelled when its fill is delivered
again: the order is back in PARTIALLY_FILLED. -/
theorem redelivery_reverts_pending_cancel :
    ¬∀ (adapter : Adapter) (acts : List OmsAction) (w : OmsWorld) (f : Fill) (o : Order)
        (side : String) (env : Surroundings),
      omsRun (.init adapter) acts = some w → w.manager.fills.get f.venueFillId = some f →
      w.manager.orders.get f.orderId = some o → parseSide side = some o.side →
      env.eventBus = none → LeavesAlone (recordFill env f side) w := by
  intro h
  have hrun : (omsRun (.init .paper) (paperPartlyFilled ++ [paperCall (.cancel 1)])).any (fun w =>
      (w.manager.orders.get 1).any fun o => o.side = .buy ∧ o.state = .cancelPending ∧
        w.manager.fills.get "v-1" = some (paperFill 11 "v-1" 4 fourUnits_pos paperFillId_normal) ∧
        (((recordFill (paperSurroundings true) (paperFill 11 "v-1" 4 fourUnits_pos paperFillId_normal) "buy").run
          w).2.manager.orders.get 1).any (fun o => o.state = .partiallyFilled)) = true := by
    decide +kernel
  obtain ⟨w, hw, hany⟩ := (any_eq_true _ _).mp hrun
  obtain ⟨o, ho, hfacts⟩ := (any_eq_true _ _).mp hany
  obtain ⟨hside, hpending, hf, hafter⟩ := of_decide_eq_true hfacts
  have hparse : parseSide "buy" = some o.side := by
    rw [hside]
    decide +kernel
  obtain ⟨o', w', hcall, horders, -⟩ :=
    h .paper _ w (paperFill 11 "v-1" 4 fourUnits_pos paperFillId_normal) o "buy" (paperSurroundings true) hw hf ho hparse rfl
  rw [hcall, horders, ho] at hafter
  have hpart : o.state = .partiallyFilled := of_decide_eq_true hafter
  rw [hpending] at hpart
  cases hpart

end AdvisorAI
