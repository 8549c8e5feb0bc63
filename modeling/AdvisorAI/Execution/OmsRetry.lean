import AdvisorAI.Execution.OmsRedelivery

/-!
# Creating an order again

`create` answers a retry from memory: it compares the payload of the order it is
given with that of the order it has, and the state is part of the payload. The
versions of an order differ in nothing else, so the retry is recognised exactly
while the order is in the state it was created in.
-/

namespace AdvisorAI

open Lib OrderJournal Prog

variable {c : OrderJournal} {w : OmsWorld} {env : Surroundings} {o p : Order}
  {Q : Order → OmsWorld → Prop} {E : Stop PyError → OmsWorld → Prop}

/-- The ledger holds the event of the order's creation. -/
def Created (w : OmsWorld) (o : Order) : Prop :=
  ∃ e ∈ w.orderEvents, e.eventType = .order .created ∧ e.payload = .order o

def retryEnvelopes (w : OmsWorld) (o : Order) : List EventEnvelope :=
  (SqliteLedgers.findKey w.orderEvents (orderKey o.idempotencyKey (.order .created))).toList.map
    fun e => envelopeOf e (.order .created) o.artifactId

/-- The retry returned the order the manager has, and only notified the bus. -/
def RetryAnswered (w : OmsWorld) (env : Surroundings) (o : Order) : Prop :=
  ∃ p w', Prog.run (create env o) w = (.ok p, w') ∧
    w.manager.orders.get o.artifactId = some p ∧ w' = { w with published := w'.published }

private theorem current_version (hrep : Represents w c) (hs : Sound c) (hcreated : Created w o) :
    ∃ s, c.memory.orders.get o.artifactId = some (o.withState s) := by
  obtain ⟨e, he, htype, hpayload⟩ := hcreated
  have hlogged : .order (.order .created) o ∈ c.entries := by
    rw [← hrep.durable.entries]
    refine List.mem_filterMap.mpr ⟨e, he, ?_⟩
    unfold entryOf
    rw [hpayload, htype]
  obtain ⟨p, hp, -⟩ := hs.projects.loggedOrder _ o hlogged
  refine ⟨p.state, ?_⟩
  have hver : o.withState p.state = p := hs.wellFormed.version hs.projects hp hlogged rfl
  rw [hver]
  exact hp

private theorem logicalPayload_withState {s : OrderState} :
    (o.withState s).logicalPayload = o.logicalPayload ↔ s = o.state := by
  constructor
  · intro h
    exact congrArg Order.state h
  · intro h
    rw [h, Order.withState_self]

private theorem retry_recognised (hrep : Represents w c)
    (ho : c.memory.orders.get o.artifactId = some o)
    (hcrash : E .crashed w)
    (hrefuse : ∀ event e, SqliteLedgers.findKey w.orderEvents
        (orderKey o.idempotencyKey (.order .created)) = some event →
      env.Refuses (envelopeOf event (.order .created) o.artifactId) e → E (.raised e) w)
    (hok : (∀ event e, SqliteLedgers.findKey w.orderEvents
          (orderKey o.idempotencyKey (.order .created)) = some event →
        ¬env.Refuses (envelopeOf event (.order .created) o.artifactId) e) →
      ∀ published, Q o { w with published := published }) :
    Prog.wp (create env o) Q E w := by
  refine wp_bind (wp_read ?_)
  rw [hrep.memory, ho]
  refine wp_ite (fun hne => absurd rfl hne) ?_
  intro _
  refine wp_bind (wp_republishKey hcrash hrefuse ?_)
  intro htakes published
  exact wp_pure (hok htakes published)

private theorem retry_refused (hrep : Represents w c) {s : OrderState}
    (ho : c.memory.orders.get o.artifactId = some (o.withState s)) (hne : s ≠ o.state)
    (hraise : ∀ e, E (.raised e) w) : Prog.wp (create env o) Q E w := by
  refine wp_bind (wp_read ?_)
  rw [hrep.memory, ho]
  refine wp_ite (fun _ => wp_raise (hraise _)) ?_
  intro hsame
  exact absurd (logicalPayload_withState.mp (not_not.mp hsame)) hne

/-- **Retrying `create`.** In every reachable state, a retry with an order whose
creation is in the ledger returns the order the manager has and changes nothing
exactly when that order is still in the state it was created in, and the event
bus takes the repeated notification. -/
theorem create_retry_iff {adapter : Adapter} {acts : List OmsAction}
    (hrun : omsRun (.init adapter) acts = some w) (hcreated : Created w o) :
    RetryAnswered w env o ↔
      (∃ p, w.manager.orders.get o.artifactId = some p ∧ p.state = o.state) ∧
        env.TakesAll (retryEnvelopes w o) := by
  obtain ⟨c, hrep, hs⟩ := run_sound hrun
  obtain ⟨s, ho⟩ := current_version hrep hs hcreated
  rw [hrep.memory, ho]
  by_cases hstate : s = o.state
  · -- The order has not moved: the answer depends on the bus alone.
    rw [hstate, Order.withState_self] at ho ⊢
    have htakesAll : env.TakesAll (retryEnvelopes w o) ↔
        ∀ event e, SqliteLedgers.findKey w.orderEvents
            (orderKey o.idempotencyKey (.order .created)) = some event →
          ¬env.Refuses (envelopeOf event (.order .created) o.artifactId) e := by
      unfold Surroundings.TakesAll retryEnvelopes
      constructor
      · intro h event e hevent
        apply h
        rw [hevent]
        exact List.mem_singleton_self _
      · intro h envelope hmem e
        obtain ⟨event, hevent, rfl⟩ := List.mem_map.mp hmem
        exact h event e (Option.mem_toList.mp hevent)
    constructor
    · intro ⟨p, w', hcall, _, _⟩
      refine ⟨⟨o, rfl, rfl⟩, htakesAll.mpr ?_⟩
      by_contra hbus
      have hwp : Prog.wp (create env o) (fun _ _ => False) (fun _ _ => True) w :=
        retry_recognised hrep ho trivial (fun _ _ _ _ => trivial) fun htakes _ => hbus htakes
      rcases run_of_wp hwp with ⟨_, _, _, hfalse⟩ | ⟨e, w'', hcall', -⟩
      · exact hfalse
      · rw [hcall] at hcall'
        cases hcall'
    · intro ⟨_, hbus⟩
      have hwp : Prog.wp (create env o)
          (fun p w' => p = o ∧ w' = { w with published := w'.published })
          (fun e _ => e = .crashed) w := by
        refine retry_recognised hrep ho rfl ?_ (fun _ published => ⟨rfl, rfl⟩)
        intro event e hevent hrefuse
        exact absurd hrefuse (htakesAll.mp hbus event e hevent)
      rcases run_of_wp hwp with ⟨p, w', hcall, hp, hw'⟩ | ⟨e, w', -, he⟩
      · refine ⟨p, w', hcall, ?_, hw'⟩
        rw [hrep.memory, hp]
        exact ho
      · cases he
  · constructor
    · intro ⟨p, w', hcall, _, _⟩
      have hwp : Prog.wp (create env o) (fun _ _ => False) (fun _ _ => True) w :=
        retry_refused hrep ho hstate fun _ => trivial
      rcases run_of_wp hwp with ⟨_, _, _, hfalse⟩ | ⟨e, w'', hcall', -⟩
      · exact absurd hfalse id
      · rw [hcall] at hcall'
        cases hcall'
    · intro ⟨⟨p, hp, hps⟩, _⟩
      cases hp
      exact absurd hps hstate

/-- The paper order is retried right after its creation, and answered. -/
theorem create_retry_iff_paper :
    ∃ w, omsRun (.init .paper) [paperCall (.create (paperOrder .created))] = some w ∧
      (RetryAnswered w (paperSurroundings true) (paperOrder .created) ↔
        (∃ p, w.manager.orders.get 1 = some p ∧ p.state = .created) ∧
          (paperSurroundings true).TakesAll (retryEnvelopes w (paperOrder .created))) := by
  have hrun : (omsRun (.init .paper) [paperCall (.create (paperOrder .created))]).any (fun w =>
      w.orderEvents.any fun e => e.eventType = .order .created ∧
        e.payload = .order (paperOrder .created)) = true := by
    decide +kernel
  obtain ⟨w, hw, hany⟩ := (Option.any_eq_true _ _).mp hrun
  obtain ⟨e, he, hfacts⟩ := List.any_eq_true.mp hany
  obtain ⟨htype, hpayload⟩ := of_decide_eq_true hfacts
  exact ⟨w, hw, create_retry_iff (o := paperOrder .created) hw ⟨e, he, htype, hpayload⟩⟩

/-- The paper order is approved when its creation is retried: `create` raises. -/
theorem approved_order_retry_refused :
    ¬∀ (adapter : Adapter) (acts : List OmsAction) (w : OmsWorld) (o : Order)
        (env : Surroundings),
      omsRun (.init adapter) acts = some w → Created w o → env.eventBus = none →
      RetryAnswered w env o := by
  intro h
  have hrun : (omsRun (.init .paper) [paperCall (.create (paperOrder .created)),
      paperCall (.transition 1 .riskApproved)]).any (fun w =>
        (w.orderEvents.any fun e => e.eventType = .order .created ∧
          e.payload = .order (paperOrder .created)) ∧
        (Prog.run (create (paperSurroundings true) (paperOrder .created)) w).1.toOption.isNone)
      = true := by
    decide +kernel
  obtain ⟨w, hw, hfacts⟩ := (Option.any_eq_true _ _).mp hrun
  obtain ⟨hany, hnone⟩ := of_decide_eq_true hfacts
  obtain ⟨e, he, hevent⟩ := List.any_eq_true.mp hany
  obtain ⟨htype, hpayload⟩ := of_decide_eq_true hevent
  obtain ⟨p, w', hcall, -⟩ := h .paper _ w (paperOrder .created) (paperSurroundings true) hw
    ⟨e, he, htype, hpayload⟩ rfl
  rw [hcall] at hnone
  cases hnone

end AdvisorAI
