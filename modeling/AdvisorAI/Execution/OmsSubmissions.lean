import AdvisorAI.Execution.OmsRuns

/-!
# What an operation submits

Of the operations the runtime calls on an order, only `route` sends anything to
the venue, and it sends the one order it is called for. The invariant behind it
is that the manager files every order under its own identifier.
-/

namespace AdvisorAI

open Lib Prog

/-- Every order is filed under its own identifier. -/
def OrderManager.Keyed (m : OrderManager) : Prop :=
  ∀ i o, m.orders.get i = some o → o.artifactId = i

theorem OrderManager.Keyed.set {m : OrderManager} (h : m.Keyed) {id : UUID} {order : Order}
    (hid : order.artifactId = id) : { m with orders := m.orders.set id order }.Keyed := by
  intro i o ho
  rw [Dict.get_set] at ho
  by_cases hi : i = id
  · rw [if_pos hi] at ho
    cases ho
    exact hid.trans hi.symm
  · rw [if_neg hi] at ho
    exact h i o ho

/-- A world an operation that submits nothing leaves behind. -/
structure Quiet (w w' : OmsWorld) : Prop where
  keyed : w'.manager.Keyed
  submissions : w'.submissions = w.submissions

theorem Quiet.refl {w : OmsWorld} (h : w.manager.Keyed) : Quiet w w := ⟨h, rfl⟩

theorem Quiet.trans {w w' w'' : OmsWorld} (h : Quiet w w') (h' : Quiet w' w'') : Quiet w w'' :=
  ⟨h'.keyed, h'.submissions.trans h.submissions⟩

/-- A program that submits nothing, wherever it stops. -/
def SubmitsNothing {α : Type} (x : Oms α) (w : OmsWorld) : Prop :=
  Prog.wp x (fun _ w' => Quiet w w') (fun _ w' => Quiet w w') w

section

variable {env : Surroundings} {w : OmsWorld}

theorem record_quiet (h : w.manager.Keyed) (artifact : OrderArtifact)
    (eventType : OrderEventType) (key : String) :
    SubmitsNothing (record env artifact eventType key) w := by
  refine wp_atomic (Quiet.refl h) ?_
  dsimp only
  rcases SqliteLedgers.append w.orderEvents _ with ⟨result, events⟩
  cases result with
  | ok stored => exact ⟨h, rfl⟩
  | error e => exact ⟨h, rfl⟩

theorem publishEvent_quiet (h : w.manager.Keyed) (event : OrderEvent)
    (eventType : OrderEventType) (artifactId : UUID) :
    SubmitsNothing (publishEvent env event eventType artifactId) w := by
  unfold SubmitsNothing publishEvent
  cases env.eventBus with
  | none => exact wp_pure (Quiet.refl h)
  | some publish =>
    refine wp_atomic (Quiet.refl h) ?_
    dsimp only
    cases publish _ with
    | none => exact ⟨h, rfl⟩
    | some e => exact Quiet.refl h

theorem republishKey_quiet (h : w.manager.Keyed) (key : String) (eventType : OrderEventType)
    (artifactId : UUID) : SubmitsNothing (republishKey env key eventType artifactId) w := by
  unfold SubmitsNothing republishKey
  cases env.eventBus with
  | none => exact wp_pure (Quiet.refl h)
  | some publish =>
    refine wp_bind (wp_read ?_)
    split
    · exact wp_pure (Quiet.refl h)
    · exact publishEvent_quiet h _ _ _

theorem getOrder_wp {orderId : UUID} {Q : Order → OmsWorld → Prop}
    {E : Stop PyError → OmsWorld → Prop} (herr : ∀ e, E (.raised e) w)
    (hok : ∀ order, w.manager.orders.get orderId = some order → Q order w) :
    Prog.wp (getOrder orderId) Q E w := by
  refine wp_bind (wp_read ?_)
  cases horder : w.manager.orders.get orderId with
  | none => exact wp_raise (herr _)
  | some order => exact wp_pure (hok order horder)

theorem transition_quiet (h : w.manager.Keyed) (orderId : UUID) (newState : OrderState) :
    Prog.wp (transition env orderId newState)
      (fun order w' => Quiet w w' ∧ order.artifactId = orderId) (fun _ w' => Quiet w w') w := by
  refine wp_bind (getOrder_wp (fun _ => Quiet.refl h) ?_)
  intro order horder
  have hid : order.artifactId = orderId := h orderId order horder
  refine wp_ite ?_ ?_
  · intro _
    refine wp_bind (wp_mono (republishKey_quiet h _ _ _) ?_ (fun _ _ hq => hq))
    intro _ w' hq
    exact wp_pure ⟨hq, hid⟩
  intro _
  refine wp_ite (fun _ => wp_raise (Quiet.refl h)) ?_
  intro _
  refine wp_bind (wp_mono (record_quiet h _ _ _) ?_ (fun _ _ hq => hq))
  intro stored w₁ hq₁
  refine wp_bind (wp_atomic hq₁ ?_)
  have hq₂ : Quiet w { w₁ with manager := { w₁.manager with
      orders := w₁.manager.orders.set orderId (order.withState newState) } } :=
    ⟨hq₁.keyed.set hid, hq₁.submissions⟩
  refine wp_bind (wp_mono (publishEvent_quiet hq₂.keyed _ _ _) ?_
    (fun _ _ hq => hq₂.trans hq))
  intro _ w₃ hq₃
  exact wp_pure ⟨hq₂.trans hq₃, hid⟩

theorem create_quiet (h : w.manager.Keyed) (order : Order) :
    SubmitsNothing (create env order) w := by
  refine wp_bind (wp_read ?_)
  split
  · refine wp_ite (fun _ => wp_raise (Quiet.refl h)) ?_
    intro _
    refine wp_bind (wp_mono (republishKey_quiet h _ _ _) ?_ (fun _ _ hq => hq))
    intro _ w' hq
    exact wp_pure hq
  refine wp_bind (wp_read ?_)
  split
  · refine wp_ite (fun _ => wp_raise (Quiet.refl h)) ?_
    intro _
    refine wp_bind (wp_mono (republishKey_quiet h _ _ _) ?_ (fun _ _ hq => hq))
    intro _ w' hq
    exact wp_pure hq
  refine wp_bind (wp_mono (record_quiet h _ _ _) ?_ (fun _ _ hq => hq))
  intro stored w₁ hq₁
  refine wp_bind (wp_atomic hq₁ ?_)
  cases bindOrder w₁.knownOrderIds order with
  | error e => exact hq₁
  | ok known =>
    have hq₂ : Quiet w { w₁ with knownOrderIds := known } := ⟨hq₁.keyed, hq₁.submissions⟩
    refine wp_bind (wp_atomic hq₂ ?_)
    have hq₃ : Quiet w { w₁ with
        knownOrderIds := known
        manager := { w₁.manager with
          orders := w₁.manager.orders.set order.artifactId order } } :=
      ⟨hq₁.keyed.set rfl, hq₁.submissions⟩
    refine wp_bind (wp_mono (publishEvent_quiet hq₃.keyed _ _ _) ?_
      (fun _ _ hq => hq₃.trans hq))
    intro _ w₄ hq₄
    exact wp_pure (hq₃.trans hq₄)

theorem approveRisk_quiet (h : w.manager.Keyed) (orderId : UUID) (decision : RiskDecision)
    (orderCheck : Option OrderRiskCheck) :
    SubmitsNothing (approveRisk env orderId decision orderCheck) w := by
  refine wp_bind (wp_lift ?_ (fun _ _ => Quiet.refl h))
  intro _ _
  exact wp_mono (transition_quiet h _ _) (fun _ _ hq => hq.1) (fun _ _ hq => hq)

/-- The world after one submission, of an order with a given identifier. -/
def SubmittedOne (orderId : UUID) (w w' : OmsWorld) : Prop :=
  w'.manager.Keyed ∧ ∃ submission : Submission, submission.order.artifactId = orderId ∧
    w'.submissions = w.submissions ++ [submission]

theorem SubmittedOne.quiet {orderId : UUID} {w w' w'' : OmsWorld}
    (h : SubmittedOne orderId w w') (hq : Quiet w' w'') : SubmittedOne orderId w w'' := by
  obtain ⟨-, submission, hid, hsub⟩ := h
  exact ⟨hq.keyed, submission, hid, hq.submissions.trans hsub⟩

/-- **Routing submits the order it is called for**, once if it returns, at most
once if it raises. -/
theorem route_submits (h : w.manager.Keyed) (orderId : UUID) :
    Prog.wp (route env orderId) (fun _ w' => SubmittedOne orderId w w')
      (fun _ w' => Quiet w w' ∨ SubmittedOne orderId w w') w := by
  refine wp_bind (wp_read ?_)
  refine wp_ite (fun _ => wp_raise (Or.inl (Quiet.refl h))) ?_
  intro _
  refine wp_bind (getOrder_wp (fun _ => Or.inl (Quiet.refl h)) ?_)
  intro current _
  refine wp_ite (fun _ => wp_raise (Or.inl (Quiet.refl h))) ?_
  intro _
  refine wp_bind (wp_mono (transition_quiet h _ _) ?_ (fun _ _ hq => Or.inl hq))
  intro order w₁ ⟨hq₁, hid⟩
  refine wp_bind (wp_atomic (Or.inl hq₁) ?_)
  have hone : SubmittedOne orderId w { w₁ with
      submissions := w₁.submissions ++ [⟨order, w₁.orderEvents⟩] } :=
    ⟨hq₁.keyed, ⟨order, w₁.orderEvents⟩, hid, by rw [hq₁.submissions]⟩
  -- from here on the order is with the venue, whatever the answer
  cases env.submit with
  | failed e => exact wp_raise (Or.inr hone)
  | ambiguous =>
    refine wp_bind (wp_atomic (Or.inr hone) ?_)
    have hlost : SubmittedOne orderId w { w₁ with
        submissions := w₁.submissions ++ [⟨order, w₁.orderEvents⟩]
        manager := { w₁.manager with
          ambiguousOrders := insert order.artifactId w₁.manager.ambiguousOrders } } :=
      hone.quiet ⟨hq₁.keyed, rfl⟩
    refine wp_bind (wp_mono (record_quiet hlost.1 _ _ _) ?_
      (fun _ _ hq => Or.inr (hlost.quiet hq)))
    intro stored w₂ hq₂
    refine wp_bind (wp_mono (publishEvent_quiet hq₂.keyed _ _ _) ?_
      (fun _ _ hq => Or.inr (hlost.quiet (hq₂.trans hq))))
    intro _ w₃ hq₃
    exact wp_pure (hlost.quiet (hq₂.trans hq₃))
  | acknowledged acknowledgement =>
    refine wp_ite (fun _ => wp_raise (Or.inr hone)) ?_
    intro _
    refine wp_bind (wp_mono (transition_quiet hone.1 _ _) ?_
      (fun _ _ hq => Or.inr (hone.quiet hq)))
    intro _ w₂ ⟨hq₂, _⟩
    exact wp_pure (hone.quiet hq₂)

/-- A manager that was reached by operations, with crashes and restarts, files
every order under its own identifier. -/
theorem keyed_of_run {adapter : Adapter} {acts : List OmsAction}
    (hrun : omsRun (.init adapter) acts = some w) : w.manager.Keyed := by
  obtain ⟨c, hrep, hs⟩ := run_sound hrun
  intro i o ho
  rw [hrep.memory] at ho
  exact hs.projects.orderId ho

end

end AdvisorAI
