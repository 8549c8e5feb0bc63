import AdvisorAI.Execution.OmsRefine

/-!
# What an operation does to the journal

`OmsOp.Takes` lists, for each operation, the journal steps it may take, with
what is known where it takes them. `op_refines` proves the list complete: from
a sound journal, an operation that returns or raises has moved the journal
along steps from the list, and one that dies on the way leaves the ledger of
such a journal, or of one with a torn fill.
-/

namespace AdvisorAI

open Lib OrderJournal Prog Dict

def OmsOp.Takes (env : Surroundings) (c : OrderJournal) : OmsOp → Label → Prop
  | .create order, l => l = .create order
  | .transition orderId newState, l => l = .advance orderId newState
  | .approveRisk orderId decision orderCheck, l =>
    riskApproval decision orderCheck = .ok () ∧ l = .advance orderId .riskApproved
  | .route orderId, l => orderId ∉ c.memory.ambiguousOrders ∧
    (l = .advance orderId .routed ∨ l = .route orderId ∨ l = .lose orderId ∨
      ∃ accepted, l = .advance orderId (answeredState accepted))
  | .reconcileAmbiguous orderId, l => ∃ o a, c.memory.orders.get orderId = some o ∧
    orderId ∈ c.memory.ambiguousOrders ∧ env.Answers orderId o a ∧
    (l = .resolve orderId a.accepted ∨
      env.MayRefuse (.order (answeredState a.accepted)) ∧
        l = .advance orderId (answeredState a.accepted))
  | .reconcileRouted orderId, l => ∃ o a, c.memory.orders.get orderId = some o ∧
    o.state = .routed ∧ env.Answers orderId o a ∧
    l = .advance orderId (answeredState a.accepted)
  | .expireUnacknowledged orderId, l => l = .advance orderId .expired
  | .recordFill fill side, l => fillIdentity c.memory.fills fill = .ok () ∧
    (∃ o, c.memory.orders.get fill.orderId = some o ∧ parseSide side = some o.side) ∧
    (l = .record fill ∨ l = .settle fill)
  | .cancel orderId, l => l = .advance orderId .cancelPending
  | .acknowledgeCancel orderId, l => l = .advance orderId .cancelled
  | .reconcile orderId, l => l = .advance orderId .reconciled

def Permitted (A : OrderJournal → Label → Prop) (c c' : OrderJournal) : Prop :=
  ∃ l, A c l ∧ Step l c c'

def Path (A : OrderJournal → Label → Prop) : OrderJournal → OrderJournal → Prop :=
  Relation.ReflTransGen (Permitted A)

variable {w w' : OmsWorld} {c c' : OrderJournal} {env : Surroundings}
  {A : OrderJournal → Label → Prop}

theorem Path.one {l : Label} (hA : A c l) (h : Step l c c') : Path A c c' :=
  Relation.ReflTransGen.single ⟨l, hA, h⟩

theorem path_sound (h : Path A c c') (hs : Sound c) : Sound c' := by
  induction h with
  | refl => exact hs
  | tail _ hstep ih =>
    obtain ⟨l, -, hl⟩ := hstep
    exact step_sound hl ih

/-- Where an operation may stop: in the world of a journal with `G`, or, if it
died, with the ledger of one with `G` or `G'`. -/
def Stops (G G' : OrderJournal → Prop) : Stop PyError → OmsWorld → Prop
  | .raised _, w => ∃ c, Represents w c ∧ G c
  | .crashed, w => ∃ c, Durable w c ∧ (G c ∨ G' c)

/-- An operation moves the journal from `c` into `G`; dying, also into `G'`. -/
def Moves {α : Type} (x : Oms α) (w : OmsWorld) (G G' : OrderJournal → Prop) : Prop :=
  Prog.wp x (fun _ w' => ∃ c, Represents w' c ∧ G c) (Stops G G') w

section

variable {G G' : OrderJournal → Prop}

theorem moves_discard {α : Type} {x : Oms α} (h : Moves x w G G') :
    Moves (do let _ ← x : Oms Unit) w G G' :=
  wp_bind (wp_mono h (fun _ _ hG => wp_pure hG) (fun _ _ hE => hE))

theorem moves_transition {orderId : UUID} {s : OrderState} (hrep : Represents w c)
    (hs : Sound c) (hstay : G c)
    (hadv : ∀ o, c.memory.orders.get orderId = some o → s ∈ allowedTransitions o.state →
      s ≠ o.state → G (c.advance o s)) : Moves (transition env orderId s) w G G' := by
  refine wp_transition hrep hs ?_ ?_ ?_ ?_ ?_ ?_
  · intro w' hd
    exact ⟨c, hd, Or.inl hstay⟩
  · intro e w' _ hr
    exact ⟨c, hr, hstay⟩
  · intro o w' _ _ hr
    exact ⟨c, hr, hstay⟩
  · intro o w' ho hal hne hd
    exact ⟨_, hd, Or.inl (hadv o ho hal hne)⟩
  · intro o e w' ho hal hne _ hr
    exact ⟨_, hr, hadv o ho hal hne⟩
  · intro o w' ho hal hne hr
    exact ⟨_, hr, hadv o ho hal hne⟩

end

variable {orderId : UUID}

theorem transition_moves {s : OrderState} {G' : OrderJournal → Prop} (hrep : Represents w c)
    (hs : Sound c) (hA : A c (.advance orderId s)) :
    Moves (transition env orderId s) w (Path A c) G' := by
  refine moves_transition hrep hs Relation.ReflTransGen.refl ?_
  intro o ho hal hne
  exact Path.one hA (Step.advance ho hal hne)

/-! ## Creation -/

variable {o order : Order}

theorem bindOrder_ok {known : Option (Dict String UUID)} {m : OrderManager}
    (hbound : Bound known m) (hfresh : ∀ p ∈ m.orders.values, p.idempotencyKey ≠ o.idempotencyKey) :
    ∃ known', bindOrder known o = .ok known' ∧
      ∀ m', (∀ i p, m.orders.get i = some p → ∃ p', m'.orders.get i = some p' ∧
          p'.idempotencyKey = p.idempotencyKey) →
        (∃ p, m'.orders.get o.artifactId = some p ∧ p.idempotencyKey = o.idempotencyKey) →
        Bound known' m' := by
  cases known with
  | none =>
    refine ⟨none, rfl, ?_⟩
    intro m' _ _ ids hids
    cases hids
  | some ids =>
    have hnone : ids.get o.idempotencyKey = none := by
      rw [Option.eq_none_iff_forall_ne_some]
      intro i hi
      obtain ⟨p, hp, hk⟩ := hbound ids rfl _ i hi
      exact hfresh p (mem_values_iff.mpr ⟨i, hp⟩) hk
    refine ⟨some (ids.set o.idempotencyKey o.artifactId), ?_, ?_⟩
    · unfold bindOrder
      simp [hnone]
    · intro m' hkeep hnew ids' hids' k i hi
      cases hids'
      rw [get_set] at hi
      by_cases hk : k = o.idempotencyKey
      · rw [if_pos hk] at hi
        cases hi
        obtain ⟨p, hp, hpk⟩ := hnew
        exact ⟨p, hp, hpk.trans hk.symm⟩
      · rw [if_neg hk] at hi
        obtain ⟨p, hp, hpk⟩ := hbound ids rfl k i hi
        obtain ⟨p', hp', hpk'⟩ := hkeep i p hp
        exact ⟨p', hp', hpk'.trans hpk⟩

theorem create_moves {G' : OrderJournal → Prop} (hrep : Represents w c) (hs : Sound c)
    (hA : A c (.create order)) : Moves (create env order) w (Path A c) G' := by
  have hstay : Path A c c := Relation.ReflTransGen.refl
  have hcrash : Stops (Path A c) G' .crashed w := ⟨c, hrep.durable, Or.inl hstay⟩
  have hraise : ∀ e, Stops (Path A c) G' (.raised e) w := fun e => ⟨c, hrep, hstay⟩
  have hsame : ∀ (prior : Order) (p : List EventEnvelope), Prog.wp (pure prior : Oms Order)
      (fun _ w' => ∃ c', Represents w' c' ∧ Path A c c') (Stops (Path A c) G')
      { w with published := p } := fun prior p =>
    wp_pure ⟨c, hrep.published p, hstay⟩
  refine wp_bind (wp_read ?_)
  rw [hrep.memory]
  cases hget : c.memory.orders.get order.artifactId with
  | some existing =>
    refine wp_ite (fun _ => wp_raise (hraise _)) ?_
    intro _
    exact wp_bind (wp_republishKey hcrash (fun _ e _ _ => hraise e)
      (fun _ => hsame existing))
  | none =>
    refine wp_bind (wp_read ?_)
    rw [hrep.memory]
    split
    · next prior hprior =>
      refine wp_ite (fun _ => wp_raise (hraise _)) ?_
      intro _
      exact wp_bind (wp_republishKey hcrash (fun _ e _ _ => hraise e)
        (fun _ => hsame prior))
    · next hnone =>
      have hfresh : ∀ p ∈ c.memory.orders.values, p.idempotencyKey ≠ order.idempotencyKey := by
        intro p hp
        simpa using List.find?_eq_none.mp hnone p hp
      have hstep : Path A c (c.logOrder (.order .created) order) :=
        Path.one hA (Step.create hget hfresh)
      have hown : ∀ y ∈ c.entries, y.key = JournalEntry.key (.order (.order .created) order) →
          y = .order (.order .created) order := by
        intro y hy hkey
        cases y with
        | fill f => exact absurd hkey.symm (orderKey_ne_fillKey _ _ _)
        | order t q =>
          obtain ⟨p, hp, -⟩ := hs.projects.loggedOrder t q hy
          have hver := hs.wellFormed.version hs.projects hp hy rfl
          refine absurd ?_ (hfresh p (mem_values_iff.mpr ⟨_, hp⟩))
          rw [← hver]
          exact (orderKey_inj hkey).1
      refine wp_bind (wp_record hrep.durable hs.wellFormed (.order (.order .created) order)
        hown hcrash ?_)
      intro stored w₁ hd₁ hm₁ hk₁ _
      obtain ⟨known', hbind, hbound'⟩ := bindOrder_ok hrep.bound hfresh
      have hcrash₁ : ∀ {w'}, Durable w' (c.write (.order (.order .created) order)) →
          Stops (Path A c) G' .crashed w' := fun hd =>
        ⟨c.logOrder (.order .created) order, hd.congr rfl rfl, Or.inl hstep⟩
      refine wp_bind (wp_atomic (hcrash₁ hd₁) ?_)
      rw [hk₁, hbind]
      have hd₂ : Durable { w₁ with knownOrderIds := known' }
          (c.write (.order (.order .created) order)) :=
        ⟨hd₁.entries, hd₁.shaped, hd₁.eventIds, hd₁.submissions⟩
      refine wp_bind (wp_updateManager (hcrash₁ hd₂) ?_)
      have hrep₃ : Represents { w₁ with
          knownOrderIds := known'
          manager := { w₁.manager with
            orders := w₁.manager.orders.set order.artifactId order } }
          (c.logOrder (.order .created) order) := by
        refine ⟨?_, ?_, ?_⟩
        · show ({ w₁.manager with
            orders := w₁.manager.orders.set order.artifactId order } : OrderManager) = _
          rw [hm₁, hrep.memory]
          rfl
        · have hd : Durable w₁ (c.logOrder (.order .created) order) := hd₁.congr rfl rfl
          exact ⟨hd.entries, hd.shaped, hd.eventIds, hd.submissions⟩
        · refine hbound' _ ?_ ⟨order, get_set_self _ _ _, rfl⟩
          intro i p hp
          refine ⟨p, ?_, rfl⟩
          have hne : i ≠ order.artifactId := by
            intro hi
            rw [hi, hget] at hp
            cases hp
          exact (get_set_ne _ hne _).trans hp
      refine wp_bind (wp_publishEvent ⟨_, hrep₃.durable, Or.inl hstep⟩
        (fun e _ => ⟨_, hrep₃, hstep⟩) ?_)
      intro _ p
      exact wp_pure ⟨_, hrep₃.published p, hstep⟩

/-! ## Approval, routing and the venue's answers -/

theorem approveRisk_moves {decision : RiskDecision} {orderCheck : Option OrderRiskCheck}
    {G' : OrderJournal → Prop} (hrep : Represents w c) (hs : Sound c)
    (hA : riskApproval decision orderCheck = .ok () → A c (.advance orderId .riskApproved)) :
    Moves (approveRisk env orderId decision orderCheck) w (Path A c) G' := by
  refine wp_bind (wp_lift ?_ ?_)
  · intro _ happroved
    exact transition_moves hrep hs (hA happroved)
  · intro e _
    exact ⟨c, hrep, Relation.ReflTransGen.refl⟩

theorem represents_submit (h : Represents w (c.advance o .routed)) :
    Represents { w with
      submissions := w.submissions ++ [⟨o.withState .routed, w.orderEvents⟩] } (c.submit o) := by
  refine ⟨h.memory, ⟨h.durable.entries, h.durable.shaped, h.durable.eventIds, ?_⟩, h.bound⟩
  have hsub := h.durable.submissions
  show (w.submissions ++ [_]).map _ = c.submissions ++ [_]
  rw [List.map_append, hsub, ← h.durable.entries]
  rfl

theorem sound_submit (hs : Sound c) (ho : c.memory.orders.get orderId = some o)
    (happroved : o.state = .riskApproved) : Sound (c.submit o) :=
  step_sound (Step.route ho happroved) hs

theorem riskApproved_of_routed_allowed : ∀ s : OrderState, .routed ∈ allowedTransitions s →
    s = .riskApproved := by
  decide

theorem route_moves {G' : OrderJournal → Prop} (hrep : Represents w c) (hs : Sound c)
    (hA : ∀ c' l, (OmsOp.route orderId).Takes env c' l → A c' l) :
    Moves (route env orderId) w (Path A c) G' := by
  have hstay : Path A c c := Relation.ReflTransGen.refl
  refine wp_bind (wp_read ?_)
  refine wp_ite (fun _ => wp_raise ⟨c, hrep, hstay⟩) ?_
  intro hamb
  have hclear : orderId ∉ c.memory.ambiguousOrders := by
    rw [← hrep.memory]
    simpa using hamb
  refine wp_bind (wp_getOrder hrep (fun e _ => ⟨c, hrep, hstay⟩) ?_)
  intro current hcurrent
  refine wp_ite (fun _ => wp_raise ⟨c, hrep, hstay⟩) ?_
  intro hnot
  have hrouted : ∀ o, c.memory.orders.get orderId = some o →
      .routed ∈ allowedTransitions o.state → .routed ≠ o.state →
      Path A c (c.advance o .routed) := by
    intro o ho hal hne
    exact Path.one (hA c _ ⟨hclear, Or.inl rfl⟩) (Step.advance ho hal hne)
  refine wp_bind (wp_transition hrep hs ?_ ?_ ?_ ?_ ?_ ?_)
  · intro w' hd
    exact ⟨c, hd, Or.inl hstay⟩
  · intro e w' _ hr
    exact ⟨c, hr, hstay⟩
  · intro o w' ho hstate _
    rw [hcurrent] at ho
    cases ho
    exact absurd hstate.symm hnot
  · intro o w' ho hal hne hd
    exact ⟨_, hd, Or.inl (hrouted o ho hal hne)⟩
  · intro o e w' ho hal hne _ hr
    exact ⟨_, hr, hrouted o ho hal hne⟩
  intro o w₁ ho hal hne hr₁
  have hid : o.artifactId = orderId := hs.projects.orderId ho
  have happroved : o.state = .riskApproved := riskApproved_of_routed_allowed _ hal
  refine wp_bind (wp_atomic ⟨_, hr₁.durable, Or.inl (hrouted o ho hal hne)⟩ ?_)
  have hr₂ := represents_submit hr₁
  have hs₂ := sound_submit hs ho happroved
  have hpath₂ : Path A c (c.submit o) :=
    Path.one (hA c _ ⟨hclear, Or.inr (Or.inl rfl)⟩) (Step.route ho happroved)
  have hget₂ : (c.submit o).memory.orders.get orderId = some (o.withState .routed) := by
    show (c.memory.orders.set o.artifactId (o.withState .routed)).get orderId = _
    rw [hid, get_set_self]
  have hclear₂ : orderId ∉ (c.submit o).memory.ambiguousOrders := hclear
  cases hsubmit : env.submit with
  | failed e => exact wp_raise ⟨_, hr₂, hpath₂⟩
  | ambiguous =>
    have hpath₃ : Path A c ((c.submit o).lose (o.withState .routed)) :=
      hpath₂.tail ⟨.lose orderId, hA _ _ ⟨hclear₂, Or.inr (Or.inr (Or.inl rfl))⟩,
        Step.lose hget₂ rfl⟩
    have hfits : Fits (c.submit o).entries .orderAckAmbiguous (o.withState .routed) := by
      have hget : (c.submit o).memory.orders.get (o.withState .routed).artifactId
          = some (o.withState .routed) := by
        rw [Order.withState_artifactId, hid]
        exact hget₂
      exact fits_version (o := o.withState .routed) (s := .routed) hs₂ hget (Nat.le_refl _)
        (Or.inr ⟨rfl, rfl⟩)
    refine wp_bind (wp_updateManager ⟨_, hr₂.durable, Or.inl hpath₂⟩ ?_)
    have hd₂' : Durable { w₁ with
        submissions := w₁.submissions ++ [⟨o.withState .routed, w₁.orderEvents⟩]
        manager := { w₁.manager with
          ambiguousOrders :=
            insert (o.withState .routed).artifactId w₁.manager.ambiguousOrders } }
        (c.submit o) :=
      ⟨hr₂.durable.entries, hr₂.durable.shaped, hr₂.durable.eventIds, hr₂.durable.submissions⟩
    refine wp_bind (wp_record hd₂' hs₂.wellFormed (.order .orderAckAmbiguous
      (o.withState .routed)) (own_key hs₂ hfits (by simp)) ⟨_, hd₂', Or.inl hpath₂⟩ ?_)
    intro stored w₃ hd₃ hm₃ hk₃ _
    have hr₃ : Represents w₃ ((c.submit o).lose (o.withState .routed)) := by
      refine ⟨?_, hd₃.congr rfl rfl, ?_⟩
      · rw [hm₃]
        show ({ w₁.manager with ambiguousOrders := _ } : OrderManager) = _
        rw [hr₁.memory]
        rfl
      · rw [hk₃]
        exact hr₂.bound
    refine wp_bind (wp_publishEvent ⟨_, hr₃.durable, Or.inl hpath₃⟩
      (fun e _ => ⟨_, hr₃, hpath₃⟩) ?_)
    intro _ p
    exact wp_pure ⟨_, hr₃.published p, hpath₃⟩
  | acknowledged a =>
    refine wp_ite (fun _ => wp_raise ⟨_, hr₂, hpath₂⟩) ?_
    intro _
    refine wp_bind (wp_mono (moves_transition hr₂ hs₂ hpath₂ ?_)
      (fun _ _ h => wp_pure h) (fun _ _ h => h))
    intro o' ho' hal' hne'
    have hidw : (o.withState .routed).artifactId = orderId := hid
    rw [hidw] at ho'
    exact hpath₂.tail ⟨.advance orderId (answeredState a.accepted),
      hA _ _ ⟨hclear₂, Or.inr (Or.inr (Or.inr ⟨a.accepted, rfl⟩))⟩,
      Step.advance ho' hal' hne'⟩

theorem reconcileAmbiguous_moves {G' : OrderJournal → Prop} (hrep : Represents w c) (hs : Sound c)
    (hA : ∀ l, (OmsOp.reconcileAmbiguous orderId).Takes env c l → A c l) :
    Moves (reconcileAmbiguous env orderId) w (Path A c) G' := by
  have hstay : Path A c c := Relation.ReflTransGen.refl
  refine wp_bind (wp_read ?_)
  refine wp_ite (fun _ => wp_raise ⟨c, hrep, hstay⟩) ?_
  intro hamb
  have hpending : orderId ∈ c.memory.ambiguousOrders := by
    rw [← hrep.memory]
    simpa using hamb
  obtain ⟨o, ho⟩ := hs.projects.ambiguous orderId hpending
  refine wp_bind (wp_venueAcknowledgement hrep (fun e => ⟨c, hrep, hstay⟩) ?_)
  intro a hanswer
  have ha := hanswer o ho
  have hresolve : answeredState a.accepted = o.state ∨
      answeredState a.accepted ∈ allowedTransitions o.state →
      Path A c ((c.moveTo o (answeredState a.accepted)).settleAmbiguity orderId) := by
    intro hal
    exact Path.one (hA _ ⟨o, a, ho, hpending, ha, Or.inl rfl⟩) (Step.resolve ho hpending hal)
  have hsettled : ∀ {c₁ w₁}, Represents w₁ c₁ → Represents { w₁ with
      manager := { w₁.manager with
        ambiguousOrders := w₁.manager.ambiguousOrders.erase orderId } }
      (c₁.settleAmbiguity orderId) := by
    intro c₁ w₁ hr
    refine ⟨?_, ⟨hr.durable.entries, hr.durable.shaped, hr.durable.eventIds,
      hr.durable.submissions⟩, hr.bound⟩
    show ({ w₁.manager with ambiguousOrders := _ } : OrderManager) = _
    rw [hr.memory]
    rfl
  refine wp_bind (wp_transition hrep hs ?_ ?_ ?_ ?_ ?_ ?_)
  · intro w' hd
    exact ⟨c, hd, Or.inl hstay⟩
  · intro e w' _ hr
    exact ⟨c, hr, hstay⟩
  · intro o' w' ho' hstate hr
    rw [ho] at ho'
    cases ho'
    have hp := hresolve (Or.inl hstate)
    have hmove : c.moveTo o (answeredState a.accepted) = c := if_pos hstate
    rw [hmove] at hp
    refine wp_bind (wp_updateManager ⟨c, hr.durable, Or.inl hstay⟩ ?_)
    exact wp_pure ⟨_, hsettled hr, hp⟩
  · intro o' w' ho' hal hne hd
    rw [ho] at ho'
    cases ho'
    have hp := hresolve (Or.inr hal)
    have hmove : c.moveTo o (answeredState a.accepted)
        = c.advance o (answeredState a.accepted) := if_neg hne
    rw [hmove] at hp
    exact ⟨(c.advance o (answeredState a.accepted)).settleAmbiguity orderId,
      hd.congr rfl rfl, Or.inl hp⟩
  · intro o' e w' ho' hal hne hrefuse hr
    rw [ho] at ho'
    cases ho'
    exact ⟨_, hr, Path.one (hA _ ⟨o, a, ho, hpending, ha, Or.inr ⟨hrefuse, rfl⟩⟩)
      (Step.advance ho hal hne)⟩
  · intro o' w' ho' hal hne hr
    rw [ho] at ho'
    cases ho'
    have hp := hresolve (Or.inr hal)
    have hmove : c.moveTo o (answeredState a.accepted)
        = c.advance o (answeredState a.accepted) := if_neg hne
    rw [hmove] at hp
    refine wp_bind (wp_updateManager
      ⟨(c.advance o (answeredState a.accepted)).settleAmbiguity orderId,
        hr.durable.congr rfl rfl, Or.inl hp⟩ ?_)
    exact wp_pure ⟨_, hsettled hr, hp⟩

theorem reconcileRouted_moves {G' : OrderJournal → Prop} (hrep : Represents w c) (hs : Sound c)
    (hA : ∀ l, (OmsOp.reconcileRouted orderId).Takes env c l → A c l) :
    Moves (reconcileRouted env orderId) w (Path A c) G' := by
  have hstay : Path A c c := Relation.ReflTransGen.refl
  refine wp_bind (wp_getOrder hrep (fun e _ => ⟨c, hrep, hstay⟩) ?_)
  intro o ho
  refine wp_ite (fun _ => wp_raise ⟨c, hrep, hstay⟩) ?_
  intro hrouted
  rw [not_not] at hrouted
  refine wp_bind (wp_venueAcknowledgement hrep (fun e => ⟨c, hrep, hstay⟩) ?_)
  intro a hanswer
  refine wp_bind (wp_mono (transition_moves hrep hs
    (hA _ ⟨o, a, ho, hrouted, hanswer o ho, rfl⟩))
    (fun _ _ h => wp_pure h) (fun _ _ h => h))

theorem expireUnacknowledged_moves {G' : OrderJournal → Prop} (hrep : Represents w c)
    (hs : Sound c) (hA : A c (.advance orderId .expired)) :
    Moves (expireUnacknowledged env orderId) w (Path A c) G' := by
  have hstay : Path A c c := Relation.ReflTransGen.refl
  refine wp_bind (wp_getOrder hrep (fun e _ => ⟨c, hrep, hstay⟩) ?_)
  intro o _
  refine wp_ite (fun _ => wp_raise ⟨c, hrep, hstay⟩) ?_
  intro _
  exact transition_moves hrep hs hA

theorem cancel_moves {G' : OrderJournal → Prop} (hrep : Represents w c) (hs : Sound c)
    (hA : A c (.advance orderId .cancelPending)) : Moves (cancel env orderId) w (Path A c) G' := by
  have hstay : Path A c c := Relation.ReflTransGen.refl
  refine wp_bind (wp_getOrder hrep (fun e _ => ⟨c, hrep, hstay⟩) ?_)
  intro o _
  refine wp_bind (wp_mono (transition_moves hrep hs hA) ?_ (fun _ _ h => h))
  -- Whatever the venue answers, the pending cancellation stands.
  intro pending w' hG
  rcases env.cancel with _ | e | _ | _ | _
  · exact wp_raise hG
  · exact wp_raise hG
  · exact wp_raise hG
  · exact wp_raise hG
  · exact wp_pure hG

theorem reconcile_moves {G' : OrderJournal → Prop} (hrep : Represents w c) (hs : Sound c)
    (hA : A c (.advance orderId .reconciled)) : Moves (reconcile env orderId) w (Path A c) G' := by
  have hstay : Path A c c := Relation.ReflTransGen.refl
  refine wp_bind (wp_getOrder hrep (fun e _ => ⟨c, hrep, hstay⟩) ?_)
  intro o _
  refine wp_ite (fun _ => wp_raise ⟨c, hrep, hstay⟩) ?_
  intro _
  exact transition_moves hrep hs hA

/-! ## Fills -/

theorem newArtifact_of_identity {l : List JournalEntry} {m : OrderManager} (hp : Projects l m)
    {f : Fill} (hident : fillIdentity m.fills f = .ok ())
    (hnew : m.fills.get f.venueFillId = none) :
    ∀ g ∈ m.fills.values, g.artifactId ≠ f.artifactId := by
  intro g hg hid
  unfold fillIdentity at hident
  split at hident
  · cases hident
  · next hsame =>
    cases hfind : m.fills.values.find? fun item => decide (item.artifactId = f.artifactId) with
    | none => exact absurd (by simpa using hid) (List.find?_eq_none.mp hfind g hg)
    | some existing =>
      have hpayload : existing.logicalPayload = f.logicalPayload := by
        rw [hfind] at hsame
        simpa using hsame
      have hmem : existing ∈ loggedFills l := by
        rw [← hp.values]
        exact List.mem_of_find?_eq_some hfind
      have hget := hp.get_fill.mpr
        ⟨mem_loggedFills.mp hmem, Fill.venueFillId_of_logicalPayload hpayload⟩
      rw [hnew] at hget
      cases hget

theorem recordFill_moves {fill : Fill} {side : String} (hrep : Represents w c) (hs : Sound c)
    (hA : ∀ l, (OmsOp.recordFill fill side).Takes env c l → A c l) :
    Moves (recordFill env fill side) w (Path A c) (Step (.tornFill fill) c) := by
  have hstay : Path A c c := Relation.ReflTransGen.refl
  have hraise : ∀ e, Stops (Path A c) (Step (.tornFill fill) c) (.raised e) w :=
    fun e => ⟨c, hrep, hstay⟩
  -- After the transition only a notification and a lookup are left.
  have hfinish : ∀ {c₁ w₁} (stored : OrderEvent) (i : UUID), Represents w₁ c₁ → Path A c c₁ →
      Prog.wp (do publishEvent env stored .fillRecorded fill.artifactId; getOrder i : Oms Order)
        (fun _ w' => ∃ c', Represents w' c' ∧ Path A c c')
        (Stops (Path A c) (Step (.tornFill fill) c)) w₁ := by
    intro c₁ w₁ stored i hr hpath
    refine wp_bind (wp_publishEvent ⟨c₁, hr.durable, Or.inl hpath⟩
      (fun e _ => ⟨c₁, hr, hpath⟩) ?_)
    intro _ p
    exact wp_getOrder (hr.published p) (fun e _ => ⟨c₁, hr.published p, hpath⟩)
      (fun o _ => ⟨c₁, hr.published p, hpath⟩)
  unfold Moves recordFill
  cases hside : parseSide side with
  | none => exact wp_raise (hraise _)
  | some side =>
    refine wp_bind (wp_read ?_)
    rw [hrep.memory]
    refine wp_bind (wp_lift ?_ (fun e _ => hraise e))
    intro _ hident
    refine wp_bind (wp_getOrder hrep (fun e _ => hraise e) ?_)
    intro o ho
    have hid : o.artifactId = fill.orderId := hs.projects.orderId ho
    refine wp_ite (fun _ => wp_raise (hraise _)) ?_
    intro hsame
    rw [not_not] at hsame
    have hplaced : ∃ o, c.memory.orders.get fill.orderId = some o ∧ some side = some o.side :=
      ⟨o, ho, by rw [hsame]⟩
    rw [← hside] at hplaced
    refine wp_ite (fun _ => wp_raise (hraise _)) ?_
    intro hroom
    rw [gt_iff_lt, not_lt] at hroom
    cases hprior : c.memory.fills.get fill.venueFillId with
    | none =>
      rw [hprior] at hroom
      have hroom' : filledQuantity c.memory.fills fill.orderId + fill.quantity.value
          ≤ o.quantity.value := by
        rw [← hid]
        exact hroom
      refine wp_bind ?_
      refine wp_ite (fun _ => wp_raise (hraise _)) ?_
      intro hfillable
      rw [not_not] at hfillable
      have haccepts : c.Accepts fill o :=
        ⟨ho, hfillable, hprior, newArtifact_of_identity hs.projects hident hprior, hroom'⟩
      have htorn : Step (.tornFill fill) c (c.logFill fill) := Step.tornFill haccepts
      have hown : ∀ y ∈ c.entries, y.key = JournalEntry.key (.fill fill) → y = .fill fill := by
        intro y hy hkey
        refine absurd (List.mem_map.mpr ⟨y, hy, hkey⟩) ?_
        exact fillKey_absent hs.projects hprior
      refine wp_bind (wp_record hrep.durable hs.wellFormed (.fill fill) hown
        ⟨c, hrep.durable, Or.inl hstay⟩ ?_)
      intro stored w₁ hd₁ hm₁ hk₁ _
      refine wp_bind (wp_updateManager
        ⟨c.logFill fill, hd₁.congr rfl rfl, Or.inr htorn⟩ ?_)
      refine wp_pure ?_
      have hr₂ : Represents { w₁ with manager := { w₁.manager with
          fills := w₁.manager.fills.set fill.venueFillId fill } } (c.logFill fill) := by
        refine ⟨?_, ?_, ?_⟩
        · show ({ w₁.manager with
            fills := w₁.manager.fills.set fill.venueFillId fill } : OrderManager) = _
          rw [hm₁, hrep.memory]
          rfl
        · have hd : Durable w₁ (c.logFill fill) := hd₁.congr rfl rfl
          exact ⟨hd.entries, hd.shaped, hd.eventIds, hd.submissions⟩
        · show Bound w₁.knownOrderIds _
          rw [hk₁]
          exact hrep.bound
      have hstate : fillState (filledQuantity c.memory.fills o.artifactId + fill.quantity.value)
          o.quantity.value = c.stateAfter fill o := by
        rw [hid]
        rfl
      show Prog.wp (transition env o.artifactId (fillState (filledQuantity c.memory.fills
        o.artifactId + fill.quantity.value) o.quantity.value) >>= _) _ _ _
      rw [hstate, hid]
      have hdone : Path A c ((c.logFill fill).moveTo o (c.stateAfter fill o)) :=
        Path.one (hA _ ⟨hident, hplaced, Or.inl rfl⟩) (Step.record haccepts)
      have hallowed : c.stateAfter fill o ∈ allowedTransitions o.state :=
        fillState_allowed hfillable _ _
      have hsame : c.stateAfter fill o = o.state →
          (c.logFill fill).moveTo o (c.stateAfter fill o) = c.logFill fill := fun he => if_pos he
      have hmoved : c.stateAfter fill o ≠ o.state →
          (c.logFill fill).moveTo o (c.stateAfter fill o)
            = (c.logFill fill).advance o (c.stateAfter fill o) := fun he => if_neg he
      have honly : ∀ {o'}, (c.logFill fill).memory.orders.get fill.orderId = some o' → o' = o := by
        intro o' ho'
        exact Option.some.inj (ho'.symm.trans ho)
      refine wp_bind (wp_transition hr₂ (sound_logFill hs haccepts) ?_ ?_ ?_ ?_ ?_ ?_)
      · intro w' hd
        exact ⟨_, hd, Or.inr htorn⟩
      · intro e w' hor hr
        rcases hor o ho with he | hn
        · exact ⟨_, hr, hsame he ▸ hdone⟩
        · exact absurd hallowed hn
      · intro o' w' ho' he hr
        rw [honly ho'] at he
        exact hfinish stored _ hr (hsame he ▸ hdone)
      · intro o' w' ho' _ hne hd
        rw [honly ho'] at hne hd
        exact ⟨_, hd, Or.inl (hmoved hne ▸ hdone)⟩
      · intro o' e w' ho' _ hne _ hr
        rw [honly ho'] at hne hr
        exact ⟨_, hr, hmoved hne ▸ hdone⟩
      · intro o' w' ho' _ hne hr
        rw [honly ho'] at hne hr
        exact hfinish stored _ hr (hmoved hne ▸ hdone)
    | some prior =>
      have horder : prior.orderId = fill.orderId := by
        unfold fillIdentity at hident
        split at hident
        · cases hident
        · split at hident
          · cases hident
          · next hsame =>
            rw [hprior] at hsame
            exact Fill.orderId_of_logicalPayload (by simpa using hsame)
      refine wp_bind ?_
      refine wp_bind (wp_read ?_)
      cases hfind : SqliteLedgers.findKey w.orderEvents (fillKey fill.venueFillId) with
      | none => exact wp_raise (hraise _)
      | some stored =>
        refine wp_pure ?_
        show Prog.wp (transition env o.artifactId (c.stateOfFills o) >>= _) _ _ _
        refine wp_bind (wp_mono (moves_transition hrep hs hstay ?_) ?_
          (fun _ _ h => h))
        · intro o' ho' hal hne
          rw [hid, ho] at ho'
          cases ho'
          exact Path.one (hA _ ⟨hident, hplaced, Or.inr rfl⟩)
            (Step.settle ho ⟨prior, hprior, horder⟩ hal hne)
        · intro o' w' hmoved
          obtain ⟨c₁, hr, hpath⟩ := hmoved
          exact hfinish stored _ hr hpath

/-! ## Every operation -/

/-- **Refinement.** Whatever an operation does, to whatever answers, and
wherever it stops, the journal moves along steps the operation takes. -/
theorem op_refines (op : OmsOp) (hrep : Represents w c) (hs : Sound c)
    (hA : ∀ c' l, (c' = c ∨ ∃ i, op = .route i) → op.Takes env c' l → A c' l) :
    Moves (op.run env) w (Path A c)
      (fun c' => ∃ f side, op = .recordFill f side ∧ Step (.tornFill f) c c') := by
  have hhere : ∀ l, op.Takes env c l → A c l := fun l => hA c l (Or.inl rfl)
  cases op with
  | create order => exact moves_discard (create_moves hrep hs (hhere _ rfl))
  | transition | acknowledgeCancel =>
    exact moves_discard (transition_moves hrep hs (hhere _ rfl))
  | approveRisk orderId decision orderCheck =>
    exact moves_discard (approveRisk_moves hrep hs (fun h => hhere _ ⟨h, rfl⟩))
  | route orderId =>
    exact moves_discard (route_moves hrep hs (fun c' l => hA c' l (Or.inr ⟨orderId, rfl⟩)))
  | reconcileAmbiguous orderId => exact moves_discard (reconcileAmbiguous_moves hrep hs hhere)
  | reconcileRouted orderId => exact moves_discard (reconcileRouted_moves hrep hs hhere)
  | expireUnacknowledged orderId =>
    exact moves_discard (expireUnacknowledged_moves hrep hs (hhere _ rfl))
  | recordFill fill side =>
    refine wp_mono (moves_discard (recordFill_moves hrep hs hhere)) (fun _ _ h => h) ?_
    intro e w' hstop
    cases e with
    | raised e => exact hstop
    | crashed =>
      obtain ⟨c₁, hd, hor⟩ := hstop
      exact ⟨c₁, hd, hor.imp id (fun ht => ⟨fill, side, rfl, ht⟩)⟩
  | cancel orderId => exact moves_discard (cancel_moves hrep hs (hhere _ rfl))
  | reconcile orderId => exact moves_discard (reconcile_moves hrep hs (hhere _ rfl))

end AdvisorAI
