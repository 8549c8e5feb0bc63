import AdvisorAI.Execution.OmsReplay
import AdvisorAI.Execution.Reconciliation

/-!
# Ambiguous orders are routed

An acknowledgement can only be pending while its order is ROUTED. `Awaiting`
says so of the memory, and that an order whose lost acknowledgement is on record
without an `order_acknowledged` event is still among the ambiguous ones; with
that second half the first one survives a restart.

`reconcile_ambiguous` with an acceptance is the one way out of ROUTED that
repairs the set. `StraysFromAmbiguity` names the calls that take an ambiguous
order out of ROUTED in another way.
-/

namespace AdvisorAI

open Lib OrderJournal List

variable {c c' : OrderJournal} {w : OmsWorld} {env : Surroundings}

/-- Every ambiguous order is there and ROUTED. -/
def AmbiguousRouted (m : OrderManager) : Prop :=
  ∀ i ∈ m.ambiguousOrders, ∃ o, m.orders.get i = some o ∧ o.state = .routed

/-- The ambiguous orders are routed, and no lost acknowledgement is forgotten. -/
structure Awaiting (c : OrderJournal) : Prop where
  routed : AmbiguousRouted c.memory
  remembered : ∀ i, LoggedLost c.entries i → ¬LoggedAcknowledged c.entries i →
    i ∈ c.memory.ambiguousOrders

theorem awaiting_empty : Awaiting .empty := by
  constructor
  · intro i hi
    exact absurd hi (Finset.notMem_empty i)
  · intro i hlost _
    obtain ⟨o, ho, -⟩ := hlost
    cases ho

/-! ## One step -/

variable {i : UUID} {l : List JournalEntry}

private theorem lost_of_post {e : JournalEntry} (hne : ∀ o, e ≠ .order .orderAckAmbiguous o)
    (h : LoggedLost (Journal.post JournalEntry.key l e) i) : LoggedLost l i := by
  obtain ⟨o, ho, hid⟩ := h
  rcases Journal.mem_post _ ho with hl | he
  · exact ⟨o, hl, hid⟩
  · exact absurd he.symm (hne o)

private theorem acknowledged_post {e : JournalEntry} (h : LoggedAcknowledged l i) :
    LoggedAcknowledged (Journal.post JournalEntry.key l e) i := by
  obtain ⟨o, ho, hid⟩ := h
  exact ⟨o, Journal.mem_post_of_mem _ ho, hid⟩

variable {o : Order}

private theorem awaiting_logOrder (h : Awaiting c) {t : OrderEventType}
    (ht : t ≠ .orderAckAmbiguous) (hnot : o.artifactId ∉ c.memory.ambiguousOrders) :
    Awaiting (c.logOrder t o) := by
  constructor
  · intro i hi
    obtain ⟨p, hp, hr⟩ := h.routed i hi
    have hne : i ≠ o.artifactId := by
      intro he
      exact hnot (he ▸ hi)
    refine ⟨p, ?_, hr⟩
    show (c.memory.orders.set o.artifactId o).get i = some p
    rw [Dict.get_set_ne _ hne]
    exact hp
  · intro i hlost hack
    apply h.remembered i
    · refine lost_of_post ?_ hlost
      intro p hp
      cases hp
      exact ht rfl
    · intro hold
      exact hack (acknowledged_post hold)

private theorem awaiting_logFill (h : Awaiting c) (f : Fill) : Awaiting (c.logFill f) := by
  refine ⟨h.routed, ?_⟩
  intro i hlost hack
  apply h.remembered i
  · refine lost_of_post ?_ hlost
    intro p hp
    cases hp
  · intro hold
    exact hack (acknowledged_post hold)

private theorem awaiting_lose (h : Awaiting c) (hs : Sound c)
    (ho : c.memory.orders.get i = some o) (hr : o.state = .routed) : Awaiting (c.lose o) := by
  have hid : o.artifactId = i := hs.projects.orderId ho
  constructor
  · intro j hj
    rcases Finset.mem_insert.mp hj with he | hold
    · rw [he, hid]
      exact ⟨o, ho, hr⟩
    · exact h.routed j hold
  · intro j hlost hack
    obtain ⟨p, hp, hpid⟩ := hlost
    apply Finset.mem_insert.mpr
    rcases Journal.mem_post _ hp with hl | he
    · refine Or.inr (h.remembered j ⟨p, hl, hpid⟩ ?_)
      intro hold
      exact hack (acknowledged_post hold)
    · cases he
      exact Or.inl hpid.symm

/-- An acceptance ends the ambiguity, in the memory and in the journal. -/
private theorem awaiting_resolve (h : Awaiting c) (hs : Sound c)
    (ho : c.memory.orders.get i = some o) (hpending : i ∈ c.memory.ambiguousOrders) :
    Awaiting ((c.moveTo o .acknowledged).settleAmbiguity i) := by
  have hid : o.artifactId = i := hs.projects.orderId ho
  obtain ⟨o', ho', hr⟩ := h.routed i hpending
  rw [ho] at ho'
  cases ho'
  have hne : OrderState.acknowledged ≠ o.state := by
    rw [hr]
    decide
  have hmove : c.moveTo o .acknowledged = c.advance o .acknowledged := if_neg hne
  rw [hmove]
  constructor
  · intro j hj
    obtain ⟨hji, hamb⟩ := Finset.mem_erase.mp hj
    obtain ⟨p, hp, hpr⟩ := h.routed j hamb
    refine ⟨p, ?_, hpr⟩
    show (c.memory.orders.set o.artifactId _).get j = some p
    rw [hid, Dict.get_set_ne _ hji]
    exact hp
  · intro j hlost hack
    have hlost' : LoggedLost c.entries j := by
      refine lost_of_post ?_ hlost
      intro p hp
      cases hp
    have hack' : ¬LoggedAcknowledged c.entries j := fun hold => hack (acknowledged_post hold)
    apply Finset.mem_erase.mpr
    refine ⟨?_, h.remembered j hlost' hack'⟩
    intro hji
    -- The acknowledgement of this very order is in the journal now.
    apply hack
    have hfits : Fits c.entries (.order .acknowledged) (o.withState .acknowledged) :=
      fits_version hs (hid ▸ ho) (by rw [hr]; decide) (Or.inl rfl)
    exact ⟨o.withState .acknowledged, mem_post_version hs.wellFormed hfits (by decide),
      hid.trans hji.symm⟩

/-- The steps that leave an ambiguous order alone, or end its ambiguity. -/
def KeepsAwaiting (c : OrderJournal) : Label → Prop
  | .advance i s => ∀ o, c.memory.orders.get i = some o → s ∈ allowedTransitions o.state →
    i ∉ c.memory.ambiguousOrders
  | .resolve _ accepted => accepted = true
  | _ => True

private theorem Awaiting.not_ambiguous (h : Awaiting c) (ho : c.memory.orders.get i = some o)
    (hne : o.state ≠ .routed) : i ∉ c.memory.ambiguousOrders := by
  intro hi
  obtain ⟨o', ho', hr⟩ := h.routed i hi
  rw [ho] at ho'
  cases ho'
  exact hne hr

private theorem awaiting_advance (h : Awaiting c) (hs : Sound c) {s : OrderState}
    (ho : c.memory.orders.get i = some o) (hnot : i ∉ c.memory.ambiguousOrders) :
    Awaiting (c.advance o s) := by
  have hid : o.artifactId = i := hs.projects.orderId ho
  have hnot' : (o.withState s).artifactId ∉ c.memory.ambiguousOrders := by
    rw [Order.withState_artifactId, hid]
    exact hnot
  exact awaiting_logOrder h (by intro he; cases he) hnot'

private theorem fillState_ne_allowed_routed (filled quantity : ℚ) :
    fillState filled quantity ∉ allowedTransitions .routed := by
  unfold fillState
  split
  · decide
  · decide

/-- **Step lemma.** -/
theorem awaiting_step {l : Label} (hs : Sound c) (h : Awaiting c) (hA : KeepsAwaiting c l)
    (hstep : Step l c c') : Awaiting c' := by
  cases hstep with
  | @create _ o absent fresh =>
    refine awaiting_logOrder h (by intro he; cases he) ?_
    intro hi
    obtain ⟨p, hp, -⟩ := h.routed _ hi
    rw [absent] at hp
    cases hp
  | @advance _ i o s current allowed changes =>
    exact awaiting_advance h hs current (hA o current allowed)
  | @route _ i o current approved =>
    have hadv := awaiting_advance (s := .routed) h hs current
      (h.not_ambiguous current (by rw [approved]; decide))
    exact ⟨hadv.routed, hadv.remembered⟩
  | lose current routed => exact awaiting_lose h hs current routed
  | @resolve _ i o accepted current pending allowed =>
    cases hA
    exact awaiting_resolve h hs current pending
  | @record _ f o accepts =>
    have h₁ := awaiting_logFill h f
    unfold moveTo
    split
    · exact h₁
    · refine awaiting_advance h₁ (sound_logFill hs accepts) (i := f.orderId) accepts.order ?_
      refine h.not_ambiguous accepts.order ?_
      intro hr
      have hf := accepts.fillable
      rw [hr] at hf
      exact absurd hf (by decide)
  | @settle _ f o current recorded allowed changes =>
    refine awaiting_advance h hs current (h.not_ambiguous current ?_)
    intro hr
    rw [hr] at allowed
    exact fillState_ne_allowed_routed _ _ allowed
  | tornFill accepts => exact awaiting_logFill h _

/-- A restart: what the ledger still waits for was awaited, hence routed; and
every version of a routed order that is on record is at most that far. -/
theorem awaiting_restart (hs : Sound c) (h : Awaiting c) (hre : Restarts c c') : Awaiting c' := by
  have hs' := restart_sound hre hs
  obtain ⟨m, hm, rfl⟩ := hre
  have hmem := mem_ambiguous_of_replay hs.wellFormed hm
  constructor
  · intro i hi
    obtain ⟨hlost, hack⟩ := (hmem i).mp hi
    obtain ⟨o, ho, hr⟩ := h.routed i (h.remembered i hlost hack)
    obtain ⟨p, hp, hpid⟩ := hlost
    have hpr : p.state = .routed := by
      rcases hs.wellFormed.shape _ p hp with h1 | h1 | h1
      · cases h1
      · cases h1
      · exact h1.2
    obtain ⟨o', ho', hle⟩ := hs'.projects.loggedOrder _ p hp
    rw [hpid] at ho'
    refine ⟨o', ho', eq_routed_of_stage o'.state ?_⟩
    obtain ⟨hid', t, ht⟩ := hs'.projects.orderLogged i o' ho'
    have hid : o.artifactId = i := hs.projects.orderId ho
    have hupper : stage o'.state ≤ stage o.state :=
      hs.projects.stage_le (hid ▸ ho) ht (hid'.trans hid.symm)
    rw [hpr] at hle
    rw [hr] at hupper
    have hrouted : stage .routed = 2 := rfl
    omega
  · intro i hlost hack
    exact (hmem i).mpr ⟨hlost, hack⟩

/-! ## The calls that break the ambiguity off -/

/-- The calls that take an ambiguous order out of ROUTED without an end to its
ambiguity, in the memory or in the ledger:
* `transition` and `expire_unacknowledged` of an ambiguous order;
* `reconcile_routed` of one that the venue answers for;
* `reconcile_ambiguous` with a rejection for an answer, or with an acceptance
  that the event bus may refuse to be told of. -/
def StraysFromAmbiguity (w : OmsWorld) : OmsAction → Prop
  | .call _ _ (.transition i s) =>
    i ∈ w.manager.ambiguousOrders ∧ s ∈ allowedTransitions .routed
  | .call _ _ (.expireUnacknowledged i) => i ∈ w.manager.ambiguousOrders
  | .call env _ (.reconcileRouted i) => ∃ o a, i ∈ w.manager.ambiguousOrders ∧
    w.manager.orders.get i = some o ∧ env.Answers i o a
  | .call env _ (.reconcileAmbiguous i) => ∃ o a, i ∈ w.manager.ambiguousOrders ∧
    w.manager.orders.get i = some o ∧ env.Answers i o a ∧
    (a.accepted = false ∨ env.MayRefuse (.order .acknowledged))
  | _ => False

private theorem keepsAwaiting_permit {n : Option Nat} {op : OmsOp}
    (hP : ¬StraysFromAmbiguity w (.call env n op)) (hrep : Represents w c) (h : Awaiting c) :
    ∀ c' l, (c' = c ∨ ∃ i, op = .route i) → op.Takes env c' l → KeepsAwaiting c' l := by
  intro c' l hwhere htakes
  have hm := hrep.memory
  -- An ambiguous order takes only the transitions out of ROUTED.
  have hout : ∀ {i s}, s ∉ allowedTransitions .routed → KeepsAwaiting c (.advance i s) := by
    intro i s hs o ho hal
    apply h.not_ambiguous ho
    intro hr
    rw [hr] at hal
    exact hs hal
  cases op with
  | create o =>
    cases htakes
    trivial
  | transition i s =>
    obtain rfl | ⟨j, hj⟩ := hwhere
    · cases htakes
      by_cases hs : s ∈ allowedTransitions .routed
      · intro o ho _ hi
        apply hP
        show i ∈ w.manager.ambiguousOrders ∧ _
        rw [hm]
        exact ⟨hi, hs⟩
      · exact hout hs
    · cases hj
  | approveRisk i decision check =>
    obtain rfl | ⟨j, hj⟩ := hwhere
    · obtain ⟨-, rfl⟩ := htakes
      exact hout (by decide)
    · cases hj
  | route i =>
    obtain ⟨hclear, rfl | rfl | rfl | ⟨accepted, rfl⟩⟩ := htakes
    · exact fun _ _ _ => hclear
    · trivial
    · trivial
    · exact fun _ _ _ => hclear
  | reconcileAmbiguous i =>
    obtain rfl | ⟨j, hj⟩ := hwhere
    · obtain ⟨o, a, ho, hamb, ha, hl⟩ := htakes
      have hclean : a.accepted = true ∧ ¬env.MayRefuse (.order .acknowledged) := by
        by_contra hnot
        apply hP
        refine ⟨o, a, by rw [hm]; exact hamb, by rw [hm]; exact ho, ha, ?_⟩
        by_cases haccepted : a.accepted = true
        · refine Or.inr ?_
          by_contra hquiet
          exact hnot ⟨haccepted, hquiet⟩
        · exact Or.inl (by simpa using haccepted)
      rw [hclean.1] at hl
      obtain rfl | ⟨hrefuse, rfl⟩ := hl
      · rfl
      · exact absurd hrefuse hclean.2
    · cases hj
  | reconcileRouted i =>
    obtain rfl | ⟨j, hj⟩ := hwhere
    · obtain ⟨o, a, ho, hrouted, ha, rfl⟩ := htakes
      intro _ _ _ hi
      exact hP ⟨o, a, by rw [hm]; exact hi, by rw [hm]; exact ho, ha⟩
    · cases hj
  | expireUnacknowledged i =>
    obtain rfl | ⟨j, hj⟩ := hwhere
    · cases htakes
      intro _ _ _ hi
      apply hP
      show i ∈ w.manager.ambiguousOrders
      rw [hm]
      exact hi
    · cases hj
  | recordFill f side =>
    obtain ⟨-, -, rfl | rfl⟩ := htakes
    · trivial
    · trivial
  | cancel | acknowledgeCancel | reconcile =>
    obtain rfl | ⟨j, hj⟩ := hwhere
    · cases htakes
      exact hout (by decide)
    · cases hj

theorem awaiting_kept : Kept (fun w a => ¬StraysFromAmbiguity w a) KeepsAwaiting Awaiting := by
  refine ⟨awaiting_empty, ?_, ?_, ?_, ?_⟩
  · intro l c c' hs h hA hstep
    exact awaiting_step hs h hA hstep
  · intro w a f c c' _ _ hs h hstep
    exact awaiting_step hs h (show KeepsAwaiting c (.tornFill f) from trivial) hstep
  · intro c c' hs h hre
    exact awaiting_restart hs h hre
  · intro w env n op c hP hrep _ h
    exact keepsAwaiting_permit hP hrep h

/-! ## What reconciliation reports -/

/-- Once every order has left ROUTED, no run of the reconciliation service
reports a pending ambiguity. -/
def CleanOnceAnswered (m : OrderManager) : Prop :=
  (∀ o ∈ m.orders.values, o.state ≠ .routed) →
  ∀ (N : Type) [Arith N] (service : ReconciliationService N) (ledgers : Option (List OrderEvent))
    (account : AccountState N) (accountLedger : Option (Dict String (Payload N)))
    (venueSnapshot : Option (VenueAccountSnapshot N)) (r : Reconciliation),
    (service.run ledgers account m accountLedger venueSnapshot).1 = .ok r →
    "ambiguous_order_acknowledgement_pending" ∉ r.discrepancies

/-- Only the ambiguous orders make a run report a pending ambiguity. -/
private theorem ambiguous_of_mem {N : Type} [Arith N] {m : OrderManager}
    {accountLedger : Option (Dict String (Payload N))} {localSnapshot : AccountStateSnapshot N}
    {venueSnapshot : Option (VenueAccountSnapshot N)} (h : .ambiguousOrderAcknowledgementPending
      ∈ discrepanciesOf m accountLedger localSnapshot venueSnapshot) : m.ambiguousOrders ≠ ∅ := by
  have horders : (.ambiguousOrderAcknowledgementPending : Discrepancy N) ∉
      m.orders.values.flatMap (orderDiscrepancies m.fills) := by
    simp [orderDiscrepancies]
  have haccount : (.ambiguousOrderAcknowledgementPending : Discrepancy N) ∉
      accountDiscrepancies m accountLedger := by
    cases accountLedger with
    | none | some => simp [accountDiscrepancies]
  have hterminal : (.ambiguousOrderAcknowledgementPending : Discrepancy N) ∉
      terminalDiscrepancies m := by
    simp [terminalDiscrepancies]
  have hopen : ∀ ids, (.ambiguousOrderAcknowledgementPending : Discrepancy N) ∉
      openOrderDiscrepancies m ids := by
    intro ids
    cases ids with
    | none | some => simp [openOrderDiscrepancies]
  have hvenue : ∀ venue : VenueAccountSnapshot N, .ambiguousOrderAcknowledgementPending ∉
      venueDiscrepancies m localSnapshot venue := by
    intro venue
    unfold venueDiscrepancies
    cases venue.marginUsed <;> cases venue.marginAvailable <;> simp [hopen]
  rcases mem_append.mp h with h | h
  · rcases mem_append.mp h with h | h
    · rcases mem_append.mp h with h | h
      · intro hempty
        unfold managerDiscrepancies at h
        rw [hempty] at h
        simp only [ne_eq, not_true_eq_false, if_false, nil_append] at h
        rcases mem_append.mp h with h | h
        · simp at h
        · exact horders h
      · exact absurd h haccount
    · exact absurd h hterminal
  · cases venueSnapshot with
    | none => cases h
    | some venue => exact absurd h (hvenue venue)

theorem AmbiguousRouted.clean {m : OrderManager} (h : AmbiguousRouted m) : CleanOnceAnswered m := by
  intro hanswered N _ service ledgers account accountLedger venueSnapshot r hrun hmem
  obtain ⟨localSnapshot, -, hd⟩ := ReconciliationService.discrepancies_of_run hrun
  rw [hd] at hmem
  obtain ⟨d, hin, htext⟩ := mem_map.mp hmem
  rw [Discrepancy.text_eq_ambiguous htext] at hin
  obtain ⟨i, hi⟩ := Finset.nonempty_iff_ne_empty.mpr (ambiguous_of_mem hin)
  obtain ⟨o, ho, hr⟩ := h i hi
  exact hanswered o (Dict.mem_values_iff.mpr ⟨i, ho⟩) hr

/-! ## Runs -/

/-- **Ambiguous orders are routed.** After every run in which no call breaks an
ambiguity off, the ambiguous orders of the live manager, and of any manager
hydrated from its ledger, are ROUTED; so once every order has left ROUTED, no
reconciliation reports a pending ambiguity. -/
theorem ambiguous_orders_routed {adapter : Adapter} {acts : List OmsAction}
    (hmeet : Runs.Along omsStep (fun w a => ¬StraysFromAmbiguity w a) (.init adapter) acts)
    (hrun : omsRun (.init adapter) acts = some w) :
    (AmbiguousRouted w.manager ∧ CleanOnceAnswered w.manager) ∧
    ∀ known m known', hydrate known w.orderEvents = .ok (m, known') →
      AmbiguousRouted m ∧ CleanOnceAnswered m := by
  obtain ⟨c, hrep, hs, h⟩ := run_keeps awaiting_kept hmeet hrun
  constructor
  · rw [hrep.memory]
    exact ⟨h.routed, h.routed.clean⟩
  · intro known m known' hm
    obtain ⟨hreplay, -⟩ := replay_of_hydrate hrep.durable.shaped hm
    rw [hrep.durable.entries] at hreplay
    have h' : Awaiting { c with memory := m } := awaiting_restart hs h ⟨m, hreplay, rfl⟩
    exact ⟨h'.routed, h'.routed.clean⟩

def paperFound : List OmsAction := paperLost ++ [paperCall (.reconcileAmbiguous 1)]

/-- No call of the paper run breaks the ambiguity off: the venue accepts, and
there is no event bus to refuse anything. -/
private theorem paperFound_meets : Runs.Along omsStep (fun w a => ¬StraysFromAmbiguity w a)
    (.init .paper) paperFound := by
  refine Runs.along_of_forall ?_
  intro a ha w hstray
  simp only [paperFound, paperLost, mem_append, mem_cons, not_mem_nil,
    or_false] at ha
  rcases ha with (rfl | rfl | rfl) | rfl
  · exact hstray
  · exact absurd hstray.2 (by decide)
  · exact hstray
  · obtain ⟨o, a, -, -, hanswers, hbad⟩ := hstray
    have haccepted : a = paperAcknowledgement true := by
      rcases hanswers with ⟨response, hresponse, -⟩ | ⟨-, openOrders, hopen, hfind⟩
      · cases hresponse
      · cases hopen
        exact (Option.some.inj hfind).symm
    rcases hbad with hrejected | ⟨envelope, e, -, hrefuse⟩
    · rw [haccepted] at hrejected
      cases hrejected
    · obtain ⟨publish, hbus, -⟩ := hrefuse
      cases hbus

/-- The paper order was ambiguous, and no longer is. -/
theorem ambiguous_orders_routed_paper :
    ∃ w, omsRun (.init .paper) paperFound = some w ∧
      (w.manager.orders.get 1).any (fun o => o.state = .acknowledged) = true ∧
      AmbiguousRouted w.manager ∧ CleanOnceAnswered w.manager := by
  have hrun : (omsRun (.init .paper) paperFound).any
      (fun w => (w.manager.orders.get 1).any fun o => o.state = .acknowledged) = true := by
    decide +kernel
  obtain ⟨w, hw, hacknowledged⟩ := (Option.any_eq_true _ _).mp hrun
  exact ⟨w, hw, hacknowledged, (ambiguous_orders_routed paperFound_meets hw).1⟩

def paperExpired : List OmsAction := paperLost ++ [paperCall (.expireUnacknowledged 1)]

/-- The paper order is EXPIRED and still ambiguous. -/
theorem expired_order_still_ambiguous :
    ¬∀ (adapter : Adapter) (acts : List OmsAction) (w : OmsWorld),
      omsRun (.init adapter) acts = some w → AmbiguousRouted w.manager := by
  intro h
  have hrun : (omsRun (.init .paper) paperExpired).any (fun w =>
      1 ∈ w.manager.ambiguousOrders ∧
        (w.manager.orders.get 1).any fun o => o.state = .expired) = true := by
    decide +kernel
  obtain ⟨w, hw, hfacts⟩ := (Option.any_eq_true _ _).mp hrun
  obtain ⟨hamb, hexpired⟩ := of_decide_eq_true hfacts
  obtain ⟨o, ho, hr⟩ := h .paper paperExpired w hw 1 hamb
  rw [ho] at hexpired
  have he : o.state = .expired := of_decide_eq_true hexpired
  rw [hr] at he
  cases he

end AdvisorAI
