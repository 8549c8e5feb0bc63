import AdvisorAI.Execution.OmsRuns

/-!
# The ledger replays to the live manager

`Consistent` says that replaying the journal yields the memory. A step that
writes a new entry keeps it when the entry's replay does to the memory what the
step did. Three things can go wrong, and `StraysFromLedger` names the calls that
do them: an order opened in a state other than CREATED, which no replay accepts;
a state entered a second time, whose event is deduplicated away; and an
ambiguous order that is acknowledged, or rejected, in a way the replay of the
`order_acknowledged` event does not mirror.
-/

namespace AdvisorAI

open Lib OrderJournal List

variable {c c' : OrderJournal} {w : OmsWorld} {env : Surroundings}

/-- Replaying the journal yields the memory; orders are opened in CREATED. -/
structure Consistent (c : OrderJournal) : Prop where
  replays : replayEntries c.entries = .ok c.memory
  opened : ∀ o, .order (.order .created) o ∈ c.entries → o.state = .created

theorem Consistent.mem_ambiguous (h : Consistent c) (hs : Sound c) (i : UUID) :
    i ∈ c.memory.ambiguousOrders ↔ LoggedLost c.entries i ∧ ¬LoggedAcknowledged c.entries i :=
  mem_ambiguous_of_replay hs.wellFormed h.replays i

private theorem consistent_post (h : Consistent c) {e : JournalEntry} {m : OrderManager}
    (habsent : e.key ∉ c.entries.map JournalEntry.key) (hreplay : replayEntry c.memory e = .ok m)
    (hopened : ∀ o, e = .order (.order .created) o → o.state = .created)
    (hentries : c'.entries = Journal.post JournalEntry.key c.entries e) (hm : c'.memory = m) :
    Consistent c' := by
  rw [Journal.post_of_absent _ habsent] at hentries
  constructor
  · rw [hentries, hm]
    unfold replayEntries
    rw [Journal.replay_concat]
    have hr := h.replays
    unfold replayEntries at hr
    rw [hr]
    exact hreplay
  · intro o ho
    rw [hentries] at ho
    rcases mem_append.mp ho with hl | he
    · exact h.opened o hl
    · exact hopened o (mem_singleton.mp he).symm

variable {o : Order} {s : OrderState}

private theorem stateKey_absent (hs : Sound c) (ho : c.memory.orders.get o.artifactId = some o)
    (hal : s ∈ allowedTransitions o.state) (hnot : s ∉ reenterable) :
    JournalEntry.key (.order (.order s) (o.withState s)) ∉ c.entries.map JournalEntry.key := by
  intro hmem
  obtain ⟨x, hx, hkey⟩ := List.mem_map.mp hmem
  cases x with
  | fill f => exact orderKey_ne_fillKey _ _ _ hkey.symm
  | order u q =>
    obtain ⟨hk, hu⟩ := orderKey_inj hkey
    subst hu
    obtain ⟨-, t, ht⟩ := hs.projects.orderLogged _ o ho
    have hqid : q.artifactId = o.artifactId := hs.wellFormed.clients _ q t o hx ht hk
    have hstage := hs.projects.stage_le ho hx hqid
    have hlt := stage_lt_of_allowed _ _ hal hnot
    rcases hs.wellFormed.shape _ q hx with h1 | h1 | h1
    · exact ne_created_of_allowed _ _ hal (OrderEventType.order.inj h1)
    · rw [← OrderEventType.order.inj h1] at hstage
      omega
    · cases h1.1

/-- The event of a state of an order is not in the journal yet. -/
def StateNew (c : OrderJournal) (o : Order) (s : OrderState) : Prop :=
  JournalEntry.key (.order (.order s) (o.withState s)) ∉ c.entries.map JournalEntry.key

variable {i : UUID}

/-- **Advancing.** The event is new, and an acknowledged order was not ambiguous:
the replay of the event is the advance. -/
private theorem consistent_advance (h : Consistent c) (hs : Sound c)
    (ho : c.memory.orders.get i = some o) (hal : s ∈ allowedTransitions o.state)
    (hnew : s ∈ reenterable → StateNew c o s)
    (hamb : s = .acknowledged → i ∉ c.memory.ambiguousOrders) : Consistent (c.advance o s) := by
  have hid : o.artifactId = i := hs.projects.orderId ho
  have ho' : c.memory.orders.get o.artifactId = some o := hid ▸ ho
  have habsent : JournalEntry.key (.order (.order s) (o.withState s))
      ∉ c.entries.map JournalEntry.key := by
    by_cases hr : s ∈ reenterable
    · exact hnew hr
    · exact stateKey_absent hs ho' hal hr
  have hreplay : replayEntry c.memory (.order (.order s) (o.withState s))
      = .ok (c.advance o s).memory := by
    have hambiguous : (if s = .acknowledged then c.memory.ambiguousOrders.erase o.artifactId
        else c.memory.ambiguousOrders) = c.memory.ambiguousOrders := by
      split
      · next he => exact Finset.erase_eq_of_notMem (hid ▸ hamb he)
      · rfl
    rw [replayEntry_advance (o := o.withState s) ho' hal, Order.withState_artifactId, hambiguous]
    rfl
  refine consistent_post h habsent hreplay ?_ rfl rfl
  intro p hp
  cases hp
  exact absurd rfl (ne_created_of_allowed _ _ hal)

/-- Resolving an ambiguity by an acknowledgement is what the replay of the
acknowledgement does. -/
private theorem consistent_resolve (h : Consistent c) (hs : Sound c)
    (ho : c.memory.orders.get i = some o) (hpending : i ∈ c.memory.ambiguousOrders)
    (hal : .acknowledged = o.state ∨ .acknowledged ∈ allowedTransitions o.state) :
    Consistent ((c.moveTo o .acknowledged).settleAmbiguity i) := by
  have hid : o.artifactId = i := hs.projects.orderId ho
  have ho' : c.memory.orders.get o.artifactId = some o := hid ▸ ho
  have hne : .acknowledged ≠ o.state := by
    -- An acknowledged version would have ended the ambiguity.
    intro hstate
    obtain ⟨-, t, ht⟩ := hs.projects.orderLogged i o ho
    have hnot := ((h.mem_ambiguous hs i).mp hpending).2
    rcases hs.wellFormed.shape t o ht with h1 | h1 | h1
    · rw [h1] at ht
      rw [h.opened o ht] at hstate
      cases hstate
    · rw [← hstate] at h1
      rw [h1] at ht
      exact hnot ⟨o, ht, hid⟩
    · rw [h1.2] at hstate
      cases hstate
  have hal' := hal.resolve_left hne
  have habsent := stateKey_absent hs ho' hal' (by decide)
  have hmove : c.moveTo o .acknowledged = c.advance o .acknowledged := if_neg hne
  rw [hmove]
  have hreplay : replayEntry c.memory (.order (.order .acknowledged) (o.withState .acknowledged))
      = .ok ((c.advance o .acknowledged).settleAmbiguity i).memory := by
    rw [replayEntry_advance (o := o.withState .acknowledged) ho' hal', if_pos rfl, ← hid]
    rfl
  refine consistent_post h habsent hreplay ?_ rfl rfl
  intro p hp
  cases hp

private theorem consistent_logFill (h : Consistent c) (hs : Sound c) {f : Fill}
    (ha : c.Accepts f o) : Consistent (c.logFill f) := by
  refine consistent_post h (fillKey_absent hs.projects ha.new) ?_ ?_ rfl rfl
  · unfold replayEntry hydrateEvent
    simp only [JournalEntry.eventType, JournalEntry.artifact, ha.order, reduceCtorEq, if_false]
    rfl
  · intro p hp
    cases hp

private theorem consistent_lose (h : Consistent c) (hs : Sound c)
    (ho : c.memory.orders.get i = some o) (hr : o.state = .routed) : Consistent (c.lose o) := by
  have hid : o.artifactId = i := hs.projects.orderId ho
  have ho' : c.memory.orders.get o.artifactId = some o := hid ▸ ho
  by_cases hkey : JournalEntry.key (.order .orderAckAmbiguous o) ∈ c.entries.map JournalEntry.key
  · -- The loss is on record already, so the order is ambiguous already.
    have hlost : o.artifactId ∈ c.memory.ambiguousOrders := by
      rw [h.mem_ambiguous hs]
      obtain ⟨x, hx, hxk⟩ := List.mem_map.mp hkey
      cases x with
      | fill f => exact absurd hxk.symm (orderKey_ne_fillKey _ _ _)
      | order u q =>
        obtain ⟨hk, hu⟩ := orderKey_inj hxk
        subst hu
        obtain ⟨-, t, ht⟩ := hs.projects.orderLogged i o ho
        refine ⟨⟨q, hx, hs.wellFormed.clients _ q t o hx ht hk⟩, ?_⟩
        intro ⟨p, hp, hpid⟩
        have hstage := hs.projects.stage_le ho' hp hpid
        rcases hs.wellFormed.shape _ p hp with h1 | h1 | h1
        · cases h1
        · rw [← OrderEventType.order.inj h1, hr] at hstage
          exact absurd hstage (by decide)
        · cases h1.1
    have hsame : c.lose o = c := by
      unfold lose
      rw [Journal.post_of_present _ hkey, Finset.insert_eq_of_mem hlost]
    rw [hsame]
    exact h
  · refine consistent_post h hkey ?_ ?_ rfl rfl
    · rw [replayEntry_lost ho', Dict.set_of_get_eq ho']
      rfl
    · intro p hp
      cases hp

def Replayable (c : OrderJournal) : Label → Prop
  | .create o => c.memory.orders.get o.artifactId = none →
    (∀ p ∈ c.memory.orders.values, p.idempotencyKey ≠ o.idempotencyKey) → o.state = .created
  | .advance i s => ∀ o, c.memory.orders.get i = some o → s ∈ allowedTransitions o.state →
    s ≠ o.state → (s ∈ reenterable → StateNew c o s) ∧
      (s = .acknowledged → i ∉ c.memory.ambiguousOrders)
  | .resolve i accepted => ∀ o, c.memory.orders.get i = some o →
    answeredState accepted = o.state ∨ answeredState accepted ∈ allowedTransitions o.state →
    accepted = true
  | .record f => ∀ o, c.Accepts f o → c.stateAfter f o ≠ o.state →
    StateNew c o (c.stateAfter f o)
  | .settle f => ∀ o, c.memory.orders.get f.orderId = some o →
    (∃ g, c.memory.fills.get f.venueFillId = some g ∧ g.orderId = f.orderId) →
    c.stateOfFills o ∈ allowedTransitions o.state → c.stateOfFills o ≠ o.state →
    StateNew c o (c.stateOfFills o)
  | _ => True

private theorem fillState_ne_acknowledged (filled quantity : ℚ) :
    fillState filled quantity ≠ .acknowledged := by
  unfold fillState
  split
  · decide
  · decide

/-- **Step lemma.** -/
theorem consistent_step {l : Label} (hs : Sound c) (h : Consistent c) (hA : Replayable c l)
    (hstep : Step l c c') : Consistent c' := by
  cases hstep with
  | @create _ o absent fresh =>
    have habsent : JournalEntry.key (.order (.order .created) o)
        ∉ c.entries.map JournalEntry.key := by
      intro hmem
      obtain ⟨x, hx, hkey⟩ := List.mem_map.mp hmem
      cases x with
      | fill f => exact orderKey_ne_fillKey _ _ _ hkey.symm
      | order u q =>
        obtain ⟨p, hp, -⟩ := hs.projects.loggedOrder u q hx
        have hver := hs.wellFormed.version hs.projects hp hx rfl
        refine fresh p (Dict.mem_values_iff.mpr ⟨_, hp⟩) ?_
        rw [← hver]
        exact (orderKey_inj hkey).1
    refine consistent_post h habsent ?_ ?_ rfl rfl
    · rw [replayEntry_create absent (hA absent fresh)]
      rfl
    · intro p hp
      cases hp
      exact hA absent fresh
  | @advance _ i o s current allowed changes =>
    obtain ⟨hnew, hamb⟩ := hA o current allowed changes
    exact consistent_advance h hs current allowed hnew hamb
  | @route _ i o current approved =>
    have hadv := consistent_advance (s := .routed) h hs current (by rw [approved]; decide)
      (fun he => absurd he (by decide)) (fun he => by cases he)
    exact ⟨hadv.replays, hadv.opened⟩
  | lose current routed => exact consistent_lose h hs current routed
  | @resolve _ i o accepted current pending allowed =>
    cases hA o current allowed
    exact consistent_resolve h hs current pending allowed
  | @record _ f o accepts =>
    have h₁ := consistent_logFill h hs accepts
    have hs₁ := sound_logFill hs accepts
    unfold moveTo
    split
    · exact h₁
    · next hne =>
      refine consistent_advance h₁ hs₁ (i := f.orderId) accepts.order
        (fillState_allowed accepts.fillable _ _) ?_
        (fun he => absurd he (fillState_ne_acknowledged _ _))
      intro _ hmem
      have hnew := hA o accepts hne
      obtain ⟨x, hx, hkey⟩ := List.mem_map.mp hmem
      rcases Journal.mem_post _ hx with hl | he
      · exact hnew (List.mem_map.mpr ⟨x, hl, hkey⟩)
      · rw [he] at hkey
        exact orderKey_ne_fillKey _ _ _ hkey.symm
  | @settle _ f o current recorded allowed changes =>
    exact consistent_advance h hs current allowed
      (fun _ => hA o current recorded allowed changes)
      (fun he => absurd he (fillState_ne_acknowledged _ _))
  | tornFill accepts => exact consistent_logFill h hs accepts

theorem consistent_empty : Consistent .empty := by
  refine ⟨rfl, ?_⟩
  intro o ho
  cases ho

/-! ## The calls that part memory and ledger -/

/-- A transition into a state whose event the ledger already holds. -/
def EntersAgain (w : OmsWorld) (i : UUID) (s : OrderState) : Prop :=
  ∃ o, w.manager.orders.get i = some o ∧ s ∈ allowedTransitions o.state ∧ s ≠ o.state ∧
    (SqliteLedgers.findKey w.orderEvents (orderKey o.idempotencyKey (.order s))).isSome

instance (w : OmsWorld) (i : UUID) (s : OrderState) : Decidable (EntersAgain w i s) :=
  inferInstanceAs (Decidable (∃ o ∈ w.manager.orders.get i, s ∈ allowedTransitions o.state ∧
    s ≠ o.state ∧
    (SqliteLedgers.findKey w.orderEvents (orderKey o.idempotencyKey (.order s))).isSome))

def AmbiguousAwaiting (w : OmsWorld) (i : UUID) (o : Order) : Prop :=
  i ∈ w.manager.ambiguousOrders ∧ w.manager.orders.get i = some o ∧
    .acknowledged ∈ allowedTransitions o.state

/-- What the fills of an order sum to once `f` is delivered. -/
def quantityWith (w : OmsWorld) (f : Fill) : ℚ :=
  if (w.manager.fills.get f.venueFillId).isSome then filledQuantity w.manager.fills f.orderId
  else filledQuantity w.manager.fills f.orderId + f.quantity.value

/-- The calls after which memory and ledger may part:
* an order created in a state other than CREATED;
* a transition, a cancellation or an accepted fill that enters a state again;
* an ambiguous order acknowledged by anything but `reconcile_ambiguous`, or by
  it with an event bus that refuses the notification;
* `reconcile_ambiguous` with a rejection for an answer. -/
def StraysFromLedger (w : OmsWorld) : OmsAction → Prop
  | .call _ _ (.create o) => w.manager.orders.get o.artifactId = none ∧
    (∀ p ∈ w.manager.orders.values, p.idempotencyKey ≠ o.idempotencyKey) ∧ o.state ≠ .created
  | .call _ _ (.transition i s) =>
    EntersAgain w i s ∨ s = .acknowledged ∧ ∃ o, AmbiguousAwaiting w i o
  | .call env _ (.reconcileRouted i) => ∃ o a, AmbiguousAwaiting w i o ∧
    env.Answers i o a ∧ a.accepted = true
  | .call env _ (.reconcileAmbiguous i) => ∃ o a, i ∈ w.manager.ambiguousOrders ∧
    w.manager.orders.get i = some o ∧ env.Answers i o a ∧
    (a.accepted = false ∧ (.rejected = o.state ∨ .rejected ∈ allowedTransitions o.state) ∨
      a.accepted = true ∧ .acknowledged ∈ allowedTransitions o.state ∧
        env.MayRefuse (.order .acknowledged))
  | .call _ _ (.recordFill f side) => ∃ o, w.manager.orders.get f.orderId = some o ∧
    parseSide side = some o.side ∧ fillIdentity w.manager.fills f = .ok () ∧
    quantityWith w f ≤ o.quantity.value ∧
    EntersAgain w f.orderId (fillState (quantityWith w f) o.quantity.value)
  | .call _ _ (.cancel i) => EntersAgain w i .cancelPending
  | _ => False

private theorem stateNew_of_not_entersAgain (hrep : Represents w c) (hs : Sound c)
    (hnot : ¬EntersAgain w i s) (ho : c.memory.orders.get i = some o)
    (hal : s ∈ allowedTransitions o.state) (hne : s ≠ o.state) : StateNew c o s := by
  intro hmem
  obtain ⟨x, hx, hkey⟩ := List.mem_map.mp hmem
  refine hnot ⟨o, by rw [hrep.memory]; exact ho, hal, hne, ?_⟩
  obtain ⟨e, -, hfind, -, -⟩ := hrep.durable.findKey_present hs.wellFormed hx
  have hkey' : x.key = orderKey o.idempotencyKey (.order s) := hkey
  rw [← hkey', hfind]
  rfl

private theorem replayable_permit {n : Option Nat} {op : OmsOp}
    (hP : ¬StraysFromLedger w (.call env n op)) (hrep : Represents w c) (hs : Sound c) :
    ∀ c' l, (c' = c ∨ ∃ i, op = .route i) → op.Takes env c' l → Replayable c' l := by
  intro c' l hwhere htakes
  -- Advances to a state that is entered once and is not an acknowledgement.
  have hplain : ∀ {i s}, s ∉ reenterable → s ≠ .acknowledged → Replayable c' (.advance i s) :=
    fun hr ha o _ _ _ => ⟨fun h => absurd h hr, fun h => absurd h ha⟩
  have hanswered : ∀ accepted, answeredState accepted ∉ reenterable := by
    decide
  have haccepted : ∀ accepted, answeredState accepted = .acknowledged → accepted = true := by
    decide
  -- the manager of the world is the memory of the journal
  obtain ⟨memory, entries, submissions⟩ := c
  cases hrep.memory
  cases op with
  | create o =>
    obtain rfl | ⟨i, hi⟩ := hwhere
    · cases htakes
      intro habsent hfresh
      by_contra hne
      exact hP ⟨habsent, hfresh, hne⟩
    · cases hi
  | transition i s =>
    obtain rfl | ⟨j, hj⟩ := hwhere
    · cases htakes
      intro o ho hal hne
      refine ⟨fun _ => stateNew_of_not_entersAgain hrep hs (fun h => hP (Or.inl h)) ho hal hne, ?_⟩
      intro hack hamb
      exact hP (Or.inr ⟨hack, o, hamb, ho, hack ▸ hal⟩)
    · cases hj
  | approveRisk i decision check =>
    obtain ⟨-, rfl⟩ := htakes
    exact hplain (by decide) (by decide)
  | route i =>
    obtain ⟨hclear, rfl | rfl | rfl | ⟨accepted, rfl⟩⟩ := htakes
    · exact hplain (by decide) (by decide)
    · trivial
    · trivial
    · intro o _ _ _
      exact ⟨fun h => absurd h (hanswered accepted), fun _ => hclear⟩
  | reconcileAmbiguous i =>
    obtain rfl | ⟨j, hj⟩ := hwhere
    · obtain ⟨o, a, ho, hamb, ha, rfl | ⟨hrefuse, rfl⟩⟩ := htakes
      · intro o' ho' hal
        rw [ho] at ho'
        cases ho'
        by_contra hrej
        have hfalse : a.accepted = false := by simpa using hrej
        rw [hfalse] at hal
        refine hP ⟨o, a, hamb, ho, ha, Or.inl ⟨hfalse, hal⟩⟩
      · intro o' ho' hal _
        rw [ho] at ho'
        cases ho'
        refine ⟨fun h => absurd h (hanswered _), ?_⟩
        intro hack _
        rw [hack] at hal hrefuse
        exact hP ⟨o, a, hamb, ho, ha,
          Or.inr ⟨haccepted _ hack, hal, hrefuse⟩⟩
    · cases hj
  | reconcileRouted i =>
    obtain rfl | ⟨j, hj⟩ := hwhere
    · obtain ⟨o, a, ho, hrouted, ha, rfl⟩ := htakes
      intro o' ho' hal _
      rw [ho] at ho'
      cases ho'
      refine ⟨fun h => absurd h (hanswered _), ?_⟩
      intro hack hamb
      exact hP ⟨o, a, ⟨hamb, ho, hack ▸ hal⟩, ha, haccepted _ hack⟩
    · cases hj
  | expireUnacknowledged | acknowledgeCancel | reconcile =>
    cases htakes
    exact hplain (by decide) (by decide)
  | recordFill f side =>
    obtain rfl | ⟨j, hj⟩ := hwhere
    · obtain ⟨hident, ⟨o₀, ho₀, hside⟩, rfl | rfl⟩ := htakes
      · intro o ha hne
        have hquantity : quantityWith w f
            = filledQuantity w.manager.fills f.orderId + f.quantity.value := by
          unfold quantityWith
          rw [ha.new]
          rfl
        refine stateNew_of_not_entersAgain (i := f.orderId) hrep hs ?_ ha.order
          (fillState_allowed ha.fillable _ _) hne
        intro hagain
        refine hP ⟨o, ha.order, ?_, hident, ?_, ?_⟩
        · rw [ha.order] at ho₀
          cases ho₀
          exact hside
        · rw [hquantity]
          exact ha.room
        · rw [hquantity]
          exact hagain
      · intro o ho hrecorded hal hne
        obtain ⟨g, hg, -⟩ := hrecorded
        have hid : o.artifactId = f.orderId := hs.projects.orderId ho
        have hquantity : quantityWith w f = filledQuantity w.manager.fills o.artifactId := by
          unfold quantityWith
          rw [hg, hid]
          rfl
        refine stateNew_of_not_entersAgain (i := f.orderId) hrep hs ?_ ho hal hne
        intro hagain
        refine hP ⟨o, ho, ?_, hident, ?_, ?_⟩
        · rw [ho] at ho₀
          cases ho₀
          exact hside
        · rw [hquantity]
          exact hs.filled_le (hid ▸ ho)
        · rw [hquantity]
          exact hagain
    · cases hj
  | cancel i =>
    obtain rfl | ⟨j, hj⟩ := hwhere
    · cases htakes
      intro o ho hal hne
      refine ⟨fun _ => stateNew_of_not_entersAgain hrep hs hP ho hal hne, ?_⟩
      intro hack
      cases hack
    · cases hj

theorem consistent_kept : Kept (fun w a => ¬StraysFromLedger w a) Replayable Consistent := by
  refine ⟨consistent_empty, ?_, ?_, ?_, ?_⟩
  · intro l c c' hs h hA hstep
    exact consistent_step hs h hA hstep
  · intro w a f c c' _ _ hs h hstep
    exact consistent_step hs h (show Replayable c (.tornFill f) from trivial) hstep
  · intro c c' _ h hre
    -- A restart reads back the memory it replaces.
    obtain ⟨m, hm, rfl⟩ := hre
    have hsame : m = c.memory := Except.ok.inj (hm.symm.trans h.replays)
    rw [hsame]
    exact h
  · intro w env n op c hP hrep hs _
    exact replayable_permit hP hrep hs

private theorem compatible_of_bound {known : Option (Dict String UUID)} (hs : Sound c)
    (h : Bound known c.memory) : Compatible known c.entries := by
  intro ids hids k i hi t p hp hkey
  obtain ⟨o, ho, hk⟩ := h ids hids k i hi
  obtain ⟨hid, u, hu⟩ := hs.projects.orderLogged i o ho
  rw [← hid]
  exact hs.wellFormed.clients t p u o hp hu (hkey.trans hk.symm)

/-- **Replay.** After every run in which no call strays, a fresh manager over the
ledger, with the live adapter or a new one, starts and has the live manager's
orders, fills and ambiguous orders. -/
theorem hydrate_reproduces_manager {adapter : Adapter} {acts : List OmsAction}
    (hmeet : Runs.Along omsStep (fun w a => ¬StraysFromLedger w a) (.init adapter) acts)
    (hrun : omsRun (.init adapter) acts = some w) (known : Option (Dict String UUID))
    (hknown : known = w.knownOrderIds ∨ known = w.knownOrderIds.map fun _ => Dict.empty) :
    ∃ known', hydrate known w.orderEvents = .ok (w.manager, known') := by
  obtain ⟨c, hrep, hs, h⟩ := run_keeps consistent_kept hmeet hrun
  have hw : WellFormed (entriesOf w.orderEvents) := by
    rw [hrep.durable.entries]
    exact hs.wellFormed
  have hc : Compatible known (entriesOf w.orderEvents) := by
    rw [hrep.durable.entries]
    rcases hknown with rfl | rfl
    · exact compatible_of_bound hs hrep.bound
    · intro ids hids k i hi
      obtain ⟨ids₀, -, rfl⟩ := Option.mem_map.mp hids
      cases hi
  have hreplay : replayEntries (entriesOf w.orderEvents) = .ok w.manager := by
    rw [hrep.durable.entries, hrep.memory]
    exact h.replays
  exact hydrate_of_replay hrep.durable.shaped hw hc hreplay

def paperLost : List OmsAction :=
  [paperCall (.create (paperOrder .created)), paperCall (.transition 1 .riskApproved),
    paperLostRoute]

private theorem paperLost_meets : Runs.Along omsStep (fun w a => ¬StraysFromLedger w a)
    (.init .paper) paperLost := by
  refine ⟨fun h => h.2.2 rfl, ?_⟩
  intro w hw
  refine ⟨?_, fun _ _ => ⟨id, fun _ _ => trivial⟩⟩
  have hfresh : (omsStep (.init .paper) (paperCall (.create (paperOrder .created)))).any
      (fun w => ¬EntersAgain w 1 .riskApproved) = true := by
    decide +kernel
  rw [hw] at hfresh
  intro h
  rcases h with h | h
  · exact of_decide_eq_true hfresh h
  · cases h.1

/-- A fresh manager knows that the acknowledgement of the paper order was lost. -/
theorem hydrate_reproduces_manager_paper :
    ∃ w known', omsRun (.init .paper) paperLost = some w ∧ 1 ∈ w.manager.ambiguousOrders ∧
      hydrate w.knownOrderIds w.orderEvents = .ok (w.manager, known') := by
  have hrun : (omsRun (.init .paper) paperLost).any
      (fun w => 1 ∈ w.manager.ambiguousOrders) = true := by
    decide +kernel
  obtain ⟨w, hw, hlost⟩ := (Option.any_eq_true _ _).mp hrun
  obtain ⟨known', hk⟩ := hydrate_reproduces_manager paperLost_meets hw _ (Or.inl rfl)
  exact ⟨w, known', hw, of_decide_eq_true hlost, hk⟩

/-- Cancellation of the paper order is requested after the first fill, and
another fill comes in before the venue confirms it. -/
def paperCancelRace : List OmsAction :=
  paperAcknowledged ++ [paperCall (.recordFill (paperFill 11 "v-1" 4 fourUnits_pos paperFillId_normal) "buy"),
    paperCall (.cancel 1), paperCall (.recordFill (paperFill 12 "v-2" 3 (by decide) laterFillId_normal) "buy")]

/-- Nobody died in the cancel race, and the second PARTIALLY_FILLED event was
deduplicated away: the live order is PARTIALLY_FILLED, the hydrated one
CANCEL_PENDING. -/
theorem cancel_race_not_reproduced :
    ¬∀ (adapter : Adapter) (acts : List OmsAction) (w : OmsWorld),
      (∀ a ∈ acts, ∃ env op, a = .call env none op) →
      omsRun (.init adapter) acts = some w →
      ∃ known', hydrate w.knownOrderIds w.orderEvents = .ok (w.manager, known') := by
  intro h
  have hrun : (omsRun (.init .paper) paperCancelRace).any (fun w =>
      (w.manager.orders.get 1).any (fun o => o.state = .partiallyFilled) ∧
      (hydrate w.knownOrderIds w.orderEvents).toOption.any fun hydrated =>
        (hydrated.1.orders.get 1).any fun o => o.state = .cancelPending) = true := by
    decide +kernel
  obtain ⟨w, hw, hfacts⟩ := (Option.any_eq_true _ _).mp hrun
  obtain ⟨hlive, hafter⟩ := of_decide_eq_true hfacts
  have hcalls : ∀ a ∈ paperCancelRace, ∃ env op, a = .call env none op := by
    intro a ha
    simp only [paperCancelRace, paperAcknowledged, mem_append, mem_cons,
      not_mem_nil, or_false] at ha
    rcases ha with (rfl | rfl | rfl) | rfl | rfl | rfl
    · exact ⟨_, _, rfl⟩
    · exact ⟨_, _, rfl⟩
    · exact ⟨_, _, rfl⟩
    · exact ⟨_, _, rfl⟩
    · exact ⟨_, _, rfl⟩
    · exact ⟨_, _, rfl⟩
  obtain ⟨known', hk⟩ := h .paper paperCancelRace w hcalls hw
  rw [hk] at hafter
  change (w.manager.orders.get 1).any _ = true at hafter
  obtain ⟨o, ho, hstate⟩ := (Option.any_eq_true _ _).mp hlive
  obtain ⟨o', ho', hstate'⟩ := (Option.any_eq_true _ _).mp hafter
  rw [ho] at ho'
  cases ho'
  have h1 : o.state = .partiallyFilled := of_decide_eq_true hstate
  rw [h1] at hstate'
  cases of_decide_eq_true hstate'

end AdvisorAI
