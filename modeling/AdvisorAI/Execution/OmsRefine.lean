import AdvisorAI.Execution.OrderJournalReplay

/-!
# The order manager refines its journal

`Represents w c` relates the world of the running manager to a journal: the
manager is the journal's memory, and the ledger, reconciliation events apart,
holds the journal's entries under their keys. `Durable` is the part of it that
a crash leaves.

Each primitive of the operations gets one rule (`wp_record`, `wp_publishEvent`,
`wp_transition`, …), proved once for every crash point, and `op_refines` says
what an operation can do: wherever it stops, the journal has moved along steps
the operation is known to take.
-/

namespace AdvisorAI

open Lib OrderJournal List Prog

/-! ## Ledgers and journals -/

/-- The journal entry an event of the ledger stands for. -/
def entryOf (e : OrderEvent) : Option JournalEntry :=
  match e.payload with
  | .order o => some (.order e.eventType o)
  | .fill f => some (.fill f)
  | .reconciliation _ => none

def entriesOf (events : List OrderEvent) : List JournalEntry := events.filterMap entryOf

/-- Type and key of an event agree with the entry it stands for. -/
def Shaped (e : OrderEvent) : Prop :=
  match entryOf e with
  | some x => e.eventType = x.eventType ∧ e.idempotencyKey = x.key
  | none => e.eventType = .reconciliationRecorded ∧
      ∃ rest, e.idempotencyKey = "reconciliation:" ++ rest

/-- The ledger and the submissions are those of the journal. -/
structure Durable (w : OmsWorld) (c : OrderJournal) : Prop where
  entries : entriesOf w.orderEvents = c.entries
  shaped : ∀ e ∈ w.orderEvents, Shaped e
  eventIds : ∀ e ∈ w.orderEvents, e.eventId < w.nextEventId
  submissions : w.submissions.map (fun s => (s.order, entriesOf s.ledger)) = c.submissions

/-- A binding of the adapter names an order of the manager. -/
def Bound (knownOrderIds : Option (Dict String UUID)) (m : OrderManager) : Prop :=
  ∀ ids ∈ knownOrderIds, ∀ k i, ids.get k = some i →
    ∃ o, m.orders.get i = some o ∧ o.idempotencyKey = k

/-- The world of a running manager is that of the journal. -/
structure Represents (w : OmsWorld) (c : OrderJournal) : Prop where
  memory : w.manager = c.memory
  durable : Durable w c
  bound : Bound w.knownOrderIds c.memory

variable {w w' : OmsWorld} {c c' : OrderJournal} {env : Surroundings}

theorem Durable.congr (h : Durable w c) (hentries : c'.entries = c.entries)
    (hsubmissions : c'.submissions = c.submissions) : Durable w c' :=
  ⟨h.entries.trans hentries.symm, h.shaped, h.eventIds, h.submissions.trans hsubmissions.symm⟩

theorem entryOf_artifact (x : JournalEntry) (id : UUID) (key : String) (now : Timestamp) :
    entryOf ⟨id, x.eventType, key, now, x.artifact⟩ = some x := by
  cases x with
  | order t o => rfl
  | fill f => rfl

theorem reconciliation_ne_key (rest : String) (x : JournalEntry) :
    "reconciliation:" ++ rest ≠ x.key := by
  intro h
  have hl := congrArg String.toList h
  have hr : ("reconciliation:" : String).toList
      = ['r', 'e', 'c', 'o', 'n', 'c', 'i', 'l', 'i', 'a', 't', 'i', 'o', 'n', ':'] := by decide
  cases x with
  | order t o =>
    have ho : ("order:" : String).toList = ['o', 'r', 'd', 'e', 'r', ':'] := by decide
    simp only [JournalEntry.key, orderKey, String.toList_append] at hl
    rw [hr, ho] at hl
    simp at hl
  | fill f =>
    have hf : ("fill:" : String).toList = ['f', 'i', 'l', 'l', ':'] := by decide
    simp only [JournalEntry.key, fillKey, String.toList_append] at hl
    rw [hr, hf] at hl
    simp at hl

variable {x : JournalEntry}

theorem Shaped.entry {e : OrderEvent} (h : Shaped e) (hkey : e.idempotencyKey = x.key) :
    ∃ y, entryOf e = some y ∧ y.key = x.key ∧ e.eventType = y.eventType := by
  unfold Shaped at h
  split at h
  · next y hy => exact ⟨y, hy, h.2.symm.trans hkey, h.1⟩
  · next hn =>
    obtain ⟨rest, hrest⟩ := h.2
    exact absurd (hrest.symm.trans hkey) (reconciliation_ne_key rest x)

theorem Durable.event_of_entry (h : Durable w c) (hx : x ∈ c.entries) :
    ∃ e ∈ w.orderEvents, entryOf e = some x ∧ e.idempotencyKey = x.key := by
  rw [← h.entries] at hx
  obtain ⟨e, he, hex⟩ := mem_filterMap.mp hx
  have hshape := h.shaped e he
  unfold Shaped at hshape
  rw [hex] at hshape
  exact ⟨e, he, hex, hshape.2⟩

theorem Durable.findKey_present (h : Durable w c) (hw : WellFormed c.entries) (hx : x ∈ c.entries) :
    ∃ e ∈ w.orderEvents, SqliteLedgers.findKey w.orderEvents x.key = some e ∧
      entryOf e = some x ∧ e.eventType = x.eventType := by
  obtain ⟨e₀, he₀, -, hkey₀⟩ := h.event_of_entry hx
  cases hfind : SqliteLedgers.findKey w.orderEvents x.key with
  | none => exact absurd hkey₀ (SqliteLedgers.findKey_eq_none.mp hfind e₀ he₀)
  | some e =>
    obtain ⟨he, hkey⟩ := SqliteLedgers.findKey_some hfind
    obtain ⟨y, hy, hyk, htype⟩ := (h.shaped e he).entry hkey
    have hyl : y ∈ c.entries := by
      rw [← h.entries]
      exact mem_filterMap.mpr ⟨e, he, hy⟩
    have hyx : y = x := Journal.eq_of_key_eq hw.keys hyl hx hyk
    exact ⟨e, he, rfl, hyx ▸ hy, hyx ▸ htype⟩

theorem Durable.findKey_absent (h : Durable w c) (hx : x.key ∉ c.entries.map JournalEntry.key) :
    SqliteLedgers.findKey w.orderEvents x.key = none := by
  rw [SqliteLedgers.findKey_eq_none]
  intro e he hkey
  obtain ⟨y, hy, hyk, -⟩ := (h.shaped e he).entry hkey
  refine hx (mem_map.mpr ⟨y, ?_, hyk⟩)
  rw [← h.entries]
  exact mem_filterMap.mpr ⟨e, he, hy⟩

/-! ## Rules for the primitives -/

def Surroundings.Refuses (env : Surroundings) (envelope : EventEnvelope) (e : PyError) : Prop :=
  ∃ publish, env.eventBus = some publish ∧ publish envelope = some e

/-- The event bus refuses some notification of a type. -/
def Surroundings.MayRefuse (env : Surroundings) (eventType : OrderEventType) : Prop :=
  ∃ envelope e, envelope.eventType = eventType.name ∧ env.Refuses envelope e

/-- The venue's word on an order: its answer to a query, else its open orders. -/
def Surroundings.Answers (env : Surroundings) (orderId : UUID) (order : Order)
    (a : VenueAcknowledgement) : Prop :=
  (∃ response, env.reconcile = some (.ok (some response)) ∧
    acknowledgementOf orderId order response = .ok a) ∨
  ((env.reconcile = none ∨ env.reconcile = some (.ok none)) ∧
    ∃ openOrders, env.openOrders = .ok openOrders ∧
      openOrders.find? (fun item => item.orderId = orderId) = some a)

section Rules

variable {α : Type} {Q : α → OmsWorld → Prop} {E : Stop PyError → OmsWorld → Prop}

/-- The journal after an entry was written; the memory is yet to follow. -/
def OrderJournal.write (c : OrderJournal) (x : JournalEntry) : OrderJournal :=
  { c with entries := Journal.post JournalEntry.key c.entries x }

/-- Recording an entry whose key can only be its own posts it. -/
theorem wp_record {Q : OrderEvent → OmsWorld → Prop} (hd : Durable w c)
    (hw : WellFormed c.entries) (x : JournalEntry) (hown : ∀ y ∈ c.entries, y.key = x.key → y = x)
    (hcrash : E .crashed w) (hok : ∀ stored w', Durable w' (c.write x) → w'.manager = w.manager →
      w'.knownOrderIds = w.knownOrderIds → entryOf stored = some x → Q stored w') :
    Prog.wp (record env x.artifact x.eventType x.key) Q E w := by
  refine wp_atomic hcrash ?_
  dsimp only
  by_cases hkey : x.key ∈ c.entries.map JournalEntry.key
  · obtain ⟨y, hy, hyk⟩ := mem_map.mp hkey
    have hx : x ∈ c.entries := hown y hy hyk ▸ hy
    obtain ⟨e, he, hfind, hentry, htype⟩ := hd.findKey_present hw hx
    have hpayload : e.payload = x.artifact := by
      unfold entryOf at hentry
      split at hentry
      · next hp => cases hentry; exact hp
      · next hp => cases hentry; exact hp
      · cases hentry
    have happend : SqliteLedgers.append w.orderEvents
        ⟨w.nextEventId, x.eventType, x.key, env.now, x.artifact⟩ = (.ok e, w.orderEvents) :=
      SqliteLedgers.append_of_stored hfind htype hpayload
    rw [happend]
    refine hok e _ ⟨?_, hd.shaped, ?_, hd.submissions⟩ rfl rfl hentry
    · show entriesOf w.orderEvents = Journal.post JournalEntry.key c.entries x
      rw [Journal.post_of_present _ hkey]
      exact hd.entries
    · intro e' he'
      exact Nat.lt_succ_of_lt (hd.eventIds e' he')
  · have hfresh : ∀ e ∈ w.orderEvents, e.idempotencyKey ≠ x.key :=
      SqliteLedgers.findKey_eq_none.mp (hd.findKey_absent hkey)
    have happend : SqliteLedgers.append w.orderEvents
        ⟨w.nextEventId, x.eventType, x.key, env.now, x.artifact⟩ = (.ok _, w.orderEvents ++ [_]) :=
      SqliteLedgers.append_of_new hfresh (fun e he => Nat.ne_of_lt (hd.eventIds e he))
    rw [happend]
    have hentry : entryOf ⟨w.nextEventId, x.eventType, x.key, env.now, x.artifact⟩ = some x :=
      entryOf_artifact x _ _ _
    refine hok _ _ ⟨?_, ?_, ?_, hd.submissions⟩ rfl rfl hentry
    · show entriesOf (w.orderEvents ++ [_]) = Journal.post JournalEntry.key c.entries x
      rw [Journal.post_of_absent _ hkey]
      unfold entriesOf
      rw [filterMap_append]
      show entriesOf w.orderEvents ++ _ = _
      rw [hd.entries]
      simp [hentry]
    · intro e he
      rcases mem_append.mp he with hl | hr
      · exact hd.shaped e hl
      · rw [mem_singleton.mp hr]
        unfold Shaped
        rw [hentry]
        exact ⟨rfl, rfl⟩
    · intro e he
      rcases mem_append.mp he with hl | hr
      · exact Nat.lt_succ_of_lt (hd.eventIds e hl)
      · rw [mem_singleton.mp hr]
        exact Nat.lt_succ_self _

theorem Durable.published (h : Durable w c) (p : List EventEnvelope) :
    Durable { w with published := p } c :=
  ⟨h.entries, h.shaped, h.eventIds, h.submissions⟩

theorem Represents.published (h : Represents w c) (p : List EventEnvelope) :
    Represents { w with published := p } c :=
  ⟨h.memory, h.durable.published p, h.bound⟩

variable {artifactId orderId : UUID} {eventType t : OrderEventType}

theorem wp_publishEvent {Q : Unit → OmsWorld → Prop} {event : OrderEvent} (hcrash : E .crashed w)
    (hrefuse : ∀ e, env.Refuses (envelopeOf event eventType artifactId) e → E (.raised e) w)
    (hok : (∀ e, ¬env.Refuses (envelopeOf event eventType artifactId) e) →
      ∀ p, Q () { w with published := p }) :
    Prog.wp (publishEvent env event eventType artifactId) Q E w := by
  unfold publishEvent
  cases hbus : env.eventBus with
  | none =>
    refine wp_pure (hok ?_ w.published)
    intro e ⟨publish, hp, _⟩
    rw [hbus] at hp
    cases hp
  | some publish =>
    refine wp_atomic hcrash ?_
    dsimp only
    cases hp : publish (envelopeOf event eventType artifactId) with
    | none =>
      refine hok ?_ _
      intro e ⟨publish', hp', he⟩
      rw [hbus] at hp'
      cases hp'
      rw [hp] at he
      cases he
    | some e => exact hrefuse e ⟨publish, hbus, hp⟩

theorem wp_republishKey {Q : Unit → OmsWorld → Prop} {key : String} (hcrash : E .crashed w)
    (hrefuse : ∀ event e, SqliteLedgers.findKey w.orderEvents key = some event →
      env.Refuses (envelopeOf event eventType artifactId) e → E (.raised e) w)
    (hok : (∀ event e, SqliteLedgers.findKey w.orderEvents key = some event →
        ¬env.Refuses (envelopeOf event eventType artifactId) e) →
      ∀ p, Q () { w with published := p }) :
    Prog.wp (republishKey env key eventType artifactId) Q E w := by
  unfold republishKey
  cases hbus : env.eventBus with
  | none =>
    refine wp_pure (hok ?_ w.published)
    intro event e _ ⟨publish, hp, _⟩
    rw [hbus] at hp
    cases hp
  | some publish =>
    refine wp_bind (wp_read ?_)
    cases hfind : SqliteLedgers.findKey w.orderEvents key with
    | none =>
      refine wp_pure (hok ?_ w.published)
      intro event e hevent
      rw [hfind] at hevent
      cases hevent
    | some event =>
      refine wp_publishEvent hcrash (hrefuse event · hfind) ?_
      intro htakes
      refine hok ?_
      intro event' e hevent
      rw [hfind] at hevent
      cases hevent
      exact htakes e

theorem wp_getOrder {Q : Order → OmsWorld → Prop} (hrep : Represents w c)
    (hraise : ∀ e, c.memory.orders.get orderId = none → E (.raised e) w)
    (hok : ∀ o, c.memory.orders.get orderId = some o → Q o w) :
    Prog.wp (getOrder orderId) Q E w := by
  refine wp_bind (wp_read ?_)
  rw [hrep.memory]
  cases hget : c.memory.orders.get orderId with
  | none => exact wp_raise (hraise _ hget)
  | some o => exact wp_pure (hok o hget)

theorem wp_updateManager {Q : Unit → OmsWorld → Prop} {f : OrderManager → OrderManager}
    (hcrash : E .crashed w) (hok : Q () { w with manager := f w.manager }) :
    Prog.wp (updateManager f) Q E w :=
  wp_atomic hcrash hok

variable {p o : Order}

theorem own_key (hs : Sound c) (hf : Fits c.entries t p) (ht : t ≠ .order .created) :
    ∀ y ∈ c.entries, y.key = JournalEntry.key (.order t p) → y = .order t p := by
  intro y hy hkey
  by_contra hne
  have hmem : JournalEntry.key (.order t p) ∈ c.entries.map JournalEntry.key :=
    mem_map.mpr ⟨y, hy, hkey⟩
  have hself := mem_post_version hs.wellFormed hf ht
  rw [Journal.post_of_present _ hmem] at hself
  exact hne (Journal.eq_of_key_eq hs.wellFormed.keys hy hself hkey)

variable {known : Option (Dict String UUID)}

theorem Bound.mono {m m' : OrderManager} (h : Bound known m)
    (hkeep : ∀ i o, m.orders.get i = some o →
      ∃ o', m'.orders.get i = some o' ∧ o'.idempotencyKey = o.idempotencyKey) : Bound known m' := by
  intro ids hids k i hi
  obtain ⟨o, ho, hk⟩ := h ids hids k i hi
  obtain ⟨o', ho', hk'⟩ := hkeep i o ho
  exact ⟨o', ho', hk'.trans hk⟩

theorem Bound.advance (h : Bound known c.memory) {s : OrderState}
    (ho : c.memory.orders.get o.artifactId = some o) : Bound known (c.advance o s).memory := by
  refine h.mono ?_
  intro i p hp
  show ∃ o', (c.memory.orders.set o.artifactId (o.withState s)).get i = some o' ∧ _
  rw [Dict.get_set]
  by_cases hi : i = o.artifactId
  · rw [hi, ho] at hp
    cases hp
    exact ⟨o.withState s, if_pos hi, rfl⟩
  · exact ⟨p, by rw [if_neg hi, hp], rfl⟩

theorem wp_transition_same {Q : Order → OmsWorld → Prop} (hrep : Represents w c)
    (ho : c.memory.orders.get orderId = some o) (hcrash : E .crashed w)
    (hrefuse : ∀ event e, SqliteLedgers.findKey w.orderEvents
        (orderKey o.idempotencyKey (.order o.state)) = some event →
      env.Refuses (envelopeOf event (.order o.state) o.artifactId) e → E (.raised e) w)
    (hok : (∀ event e, SqliteLedgers.findKey w.orderEvents
          (orderKey o.idempotencyKey (.order o.state)) = some event →
        ¬env.Refuses (envelopeOf event (.order o.state) o.artifactId) e) →
      ∀ p, Q o { w with published := p }) :
    Prog.wp (transition env orderId o.state) Q E w := by
  refine wp_bind (wp_getOrder hrep ?_ ?_)
  · intro e hnone
    rw [ho] at hnone
    cases hnone
  · intro o' ho'
    rw [ho] at ho'
    cases ho'
    rw [if_pos rfl]
    refine wp_bind (wp_republishKey hcrash hrefuse ?_)
    intro htakes p
    exact wp_pure (hok htakes p)

/-- **The rule for `transition`.** The journal stays as it is, or the order
advances; a refused notification comes after the change. -/
theorem wp_transition {Q : Order → OmsWorld → Prop} {s : OrderState} (hrep : Represents w c)
    (hs : Sound c) (hcrash : ∀ w', Durable w' c → E .crashed w')
    (hraise : ∀ e w', (∀ o, c.memory.orders.get orderId = some o →
      s = o.state ∨ s ∉ allowedTransitions o.state) → Represents w' c → E (.raised e) w')
    (hsame : ∀ o w', c.memory.orders.get orderId = some o → s = o.state → Represents w' c → Q o w')
    (hadvCrash : ∀ o w', c.memory.orders.get orderId = some o →
      s ∈ allowedTransitions o.state → s ≠ o.state → Durable w' (c.advance o s) →
      E .crashed w') (hadvRaise : ∀ o e w', c.memory.orders.get orderId = some o →
      s ∈ allowedTransitions o.state → s ≠ o.state → env.MayRefuse (.order s) →
      Represents w' (c.advance o s) → E (.raised e) w')
    (hadv : ∀ o w', c.memory.orders.get orderId = some o →
      s ∈ allowedTransitions o.state → s ≠ o.state → Represents w' (c.advance o s) →
      Q (o.withState s) w') : Prog.wp (transition env orderId s) Q E w := by
  refine wp_bind (wp_getOrder hrep ?_ ?_)
  · intro e hnone
    refine hraise e w ?_ hrep
    intro o ho
    rw [hnone] at ho
    cases ho
  intro o ho
  have honly : s = o.state ∨ s ∉ allowedTransitions o.state →
      ∀ e, E (.raised e) w := by
    intro hor e
    refine hraise e w ?_ hrep
    intro o' ho'
    rw [ho] at ho'
    cases ho'
    exact hor
  refine wp_ite ?_ ?_
  · intro hstate
    refine wp_bind (wp_republishKey (hcrash w hrep.durable)
      (fun _ e _ _ => honly (Or.inl hstate) e) ?_)
    intro _ p
    exact wp_pure (hsame o _ ho hstate (hrep.published p))
  · intro hstate
    refine wp_ite ?_ ?_
    · intro hnot
      exact wp_raise (honly (Or.inr hnot) _)
    · intro hallowed
      rw [not_not] at hallowed
      have hid : o.artifactId = orderId := hs.projects.orderId ho
      have ho' : c.memory.orders.get o.artifactId = some o := hid ▸ ho
      have hfits : Fits c.entries (.order s) (o.withState s) :=
        fits_version hs ho' (stage_le_of_allowed _ _ hallowed) (Or.inl rfl)
      have hopen : OrderEventType.order s ≠ .order .created := fun he =>
        ne_created_of_allowed _ _ hallowed (OrderEventType.order.inj he)
      refine wp_bind (wp_record hrep.durable hs.wellFormed (.order (.order s) (o.withState s))
        (own_key hs hfits hopen) (hcrash w hrep.durable) ?_)
      intro stored w₁ hd₁ hm₁ hk₁ _
      have hdur : ∀ {w'}, Durable w' (c.write (.order (.order s) (o.withState s))) →
          Durable w' (c.advance o s) := fun h => h.congr rfl rfl
      refine wp_bind (wp_updateManager (hadvCrash o w₁ ho hallowed hstate (hdur hd₁)) ?_)
      have hrep₂ : Represents { w₁ with manager := { w₁.manager with
          orders := w₁.manager.orders.set orderId (o.withState s) } } (c.advance o s) := by
        refine ⟨?_, ?_, ?_⟩
        · show ({ w₁.manager with
            orders := w₁.manager.orders.set orderId (o.withState s) } : OrderManager) = _
          rw [hm₁, hrep.memory, ← hid]
          rfl
        · have hd := hdur hd₁
          exact ⟨hd.entries, hd.shaped, hd.eventIds, hd.submissions⟩
        · show Bound w₁.knownOrderIds _
          rw [hk₁]
          exact hrep.bound.advance ho'
      refine wp_bind (wp_publishEvent (hadvCrash o _ ho hallowed hstate hrep₂.durable)
        (fun e he => hadvRaise o e _ ho hallowed hstate ⟨_, e, rfl, he⟩ hrep₂) ?_)
      intro _ p
      exact wp_pure (hadv o _ ho hallowed hstate (hrep₂.published p))

theorem wp_queryVenueAcknowledgement {Q : Option VenueAcknowledgement → OmsWorld → Prop}
    (hrep : Represents w c) (hraise : ∀ e, E (.raised e) w)
    (hnone : (env.reconcile = none ∨ env.reconcile = some (.ok none)) → Q none w)
    (hsome : ∀ o a response, c.memory.orders.get orderId = some o →
      env.reconcile = some (.ok (some response)) →
      acknowledgementOf orderId o response = .ok a → Q (some a) w) :
    Prog.wp (queryVenueAcknowledgement env orderId) Q E w := by
  unfold queryVenueAcknowledgement
  cases hreconcile : env.reconcile with
  | none => exact wp_pure (hnone (Or.inl hreconcile))
  | some answer =>
    refine wp_bind (wp_getOrder hrep (fun e _ => hraise e) ?_)
    intro o ho
    refine wp_bind (wp_lift ?_ (fun e _ => hraise e))
    intro response hanswer
    rw [hanswer] at hreconcile
    cases response with
    | none => exact wp_pure (hnone (Or.inr hreconcile))
    | some response =>
      refine wp_bind (wp_lift ?_ (fun e _ => hraise e))
      intro a ha
      exact wp_pure (hsome o a response ho hreconcile ha)

theorem wp_venueAcknowledgement {Q : VenueAcknowledgement → OmsWorld → Prop} {noMatch : String}
    (hrep : Represents w c) (hraise : ∀ e, E (.raised e) w)
    (hok : ∀ a, (∀ o, c.memory.orders.get orderId = some o → env.Answers orderId o a) → Q a w) :
    Prog.wp (venueAcknowledgement env orderId noMatch) Q E w := by
  refine wp_bind (wp_queryVenueAcknowledgement hrep hraise ?_ ?_)
  · intro hnone
    refine wp_bind (wp_lift ?_ (fun e _ => hraise e))
    intro openOrders hopen
    split
    · next a ha =>
      refine wp_pure (hok a ?_)
      intro o _
      exact Or.inr ⟨hnone, openOrders, hopen, ha⟩
    · exact wp_raise (hraise _)
  · intro o a response ho hreconcile ha
    refine wp_pure (hok a ?_)
    intro o' ho'
    rw [ho] at ho'
    cases ho'
    exact Or.inl ⟨response, hreconcile, ha⟩

end Rules

end AdvisorAI
