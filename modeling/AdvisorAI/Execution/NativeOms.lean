import AdvisorAI.Execution.Native
import AdvisorAI.Execution.OmsReplay
import AdvisorAI.Integrations.Freshness
import AdvisorAI.Lib.Checks

/-!
# The order manager over the native adapter

A routed order whose acknowledgement never came is resolved by asking the venue.
The transports mark a record of an order as accepted unless its state is
terminal, and the order manager reads "not accepted" as "rejected". An order
that was executed and is over when it is asked for is therefore rejected; one
that the venue does not find raises and stays routed. Neither state takes a
fill, so what the venue executed is never recorded
(`executed_order_unfillable`).
-/

namespace AdvisorAI

open Lib Prog Local Dict

/-! ## What the order manager is answered -/

namespace NativeVenueAdapter

variable {τ : Type} (adapter : NativeVenueAdapter τ)

/-- A value of a record, as the order manager reads it. -/
def valueOf : PyValue → VenueValue
  | .none => .none
  | .bool b => .bool b
  | value => .text (adapter.outside.str value)

variable (entries : VenueRecord)

def fieldsOf : Dict String VenueValue :=
  entries.foldr (fun entry fields => fields.set entry.1 (adapter.valueOf entry.2)) Dict.empty

theorem get_fieldsOf (key : String) :
    (adapter.fieldsOf entries).get key = (lookupEntry key entries).map adapter.valueOf := by
  induction entries with
  | nil => rfl
  | cons entry entries ih =>
    obtain ⟨k, value⟩ := entry
    show ((adapter.fieldsOf entries).set k (adapter.valueOf value)).get key = _
    rw [get_set]
    unfold lookupEntry
    by_cases hkey : k = key
    · rw [if_pos hkey, if_pos hkey.symm]
      rfl
    · rw [if_neg hkey, if_neg (Ne.symm hkey), ih]

def responseOf (value : PyValue) : VenueResponse :=
  match mappingEntries value with
  | some entries => .mapping (adapter.fieldsOf entries)
  | none => .other

/-- What is returned, and what is raised instead. -/
def answered {α : Type} (x : Native τ α) (s : NativeState τ) : Except PyError α :=
  match x s with
  | .ok a _ => .ok a
  | .error e _ => .error e.raised

/-- What surrounds the resolution of an order: the adapter is asked for it, then for the open ones. -/
def surroundings (order : Order) (now : Timestamp)
    (eventBus : Option (EventEnvelope → Option PyError)) (s : NativeState τ) : Surroundings where
  now := now
  eventBus := eventBus
  submit := .ambiguous
  reconcile := some ((answered (adapter.reconcile order) s).map fun value =>
    value.map adapter.responseOf)
  openOrders := answered adapter.openOrders (Local.after (adapter.reconcile order) s)
  cancel := none

end NativeVenueAdapter

/-! ## What the transports make of a state -/

variable {value : PyValue} {k j message : String}

theorem lookupEntry_setEntry_self (record : VenueRecord) :
    lookupEntry k (setEntry k value record) = some value := by
  rw [lookupEntry_setEntry, if_pos rfl]

theorem lookupEntry_setEntry_ne (h : j ≠ k) (record : VenueRecord) :
    lookupEntry j (setEntry k value record) = lookupEntry j record := by
  rw [lookupEntry_setEntry, if_neg h]

theorem accepted_normalized {b b' : Prop} [Decidable b] [Decidable b'] {e : VenueFailure} {v : PyValue}
    {record normalized : VenueRecord} (h : (if b then .error e
      else if b' then .ok (setEntry "accepted" value record)
      else .ok (setEntry "client_order_id" v (setEntry "accepted" value record))) =
        Except.ok normalized) : lookupEntry "accepted" normalized = some value := by
  split_ifs at h
  · cases h
    exact lookupEntry_setEntry_self _
  · cases h
    rw [lookupEntry_setEntry_ne (by decide)]
    exact lookupEntry_setEntry_self _

namespace BinanceSpotTestnetTransport

variable {σ : Type} {settings : BinanceSettings σ}

/-- The states of an order that was executed, at least in part, and is over. -/
def executedStates : List String := ["FILLED", "CANCELED", "CANCELLED", "EXPIRED", "EXPIRED_IN_MATCH"]

def stateOf (settings : BinanceSettings σ) (record : VenueRecord) : String :=
  settings.outside.upper (settings.outside.word record ["status"] "")

theorem normalizeOrder_executed {record normalized : VenueRecord}
    (h : normalizeOrder settings record = .ok normalized)
    (hstate : stateOf settings record ∈ executedStates) :
    lookupEntry "accepted" normalized = some (.bool false) := by
  have hsub : ∀ state ∈ executedStates, state ∈ terminalOrderStates := by decide
  have haccepted : decide (stateOf settings record ∉ terminalOrderStates) = false :=
    decide_eq_false (not_not.mpr (hsub _ hstate))
  rw [← haccepted]
  exact accepted_normalized h

/-- What the venue answers to queries for an order that was executed and is over. -/
def AnswersExecuted (settings : BinanceSettings σ) (localId : String) : Prop :=
  ∀ symbol t payload t' record,
    request settings "GET" "/api/v3/order"
        [("symbol", symbol), ("origClientOrderId", localId)] true false t = .ok payload t' →
    mappingEntries payload = some record → stateOf settings record ∈ executedStates

end BinanceSpotTestnetTransport

/-- A record that says that its order is not accepted. -/
def Unaccepted (value : PyValue) : Prop :=
  ∃ record, mappingEntries value = some record ∧ lookupEntry "accepted" record = some (.bool false)

theorem onStatus_ok {τ α β : Type} {status : ℕ} {x : EStateM VenueFailure τ α}
    {next : α → EStateM VenueFailure τ β} {absent : EStateM VenueFailure τ β} {t t' : τ} {b : β}
    (h : onStatus status x next absent t = .ok b t') :
    (∃ a t₁, x t = .ok a t₁ ∧ next a t₁ = .ok b t') ∨ ∃ t₁, absent t₁ = .ok b t' := by
  unfold onStatus at h
  cases hx : x t with
  | ok a t₁ =>
    rw [hx] at h
    exact Or.inl ⟨a, t₁, rfl, h⟩
  | error e t₁ =>
    rw [hx] at h
    cases e with
    | other e => cases h
    | venue message code =>
      dsimp only at h
      split at h
      · exact Or.inr ⟨t₁, h⟩
      · cases h

theorem mappingEntries_of_object {σ : Type} {t t' : σ} {record : VenueRecord}
    (h : object message value t = .ok record t') : mappingEntries value = some record := by
  rw [(object_ok h).2]
  rfl

namespace BinanceSpotTestnetTransport

variable {σ : Type} {settings : BinanceSettings σ} {localId : String}

variable {t t' : BinanceSpotTestnetTransport σ} {payload value : PyValue}

theorem queriedOrder_executed {candidate : String} {normalized : VenueRecord}
    (hstate : ∀ record, mappingEntries payload = some record →
      stateOf settings record ∈ executedStates)
    (h : queriedOrder settings localId candidate payload t = .ok normalized t') :
    lookupEntry "accepted" normalized = some (.bool false) := by
  obtain ⟨record, t₁, hrecord, h₁⟩ := of_bind_ok h
  obtain ⟨found, t₂, hfound, h₂⟩ := of_bind_ok h₁
  have haccepted := normalizeOrder_executed (lift_ok hfound).2 (hstate record (mappingEntries_of_object hrecord))
  dsimp only at h₂
  split at h₂
  · cases h₂
  · obtain ⟨_, t₃, -, h₃⟩ := of_bind_ok h₂
    cases h₃
    exact haccepted

theorem queryCandidates_executed (hanswers : AnswersExecuted settings localId)
    {candidates : List String}
    (h : queryCandidates settings localId candidates t = .ok (some value) t') :
    Unaccepted value := by
  induction candidates generalizing t with
  | nil => cases h
  | cons candidate candidates ih =>
    rcases onStatus_ok h with ⟨payload, t₁, hrequest, hnext⟩ | ⟨t₁, habsent⟩
    · obtain ⟨normalized, t₂, hqueried, hreturned⟩ := of_bind_ok hnext
      cases hreturned
      exact ⟨normalized, rfl, queriedOrder_executed (fun record hrecord =>
        hanswers candidate t payload t₁ record hrequest hrecord) hqueried⟩
    · exact ih habsent

/-- **A query for an order that is over** finds nothing, or a record that is not accepted. -/
theorem queryOrder_executed (hanswers : AnswersExecuted settings localId)
    (hlocal : strip localId = localId) (h : queryOrder settings localId t = .ok (some value) t') :
    Unaccepted value := by
  unfold queryOrder at h
  rw [hlocal] at h
  split at h
  · cases h
  · rw [Local.bind_ok (read_ok _ _)] at h
    by_cases hsymbols : verifiedSymbolIds t = [] ∧ t.localToSymbol.get localId = none
    · -- without symbols there are no open orders to look through
      rw [hsymbols.2, if_neg (not_not.mpr hsymbols.1)] at h
      obtain ⟨found, t₁, hlisted, hfound⟩ := of_bind_ok h
      unfold listOpenOrders at hlisted
      rw [Local.bind_ok (read_ok _ _), hsymbols.1] at hlisted
      obtain ⟨listed, t₂, hopen, hlast⟩ := of_bind_ok hlisted
      cases hopen
      cases hlast
      cases hfound
    · rw [if_pos ?asked] at h
      · exact queryCandidates_executed hanswers h
      case asked =>
        cases hsymbol : t.localToSymbol.get localId with
        | some symbol => exact List.cons_ne_nil _ _
        | none => exact fun hnone => hsymbols ⟨hnone, hsymbol⟩

end BinanceSpotTestnetTransport

namespace CoinbaseExchangeSandboxTransport

variable {σ : Type} {settings : CoinbaseSettings σ} {localId : String}

/-- The states of an order that was executed, at least in part, and is over. -/
def executedStates : List String := ["done", "settled", "cancelled", "canceled", "expired"]

def stateOf (settings : CoinbaseSettings σ) (record : VenueRecord) : String :=
  lower (settings.outside.word record ["status", "state"] "open")

variable {record normalized : VenueRecord}

theorem normalizeOrder_executed (h : normalizeOrder settings record = .ok normalized)
    (hstate : stateOf settings record ∈ executedStates) :
    lookupEntry "accepted" normalized = some (.bool false) := by
  have hsub : ∀ state ∈ executedStates, state ∈ terminalOrderStates := by decide
  have haccepted : decide (stateOf settings record ∉ terminalOrderStates) = false :=
    decide_eq_false (not_not.mpr (hsub _ hstate))
  rw [← haccepted]
  exact accepted_normalized h

/-- What the venue answers to queries for an order that was executed and is over: under the identity
that the transport remembers a record that says so, and no open order of that name. -/
structure AnswersExecuted (settings : CoinbaseSettings σ) (localId : String) : Prop where
  queried : ∀ t payload t' record,
    request settings "GET" (orderPath (t.localToVenue.getD localId "")) none true t
      = .ok payload t' →
    mappingEntries payload = some record → stateOf settings record ∈ executedStates
  unlisted : ∀ t found t', listOpenOrders settings t = .ok found t' → ∀ record ∈ found,
    settings.outside.str (VenueOutside.field record ["client_order_id"] "") ≠ localId

variable {t t' : CoinbaseExchangeSandboxTransport σ}

theorem queriedOrder_executed {payload : PyValue}
    (hstate : ∀ record, mappingEntries payload = some record →
      stateOf settings record ∈ executedStates)
    (h : queriedOrder settings localId payload t = .ok normalized t') :
    lookupEntry "accepted" normalized = some (.bool false) := by
  obtain ⟨record, t₁, hrecord, h₁⟩ := of_bind_ok h
  obtain ⟨found, t₂, hfound, h₂⟩ := of_bind_ok h₁
  have haccepted := normalizeOrder_executed (lift_ok hfound).2 (hstate record (mappingEntries_of_object hrecord))
  split at h₂
  · cases h₂
  · cases h₂
    exact haccepted

/-- **A query for an order that is over** finds nothing, or a record that is not accepted. -/
theorem queryOrder_executed (hanswers : AnswersExecuted settings localId)
    (hlocal : strip localId = localId) {value : PyValue}
    (h : queryOrder settings localId t = .ok (some value) t') : Unaccepted value := by
  unfold queryOrder at h
  rw [hlocal] at h
  split at h
  · cases h
  · rw [Local.bind_ok (read_ok _ _)] at h
    split at h
    · rcases onStatus_ok h with ⟨payload, t₁, hrequest, hnext⟩ | ⟨t₁, habsent⟩
      · obtain ⟨normalized, t₂, hqueried, hreturned⟩ := of_bind_ok hnext
        cases hreturned
        exact ⟨normalized, rfl, queriedOrder_executed (fun record hrecord =>
          hanswers.queried t payload t₁ record hrequest hrecord) hqueried⟩
      · cases habsent
    · obtain ⟨found, t₁, hlisted, hfound⟩ := of_bind_ok h
      have hvalue : (found.find? fun record => settings.outside.str
          (VenueOutside.field record ["client_order_id"] "") = localId).map PyValue.map
            = some value := by
        injection hfound
      obtain ⟨record, hrecord, -⟩ := Option.map_eq_some_iff.mp hvalue
      have hname := List.find?_some hrecord
      exact absurd (of_decide_eq_true hname)
        (hanswers.unlisted t found t₁ hlisted record (List.mem_of_find?_eq_some hrecord))

end CoinbaseExchangeSandboxTransport

/-! ## The venue's word on an executed order -/

section Word

variable {τ : Type} {adapter : NativeVenueAdapter τ} {order : Order} {s : NativeState τ}

/-- No open order that the venue lists is resolved to this one. -/
def NativeVenueAdapter.Unlisted (adapter : NativeVenueAdapter τ) (order : Order)
    (known : Dict String UUID) : Prop :=
  ∀ t found t', adapter.transport.listOpenOrders t = .ok found t' → ∀ record ∈ found,
    adapter.resolveLocalOrderId known record ≠ .ok order.artifactId

/-- An order that the venue executed, at least in part, and that is over there. -/
inductive ExecutedAt : {τ : Type} → NativeVenueAdapter τ → Order → NativeState τ → Prop
  | binance {σ : Type} (settings : BinanceSettings σ)
      (adapter : NativeVenueAdapter (BinanceSpotTestnetTransport σ)) (order : Order)
      (s : NativeState (BinanceSpotTestnetTransport σ))
      (htransport : adapter.transport = BinanceSpotTestnetTransport.native settings)
      (hanswers : BinanceSpotTestnetTransport.AnswersExecuted settings order.idempotencyKey)
      (hunlisted : adapter.Unlisted order s.knownOrderIds) : ExecutedAt adapter order s
  | coinbase {σ : Type} (settings : CoinbaseSettings σ)
      (adapter : NativeVenueAdapter (CoinbaseExchangeSandboxTransport σ)) (order : Order)
      (s : NativeState (CoinbaseExchangeSandboxTransport σ))
      (htransport : adapter.transport = CoinbaseExchangeSandboxTransport.native settings)
      (hanswers : CoinbaseExchangeSandboxTransport.AnswersExecuted settings order.idempotencyKey)
      (hunlisted : adapter.Unlisted order s.knownOrderIds) : ExecutedAt adapter order s

theorem ExecutedAt.unlisted (h : ExecutedAt adapter order s) :
    adapter.Unlisted order s.knownOrderIds := by
  cases h with
  | binance settings adapter order s htransport hanswers hunlisted => exact hunlisted
  | coinbase settings adapter order s htransport hanswers hunlisted => exact hunlisted

theorem ExecutedAt.queried (h : ExecutedAt adapter order s) {t t' : τ} {value : PyValue}
    (hquery : adapter.transport.queryOrder order.idempotencyKey t = .ok (some value) t') :
    Unaccepted value := by
  have hlocal := order.idempotencyKey_normal.2
  cases h with
  | binance settings adapter order s htransport hanswers hunlisted =>
    rw [htransport] at hquery
    exact BinanceSpotTestnetTransport.queryOrder_executed hanswers hlocal hquery
  | coinbase settings adapter order s htransport hanswers hunlisted =>
    rw [htransport] at hquery
    exact CoinbaseExchangeSandboxTransport.queryOrder_executed hanswers hlocal hquery

theorem reconcile_known : (Local.after (adapter.reconcile order) s).knownOrderIds
    = s.knownOrderIds := by
  unfold Local.after NativeVenueAdapter.reconcile NativeVenueAdapter.onTransport onClient
  cases adapter.transport.queryOrder order.idempotencyKey s.transport with
  | ok value t => rfl
  | error e t => rfl

theorem openStep_orderId {known : Dict String UUID} {earlier current current' :
    Dict UUID VenueAcknowledgement} {record : VenueRecord} {orderId : UUID}
    (hrecord : adapter.resolveLocalOrderId known record ≠ .ok orderId)
    (hcurrent : ∀ a ∈ current.values, a.orderId ≠ orderId)
    (h : adapter.openStep known earlier current record = .ok current') :
    ∀ a ∈ current'.values, a.orderId ≠ orderId := by
  obtain ⟨acknowledgement, hacknowledgement, h⟩ := bind_ok_iff.mp h
  obtain ⟨resolved, hresolved, hrest⟩ := bind_ok_iff.mp hacknowledgement
  have hid : acknowledgement.orderId = resolved := by
    dsimp only at hrest
    split at hrest
    · obtain ⟨accepted, -, hmade⟩ := bind_ok_iff.mp hrest
      cases hmade
      rfl
    · cases hrest
  dsimp only at h
  split at h
  · cases h
    intro a ha
    obtain ⟨key, hkey⟩ := mem_values_iff.mp ha
    rw [get_set] at hkey
    split at hkey
    · cases hkey
      rw [hid]
      rintro rfl
      exact hrecord hresolved
    · exact hcurrent a (mem_values_iff.mpr ⟨key, hkey⟩)
  · cases h

theorem openOrders_unlisted (h : adapter.Unlisted order s.knownOrderIds)
    {acknowledgements : List VenueAcknowledgement} {s' : NativeState τ}
    (hopen : adapter.openOrders s = .ok acknowledgements s') :
    ∀ a ∈ acknowledgements, a.orderId ≠ order.artifactId := by
  obtain ⟨found, s₁, hlisted, h₁⟩ := of_bind_ok hopen
  rw [Local.bind_ok (read_ok _ _), Local.bind_ok (read_ok _ _)] at h₁
  obtain ⟨current, s₂, hfold, h₂⟩ := of_bind_ok h₁
  obtain ⟨_, s₃, -, h₃⟩ := of_bind_ok h₂
  cases h₃
  obtain ⟨hfound, -, hknown⟩ := NativeVenueAdapter.onTransport_ok hlisted
  rw [hknown] at hfold
  refine foldlM_invariant (I := fun current => ∀ a ∈ current.values, a.orderId ≠ order.artifactId)
    ?_ (fun a ha => absurd ha List.not_mem_nil) (lift_ok hfold).2
  intro current record current' hcurrent hrecord hstep
  exact openStep_orderId (h _ _ _ hfound record hrecord) hcurrent hstep

variable {a : VenueAcknowledgement}

theorem accepted_of_acknowledgement {fields : Dict String VenueValue} {accepted : Bool}
    {orderId : UUID} (hflag : fields.get "accepted" = some (.bool accepted))
    (h : acknowledgementOf orderId order (.mapping fields) = .ok a) : a.accepted = accepted := by
  have hread : responseAccepted fields = .ok accepted := by
    unfold responseAccepted
    rw [hflag]
  unfold acknowledgementOf at h
  dsimp only at h
  rw [hread] at h
  split_ifs at h
  cases h
  rfl

/-- **The venue's word** on an executed order is that it is not accepted, if there is one. -/
theorem ExecutedAt.refused (h : ExecutedAt adapter order s) {now : Timestamp}
    {eventBus : Option (EventEnvelope → Option PyError)} {current : Order}
    (ha : (adapter.surroundings order now eventBus s).Answers order.artifactId current a) :
    a.accepted = false := by
  rcases ha with ⟨response, hreconcile, hacknowledged⟩ | ⟨-, openOrders, hopen, hfind⟩
  · unfold NativeVenueAdapter.surroundings NativeVenueAdapter.answered at hreconcile
    cases hquery : adapter.reconcile order s with
    | error e s₁ =>
      rw [hquery] at hreconcile
      cases hreconcile
    | ok found s₁ =>
      rw [hquery] at hreconcile
      cases found with
      | none => cases hreconcile
      | some value =>
        cases hreconcile
        obtain ⟨record, hrecord, haccepted⟩ :=
          h.queried (NativeVenueAdapter.onTransport_ok hquery).1
        unfold NativeVenueAdapter.responseOf at hacknowledged
        rw [hrecord] at hacknowledged
        have hfield : (adapter.fieldsOf record).get "accepted" = some (.bool false) := by
          rw [adapter.get_fieldsOf, haccepted]
          rfl
        exact accepted_of_acknowledgement hfield hacknowledged
  · unfold NativeVenueAdapter.surroundings NativeVenueAdapter.answered at hopen
    cases hlisted : adapter.openOrders (Local.after (adapter.reconcile order) s) with
    | error e s₁ =>
      rw [hlisted] at hopen
      cases hopen
    | ok acknowledgements s₁ =>
      rw [hlisted] at hopen
      cases hopen
      have hunlisted := h.unlisted
      have hknown : (Local.after (adapter.reconcile order) s).knownOrderIds = s.knownOrderIds :=
        reconcile_known
      rw [← hknown] at hunlisted
      have hother := openOrders_unlisted hunlisted hlisted a (List.mem_of_find?_eq_some hfind)
      have hsame := List.find?_some hfind
      exact absurd (of_decide_eq_true hsame) hother

end Word

/-! ## Resolving the order -/

section Resolving

variable {env : Surroundings} {w : OmsWorld}

/-- A program that leaves the manager alone, wherever it stops. -/
def LeavesManager {α : Type} (x : Oms α) (w : OmsWorld) : Prop :=
  Prog.wp x (fun _ w' => w'.manager = w.manager) (fun _ w' => w'.manager = w.manager) w

theorem record_manager (artifact : OrderArtifact) (eventType : OrderEventType) (key : String) :
    LeavesManager (record env artifact eventType key) w := by
  refine wp_atomic rfl ?_
  dsimp only
  rcases SqliteLedgers.append w.orderEvents _ with ⟨result, events⟩
  cases result with
  | ok stored => rfl
  | error e => rfl

theorem publishEvent_manager (event : OrderEvent) (eventType : OrderEventType)
    (artifactId : UUID) : LeavesManager (publishEvent env event eventType artifactId) w := by
  unfold LeavesManager publishEvent
  cases env.eventBus with
  | none => exact Prog.wp_pure rfl
  | some publish =>
    refine wp_atomic rfl ?_
    dsimp only
    cases publish _ with
    | none => rfl
    | some e => rfl

/-- The fills are as they were, and the order is in one of two states. -/
structure RestsIn (orderId : UUID) (a b : OrderState) (w w' : OmsWorld) : Prop where
  fills : w'.manager.fills = w.manager.fills
  order : ∃ o, w'.manager.orders.get orderId = some o ∧ (o.state = a ∨ o.state = b)

variable {orderId : UUID} {o : Order}

theorem RestsIn.of_manager {a b : OrderState} {w' : OmsWorld}
    (horder : w.manager.orders.get orderId = some o) (hstate : o.state = a)
    (h : w'.manager = w.manager) : RestsIn orderId a b w w' := by
  refine ⟨by rw [h], o, ?_, Or.inl hstate⟩
  rw [h]
  exact horder

theorem transition_rests {newState : OrderState} (horder : w.manager.orders.get orderId = some o)
    (hne : newState ≠ o.state) :
    Prog.wp (transition env orderId newState)
      (fun _ w' => w'.manager = { w.manager with
        orders := w.manager.orders.set orderId (o.withState newState) })
      (fun _ w' => RestsIn orderId o.state newState w w') w := by
  refine Prog.wp_bind (Prog.wp_bind (Prog.wp_read ?_))
  rw [horder]
  refine Prog.wp_pure (Prog.wp_ite (fun h => absurd h hne) fun _ => ?_)
  refine Prog.wp_ite (fun _ => Prog.wp_raise (.of_manager horder rfl rfl)) fun _ => ?_
  refine Prog.wp_bind (wp_mono (record_manager _ _ _) ?_
    (fun _ _ h => .of_manager horder rfl h))
  intro stored w₁ h₁
  have hmoved : ∀ w' : OmsWorld, w'.manager = { w₁.manager with
      orders := w₁.manager.orders.set orderId (o.withState newState) } →
      RestsIn orderId o.state newState w w' := by
    intro w' h
    refine ⟨by rw [h, h₁], o.withState newState, ?_, Or.inr rfl⟩
    rw [h]
    exact get_set_self _ _ _
  refine Prog.wp_bind (wp_atomic (.of_manager horder rfl h₁) ?_)
  refine Prog.wp_bind (wp_mono (publishEvent_manager _ _ _) ?_ (fun _ w' h => hmoved w' h))
  intro _ w₂ h₂
  refine Prog.wp_pure ?_
  rw [h₂, ← h₁]

/-- Asking the venue leaves the world alone, and what is returned is an answer. -/
theorem venueAcknowledgement_wp {noMatch : String}
    (horder : w.manager.orders.get orderId = some o) :
    Prog.wp (venueAcknowledgement env orderId noMatch)
      (fun a w' => w' = w ∧ env.Answers orderId o a) (fun _ w' => w' = w) w := by
  have hquery : Prog.wp (queryVenueAcknowledgement env orderId)
      (fun found w' => w' = w ∧ ∀ a, (found = some a → env.Answers orderId o a) ∧
        (found = none → env.reconcile = none ∨ env.reconcile = some (.ok none)))
      (fun _ w' => w' = w) w := by
    unfold queryVenueAcknowledgement
    cases hreconcile : env.reconcile with
    | none => exact Prog.wp_pure ⟨rfl, fun a => ⟨fun h => (by cases h), fun _ => Or.inl rfl⟩⟩
    | some answer =>
      refine Prog.wp_bind (Prog.wp_bind (Prog.wp_read ?_))
      rw [horder]
      refine Prog.wp_pure (Prog.wp_bind (Prog.wp_lift ?_ (fun _ _ => rfl)))
      intro response hanswer
      cases response with
      | none =>
        refine Prog.wp_pure ⟨rfl, fun a => ⟨fun h => (by cases h), fun _ => Or.inr ?_⟩⟩
        rw [hanswer]
      | some response =>
        refine Prog.wp_bind (Prog.wp_lift ?_ (fun _ _ => rfl))
        intro found hfound
        refine Prog.wp_pure ⟨rfl, fun a => ⟨?_, fun h => (by cases h)⟩⟩
        rintro h
        cases h
        exact Or.inl ⟨response, by rw [hreconcile, hanswer], hfound⟩
  refine Prog.wp_bind (wp_mono hquery ?_ (fun _ _ h => h))
  rintro found w' ⟨rfl, hfound⟩
  cases found with
  | some a => exact Prog.wp_pure ⟨rfl, (hfound a).1 rfl⟩
  | none =>
    refine Prog.wp_bind (Prog.wp_lift ?_ (fun _ _ => rfl))
    intro openOrders hopen
    cases hfind : openOrders.find? fun item => item.orderId = orderId with
    | none => exact Prog.wp_raise rfl
    | some a => exact Prog.wp_pure ⟨rfl, Or.inr ⟨(hfound a).2 rfl, openOrders, hopen, hfind⟩⟩

/-- A program that rejects an order, and leaves it routed or rejected where it raises. -/
def Rejects {α : Type} (orderId : UUID) (o : Order) (w : OmsWorld) (x : Oms α) : Prop :=
  Prog.wp x (fun _ w' => w'.manager.fills = w.manager.fills ∧
    w'.manager.orders.get orderId = some (o.withState .rejected))
    (fun _ w' => RestsIn orderId .routed .rejected w w') w

theorem rejected_rests (horder : w.manager.orders.get orderId = some o) (hrouted : o.state = .routed) :
    Rejects orderId o w (transition env orderId .rejected) := by
  have hne : OrderState.rejected ≠ o.state := by
    rw [hrouted]
    decide
  have htransition := @transition_rests env w orderId o .rejected horder hne
  rw [hrouted] at htransition
  refine wp_mono htransition ?_ (fun _ _ h => h)
  intro _ w' h
  rw [h]
  exact ⟨rfl, get_set_self _ _ _⟩

theorem reconcileRouted_refused (horder : w.manager.orders.get orderId = some o)
    (hrouted : o.state = .routed) (hrefused : ∀ a, env.Answers orderId o a → a.accepted = false) :
    Rejects orderId o w (reconcileRouted env orderId) := by
  refine Prog.wp_bind (Prog.wp_bind (Prog.wp_read ?_))
  rw [horder]
  refine Prog.wp_pure (Prog.wp_ite (fun h => absurd hrouted h) fun _ => ?_)
  refine Prog.wp_bind (wp_mono (venueAcknowledgement_wp horder) ?_ ?_)
  · rintro a w' ⟨rfl, hanswer⟩
    rw [hrefused a hanswer]
    exact Prog.wp_bind (wp_mono (rejected_rests horder hrouted)
      (fun _ _ h => Prog.wp_pure h) (fun _ _ h => h))
  · rintro e w' rfl
    exact .of_manager horder hrouted rfl

theorem reconcileAmbiguous_refused (horder : w.manager.orders.get orderId = some o)
    (hrouted : o.state = .routed) (hrefused : ∀ a, env.Answers orderId o a → a.accepted = false) :
    Rejects orderId o w (reconcileAmbiguous env orderId) := by
  have hstay : RestsIn orderId .routed .rejected w w := .of_manager horder hrouted rfl
  refine Prog.wp_bind (Prog.wp_read ?_)
  refine Prog.wp_ite (fun _ => Prog.wp_raise hstay) fun _ => ?_
  refine Prog.wp_bind (wp_mono (venueAcknowledgement_wp horder) ?_ ?_)
  · rintro a w' ⟨rfl, hanswer⟩
    rw [hrefused a hanswer]
    refine Prog.wp_bind (wp_mono (rejected_rests horder hrouted) ?_ (fun _ _ h => h))
    intro _ w₁ h₁
    exact Prog.wp_bind (wp_atomic ⟨h₁.1, _, h₁.2, Or.inr rfl⟩ (Prog.wp_pure h₁))
  · rintro e w' rfl
    exact hstay

theorem recordFill_refused {fill : Fill} (side : String)
    (horder : w.manager.orders.get fill.orderId = some o) (hstate : o.state ∉ fillableStates)
    (hnew : w.manager.fills.get fill.venueFillId = none) :
    Prog.wp (recordFill env fill side) (fun _ _ => False) (fun _ w' => w' = w) w := by
  unfold recordFill
  cases parseSide side with
  | none => exact Prog.wp_raise rfl
  | some side =>
    refine Prog.wp_bind (Prog.wp_read (Prog.wp_bind (Prog.wp_lift ?_ (fun _ _ => rfl))))
    intro _ _
    refine Prog.wp_bind (Prog.wp_bind (Prog.wp_read ?_))
    rw [horder]
    refine Prog.wp_pure (Prog.wp_ite (fun _ => Prog.wp_raise rfl) fun _ => ?_)
    refine Prog.wp_ite (fun _ => Prog.wp_raise rfl) fun _ => ?_
    refine Prog.wp_bind ?_
    rw [hnew]
    exact Prog.wp_ite (fun _ => Prog.wp_raise rfl) fun h => absurd hstate h

end Resolving

/-- How an order without an acknowledgement is resolved. -/
inductive Resolution where
  | routed | ambiguous

def Resolution.run (env : Surroundings) (orderId : UUID) : Resolution → Oms VenueAcknowledgement
  | .routed => reconcileRouted env orderId
  | .ambiguous => reconcileAmbiguous env orderId

/-- **An executed order takes no fill** once it has been resolved: the resolution that returns has
rejected it, and whether it returns or raises, no fill of it that was not known can be recorded. -/
theorem executed_order_unfillable {τ : Type} {adapter : NativeVenueAdapter τ} {order : Order}
    {s : NativeState τ} (hexecuted : ExecutedAt adapter order s) {w w' : OmsWorld}
    (horder : w.manager.orders.get order.artifactId = some order) (hrouted : order.state = .routed)
    {resolution : Resolution} {now : Timestamp} {eventBus : Option (EventEnvelope → Option PyError)}
    {result : Except (Stop PyError) VenueAcknowledgement}
    (hrun : (resolution.run (adapter.surroundings order now eventBus s) order.artifactId).run w
      = (result, w')) :
    (∀ a, result = .ok a →
      w'.manager.orders.get order.artifactId = some (order.withState .rejected)) ∧
    ∀ (env : Surroundings) (fill : Fill) (side : String), fill.orderId = order.artifactId →
      w.manager.fills.get fill.venueFillId = none →
      ∃ e, (recordFill env fill side).run w' = (.error (.raised e), w') := by
  have hresolved : Rejects order.artifactId order w
      (resolution.run (adapter.surroundings order now eventBus s) order.artifactId) := by
    cases resolution with
    | routed => exact reconcileRouted_refused horder hrouted fun a ha => hexecuted.refused ha
    | ambiguous => exact reconcileAmbiguous_refused horder hrouted fun a ha => hexecuted.refused ha
  have hrests : RestsIn order.artifactId .routed .rejected w w' ∧ ∀ a, result = .ok a →
      w'.manager.orders.get order.artifactId = some (order.withState .rejected) := by
    rcases run_of_wp hresolved with ⟨a, w₁, hok, hfills, hrejected⟩ | ⟨e, w₁, herror, hrests⟩
    · rw [hrun] at hok
      cases hok
      exact ⟨⟨hfills, _, hrejected, Or.inr rfl⟩, fun _ _ => hrejected⟩
    · rw [hrun] at herror
      cases herror
      exact ⟨hrests, fun a h => (by cases h)⟩
  refine ⟨hrests.2, ?_⟩
  intro env fill side hfill hnew
  obtain ⟨o, ho, hstate⟩ := hrests.1.order
  have hclosed : o.state ∉ fillableStates := by
    rcases hstate with hstate | hstate
    · rw [hstate]
      decide
    · rw [hstate]
      decide
  rw [← hfill] at ho
  rw [← hrests.1.fills] at hnew
  rcases run_of_wp (recordFill_refused side ho hclosed hnew) with
    ⟨_, _, -, hfalse⟩ | ⟨e, w₁, herror, hsame⟩
  · exact hfalse.elim
  · rw [hsame] at herror
    exact ⟨e, herror⟩

/-! ## A filled order -/

def filledWire : Wire ℕ where
  request request _ _ n := .ok ⟨200, .json (if request.url.path = "/api/v3/order" then
      .map [("orderId", .str "9"), ("clientOrderId", .str "key-1"), ("status", .str "FILLED")]
    else .seq [])⟩ (n + 1)

def filledSettings : BinanceSettings ℕ := ⟨filledWire, tallyVenue, 5000, fun _ => 1⟩

def filledAdapter : NativeVenueAdapter (BinanceSpotTestnetTransport ℕ) where
  venue := "binance"
  strictVenue := false
  transport := BinanceSpotTestnetTransport.native filledSettings
  fetchAccountSnapshot := none
  outside := tallyVenue
  decimalText _ := ""
  parseUuid _ := none
  venue_ne := binance_ne

def filledState : NativeState (BinanceSpotTestnetTransport ℕ) :=
  ⟨tickingTransport, Dict.empty, Dict.empty.set "key-1" 1⟩

theorem filled_unlisted : filledAdapter.Unlisted (paperOrder .routed) filledState.knownOrderIds := by
  have hnone : ∀ symbols t found t', BinanceSpotTestnetTransport.openOrdersOf filledSettings symbols t
      = .ok found t' → found = [] := by
    intro symbols
    induction symbols with
    | nil =>
      intro t found t' h
      cases h
      rfl
    | cons symbol symbols ih =>
      intro t found t' h
      obtain ⟨payload, t₁, hpayload, h₁⟩ := of_bind_ok h
      cases hpayload
      obtain ⟨records, t₂, hrecords, h₂⟩ := of_bind_ok h₁
      cases hrecords
      obtain ⟨first, t₃, hfirst, h₃⟩ := of_bind_ok h₂
      cases hfirst
      obtain ⟨rest, t₄, hrest, h₄⟩ := of_bind_ok h₃
      cases h₄
      rw [ih _ _ _ hrest]
      rfl
  intro t found t' h record hrecord
  have hlisted : BinanceSpotTestnetTransport.listOpenOrders filledSettings t = .ok found t' := h
  unfold BinanceSpotTestnetTransport.listOpenOrders at hlisted
  rw [Local.bind_ok (read_ok _ _)] at hlisted
  obtain ⟨opened, t₁, hopened, hlast⟩ := of_bind_ok hlisted
  cases hlast
  rw [hnone _ _ _ _ hopened] at hrecord
  cases hrecord

theorem filled_executed : ExecutedAt filledAdapter (paperOrder .routed) filledState := by
  refine .binance filledSettings _ _ _ rfl ?_ filled_unlisted
  intro symbol t payload t' record hrequest hrecord
  cases hrequest
  cases hrecord
  decide

/-- The filled order is rejected, and its fill is refused. -/
theorem executed_order_rejected :
    ¬∀ (adapter : NativeVenueAdapter (BinanceSpotTestnetTransport ℕ)) (order : Order)
        (s : NativeState (BinanceSpotTestnetTransport ℕ)) (acts : List OmsAction) (w : OmsWorld)
        (now : Timestamp) (fill : Fill) (side : String),
      ExecutedAt adapter order s → omsRun (.init .native) acts = some w →
      w.manager.orders.get order.artifactId = some order → order.state = .routed →
      fill.orderId = order.artifactId → parseSide side = some order.side →
      fill.quantity.value ≤ order.quantity.value → w.manager.fills.values = [] →
      let w' := ((Resolution.ambiguous.run (adapter.surroundings order now none s)
        order.artifactId).run w).2
      (w'.manager.orders.get order.artifactId).map Order.state ≠ some .rejected ∧
        ((recordFill (.quiet now) fill side).run w').1.isOk = true := by
  intro h
  have hrun : (omsRun (.init .native) paperLost).any (fun w => decide
      (w.manager.orders.get 1 = some (paperOrder .routed) ∧ w.manager.fills.values = [] ∧
        (((Resolution.ambiguous.run (filledAdapter.surroundings (paperOrder .routed) 0 none
          filledState) 1).run w).2.manager.orders.get 1).map Order.state = some .rejected)) = true := by
    decide +kernel
  obtain ⟨w, hw, hfacts⟩ := (Option.any_eq_true _ _).mp hrun
  obtain ⟨horder, hfills, hrejected⟩ := of_decide_eq_true hfacts
  exact (h filledAdapter (paperOrder .routed) filledState paperLost w 0
    (paperFill 11 "v-1" 10 (by decide) paperFillId_normal) "buy" filled_executed hw horder rfl rfl
    (by decide +kernel) (le_refl _) hfills).1 hrejected

/-- The same order, with the fill that cannot be recorded. -/
theorem executed_order_unfillable_paper : ∃ w result w',
    omsRun (.init .native) paperLost = some w ∧
    (Resolution.ambiguous.run (filledAdapter.surroundings (paperOrder .routed) 0 none filledState)
      1).run w = (result, w') ∧
    (∀ a, result = .ok a → w'.manager.orders.get 1 = some ((paperOrder .routed).withState .rejected)) ∧
    ∃ e, (recordFill (.quiet 0) (paperFill 11 "v-1" 10 (by decide) paperFillId_normal) "buy").run w'
      = (.error (.raised e), w') := by
  have hrun : (omsRun (.init .native) paperLost).any (fun w => decide
      (w.manager.orders.get 1 = some (paperOrder .routed) ∧
        w.manager.fills.get "v-1" = none)) = true := by
    decide +kernel
  obtain ⟨w, hw, hfacts⟩ := (Option.any_eq_true _ _).mp hrun
  obtain ⟨horder, hnew⟩ := of_decide_eq_true hfacts
  rcases hresolved : (Resolution.ambiguous.run
    (filledAdapter.surroundings (paperOrder .routed) 0 none filledState) 1).run w with ⟨result, w'⟩
  obtain ⟨hrejected, hrefused⟩ := executed_order_unfillable filled_executed horder rfl hresolved
  exact ⟨w, result, w', hw, hresolved, hrejected, hrefused _ _ _ rfl hnew⟩

end AdvisorAI
