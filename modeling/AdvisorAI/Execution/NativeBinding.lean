import AdvisorAI.Execution.Native
import AdvisorAI.Execution.OmsRuns
import AdvisorAI.Integrations.Freshness
import AdvisorAI.Lib.Checks

/-!
# Orders that were bound

A list of open orders is read record by record. A client order id is looked up among the orders
that were bound; an identity that a record spells out is taken as it stands, bound or not, and the
client order id beside it is not looked at. `open_orders_bound_iff` says which lists of records
name bound orders only, after every run of the adapter.
-/

namespace AdvisorAI

open Lib Local
open List hiding after

namespace NativeVenueAdapter

variable {τ : Type} {adapter : NativeVenueAdapter τ} {known : Dict String UUID}
  {earlier current current' : Dict UUID VenueAcknowledgement} {record : VenueRecord}
  {records : List VenueRecord}

/-! ## One list -/

theorem openStep_ok (h : adapter.openStep known earlier current record = .ok current') :
    ∃ a, adapter.openAcknowledgement known record = .ok a ∧ current' = current.set a.orderId a ∧
      agrees ((current.get a.orderId).or (earlier.get a.orderId)) a = true := by
  obtain ⟨a, ha, h⟩ := bind_ok_iff.mp h
  dsimp only at h
  split at h
  · next hagrees => exact ⟨a, ha, (Except.ok.inj h).symm, hagrees⟩
  · cases h

/-- What a list has been read into: the acknowledgements of its records. -/
structure ReadInto (adapter : NativeVenueAdapter τ) (known : Dict String UUID)
    (records : List VenueRecord) (current : Dict UUID VenueAcknowledgement) : Prop where
  made : ∀ id a, current.get id = some a →
    a.orderId = id ∧ ∃ record ∈ records, adapter.openAcknowledgement known record = .ok a
  kept : ∀ record ∈ records, ∃ a, adapter.openAcknowledgement known record = .ok a ∧
    current.get a.orderId = some a

theorem readInto_foldlM (h : records.foldlM (adapter.openStep known earlier) Dict.empty
    = .ok current) : ReadInto adapter known records current := by
  induction records using List.reverseRecOn generalizing current with
  | nil =>
    cases h
    exact ⟨fun _ _ h => (by cases h), fun _ h => absurd h not_mem_nil⟩
  | append_singleton records record ih =>
    obtain ⟨before, hbefore, hstep⟩ := foldlM_concat_ok.mp h
    obtain ⟨hmade, hkept⟩ := ih hbefore
    obtain ⟨a, ha, rfl, hagrees⟩ := openStep_ok hstep
    refine ⟨?_, ?_⟩
    · intro id b hb
      rw [Dict.get_set] at hb
      split at hb
      · next hid =>
        cases hb
        exact ⟨hid.symm, record, mem_append_right _ mem_cons_self, ha⟩
      · obtain ⟨hid, record', hmem, hmakes⟩ := hmade id b hb
        exact ⟨hid, record', mem_append_left _ hmem, hmakes⟩
    · refine forall_mem_append.mpr ⟨?_, forall_mem_singleton.mpr ⟨a, ha, Dict.get_set_self ..⟩⟩
      intro record' hmem
      obtain ⟨b, hb, hget⟩ := hkept record' hmem
      refine ⟨b, hb, ?_⟩
      rw [Dict.get_set]
      split
      · next hid =>
        rw [← hid, hget] at hagrees
        obtain ⟨hvenue, haccepted⟩ := Bool.and_eq_true_iff.mp hagrees
        exact congrArg some (VenueAcknowledgement.ext hid.symm (of_decide_eq_true hvenue).symm
          (of_decide_eq_true haccepted).symm)
      · exact hget

theorem openAcknowledgement_resolved {a : VenueAcknowledgement}
    (h : adapter.openAcknowledgement known record = .ok a) :
    adapter.resolveLocalOrderId known record = .ok a.orderId := by
  obtain ⟨resolved, hresolved, hrest⟩ := bind_ok_iff.mp h
  dsimp only at hrest
  split at hrest
  · obtain ⟨accepted, -, hmade⟩ := bind_ok_iff.mp hrest
    cases hmade
    exact hresolved
  · cases hrest

/-- The client order id that a record carries. -/
def clientOrderId (adapter : NativeVenueAdapter τ) (record : VenueRecord) : Option String :=
  (clientIdKeys.findSome? (given record)).map fun raw => strip (adapter.outside.str raw)

/-- The id is that of an order that was bound, under the client order id of the record. -/
def NamesBound (adapter : NativeVenueAdapter τ) (bound : List Order) (record : VenueRecord)
    (orderId : UUID) : Prop :=
  ∃ order ∈ bound, order.artifactId = orderId ∧
    ∀ key ∈ adapter.clientOrderId record, order.idempotencyKey = key

/-- What is known are the orders that were bound. -/
def Knows (bound : List Order) (known : Dict String UUID) : Prop :=
  ∀ key id, known.get key = some id →
    ∃ order ∈ bound, order.artifactId = id ∧ order.idempotencyKey = key

variable {bound : List Order}

/-- Only an identity that is spelled out can be that of an order that was not bound. -/
theorem namesBound_iff (hknows : Knows bound known) {a : VenueAcknowledgement}
    (h : adapter.openAcknowledgement known record = .ok a) :
    adapter.NamesBound bound record a.orderId ↔
      ∀ id, adapter.explicitOrderId record localIdKeys = .ok (some id) →
        adapter.NamesBound bound record id := by
  obtain ⟨explicit, hexplicit, hrest⟩ := bind_ok_iff.mp (openAcknowledgement_resolved h)
  rw [hexplicit]
  cases explicit with
  | some id =>
    cases hrest
    exact ⟨fun hnames id hid => (by cases hid; exact hnames), fun hall => hall _ rfl⟩
  | none =>
    refine ⟨fun _ _ hid => (by cases hid), fun _ => ?_⟩
    dsimp only at hrest
    split at hrest
    · cases hrest
    next raw hraw =>
    split at hrest
    · next id hid =>
      cases hrest
      obtain ⟨order, horder, hartifact, hkey⟩ := hknows _ _ hid
      refine ⟨order, horder, hartifact, ?_⟩
      unfold clientOrderId
      rw [hraw]
      intro key hcarried
      rw [hkey, ← Option.some.inj hcarried]
    · cases hrest

/-! ## Calls -/

inductive NativeCall where
  | bindOrder (order : Order)
  | submit (order : Order)
  | openOrders

/-- Whether a call returns, and the state it leaves. -/
def outcomeOf {α : Type} (x : Native τ α) (s : NativeState τ) : Bool × NativeState τ :=
  match x s with
  | .ok _ s' => (true, s')
  | .error _ s' => (false, s')

variable (adapter)

def outcome (s : NativeState τ) : NativeCall → Bool × NativeState τ
  | .bindOrder order => outcomeOf (bindOrder order) s
  | .submit order => outcomeOf (adapter.submit order) s
  | .openOrders => outcomeOf adapter.openOrders s

def foreignVenue (order : Order) : Bool :=
  adapter.strictVenue && order.instrument.venue.any fun venue => venue ≠ adapter.venue

/-- The orders that a call binds. -/
def binds (s : NativeState τ) : NativeCall → List Order
  | .bindOrder order => if (outcomeOf (bindOrder order) s).1 then [order] else []
  | .submit order =>
    if adapter.foreignVenue order then []
    else if (outcomeOf (bindOrder order) s).1 then [order] else []
  | .openOrders => []

variable {adapter} {α β : Type} {x : Native τ α} {f : α → Native τ β} {s : NativeState τ}
  {γ : Type} {p : NativeState τ → γ}

theorem outcomeOf_keeps (hx : Keeps p x) : p (outcomeOf x s).2 = p s := by
  rw [← hx s]
  unfold outcomeOf Local.after
  cases x s <;> rfl

/-- What the rest keeps is as the first part leaves it. -/
theorem outcomeOf_bind (hf : ∀ a, Keeps p (f a)) :
    p (outcomeOf (x >>= f) s).2 = p (outcomeOf x s).2 := by
  cases hrun : x s with
  | ok a s' =>
    have hrest := outcomeOf_keeps (hf a) (s := s')
    unfold outcomeOf at hrest ⊢
    rw [Local.bind_ok hrun, hrun]
    exact hrest
  | error e s' =>
    unfold outcomeOf
    rw [bind_error hrun, hrun]

/-- A call that raises before it assigns a part of the state leaves it as it was. -/
theorem raised_bind (hx : Keeps p x)
    (hf : ∀ a s, (outcomeOf (f a) s).1 = false → p (outcomeOf (f a) s).2 = p s)
    (h : (outcomeOf (x >>= f) s).1 = false) : p (outcomeOf (x >>= f) s).2 = p s := by
  have hfirst := outcomeOf_keeps hx (s := s)
  unfold outcomeOf at h hfirst ⊢
  cases hrun : x s with
  | ok a s' =>
    rw [hrun] at hfirst
    rw [Local.bind_ok hrun] at h ⊢
    exact (hf a s' h).trans hfirst
  | error e s' =>
    rw [hrun] at hfirst
    rwa [bind_error hrun]

theorem keeps_onTransport {y : EStateM VenueFailure τ α}
    (hp : ∀ s transport, p { s with transport } = p s) : Keeps p (onTransport y) := by
  intro s
  unfold onTransport onClient Local.after
  dsimp only
  cases y s.transport <;> exact hp s _

theorem bindOrder_acknowledgements (order : Order) :
    Keeps NativeState.acknowledgements (bindOrder order : Native τ Unit) := by
  intro s
  unfold bindOrder Local.after assign
  dsimp only
  cases AdvisorAI.bindOrder (some s.knownOrderIds) order <;> rfl

theorem raised_call (call : NativeCall) (h : (outcome adapter s call).1 = false) :
    (outcome adapter s call).2.acknowledgements = s.acknowledgements := by
  have hsent : ∀ {α : Type} (y : EStateM VenueFailure τ α),
      Keeps NativeState.acknowledgements (onTransport y) :=
    fun y => keeps_onTransport fun _ _ => rfl
  cases call with
  | bindOrder order => exact outcomeOf_keeps (bindOrder_acknowledgements order)
  | submit order =>
    show (outcomeOf (adapter.submit order) s).2.acknowledgements = _
    change (outcomeOf (adapter.submit order) s).1 = false at h
    unfold submit at h ⊢
    split at h
    · next hforeign =>
      rw [if_pos hforeign]
      rfl
    · next hforeign =>
      rw [if_neg hforeign]
      refine raised_bind (bindOrder_acknowledgements order) (fun _ s h => ?_) h
      refine raised_bind (hsent _) (fun response s h => ?_) h
      exact raised_bind (.lift _) (fun _ _ h => (by cases h)) h
  | openOrders =>
    refine raised_bind (hsent _) (fun records s h => ?_) h
    refine raised_bind (.read _) (fun _ s h => ?_) h
    refine raised_bind (.read _) (fun _ s h => ?_) h
    exact raised_bind (.lift _) (fun _ _ h => (by cases h)) h

/-! ## Runs -/

theorem Knows.bindOrder (hknows : Knows bound s.knownOrderIds) (order : Order) :
    Knows (bound ++ if (outcomeOf (bindOrder order) s).1 then [order] else [])
      (outcomeOf (NativeVenueAdapter.bindOrder order) s).2.knownOrderIds := by
  have hrun : outcomeOf (NativeVenueAdapter.bindOrder order) s =
      if s.knownOrderIds.get order.idempotencyKey = none ∨
        s.knownOrderIds.get order.idempotencyKey = some order.artifactId then
        (true, { s with knownOrderIds :=
          s.knownOrderIds.set order.idempotencyKey order.artifactId })
      else (false, s) := by
    unfold outcomeOf NativeVenueAdapter.bindOrder assign AdvisorAI.bindOrder
    dsimp only
    split_ifs <;> rfl
  rw [hrun]
  split
  · intro key id hget
    rw [Dict.get_set] at hget
    split at hget
    · next hkey =>
      cases hget
      exact ⟨order, mem_append_right _ mem_cons_self, rfl, hkey.symm⟩
    · obtain ⟨known, hmem, hnamed⟩ := hknows key id hget
      exact ⟨known, mem_append_left _ hmem, hnamed⟩
  · show Knows (bound ++ []) _
    rwa [append_nil]

theorem Knows.call (hknows : Knows bound s.knownOrderIds) (call : NativeCall) :
    Knows (bound ++ binds adapter s call) (outcome adapter s call).2.knownOrderIds := by
  have hsent : ∀ {α : Type} (y : EStateM VenueFailure τ α),
      Keeps NativeState.knownOrderIds (onTransport y) :=
    fun y => keeps_onTransport fun _ _ => rfl
  cases call with
  | bindOrder order => exact hknows.bindOrder order
  | submit order =>
    unfold binds outcome submit foreignVenue
    dsimp only
    split
    · exact (append_nil bound).symm ▸ hknows
    · rw [outcomeOf_bind (p := NativeState.knownOrderIds) fun _ => .bind (hsent _) fun _ =>
        .bind (.lift _) fun a => .bind (.modify fun s => by unfold acknowledge; split <;> rfl)
          fun _ => .pure _]
      exact hknows.bindOrder order
  | openOrders =>
    have hkept : (outcome adapter s .openOrders).2.knownOrderIds = s.knownOrderIds :=
      outcomeOf_keeps (.bind (hsent _) fun _ => .bind (.read _) fun _ => .bind (.read _) fun _ =>
        .bind (.lift _) fun _ => .bind (.modify fun _ => rfl) fun _ => .pure _)
    rw [hkept]
    exact (append_nil bound).symm ▸ hknows

structure NativeRun (τ : Type) where
  state : NativeState τ
  bound : List Order

def perform (adapter : NativeVenueAdapter τ) (r : NativeRun τ) (call : NativeCall) :
    NativeRun τ :=
  ⟨(outcome adapter r.state call).2, r.bound ++ binds adapter r.state call⟩

/-- The state after some calls, and the orders they bound. -/
def performAll (adapter : NativeVenueAdapter τ) (transport : τ) (calls : List NativeCall) :
    NativeRun τ :=
  calls.foldl (perform adapter) ⟨.init transport, []⟩

theorem knows_performAll (transport : τ) (calls : List NativeCall) :
    Knows (performAll adapter transport calls).bound
      (performAll adapter transport calls).state.knownOrderIds := by
  induction calls using List.reverseRecOn with
  | nil => exact fun _ _ h => (by cases h)
  | append_singleton calls call ih =>
    unfold performAll
    rw [foldl_append]
    exact ih.call call

theorem openOrders_ok {t : τ} {acknowledgements : List VenueAcknowledgement} {s' : NativeState τ}
    (hlisted : adapter.transport.listOpenOrders s.transport = .ok records t)
    (h : adapter.openOrders s = .ok acknowledgements s') :
    ∃ current, ReadInto adapter s.knownOrderIds records current ∧
      acknowledgements = current.values := by
  obtain ⟨found, s₁, hfound, h₁⟩ := of_bind_ok h
  rw [Local.bind_ok (read_ok _ _), Local.bind_ok (read_ok _ _)] at h₁
  obtain ⟨current, s₂, hfold, h₂⟩ := of_bind_ok h₁
  obtain ⟨hrun, -, hknown⟩ := onTransport_ok hfound
  rw [hlisted] at hrun
  cases hrun
  rw [hknown] at hfold
  refine ⟨current, ?_, ?_⟩
  · cases hread : records.foldlM (adapter.openStep s.knownOrderIds s₁.acknowledgements) Dict.empty with
    | error e =>
      rw [hread] at hfold
      cases hfold
    | ok made =>
      rw [hread] at hfold
      cases hfold
      exact readInto_foldlM hread
  · cases h₂
    rfl

/-- **The open orders name bound orders**, after every run: each is that of a record, and all of
them were bound, under the client order ids that their records carry, exactly when this holds of
the identities that the records spell out. A call that raises leaves the acknowledgements as they
were. -/
theorem open_orders_bound_iff (adapter : NativeVenueAdapter τ) (transport : τ)
    (calls : List NativeCall) {r : NativeRun τ} (hrun : performAll adapter transport calls = r) :
    (∀ call, (outcome adapter r.state call).1 = false →
      (outcome adapter r.state call).2.acknowledgements = r.state.acknowledgements) ∧
    ∀ records t acknowledgements s',
      adapter.transport.listOpenOrders r.state.transport = .ok records t →
      adapter.openOrders r.state = .ok acknowledgements s' →
      (∀ a ∈ acknowledgements, ∃ record ∈ records,
        adapter.openAcknowledgement r.state.knownOrderIds record = .ok a) ∧
      ((∀ a ∈ acknowledgements, ∀ record ∈ records,
          adapter.openAcknowledgement r.state.knownOrderIds record = .ok a →
            adapter.NamesBound r.bound record a.orderId) ↔
        ∀ record ∈ records, ∀ id, adapter.explicitOrderId record localIdKeys = .ok (some id) →
          adapter.NamesBound r.bound record id) := by
  have hknows : Knows r.bound r.state.knownOrderIds := hrun ▸ knows_performAll transport calls
  refine ⟨raised_call, ?_⟩
  intro records t acknowledgements s' hlisted hopen
  obtain ⟨current, hread, rfl⟩ := openOrders_ok hlisted hopen
  refine ⟨?_, ?_, ?_⟩
  · intro a ha
    obtain ⟨id, hid⟩ := Dict.mem_values_iff.mp ha
    exact (hread.made id a hid).2
  · intro hall record hmem
    obtain ⟨a, ha, hget⟩ := hread.kept record hmem
    exact (namesBound_iff hknows ha).mp
      (hall a (Dict.mem_values_iff.mpr ⟨_, hget⟩) record hmem ha)
  · intro hall a _ record hmem ha
    exact (namesBound_iff hknows ha).mpr (hall record hmem)

/-- A venue that lists one open order. -/
def listingAdapter (record : VenueRecord) : NativeVenueAdapter Unit where
  venue := "binance"
  strictVenue := false
  transport := ⟨fun _ => pure .none, fun _ => pure none, pure [record], fun _ => pure .none⟩
  fetchAccountSnapshot := none
  outside := tallyVenue
  decimalText _ := ""
  parseUuid value := if tallyVenue.str value = uuidText 5 then some 5 else none
  venue_ne := binance_ne

theorem nine_ne : isBlank "9" = false := by decide

theorem listed_client_bound :
    (listingAdapter [("client_order_id", .str "key-1"), ("id", .str "9")]).NamesBound
      [paperOrder .routed] [("client_order_id", .str "key-1"), ("id", .str "9")] 1 :=
  ((open_orders_bound_iff _ () [.bindOrder (paperOrder .routed)] rfl).2 _ ()
    [⟨1, "9", true, nine_ne⟩] _ rfl rfl).2.mpr
      (forall_mem_singleton.mpr fun _ h => (by cases h)) _ mem_cons_self _ mem_cons_self rfl

/-- A record under the client order id of the bound order that spells out another identity. -/
def foreignRecord : VenueRecord :=
  [("client_order_id", .str "key-1"), ("order_id", .str (uuidText 5)), ("id", .str "9")]

theorem foreign_identity_listed :
    ¬ ∀ (τ : Type) (adapter : NativeVenueAdapter τ) (transport : τ) (calls : List NativeCall)
      (records : List VenueRecord) (t : τ) (acknowledgements : List VenueAcknowledgement)
      (s' : NativeState τ),
      adapter.transport.listOpenOrders (performAll adapter transport calls).state.transport
        = .ok records t →
      adapter.openOrders (performAll adapter transport calls).state = .ok acknowledgements s' →
      ∀ a ∈ acknowledgements, ∃ order ∈ (performAll adapter transport calls).bound,
        order.artifactId = a.orderId := by
  intro h
  obtain ⟨order, horder, hid⟩ := h Unit (listingAdapter foreignRecord) ()
    [.bindOrder (paperOrder .routed)] [foreignRecord] () [⟨5, "9", true, nine_ne⟩] _ rfl rfl _
    mem_cons_self
  rw [mem_singleton.mp horder] at hid
  exact absurd hid (by decide)

end NativeVenueAdapter
end AdvisorAI
