import AdvisorAI.Execution.Reconciliation
import AdvisorAI.Integrations.VenueTransport

/-!
# The native adapter

`NativeVenueAdapter` stands between the order manager and a transport: it turns
an order into a payload, and the records of the transport into acknowledgements
of local orders. It remembers which client order id belongs to which order, and
the last list of open orders.

The adapter only resolves identities that are explicitly local. A record of the
venue that names none is an error, also where it is about an order of nobody
here.
-/

namespace AdvisorAI

open Lib

/-- What `except VenueTransportError` of a caller sees of a failure. -/
def VenueFailure.raised : VenueFailure → PyError
  | .venue message _ => ⟨"VenueTransportError", message⟩
  | .other e => e

/-- The adapter as it is configured, with its transport. A transport may come
without account snapshots. -/
structure NativeVenueAdapter (τ : Type) where
  venue : String
  strictVenue : Bool
  transport : NativeTransport τ
  fetchAccountSnapshot : Option (EStateM VenueFailure τ (VenueAccountSnapshot ℚ))
  outside : VenueOutside
  /-- `str(decimal)`. -/
  decimalText : Decimal → String
  /-- `UUID(str(value))`, when it is one. -/
  parseUuid : PyValue → Option UUID
  venue_ne : isBlank venue = false

/-- What the adapter remembers, and its transport. -/
structure NativeState (τ : Type) where
  transport : τ
  acknowledgements : Dict UUID VenueAcknowledgement
  knownOrderIds : Dict String UUID

def NativeState.init {τ : Type} (transport : τ) : NativeState τ := ⟨transport, Dict.empty, Dict.empty⟩

abbrev Native (τ : Type) := EStateM VenueFailure (NativeState τ)

def projectionError (message : String) : VenueFailure :=
  .other ⟨"NativeVenueProjectionError", message⟩

def adapterError (message : String) : VenueFailure := .other ⟨"RuntimeError", message⟩

namespace NativeVenueAdapter

variable {τ : Type} (adapter : NativeVenueAdapter τ)

def onTransport {α : Type} (x : EStateM VenueFailure τ α) : Native τ α :=
  onClient NativeState.transport (fun transport s => { s with transport := transport }) x

theorem onTransport_ok {α : Type} {x : EStateM VenueFailure τ α} {s s' : NativeState τ} {a : α}
    (h : onTransport x s = .ok a s') :
    x s.transport = .ok a s'.transport ∧ s'.acknowledgements = s.acknowledgements ∧
      s'.knownOrderIds = s.knownOrderIds := by
  unfold onTransport onClient at h
  cases hrun : x s.transport with
  | ok b t =>
    rw [hrun] at h
    cases h
    exact ⟨rfl, rfl, rfl⟩
  | error e t =>
    rw [hrun] at h
    cases h

theorem onTransport_error {α : Type} {x : EStateM VenueFailure τ α} {s : NativeState τ} {t : τ}
    {e : VenueFailure} (h : x s.transport = .error e t) :
    onTransport x s = .error e { s with transport := t } := by
  unfold onTransport onClient
  rw [h]

/-! ## Orders -/

def bindOrder (order : Order) : Native τ Unit :=
  Local.assign fun s =>
    match AdvisorAI.bindOrder (some s.knownOrderIds) order with
    | .ok known => .ok { s with knownOrderIds := known.getD s.knownOrderIds }
    | .error e => .error (.other e)

variable (order : Order)

theorem bindOrder_keeps : Local.Keeps NativeState.transport (bindOrder order : Native τ Unit) := by
  intro s
  unfold bindOrder Local.after Local.assign
  dsimp only
  cases AdvisorAI.bindOrder (some s.knownOrderIds) order with
  | ok known => rfl
  | error e => rfl

def payloadOf : VenueRecord :=
  [("client_order_id", .str order.idempotencyKey), ("order_id", .str (uuidText order.artifactId)),
    ("symbol", .str ((order.instrument.venueSymbol.filter fun s => s ≠ "").getD
      order.instrument.canonicalId)),
    ("side", .str order.side.value), ("quantity", .str (adapter.decimalText order.quantity)),
    ("order_type", .str order.orderType),
    ("price", (order.price.map fun price => PyValue.str (adapter.decimalText price)).getD .none),
    ("time_in_force", .str order.timeInForce)]

/-- The acknowledgement in the transport's answer to an order. -/
def submitted (response : PyValue) : Except VenueFailure VenueAcknowledgement :=
  match mappingEntries response with
  | none => .error (adapterError "native venue returned a non-mapping acknowledgement")
  | some entries =>
    let venueOrderId := adapter.outside.word entries ["venue_order_id"] ""
    if h : isBlank venueOrderId = false then
      match lookupEntry "accepted" entries with
      | some (.bool accepted) => .ok ⟨order.artifactId, venueOrderId, accepted, h⟩
      | _ => .error (adapterError "native venue rejected order")
    else .error (adapterError "native venue rejected order")

def acknowledge (acknowledgement : VenueAcknowledgement) (s : NativeState τ) : NativeState τ :=
  if acknowledgement.accepted then
    { s with acknowledgements := s.acknowledgements.set acknowledgement.orderId acknowledgement }
  else s

def submit : Native τ VenueAcknowledgement := do
  if adapter.strictVenue && order.instrument.venue.any (fun venue => venue ≠ adapter.venue) then
    Local.raise (.other (valueError ("order instrument venue "
      ++ pyRepr (order.instrument.venue.getD "") ++ " does not match native venue")))
  else do
    bindOrder order
    let response ← onTransport (adapter.transport.submitOrder (adapter.payloadOf order))
    let acknowledgement ← Local.lift (adapter.submitted order response)
    Local.modify (acknowledge acknowledgement)
    pure acknowledgement

def reconcile : Native τ (Option PyValue) :=
  onTransport (adapter.transport.queryOrder order.idempotencyKey)

/-! ## Open orders -/

/-- A value that is there and is not `None`. -/
def given (record : VenueRecord) (key : String) : Option PyValue :=
  (lookupEntry key record).filter fun value => !value.same .none

/-- The keys that a record may give a local identity under. Only what stands under
the last of them may be something else. -/
def localIdKeys : List String := ["local_order_id", "local_order_uuid", "order_id"]

/-- The keys that a client order id may stand under. -/
def clientIdKeys : List String := ["client_order_id", "clientOrderId", "clordid"]

/-- The first loop of `_resolve_local_order_id`. -/
def explicitOrderId (record : VenueRecord) : List String → Except VenueFailure (Option UUID)
  | [] => .ok none
  | key :: keys =>
    match given record key with
    | none => explicitOrderId record keys
    | some raw =>
      match adapter.parseUuid raw with
      | some orderId => .ok (some orderId)
      | none =>
        if key ≠ "order_id" then .error (projectionError
          "venue open-order projection contains an invalid local order identity")
        else explicitOrderId record keys

variable (known : Dict String UUID) (record : VenueRecord)

def resolveLocalOrderId :
    Except VenueFailure UUID := do
  match ← adapter.explicitOrderId record localIdKeys with
  | some orderId => .ok orderId
  | none =>
    match clientIdKeys.findSome? (given record) with
    | none => .error (projectionError
        "venue open-order projection contains an unknown local order identity")
    | some raw =>
      match known.get (strip (adapter.outside.str raw)) with
      | some orderId => .ok orderId
      | none => .error (projectionError
          "venue open-order projection references an unknown client order")

/-- Whether a record of an open order says that it is accepted. -/
def openAccepted : Except VenueFailure Bool :=
  match lookupEntry "accepted" record with
  | none => .ok true
  | some (.bool accepted) => .ok accepted
  | some _ => .error (projectionError
      "venue open-order projection has a non-boolean acceptance state")

/-- The acknowledgement in a record of an open order. -/
def openAcknowledgement :
    Except VenueFailure VenueAcknowledgement := do
  let orderId ← adapter.resolveLocalOrderId known record
  let venueOrderId := adapter.outside.word record ["venue_order_id", "id", "orderId"] ""
  if h : isBlank venueOrderId = false then do
    let accepted ← openAccepted record
    .ok ⟨orderId, venueOrderId, accepted, h⟩
  else .error (projectionError
    "venue open-order projection is missing a venue order identity")

/-- An acknowledgement says what an earlier one of that order said. -/
def agrees (prior : Option VenueAcknowledgement) (acknowledgement : VenueAcknowledgement) : Bool :=
  prior.all fun prior => prior.venueOrderId = acknowledgement.venueOrderId &&
    prior.accepted = acknowledgement.accepted

/-- One round of the loop of `open_orders`. -/
def openStep (earlier current : Dict UUID VenueAcknowledgement) (record : VenueRecord) :
    Except VenueFailure (Dict UUID VenueAcknowledgement) := do
  let acknowledgement ← adapter.openAcknowledgement known record
  let prior := (current.get acknowledgement.orderId).or (earlier.get acknowledgement.orderId)
  if agrees prior acknowledgement then
    .ok (current.set acknowledgement.orderId acknowledgement)
  else .error (projectionError
    "venue open-order projection conflicts with a prior acknowledgement")

def openOrders : Native τ (List VenueAcknowledgement) := do
  let records ← onTransport adapter.transport.listOpenOrders
  let current ← Local.lift (records.foldlM
    (adapter.openStep (← Local.read NativeState.knownOrderIds)
      (← Local.read NativeState.acknowledgements)) Dict.empty)
  -- an order that is no longer listed is forgotten
  Local.modify fun s => { s with acknowledgements := current }
  pure current.values

/-! ## The account -/

def accountSnapshot : Native τ (VenueAccountSnapshot ℚ) :=
  match adapter.fetchAccountSnapshot with
  | none => Local.raise (adapterError "native venue transport does not expose account snapshots")
  | some fetch => onTransport fetch

end NativeVenueAdapter

end AdvisorAI
