import AdvisorAI.Contracts.Core
import AdvisorAI.Lib.Dict

/-!
# What the order manager sees of a venue

The venue adapter is a port. What it answers is outside the program, so an
operation of the order manager is given the answers of the venue, and of the
event bus, as `Surroundings`; every operation asks each of them at most once.
The one part of an adapter that is code with a state of its own is
`bind_order`: the native adapter refuses to bind a client order id twice, the
paper adapter has no such method.
-/

namespace AdvisorAI

open Lib

/-- A venue's answer about one order. -/
@[ext]
structure VenueAcknowledgement where
  orderId : UUID
  venueOrderId : String
  accepted : Bool
  venueOrderId_ne : isBlank venueOrderId = false

instance : DecidableEq VenueAcknowledgement := fun _ _ =>
  decidable_of_iff' _ VenueAcknowledgement.ext_iff

/-- What `adapter.submit` does. -/
inductive SubmitAnswer where
  | acknowledged (acknowledgement : VenueAcknowledgement)
  | ambiguous
  | failed (e : PyError)

/-- A value in a venue's response: `None`, a boolean, or anything else by its text. -/
inductive VenueValue where
  | none
  | bool (b : Bool)
  | text (s : String)
deriving DecidableEq

/-- `str(value)`. -/
def VenueValue.str : VenueValue → String
  | .none => "None"
  | .bool true => "True"
  | .bool false => "False"
  | .text s => s

/-- What `adapter.reconcile` returns: a mapping, or some other object. -/
inductive VenueResponse where
  | mapping (fields : Dict String VenueValue)
  | other

/-- A notification handed to the event bus. -/
structure EventEnvelope where
  eventId : UUID
  eventType : String
  occurredAt : Timestamp
  artifactIds : List UUID
  payloadRef : String
deriving DecidableEq

/-- The clock, the event bus and the venue during one operation. An `Option`
around a method says whether the adapter has it. -/
structure Surroundings where
  now : Timestamp
  eventBus : Option (EventEnvelope → Option PyError)
  submit : SubmitAnswer
  reconcile : Option (Except PyError (Option VenueResponse))
  openOrders : Except PyError (List VenueAcknowledgement)
  cancel : Option (Except PyError (Option Bool))

def Surroundings.quiet (now : Timestamp) : Surroundings where
  now := now
  eventBus := none
  submit := .ambiguous
  reconcile := none
  openOrders := .ok []
  cancel := none

/-- `getattr(adapter, "bind_order", None)`, called when there is one. `none` is
an adapter without the method; `some` holds the native adapter's bindings. -/
def bindOrder (knownOrderIds : Option (Dict String UUID)) (order : Order) :
    Except PyError (Option (Dict String UUID)) :=
  match knownOrderIds with
  | none => .ok none
  | some ids =>
    if ids.get order.idempotencyKey = none ∨
        ids.get order.idempotencyKey = some order.artifactId then
      .ok (some (ids.set order.idempotencyKey order.artifactId))
    else .error ⟨"NativeVenueProjectionError",
      "venue idempotency key is already bound to a different local order"⟩

/-! ## The answer to an order query -/

def orderStateError (message : String) : PyError := ⟨"OrderStateError", message⟩

/-- The spellings under which a response may carry the client order id. -/
def clientOrderIdKeys : List String :=
  ["client_order_id", "clientOrderId", "clordid", "origClientOrderId"]

def rejectedStates : List String := ["rejected", "reject", "cancelled", "canceled", "expired"]

def acceptedStates : List String :=
  ["accepted", "acknowledged", "open", "partially_filled", "partial", "filled"]

variable (fields : Dict String VenueValue)

/-- A client order id that is present must be the order's own. -/
def namesOtherOrder (order : Order) (key : String) : Bool :=
  match fields.get key with
  | none => false
  | some .none => false
  | some value => strip value.str ≠ order.idempotencyKey

/-- `response.get("accepted")`, else the word under `state` or `status`. -/
def responseAccepted : Except PyError Bool :=
  match fields.get "accepted" with
  | some (.bool accepted) => .ok accepted
  | _ =>
    let word := lower (strip
      (fields.getD "state" (fields.getD "status" (.text ""))).str)
    if word ∈ rejectedStates then .ok false
    else if word ∈ acceptedStates then .ok true
    else .error (orderStateError "venue order query has no admitted order state")

/-- The acknowledgement a response to an order query amounts to. -/
def acknowledgementOf (orderId : UUID) (order : Order) :
    VenueResponse → Except PyError VenueAcknowledgement
  | .other => .error (orderStateError "venue order query returned a non-object response")
  | .mapping fields =>
    if clientOrderIdKeys.any (namesOtherOrder fields order) then
      .error (orderStateError "venue order query references a different client order")
    else
      let venueOrderId := strip (fields.getD "venue_order_id"
        (fields.getD "id" (fields.getD "orderId" (.text "")))).str
      if h : isBlank venueOrderId = false then
        match responseAccepted fields with
        | .ok accepted => .ok ⟨orderId, venueOrderId, accepted, h⟩
        | .error e => .error e
      else .error (orderStateError "venue order query is missing a venue order identity")

end AdvisorAI
