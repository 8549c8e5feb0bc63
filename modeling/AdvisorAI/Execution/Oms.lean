import AdvisorAI.Execution.Venue
import AdvisorAI.Ledger.Sqlite
import AdvisorAI.Lib.Journal
import AdvisorAI.Lib.Prog

/-!
# The order manager

`OrderManager` keeps its orders, fills and ambiguous acknowledgements in memory
and every change of an order in the ORDER ledger. The operations below follow
the Python methods statement by statement, as programs over the world they
touch: the ledger, the memory, the venue and the event bus. Each ledger append,
memory update, venue call and publication is one atomic step, so a crash point
lies between any two of them.

`hydrate` is the constructor: it folds the ledger's events into a
fresh memory and fails on the first event it cannot place.
-/

namespace AdvisorAI

open Lib

/-! ## The ORDER ledger -/

inductive OrderEventType where
  | order (state : OrderState)
  | orderAckAmbiguous
  | fillRecorded
  | reconciliationRecorded
deriving DecidableEq

def OrderEventType.name : OrderEventType → String
  | .order state => "order_" ++ state.value
  | .orderAckAmbiguous => "order_ack_ambiguous"
  | .fillRecorded => "fill_recorded"
  | .reconciliationRecorded => "reconciliation_recorded"

/-- The outcome of one reconciliation run, as the service records it. -/
@[ext]
structure Reconciliation where
  artifactId : UUID
  createdAt : Timestamp
  asOf : Timestamp
  accountStateHash : Digest
  orderIds : List UUID
  fillIds : List UUID
  reconciled : Bool
  discrepancies : List String
  orderIds_nodup : orderIds.Nodup
  fillIds_nodup : fillIds.Nodup
  reconciled_iff : reconciled = true ↔ discrepancies = []

instance : DecidableEq Reconciliation := fun _ _ =>
  decidable_of_iff' _ Reconciliation.ext_iff

/-- The `artifact` of an event of the ORDER namespace. -/
inductive OrderArtifact where
  | order (order : Order)
  | fill (fill : Fill)
  | reconciliation (reconciliation : Reconciliation)
deriving DecidableEq

abbrev OrderEvent := LedgerEvent OrderEventType OrderArtifact

/-- `f"order:{idempotency_key}:{event_type}"`. -/
def orderKey (idempotencyKey : String) (eventType : OrderEventType) : String :=
  "order:" ++ idempotencyKey ++ ":" ++ eventType.name

/-- `f"fill:{venue_fill_id}"`. -/
def fillKey (venueFillId : String) : String := "fill:" ++ venueFillId

/-! ## The state machine -/

def allowedTransitions : OrderState → List OrderState
  | .created => [.riskApproved, .rejected, .expired]
  | .riskApproved => [.routed, .rejected, .expired]
  | .routed => [.acknowledged, .rejected, .expired]
  | .acknowledged => [.partiallyFilled, .filled, .cancelPending, .expired]
  | .partiallyFilled => [.partiallyFilled, .filled, .cancelPending]
  | .cancelPending => [.cancelled, .partiallyFilled, .filled]
  | .filled => [.reconciled]
  | .cancelled => [.reconciled]
  | .rejected => [.reconciled]
  | .expired => [.reconciled]
  | .reconciled => []

/-- The states in which a new fill is accepted. -/
def fillableStates : List OrderState := [.acknowledged, .partiallyFilled, .cancelPending]

/-- The states `reconcile` closes. -/
def terminalStates : List OrderState := [.filled, .cancelled, .rejected, .expired]

/-! ## The world of an order manager -/

structure OrderManager where
  orders : Dict UUID Order
  fills : Dict String Fill
  ambiguousOrders : Finset UUID

def OrderManager.empty : OrderManager := ⟨Dict.empty, Dict.empty, ∅⟩

/-- One call of `adapter.submit`, with the ledger as it was on disk then. -/
structure Submission where
  order : Order
  ledger : List OrderEvent

/-- The ledger, the adapter's bindings, the manager, what was submitted to the
venue and published on the bus, and the next unused event id. -/
structure OmsWorld where
  orderEvents : List OrderEvent
  knownOrderIds : Option (Dict String UUID)
  manager : OrderManager
  submissions : List Submission
  published : List EventEnvelope
  nextEventId : UUID

inductive Adapter where
  | paper
  | native

def Adapter.bindings : Adapter → Option (Dict String UUID)
  | .paper => none
  | .native => some Dict.empty

def OmsWorld.init (adapter : Adapter) : OmsWorld :=
  ⟨[], adapter.bindings, .empty, [], [], 0⟩

abbrev Oms := Prog OmsWorld PyError

/-! ## Helpers of the operations -/

def failState {α : Type} (message : String) : Oms α := Prog.raise (orderStateError message)

def updateManager (f : OrderManager → OrderManager) : Oms Unit :=
  Prog.atomic fun w => (.ok (), { w with manager := f w.manager })

/-- `_get`. -/
def getOrder (orderId : UUID) : Oms Order := do
  match ← Prog.read fun w => w.manager.orders.get orderId with
  | some order => pure order
  | none => failState ("unknown order " ++ uuidText orderId)

variable (env : Surroundings)

/-- `_record`: append an event for an order or a fill to the ORDER ledger. The
callers all publish it later, themselves. -/
def record (artifact : OrderArtifact) (eventType : OrderEventType) (key : String) :
    Oms OrderEvent :=
  Prog.atomic fun w =>
    let event : OrderEvent := ⟨w.nextEventId, eventType, key, env.now, artifact⟩
    match SqliteLedgers.append w.orderEvents event with
    | (result, events) =>
      (result, { w with orderEvents := events, nextEventId := w.nextEventId + 1 })

def envelopeOf (event : OrderEvent) (eventType : OrderEventType) (artifactId : UUID) :
    EventEnvelope :=
  ⟨event.eventId, eventType.name, event.occurredAt, [artifactId],
    "ledger://order/" ++ uuidText event.eventId⟩

def publishEvent (event : OrderEvent) (eventType : OrderEventType) (artifactId : UUID) : Oms Unit :=
  match env.eventBus with
  | none => pure ()
  | some publish => Prog.atomic fun w =>
    let envelope := envelopeOf event eventType artifactId
    match publish envelope with
    | none => (.ok (), { w with published := w.published ++ [envelope] })
    | some e => (.error e, w)

/-- `_republish_key`: publish the event stored under a key once more. -/
def republishKey (key : String) (eventType : OrderEventType) (artifactId : UUID) : Oms Unit :=
  match env.eventBus with
  | none => pure ()
  | some _ => do
    match ← Prog.read fun w => SqliteLedgers.findKey w.orderEvents key with
    | none => pure ()
    | some event => publishEvent env event eventType artifactId

/-! ## The operations -/

def create (order : Order) : Oms Order := do
  match ← Prog.read fun w => w.manager.orders.get order.artifactId with
  | some existing =>
    if existing.logicalPayload ≠ order.logicalPayload then
      failState "order artifact ID is immutable"
    else do
      republishKey env (orderKey existing.idempotencyKey (.order .created)) (.order .created)
        existing.artifactId
      pure existing
  | none =>
    match ← Prog.read fun w => w.manager.orders.values.find? fun prior =>
        prior.idempotencyKey = order.idempotencyKey with
    | some prior =>
      if prior.logicalPayload ≠ order.logicalPayload then
        failState "idempotency key reused for different order"
      else do
        republishKey env (orderKey order.idempotencyKey (.order .created)) (.order .created)
          prior.artifactId
        pure prior
    | none => do
      let stored ← record env (.order order) (.order .created)
        (orderKey order.idempotencyKey (.order .created))
      Prog.atomic fun w =>
        match bindOrder w.knownOrderIds order with
        | .ok known => (.ok (), { w with knownOrderIds := known })
        | .error e => (.error e, w)
      updateManager fun m => { m with orders := m.orders.set order.artifactId order }
      publishEvent env stored (.order .created) order.artifactId
      pure order

def transition (env : Surroundings) (orderId : UUID) (newState : OrderState) : Oms Order := do
  let order ← getOrder orderId
  if newState = order.state then do
    republishKey env (orderKey order.idempotencyKey (.order newState)) (.order newState)
      order.artifactId
    pure order
  else if newState ∉ allowedTransitions order.state then
    failState ("invalid order transition " ++ order.state.value ++ "->" ++ newState.value)
  else do
    let updated := order.withState newState
    let stored ← record env (.order updated) (.order newState)
      (orderKey updated.idempotencyKey (.order newState))
    updateManager fun m => { m with orders := m.orders.set orderId updated }
    publishEvent env stored (.order newState) updated.artifactId
    pure updated

/-- The kernel's verdict on one order, bound to the state it was reached in. -/
structure OrderRiskCheck where
  approved : Bool
  reasons : List String
  authoritativeStateHash : Option String
  riskPolicyId : Option UUID

/-- The conditions `approve_risk` checks, in its order. -/
def riskApproval (decision : RiskDecision) : Option OrderRiskCheck → Except PyError Unit
  | check =>
    if decision.outcome ≠ .approved then
      .error (orderStateError "OMS cannot risk-approve a rejected or reduced decision")
    else match check with
    | none => .error (orderStateError "OMS requires a deterministic order-level risk check")
    | some check =>
      if check.approved = false then
        .error (orderStateError
          "OMS cannot risk-approve an order rejected by the deterministic risk check")
      else if check.authoritativeStateHash = none then
        .error (orderStateError "order-level risk check must bind authoritative state")
      else if check.riskPolicyId ≠ none ∧ check.riskPolicyId ≠ some decision.riskPolicyId then
        .error (orderStateError "risk decision policy does not match order-level risk check")
      else if check.authoritativeStateHash ≠ some decision.authoritativeStateHash then
        .error (orderStateError "risk decision state hash does not match order-level check")
      else .ok ()

variable (orderId : UUID)

def approveRisk (decision : RiskDecision) (orderCheck : Option OrderRiskCheck) :
    Oms Order := do
  Prog.lift (riskApproval decision orderCheck)
  transition env orderId .riskApproved

/-- The state an answer of the venue puts a routed order in. -/
def answeredState (accepted : Bool) : OrderState :=
  if accepted then .acknowledged else .rejected

def route : Oms (Option VenueAcknowledgement) := do
  if ← Prog.read fun w => decide (orderId ∈ w.manager.ambiguousOrders) then
    failState ("invalid order transition: ambiguous acknowledgement requires venue " ++
      "reconciliation before retry")
  else do
    let current ← getOrder orderId
    if current.state = .routed then
      failState ("invalid order transition: routed order requires venue reconciliation " ++
        "before retry")
    else do
      let order ← transition env orderId .routed
      Prog.atomic fun w => (.ok (), { w with
        submissions := w.submissions ++ [⟨order, w.orderEvents⟩] })
      match env.submit with
      | .failed e => Prog.raise e
      | .ambiguous => do
        updateManager fun m => { m with
          ambiguousOrders := insert order.artifactId m.ambiguousOrders }
        let stored ← record env (.order order) .orderAckAmbiguous
          (orderKey order.idempotencyKey .orderAckAmbiguous)
        publishEvent env stored .orderAckAmbiguous order.artifactId
        pure none
      | .acknowledged acknowledgement =>
        if acknowledgement.orderId ≠ order.artifactId then
          failState "venue acknowledgement references a different order"
        else do
          let _ ← transition env order.artifactId (answeredState acknowledgement.accepted)
          pure (some acknowledgement)

def queryVenueAcknowledgement :
    Oms (Option VenueAcknowledgement) :=
  match env.reconcile with
  | none => pure none
  | some answer => do
    let order ← getOrder orderId
    match ← Prog.lift answer with
    | none => pure none
    | some response => do
      let acknowledgement ← Prog.lift (acknowledgementOf orderId order response)
      pure (some acknowledgement)

/-- The venue's word on an order: its answer to a query, else its open orders. -/
def venueAcknowledgement (noMatch : String) :
    Oms VenueAcknowledgement := do
  match ← queryVenueAcknowledgement env orderId with
  | some acknowledgement => pure acknowledgement
  | none => do
    let openOrders ← Prog.lift env.openOrders
    match openOrders.find? fun item => item.orderId = orderId with
    | some acknowledgement => pure acknowledgement
    | none => failState noMatch

def reconcileAmbiguous : Oms VenueAcknowledgement := do
  if ← Prog.read fun w => decide (orderId ∉ w.manager.ambiguousOrders) then
    failState "order is not awaiting ambiguous acknowledgement reconciliation"
  else do
    let acknowledgement ← venueAcknowledgement env orderId
      "venue has no matching order; operator must investigate before retry"
    let _ ← transition env orderId (answeredState acknowledgement.accepted)
    updateManager fun m => { m with ambiguousOrders := m.ambiguousOrders.erase orderId }
    pure acknowledgement

def reconcileRouted : Oms VenueAcknowledgement := do
  let order ← getOrder orderId
  if order.state ≠ .routed then
    failState "only routed orders require reconnect reconciliation"
  else do
    let acknowledgement ← venueAcknowledgement env orderId "venue has no matching routed order"
    let _ ← transition env orderId (answeredState acknowledgement.accepted)
    pure acknowledgement

def expireUnacknowledged : Oms Order := do
  let order ← getOrder orderId
  if order.state ≠ .routed then
    failState "only routed orders may be expired as unacknowledged"
  else transition env orderId .expired

/-- `side.lower()`, which has to name a side. -/
def parseSide (side : String) : Option Side :=
  if lower side = "buy" then some .buy
  else if lower side = "sell" then some .sell
  else none

variable (fills : Dict String Fill)

/-- The quantity of an order that its fills add up to. -/
def filledQuantity (orderId : UUID) : ℚ :=
  ((fills.values.filter fun item => item.orderId = orderId).map fun item =>
    item.quantity.value).sum

/-- The state the fills of an order put it in. -/
def fillState (filled quantity : ℚ) : OrderState :=
  if filled = quantity then .filled else .partiallyFilled

/-- What `record_fill` checks about the fill before it looks up the order. -/
def fillIdentity (fill : Fill) : Except PyError Unit :=
  if (fills.values.find? fun item => item.artifactId = fill.artifactId).any
      fun existing => existing.logicalPayload ≠ fill.logicalPayload then
    .error (orderStateError "fill artifact ID is immutable")
  else if (fills.get fill.venueFillId).any fun prior =>
      prior.logicalPayload ≠ fill.logicalPayload then
    .error (orderStateError "venue fill ID reused for different fill content")
  else .ok ()

/-- The durable event of a fill: recorded now, or found in the ledger when the fill is known. -/
def durableFill (order : Order) (fill : Fill) (priorFill : Option Fill) :
    Oms OrderEvent :=
  match priorFill with
  | none =>
    if order.state ∉ fillableStates then
      failState ("cannot fill order in state " ++ order.state.value)
    else do
      -- The fill is durable before the projection moves: a worker that dies
      -- here leaves it to hydration and to the retry below.
      let stored ← record env (.fill fill) .fillRecorded (fillKey fill.venueFillId)
      updateManager fun m => { m with fills := m.fills.set fill.venueFillId fill }
      pure stored
  | some _ => do
    match ← Prog.read fun w =>
        SqliteLedgers.findKey w.orderEvents (fillKey fill.venueFillId) with
    | some stored => pure stored
    | none => failState "in-memory fill is missing its durable ledger event"

def recordFill (fill : Fill) (side : String) : Oms Order := do
  match parseSide side with
  | none => failState "fill side must be buy or sell"
  | some side => do
    let fills ← Prog.read fun w => w.manager.fills
    Prog.lift (fillIdentity fills fill)
    let priorFill := fills.get fill.venueFillId
    let order ← getOrder fill.orderId
    if order.side ≠ side then
      failState "fill side does not match the canonical order"
    else do
      let filled := filledQuantity fills order.artifactId
      let effective := if priorFill.isSome then filled else filled + fill.quantity.value
      if effective > order.quantity.value then
        failState "fills exceed order quantity"
      else do
        let newState := fillState effective order.quantity.value
        let stored ← durableFill env order fill priorFill
        let _ ← transition env order.artifactId newState
        publishEvent env stored .fillRecorded fill.artifactId
        getOrder order.artifactId

def cancel (env : Surroundings) (orderId : UUID) : Oms Order := do
  let _ ← getOrder orderId
  let pending ← transition env orderId .cancelPending
  match env.cancel with
  | none => failState "venue adapter does not expose cancellation"
  | some (.error _) => failState "venue cancellation acknowledgement is ambiguous"
  | some (.ok none) => failState "venue cancellation acknowledgement must be boolean"
  | some (.ok (some false)) => failState "venue rejected cancellation"
  | some (.ok (some true)) => pure pending

def acknowledgeCancel : Oms Order :=
  transition env orderId .cancelled

def reconcile : Oms Order := do
  let order ← getOrder orderId
  if order.state ∉ terminalStates then
    failState "order must be terminal before reconciliation"
  else transition env orderId .reconciled

/-- The operations of an order manager with their arguments. -/
inductive OmsOp where
  | create (order : Order)
  | transition (orderId : UUID) (newState : OrderState)
  | approveRisk (orderId : UUID) (decision : RiskDecision) (orderCheck : Option OrderRiskCheck)
  | route (orderId : UUID)
  | reconcileAmbiguous (orderId : UUID)
  | reconcileRouted (orderId : UUID)
  | expireUnacknowledged (orderId : UUID)
  | recordFill (fill : Fill) (side : String)
  | cancel (orderId : UUID)
  | acknowledgeCancel (orderId : UUID)
  | reconcile (orderId : UUID)

def OmsOp.run : OmsOp → Oms Unit
  | .create order => do let _ ← AdvisorAI.create env order
  | .transition orderId newState => do let _ ← AdvisorAI.transition env orderId newState
  | .approveRisk orderId decision orderCheck => do
    let _ ← AdvisorAI.approveRisk env orderId decision orderCheck
  | .route orderId => do let _ ← AdvisorAI.route env orderId
  | .reconcileAmbiguous orderId => do let _ ← AdvisorAI.reconcileAmbiguous env orderId
  | .reconcileRouted orderId => do let _ ← AdvisorAI.reconcileRouted env orderId
  | .expireUnacknowledged orderId => do let _ ← AdvisorAI.expireUnacknowledged env orderId
  | .recordFill fill side => do let _ ← AdvisorAI.recordFill env fill side
  | .cancel orderId => do let _ ← AdvisorAI.cancel env orderId
  | .acknowledgeCancel orderId => do let _ ← AdvisorAI.acknowledgeCancel env orderId
  | .reconcile orderId => do let _ ← AdvisorAI.reconcile env orderId

/-! ## Hydration -/

/-- The effect of one ledger event on the memory. -/
def hydrateEvent (m : OrderManager) (eventType : OrderEventType) (artifact : OrderArtifact) :
    Except PyError OrderManager :=
  match eventType, artifact with
  | .reconciliationRecorded, _ => .ok m
  | .fillRecorded, .fill fill =>
    if m.orders.get fill.orderId = none then
      .error (orderStateError "fill ledger entry precedes its order")
    else .ok { m with fills := m.fills.set fill.venueFillId fill }
  | .order eventState, .order order =>
    match m.orders.get order.artifactId with
    | none =>
      if eventState ≠ .created then
        .error (orderStateError "order ledger contains a transition before order creation")
      else if order.state ≠ .created then
        .error (orderStateError "order creation ledger entry has a non-created state")
      else .ok { m with orders := m.orders.set order.artifactId order }
    | some prior =>
      if order.state ∉ allowedTransitions prior.state then
        .error (orderStateError ("order ledger contains invalid transition " ++
          prior.state.value ++ "->" ++ order.state.value))
      else .ok { m with
        orders := m.orders.set order.artifactId order
        ambiguousOrders := if eventState = .acknowledged
          then m.ambiguousOrders.erase order.artifactId else m.ambiguousOrders }
  | .orderAckAmbiguous, .order order =>
    match m.orders.get order.artifactId with
    | none =>
      .error (orderStateError "order ledger contains a transition before order creation")
    | some _ => .ok { m with
        orders := m.orders.set order.artifactId order
        ambiguousOrders := insert order.artifactId m.ambiguousOrders }
  | _, _ => .error (orderStateError "artifact does not validate")

variable (known : Option (Dict String UUID))

/-- The adapter is told of every order event that is placed. -/
def hydrateBinding (artifact : OrderArtifact) :
    Except PyError (Option (Dict String UUID)) :=
  match artifact with
  | .order order => bindOrder known order
  | _ => .ok known

def hydrateStep (state : OrderManager × Option (Dict String UUID)) (event : OrderEvent) :
    Except PyError (OrderManager × Option (Dict String UUID)) := do
  let m ← hydrateEvent state.1 event.eventType event.payload
  let known ← hydrateBinding state.2 event.payload
  pure (m, known)

/-- `_hydrate`: whatever goes wrong inside is reported as an invalid artifact. -/
def hydrate (events : List OrderEvent) :
    Except PyError (OrderManager × Option (Dict String UUID)) :=
  match Journal.replay hydrateStep (OrderManager.empty, known) events with
  | .ok state => .ok state
  | .error _ => .error (orderStateError "order ledger contains an invalid artifact")

end AdvisorAI
