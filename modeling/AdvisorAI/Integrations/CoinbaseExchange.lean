import AdvisorAI.Execution.Reconciliation
import AdvisorAI.Integrations.VenueTransport

/-!
# The Coinbase transport

`CoinbaseExchangeSandboxTransport`. An order is asked for under the identity the
venue gave it, which the transport learns from the acknowledgement or from the
list of open orders. All its requests are retried as the client is set up.
-/

namespace AdvisorAI

open Lib

/-- `CoinbaseProductSpec`, as far as it is used. -/
structure CoinbaseProductSpec where
  productId : String
  baseCurrency : String
  quoteCurrency : String
  baseIncrement : ℚ
  baseMinSize : Option ℚ
  baseMaxSize : Option ℚ

/-- The transport, with the client it was given. -/
structure CoinbaseExchangeSandboxTransport (σ : Type) where
  client : σ
  verifiedProducts : Dict String CoinbaseProductSpec
  localToVenue : Dict String String
  lastServerTime : Option Timestamp

/-- What the transport is built with. -/
structure CoinbaseSettings (σ : Type) where
  wire : Wire σ
  outside : VenueOutside
  /-- The signer takes the timestamp of a request made with the client. -/
  canSign : σ → Bool

abbrev Coinbase (σ : Type) := EStateM VenueFailure (CoinbaseExchangeSandboxTransport σ)

namespace CoinbaseExchangeSandboxTransport

variable {σ : Type} (settings : CoinbaseSettings σ)

def terminalOrderStates : List String :=
  ["done", "settled", "cancelled", "canceled", "rejected", "expired"]

/-- The segments of a path that are not asked for. -/
def prohibitedSegments : List String :=
  ["withdraw", "withdrawal", "withdrawals", "transfer", "transfers", "live", "prod", "production"]

/-! ## Requests -/

variable (path : String)

/-- The segments of `path.lower()`. -/
def segments : List String :=
  ((lower path).toList.splitOn '/').map String.ofList

def isProhibited : Bool :=
  (segments path).any fun segment => segment ∈ prohibitedSegments

def withClient {α : Type} (x : EStateM VenueFailure σ α) : Coinbase σ α :=
  onClient client (fun c t => { t with client := c }) x

def urlOf (params : List (String × String)) : Url where
  scheme := "https"
  hasCredentials := false
  hostname := "api-public.sandbox.exchange.coinbase.com"
  path := path
  query := params

def request (method path : String) (payload : Option VenueRecord) (authenticated : Bool) :
    Coinbase σ PyValue := do
  if isProhibited path then
    venueError "Coinbase sandbox adapter rejected a prohibited endpoint"
  else if authenticated && !(← Local.read fun t => settings.canSign t.client) then
    Local.raise (.other (valueError "Coinbase timestamp must be positive numeric seconds"))
  else do
    let response ← withClient (settings.wire.call "Coinbase Exchange Sandbox request failed"
      ⟨method, urlOf path [], payload.map PyValue.map⟩ acceptedStatuses none)
    decodeBody "Coinbase Exchange Sandbox returned malformed JSON" response.body

/-- `_iso_datetime`, as a check. -/
def checkIso (label : String) : PyValue → Except VenueFailure Unit
  | .str s =>
    if isBlank s then .error (.venue ("Coinbase response is missing " ++ label) none)
    else if settings.outside.readsIso s then .ok ()
    else .error (.venue ("Coinbase response has malformed " ++ label) none)
  | _ => .error (.venue ("Coinbase response is missing " ++ label) none)

/-- The time is remembered before the second form of it is looked at. -/
def serverTime : Coinbase σ VenueRecord := do
  let payload ← object "Coinbase time response must be an object"
    (← request settings "GET" "/time" none false)
  let epoch ← Local.lift (settings.outside.decimalOf "Coinbase" "server epoch" true
    (lookupEntry "epoch" payload))
  match settings.outside.fromSeconds epoch with
  | none => Local.raise (.other (valueError "year is out of range"))
  | some time => do
    Local.modify fun t => { t with lastServerTime := some time }
    match lookupEntry "iso" payload with
    | none => pure payload
    | some .none => pure payload
    | some iso => do
      Local.lift (checkIso settings "server ISO time" iso)
      pure payload

def verifiedProduct (productId : String) : Coinbase σ CoinbaseProductSpec := do
  match ← Local.read fun t => t.verifiedProducts.get (settings.outside.upper (strip productId)) with
  | some product => pure product
  | none => venueError "Coinbase product is not admitted from the sandbox product list"

/-! ## Orders -/

variable (record : VenueRecord)

/-- `_normalize_order`: an order in a terminal state is not accepted. -/
def normalizeOrder : Except VenueFailure VenueRecord :=
  let orderId := settings.outside.word record ["id", "order_id"] ""
  let clientOrderId := settings.outside.word record ["client_oid", "client_order_id"] ""
  let state := lower (settings.outside.word record ["status", "state"] "open")
  let normalized := setEntry "accepted" (.bool (decide (state ∉ terminalOrderStates)))
    (setEntry "venue_order_id" (.str orderId) record)
  if orderId = "" then .error (.venue "Coinbase order is missing its venue identity" none)
  else if clientOrderId = "" then .ok normalized
  else .ok (setEntry "client_order_id" (.str clientOrderId) normalized)

/-- What is remembered of a record of an order. -/
def remember (t : CoinbaseExchangeSandboxTransport σ) :
    CoinbaseExchangeSandboxTransport σ :=
  match lookupEntry "client_order_id" record with
  | some (.str clientOrderId) =>
    if clientOrderId = "" then t
    else { t with
      localToVenue := t.localToVenue.set clientOrderId
        (settings.outside.str (VenueOutside.field record ["venue_order_id"] "")) }
  | _ => t

def listOpenOrders : Coinbase σ (List VenueRecord) := do
  let found ← records "Coinbase" "orders" (← request settings "GET" "/orders" none true)
  let normalized ← Local.lift (found.mapM (normalizeOrder settings))
  Local.modify fun t => normalized.foldl (fun t record => remember settings record t) t
  pure normalized

def orderPath (venueId : String) : String := "/orders/" ++ urlQuote venueId

def isTruthy : PyValue → Bool
  | .none => false
  | .bool b => b
  | .number q => decide (q ≠ 0)
  | .str s => decide (s ≠ "")
  | .seq items => !items.isEmpty
  | .set items => !items.isEmpty
  | .map entries => !entries.isEmpty
  | .object _ _ => true

/-- The answer to a query, in the form of a record of that order. -/
def queriedOrder (localId : String) (payload : PyValue) : Coinbase σ VenueRecord := do
  let record ← object "Coinbase order query response must be an object" payload
  let normalized ← Local.lift (normalizeOrder settings record)
  if (lookupEntry "client_order_id" normalized).any fun returned =>
      isTruthy returned && settings.outside.str returned ≠ localId then
    venueError "Coinbase order query returned a different client ID"
  else pure normalized

/-- The order under the identity the venue gave it. Status 404 is how the venue
says that it does not know it. -/
def queryVenueOrder (localId venueId : String) : Coinbase σ (Option PyValue) :=
  onStatus 404 (request settings "GET" (orderPath venueId) none true)
    (fun payload => do return some (.map (← queriedOrder settings localId payload))) (pure none)

def queryOpenOrders (localId : String) : Coinbase σ (Option PyValue) := do
  let found ← listOpenOrders settings
  pure ((found.find? fun record =>
    settings.outside.str (VenueOutside.field record ["client_order_id"] "") = localId).map
      PyValue.map)

def queryOrder (clientOrderId : String) : Coinbase σ (Option PyValue) := do
  let localId := strip clientOrderId
  if localId = "" then venueError "Coinbase order query requires a client order ID"
  else do
    let venueId ← Local.read fun t => t.localToVenue.getD localId ""
    if venueId ≠ "" then queryVenueOrder settings localId venueId
    else queryOpenOrders settings localId

/-- What an order has to be before it is sent. -/
structure ValidOrder where
  product : CoinbaseProductSpec
  localId : String
  side : String
  price : Option PyValue

variable (payload : VenueRecord)

/-- The checks of `submit_order`. -/
def validateOrder : Coinbase σ ValidOrder := do
  let localId := settings.outside.word payload ["client_order_id"] ""
  let productId := settings.outside.upper (settings.outside.word payload ["symbol"] "")
  let side := lower (settings.outside.word payload ["side"] "")
  if localId = "" ∨ productId = "" ∨ side ∉ ["buy", "sell"] then
    venueError "Coinbase order requires client ID, product, and side"
  else do
    let product ← verifiedProduct settings productId
    let quantity ← Local.lift (settings.outside.decimalOf "Coinbase" "order size" true
      (lookupEntry "quantity" payload))
    if quantity < product.baseMinSize.getD product.baseIncrement then
      venueError "Coinbase order is below the admitted product minimum"
    else if product.baseMaxSize.any fun most => most < quantity then
      venueError "Coinbase order exceeds the admitted product maximum"
    else do
      let price := (lookupEntry "price" payload).filter fun value => !value.same .none
      if price.isSome then do
        let _ ← Local.lift (settings.outside.decimalOf "Coinbase" "order price" true price)
        pure ⟨product, localId, side, price⟩
      else pure ⟨product, localId, side, none⟩

def orderBody (order : ValidOrder) : VenueRecord :=
  let orderType := lower (settings.outside.word payload ["order_type"] "")
  let timeInForce := settings.outside.upper (settings.outside.word payload ["time_in_force"] "GTC")
  let plainText (value : PyValue) : PyValue :=
    .str (settings.outside.plain (settings.outside.str value))
  [("client_oid", .str order.localId), ("product_id", .str order.product.productId),
    ("side", .str order.side),
    ("type", .str (if orderType = "limit" ∨ orderType = "passive_limit" then "limit"
      else orderType)),
    ("size", plainText (VenueOutside.field payload ["quantity"] ""))] ++
  (order.price.toList.map fun price => ("price", plainText price)) ++
  (if timeInForce = "" then [] else [("time_in_force", .str timeInForce)]) ++
  (if orderType = "passive_limit" then [("post_only", .bool true)] else [])

def submitOrder : Coinbase σ PyValue := do
  let order ← validateOrder settings payload
  let response ← object "Coinbase order acknowledgement must be an object"
    (← request settings "POST" "/orders" (some (orderBody settings payload order)) true)
  let normalized ← Local.lift (normalizeOrder settings response)
  if (lookupEntry "accepted" normalized).any (fun accepted => accepted.same (.bool false)) then
    venueError "Coinbase sandbox rejected the order"
  else do
    Local.modify fun t => { t with
      localToVenue := t.localToVenue.set order.localId
        (settings.outside.str (VenueOutside.field normalized ["venue_order_id"] "")) }
    pure (.map (setEntry "accepted" (.bool true)
      (setEntry "client_order_id" (.str order.localId) normalized)))

/-- The identity under which an order is cancelled; empty, when nothing is known of it. -/
def cancelVenueId (localId : String) : Coinbase σ String := do
  match ← Local.read fun t => t.localToVenue.get localId with
  | some venueId => pure venueId
  | none => do
    match (← queryOrder settings localId).bind mappingEntries with
    | some record => pure (settings.outside.str (VenueOutside.field record ["venue_order_id"] ""))
    | none => pure ""

def cancelled (venueId : String) : PyValue → Bool
  | .seq items => items.any fun item => settings.outside.str item = venueId
  | .map entries => isTruthy (((lookupEntry "cancelled" entries).or
      (lookupEntry "accepted" entries)).getD (.bool false))
  | _ => false

/-- The cancellation of an order under an identity of the venue. -/
def cancelUnder (localId venueId : String) : Coinbase σ PyValue :=
  if venueId = "" then
    pure (.map [("client_order_id", .str localId), ("venue_order_id", .str "unknown"),
      ("cancelled", .bool false)])
  else do
    let response ← request settings "DELETE" (orderPath venueId) none true
    pure (.map [("client_order_id", .str localId), ("venue_order_id", .str venueId),
      ("cancelled", .bool (cancelled settings venueId response))])

def cancelOrder (clientOrderId : String) : Coinbase σ PyValue := do
  let localId := strip clientOrderId
  if localId = "" then venueError "Coinbase cancellation requires a client order ID"
  else do
    let venueId ← cancelVenueId settings localId
    cancelUnder settings localId venueId

def native : NativeTransport (CoinbaseExchangeSandboxTransport σ) where
  submitOrder := submitOrder settings
  queryOrder := queryOrder settings
  listOpenOrders := listOpenOrders settings
  cancelOrder := cancelOrder settings

end CoinbaseExchangeSandboxTransport

end AdvisorAI
