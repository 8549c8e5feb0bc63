import AdvisorAI.Execution.Reconciliation
import AdvisorAI.Integrations.VenueTransport

/-!
# The Binance transport

`BinanceSpotTestnetTransport`: its requests, the records it makes of the answers,
the checks of an order before it is sent, and the account snapshot. A write is
never repeated by the client; everything else is.

The addresses it asks for are fixed, so that its guard against others, which
lets all of these pass, is left out.
-/

namespace AdvisorAI

open Lib

/-- `BinanceSpotSymbolSpec`, as `from_record` admits it. -/
structure BinanceSpotSymbolSpec where
  symbol : String
  baseAsset : String
  quoteAsset : String
  status : String
  baseIncrement : ℚ
  quoteIncrement : ℚ
  baseMinQty : ℚ
  baseMaxQty : Option ℚ
  minNotional : Option ℚ
  baseIncrement_pos : 0 < baseIncrement
  quoteIncrement_pos : 0 < quoteIncrement
  baseMinQty_pos : 0 < baseMinQty
  symbol_eq : symbol = baseAsset ++ quoteAsset

/-- The transport, with the client it was given. -/
structure BinanceSpotTestnetTransport (σ : Type) where
  client : σ
  verifiedSymbols : Dict String BinanceSpotSymbolSpec
  localToVenue : Dict String String
  localToSymbol : Dict String String
  lastServerTime : Option Timestamp

/-- What the transport is built with. -/
structure BinanceSettings (σ : Type) where
  wire : Wire σ
  outside : VenueOutside
  recvWindow : ℕ
  /-- The timestamp of a request made with the client. -/
  timestamp : σ → ℤ

abbrev Binance (σ : Type) := EStateM VenueFailure (BinanceSpotTestnetTransport σ)

def terminalOrderStates : List String :=
  ["FILLED", "CANCELED", "CANCELLED", "REJECTED", "EXPIRED", "EXPIRED_IN_MATCH"]

namespace BinanceSpotTestnetTransport

variable {σ : Type} (settings : BinanceSettings σ)

/-! ## Requests -/

/-- The address, with the query in the order of its names. -/
def urlOf (path : String) (params : List (String × String)) : Url where
  scheme := "https"
  hasCredentials := false
  hostname := "testnet.binance.vision"
  path := path
  query := params

variable (params : List (String × String))

def sortedParams : List (String × String) :=
  params.mergeSort fun a b => decide (a.1 ≤ b.1)

def signedQuery : List (String × String) :=
  sortedParams params ++ [("signature", settings.outside.signature (sortedParams params))]

def withClient {α : Type} (x : EStateM VenueFailure σ α) : Binance σ α :=
  onClient client (fun c t => { t with client := c }) x

/-- `_path_url`: a signed request has a timestamp, which has to be positive. -/
def pathUrl (path : String) (params : List (String × String)) (authenticated : Bool) :
    Binance σ Url := do
  if authenticated then do
    let timestamp ← Local.read fun t => settings.timestamp t.client
    if timestamp ≤ 0 then
      venueError "Binance request timestamp must be positive milliseconds"
    else pure (urlOf path (signedQuery settings (params ++
      [("timestamp", toString timestamp), ("recvWindow", toString settings.recvWindow)])))
  else pure (urlOf path (sortedParams params))

theorem pathUrl_keeps {settings : BinanceSettings σ} {γ : Type}
    {p : BinanceSpotTestnetTransport σ → γ}
    (path : String) (params : List (String × String)) (authenticated : Bool) :
    Local.Keeps p (pathUrl settings path params authenticated) :=
  .ite (.bind (.read _) fun _ => .ite (.raise _) (.pure _)) (.pure _)

variable {t t' : BinanceSpotTestnetTransport σ}

theorem pathUrl_path {settings : BinanceSettings σ} {path : String}
    {params : List (String × String)} {authenticated : Bool} {url : Url}
    (h : pathUrl settings path params authenticated t = .ok url t) :
    ∃ query, url = urlOf path query := by
  unfold pathUrl at h
  cases authenticated with
  | false =>
    cases h
    exact ⟨_, rfl⟩
  | true =>
    by_cases hpositive : settings.timestamp t.client ≤ 0
    · rw [if_pos rfl, Local.bind_ok (Local.read_ok _ _), if_pos hpositive] at h
      cases h
    · rw [if_pos rfl, Local.bind_ok (Local.read_ok _ _), if_neg hpositive] at h
      cases h
      exact ⟨_, rfl⟩

def request (method path : String) (params : List (String × String))
    (authenticated write : Bool) : Binance σ PyValue := do
  let url ← pathUrl settings path params authenticated
  -- a write that timed out may have reached the venue, and is not repeated
  let response ← withClient (settings.wire.call "Binance Spot Testnet request failed"
    ⟨method, url, none⟩ acceptedStatuses (if write then some 0 else none))
  decodeBody "Binance Spot Testnet returned malformed JSON" response.body

def serverTime : Binance σ VenueRecord := do
  let payload ← object "Binance time response must be an object"
    (← request settings "GET" "/api/v3/time" [] false false)
  let milliseconds ← Local.lift (settings.outside.decimalOf "Binance" "server time" true
    (lookupEntry "serverTime" payload))
  match settings.outside.fromMilliseconds milliseconds with
  | none => venueError "Binance response has malformed server time"
  | some time => do
    Local.modify fun t => { t with lastServerTime := some time }
    pure payload

def verifiedSymbolIds (t : BinanceSpotTestnetTransport σ) : List String :=
  sortedTexts t.verifiedSymbols.keys

def verifiedSymbol (symbol : String) : Binance σ BinanceSpotSymbolSpec := do
  match ← Local.read fun t => t.verifiedSymbols.get (settings.outside.upper (strip symbol)) with
  | some spec => pure spec
  | none => venueError "Binance symbol is not admitted from provider truth"

theorem verifiedSymbol_ok {settings : BinanceSettings σ} {symbol : String}
    {spec : BinanceSpotSymbolSpec} (h : verifiedSymbol settings symbol t = .ok spec t') :
    t' = t ∧ t.verifiedSymbols.get (settings.outside.upper (strip symbol)) = some spec := by
  unfold verifiedSymbol at h
  rw [Local.bind_ok (Local.read_ok _ _)] at h
  cases hget : t.verifiedSymbols.get (settings.outside.upper (strip symbol)) with
  | none =>
    rw [hget] at h
    cases h
  | some found =>
    rw [hget] at h
    cases h
    exact ⟨rfl, rfl⟩

/-! ## Orders -/

variable (record : VenueRecord)

/-- `_normalize_order`: an order in a terminal state is not accepted. -/
def normalizeOrder : Except VenueFailure VenueRecord :=
  let venueOrderId := settings.outside.word record ["orderId", "id"] ""
  let clientOrderId := settings.outside.word record ["clientOrderId"] ""
  let state := settings.outside.upper (settings.outside.word record ["status"] "")
  let normalized := setEntry "accepted" (.bool (decide (state ∉ terminalOrderStates)))
    (setEntry "venue_order_id" (.str venueOrderId) record)
  if venueOrderId = "" then .error (.venue "Binance order is missing its venue identity" none)
  else if clientOrderId = "" then .ok normalized
  else .ok (setEntry "client_order_id" (.str clientOrderId) normalized)

def openOrdersOf : List String → Binance σ (List VenueRecord)
  | [] => pure []
  | symbol :: symbols => do
    let payload ← request settings "GET" "/api/v3/openOrders" [("symbol", symbol)] true false
    let found ← Local.lift ((← records "Binance" "open orders" payload).mapM (normalizeOrder settings))
    return found ++ (← openOrdersOf symbols)

/-- What is remembered of a record of an order. -/
def remember (t : BinanceSpotTestnetTransport σ) :
    BinanceSpotTestnetTransport σ :=
  let clientOrderId := settings.outside.word record ["client_order_id"] ""
  if clientOrderId = "" then t
  else { t with
    localToVenue := t.localToVenue.set clientOrderId
      (settings.outside.str (VenueOutside.field record ["venue_order_id"] ""))
    localToSymbol := t.localToSymbol.set clientOrderId (settings.outside.upper
      (settings.outside.str (VenueOutside.field record ["symbol"] ""))) }

def listOpenOrders : Binance σ (List VenueRecord) := do
  let found ← openOrdersOf settings (← Local.read verifiedSymbolIds)
  Local.modify fun t => found.foldl (fun t record => remember settings record t) t
  pure found

/-- The answer to a query, in the form of a record of that order. -/
def queriedOrder (localId candidate : String) (payload : PyValue) : Binance σ VenueRecord := do
  let record ← object "Binance order query response must be an object" payload
  let normalized ← Local.lift (normalizeOrder settings record)
  let returned := settings.outside.word normalized ["client_order_id"] ""
  if returned ≠ "" ∧ returned ≠ localId then
    venueError "Binance order query returned a different client ID"
  else do
    Local.modify fun t => { t with
      localToSymbol := t.localToSymbol.set localId candidate
      localToVenue := t.localToVenue.set localId
        (settings.outside.str (VenueOutside.field normalized ["venue_order_id"] "")) }
    pure normalized

/-- The loop of `query_order` over the symbols the order may be of. Status 400 is
how the venue says that it does not know the order. -/
def queryCandidates (localId : String) : List String → Binance σ (Option PyValue)
  | [] => pure none
  | candidate :: candidates =>
    onStatus 400 (request settings "GET" "/api/v3/order"
        [("symbol", candidate), ("origClientOrderId", localId)] true false)
      (fun payload => do return some (.map (← queriedOrder settings localId candidate payload)))
      (queryCandidates localId candidates)

def queryOrder (clientOrderId : String) : Binance σ (Option PyValue) := do
  let localId := strip clientOrderId
  if localId = "" then venueError "Binance order query requires a client order ID"
  else do
    let symbols ← Local.read fun t =>
      match t.localToSymbol.get localId with
      | some symbol => [symbol]
      | none => verifiedSymbolIds t
    if symbols ≠ [] then queryCandidates settings localId symbols
    else do
      let found ← listOpenOrders settings
      pure ((found.find? fun record =>
        settings.outside.word record ["client_order_id"] "" = localId).map PyValue.map)

def isIdCharacter (c : Char) : Bool := c.isAlphanum || c = '-' || c = '_'

def isMultiple (value increment : ℚ) : Bool := (value / increment).isInt

/-- What an order asks for, after `_validate_order`. -/
structure ValidOrder where
  spec : BinanceSpotSymbolSpec
  localId : String
  side : String

variable (spec : BinanceSpotSymbolSpec)

/-- What `_validate_order` checks of a limit price. -/
def validatePrice (quantity : ℚ) (price : Option PyValue) :
    Except VenueFailure Unit := do
  if price.all (fun value => value.same .none) then
    .error (.venue "Binance limit order requires a price" none)
  else do
    let price ← settings.outside.decimalOf "Binance" "order price" true price
    if isMultiple price spec.quoteIncrement = false then
      .error (.venue "Binance order price violates the admitted tick size" none)
    else if spec.minNotional.any fun least => price * quantity < least then
      .error (.venue "Binance order is below the admitted minimum notional" none)
    else .ok ()

def validateQuantity (quantity : ℚ) : Except VenueFailure Unit :=
  if isMultiple quantity spec.baseIncrement = false then
    .error (.venue "Binance order quantity violates the admitted step size" none)
  else if quantity < spec.baseMinQty then
    .error (.venue "Binance order is below the admitted minimum quantity" none)
  else if spec.baseMaxQty.any fun most => most < quantity then
    .error (.venue "Binance order exceeds the admitted maximum quantity" none)
  else .ok ()

variable (payload : VenueRecord)

def validateOrder : Binance σ ValidOrder := do
  let localId := settings.outside.word payload ["client_order_id"] ""
  let symbol := settings.outside.upper (settings.outside.word payload ["symbol"] "")
  let side := settings.outside.upper (settings.outside.word payload ["side"] "")
  if localId = "" ∨ symbol = "" ∨ side ∉ ["BUY", "SELL"] then
    venueError "Binance order requires client ID, symbol, and side"
  else if 36 < localId.length ∨ localId.toList.any (fun c => !isIdCharacter c) then
    venueError "Binance order client ID is not provider-admissible"
  else do
    let spec ← verifiedSymbol settings symbol
    let quantity ← Local.lift (settings.outside.decimalOf "Binance" "order quantity" true
      (lookupEntry "quantity" payload))
    Local.lift (validateQuantity spec quantity)
    let orderType := lower (settings.outside.word payload ["order_type"] "")
    if orderType ∉ ["limit", "passive_limit", "market"] then
      venueError "Binance order type is not admitted"
    else do
      if orderType = "market" then pure ()
      else Local.lift (validatePrice settings spec quantity (lookupEntry "price" payload))
      pure ⟨spec, localId, side⟩

/-- `format(_decimal(value), "f")` of a checked value. -/
def fixedText (value : Option PyValue) : String :=
  settings.outside.fixed (settings.outside.str (value.getD .none))

def orderParams (order : ValidOrder) : List (String × String) :=
  let orderType := lower (settings.outside.word payload ["order_type"] "")
  [("symbol", order.spec.symbol), ("side", order.side),
    ("type", if orderType = "passive_limit" then "LIMIT_MAKER" else settings.outside.upper orderType),
    ("quantity", fixedText settings (lookupEntry "quantity" payload)),
    ("newClientOrderId", order.localId)] ++
  (if orderType = "market" then []
    else [("price", fixedText settings (lookupEntry "price" payload))]) ++
  (if orderType = "limit" then
    [("timeInForce", settings.outside.upper (settings.outside.word payload ["time_in_force"] "GTC"))]
    else [])

def submitOrder : Binance σ PyValue := do
  let order ← validateOrder settings payload
  let response ← object "Binance order acknowledgement must be an object"
    (← request settings "POST" "/api/v3/order" (orderParams settings payload order) true true)
  let normalized ← Local.lift (normalizeOrder settings response)
  if settings.outside.upper (settings.outside.str (VenueOutside.field normalized ["status"] ""))
      ∈ ["REJECTED", "EXPIRED"] then
    venueError "Binance Spot Testnet rejected the order"
  else do
    Local.modify fun t => { t with
      localToVenue := t.localToVenue.set order.localId
        (settings.outside.str (VenueOutside.field normalized ["venue_order_id"] ""))
      localToSymbol := t.localToSymbol.set order.localId order.spec.symbol }
    pure (.map (setEntry "accepted" (.bool true)
      (setEntry "client_order_id" (.str order.localId) normalized)))

/-- The symbol under which an order is cancelled; empty, when nothing is known of it. -/
def cancelSymbol (localId : String) : Binance σ String := do
  match ← Local.read fun t => t.localToSymbol.get localId with
  | some symbol => pure symbol
  | none => do
    match (← queryOrder settings localId).bind mappingEntries with
    | some record => pure (settings.outside.upper
        (settings.outside.str (VenueOutside.field record ["symbol"] "")))
    | none => pure ""

/-- The cancellation of an order of a symbol. -/
def cancelUnder (localId symbol : String) : Binance σ PyValue :=
  if symbol = "" then
    pure (.map [("client_order_id", .str localId), ("venue_order_id", .str "unknown"),
      ("cancelled", .bool false)])
  else do
    let response ← object "Binance cancellation response must be an object"
      (← request settings "DELETE" "/api/v3/order"
        [("symbol", symbol), ("origClientOrderId", localId)] true true)
    let normalized ← Local.lift (normalizeOrder settings response)
    pure (.map [("client_order_id", .str localId),
      ("venue_order_id", VenueOutside.field normalized ["venue_order_id"] ""),
      ("cancelled", .bool (decide (settings.outside.upper (settings.outside.str
        (VenueOutside.field response ["status"] "")) ∈ ["CANCELED", "CANCELLED"])))])

def cancelOrder (clientOrderId : String) : Binance σ PyValue := do
  let localId := strip clientOrderId
  if localId = "" then venueError "Binance cancellation requires a client order ID"
  else do
    let symbol ← cancelSymbol settings localId
    cancelUnder settings localId symbol

def native : NativeTransport (BinanceSpotTestnetTransport σ) where
  submitOrder := submitOrder settings
  queryOrder := queryOrder settings
  listOpenOrders := listOpenOrders settings
  cancelOrder := cancelOrder settings

end BinanceSpotTestnetTransport

end AdvisorAI
