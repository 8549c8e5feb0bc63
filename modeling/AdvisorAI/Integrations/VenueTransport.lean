import AdvisorAI.Integrations.Http
import AdvisorAI.Lib.Dict

/-!
# Venue transports

A transport turns the orders of the native adapter into requests to one venue
and the answers back into records. Three of them exist: one for Binance, one
for Coinbase, and the generic one of this file. They are written against a
`Wire`, the client they were given, so that they can be run with the HTTP client
and reasoned about with a venue that answers in a known way.
-/

namespace AdvisorAI

open Lib

/-- The entries of a mapping in a venue's answer. -/
abbrev VenueRecord := List (String × PyValue)

/-- What Python's library and the signer make of the values in an answer. -/
structure VenueOutside where
  str : PyValue → String
  /-- `Decimal(text)`, when it is finite. -/
  decimal : String → Option ℚ
  /-- `format(Decimal(text), "f")` and `str(Decimal(text))`. -/
  fixed : String → String
  plain : String → String
  upper : String → String
  /-- `datetime.fromtimestamp`, of milliseconds and of seconds. -/
  fromMilliseconds : ℚ → Option Timestamp
  fromSeconds : ℚ → Option Timestamp
  /-- `datetime.fromisoformat` reads the text, and finds a time zone. -/
  readsIso : String → Bool
  signature : List (String × String) → String
  str_str : ∀ s, str (.str s) = s

/-- What a transport raises: its own error, with the status of the response, or
one of Python's. -/
inductive VenueFailure where
  | venue (message : String) (statusCode : Option ℕ)
  | other (e : PyError)
deriving DecidableEq

structure Wire (σ : Type) where
  request : HttpRequest → List ℕ → Option ℕ → EStateM HttpFailure σ HttpResponse

/-- The client the transports are built with. -/
def HttpSettings.wire (settings : HttpSettings) : Wire SafeHttpClient :=
  ⟨SafeHttpClient.request settings⟩

/-- The statuses of an answer to a request that may create something. -/
def acceptedStatuses : List ℕ := [200, 201, 202, 204]

def venueError {α σ : Type} (message : String) : EStateM VenueFailure σ α :=
  Local.raise (.venue message none)

/-- A request, with the client's own error turned into one of the transport. -/
def Wire.call {σ : Type} (wire : Wire σ) (message : String) (request : HttpRequest)
    (acceptable : List ℕ) (maxRetries : Option ℕ) : EStateM VenueFailure σ HttpResponse := fun s =>
  match wire.request request acceptable maxRetries s with
  | .ok response s' => .ok response s'
  | .error (.transport e) s' => .error (.venue message e.statusCode) s'
  | .error (.other e) s' => .error (.other e) s'

/-- `try … except VenueTransportError`, which looks at the status: go on with what
was returned, or as if nothing was there. -/
def onStatus {τ α β : Type} (status : ℕ) (x : EStateM VenueFailure τ α)
    (next : α → EStateM VenueFailure τ β) (absent : EStateM VenueFailure τ β) :
    EStateM VenueFailure τ β := fun t =>
  match x t with
  | .ok a t' => next a t'
  | .error (.venue message code) t' =>
    if code = some status then absent t' else .error (.venue message code) t'
  | .error (.other e) t' => .error (.other e) t'

/-- `json.loads` of a body; an empty one is an empty object. -/
def decodeBody {σ : Type} (message : String) : ResponseBody → EStateM VenueFailure σ PyValue
  | .empty => pure (.map [])
  | .json value => pure value
  | .malformed => venueError message

def onClient {τ σ α : Type} (get : τ → σ) (set : σ → τ → τ) (x : EStateM VenueFailure σ α) :
    EStateM VenueFailure τ α := fun t =>
  match x (get t) with
  | .ok a s => .ok a (set s t)
  | .error e s => .error e (set s t)

/-- The methods of `NativeTransport`. -/
structure NativeTransport (τ : Type) where
  submitOrder : VenueRecord → EStateM VenueFailure τ PyValue
  queryOrder : String → EStateM VenueFailure τ (Option PyValue)
  listOpenOrders : EStateM VenueFailure τ (List VenueRecord)
  cancelOrder : String → EStateM VenueFailure τ PyValue

inductive VenueCall where
  | submit (payload : VenueRecord)
  | query (clientOrderId : String)
  | listOpen
  | cancel (clientOrderId : String)

/-- The state a call leaves, whether it returns or raises. -/
def VenueCall.run {τ : Type} (native : NativeTransport τ) : VenueCall → τ → τ
  | .submit payload => Local.after (native.submitOrder payload)
  | .query clientOrderId => Local.after (native.queryOrder clientOrderId)
  | .listOpen => Local.after native.listOpenOrders
  | .cancel clientOrderId => Local.after (native.cancelOrder clientOrderId)

/-! ## Records -/

namespace VenueOutside

variable (outside : VenueOutside) (record : VenueRecord)

/-- The value under the first of these keys that there is, else a text. -/
def field (keys : List String) (default : String) : PyValue :=
  (keys.findSome? fun key => lookupEntry key record).getD (.str default)

/-- `str(record.get(…)).strip()`. -/
def word (keys : List String) (default : String) : String :=
  strip (outside.str (field record keys default))

/-- `_decimal`. -/
def decimalOf (venue label : String) (positive : Bool) (value : Option PyValue) :
    Except VenueFailure ℚ :=
  match value with
  | none | some .none | some (.bool _) =>
    .error (.venue (venue ++ " response is missing " ++ label) none)
  | some value =>
    match outside.decimal (outside.str value) with
    | none => .error (.venue (venue ++ " response has malformed " ++ label) none)
    | some q =>
      if positive && decide (q ≤ 0) then
        .error (.venue (venue ++ " response has invalid " ++ label) none)
      else .ok q

end VenueOutside

/-- The entries of a value that is a mapping. -/
def mappingEntries : PyValue → Option VenueRecord
  | .map entries => some entries
  | _ => none

/-- The mappings of a value that is a list of them. -/
def recordsOf : PyValue → Option (List VenueRecord)
  | .seq items => items.mapM mappingEntries
  | _ => none

def object {σ : Type} (message : String) (value : PyValue) : EStateM VenueFailure σ VenueRecord :=
  match mappingEntries value with
  | some entries => pure entries
  | none => venueError message

def records {σ : Type} (venue label : String) (value : PyValue) :
    EStateM VenueFailure σ (List VenueRecord) :=
  match recordsOf value with
  | some records => pure records
  | none => venueError (venue ++ " " ++ label ++ " response must be an array of objects")

/-! ## What a transport keeps -/

section Kept

variable {τ σ γ α β : Type} {p : τ → γ}

theorem onClient_keeps {get : τ → σ} {set : σ → τ → τ} (hset : ∀ s t, p (set s t) = p t)
    (x : EStateM VenueFailure σ α) : Local.Keeps p (onClient get set x) := by
  intro t
  cases hrun : x (get t) with
  | ok | error => simp [onClient, Local.after, hrun, hset]

theorem onStatus_keeps {status : ℕ} {x : EStateM VenueFailure τ α}
    {next : α → EStateM VenueFailure τ β} {absent : EStateM VenueFailure τ β}
    (hx : Local.Keeps p x) (hnext : ∀ a, Local.Keeps p (next a))
    (habsent : Local.Keeps p absent) : Local.Keeps p (onStatus status x next absent) := by
  intro t
  unfold Local.after onStatus
  cases hrun : x t with
  | ok a t' => exact (hnext a t').trans (hx.ok hrun)
  | error e t' =>
    cases e with
    | other e => exact hx.error hrun
    | venue message code =>
      dsimp only
      by_cases hcode : code = some status
      · rw [if_pos hcode]
        exact (habsent t').trans (hx.error hrun)
      · rw [if_neg hcode]
        exact hx.error hrun

theorem decodeBody_keeps (message : String) (body : ResponseBody) :
    Local.Keeps p (decodeBody message body) := by
  cases body with
  | empty => exact .pure _
  | json value => exact .pure _
  | malformed => exact .raise _

theorem object_keeps (message : String) (value : PyValue) :
    Local.Keeps p (object message value) := by
  unfold object
  cases mappingEntries value with
  | none => exact .raise _
  | some entries => exact .pure _

theorem records_keeps (venue label : String) (value : PyValue) :
    Local.Keeps p (records venue label value) := by
  unfold records
  cases recordsOf value with
  | none => exact .raise _
  | some entries => exact .pure _

end Kept

/-! ## Text in an address -/

/-- The characters `urllib.parse.quote` leaves alone. -/
def isUnreserved (c : Char) : Bool := c.isAlphanum || c ∈ ['_', '.', '-', '~']

/-- `%XX`. -/
def percentByte (b : UInt8) : List Char :=
  ['%', (Nat.digitChar (b.toNat / 16)).toUpper, (Nat.digitChar (b.toNat % 16)).toUpper]

def quoteChar (c : Char) : List Char :=
  if isUnreserved c then [c] else (String.utf8EncodeChar c).flatMap percentByte

variable (text : String)

/-- `quote(text, safe="")`. -/
def urlQuote : String := String.ofList (text.toList.flatMap quoteChar)

/-- The path of an address ends where its query or fragment begins. -/
def pathPart : String :=
  String.ofList (text.toList.takeWhile fun c => c ≠ '?' && c ≠ '#')

/-- `text.rstrip("/")`. -/
def trimSlashes : String :=
  String.ofList (text.toList.reverse.dropWhile fun c => c = '/').reverse

/-! ## The generic transport -/

/-- A path that a paper venue is not asked for. -/
def isProhibited (path : String) : Bool :=
  ["withdraw", "transfer", "live", "prod"].any fun token => containsText token (lower path)

/-- `PaperTestnetVenueTransport`. The cancellation path is given by what stands
between its places for the client order id. -/
structure PaperTestnetVenueTransport where
  outside : VenueOutside
  baseUrl : Url
  ordersPath : String
  cancelPath : List String
  /-- There is no signer, or one with a key and a secret. -/
  canSign : Bool
  ordersPath_admitted : isProhibited ordersPath = false
  cancelPath_place : 2 ≤ cancelPath.length

namespace PaperTestnetVenueTransport

variable {σ : Type} (t : PaperTestnetVenueTransport) (wire : Wire σ)

def url (path : String) : Url := { t.baseUrl with
  path := pathPart (trimSlashes t.baseUrl.path ++ "/" ++
    String.ofList (path.toList.dropWhile fun c => c = '/')) }

variable (method path : String) (payload : Option VenueRecord)

def requestPayload :
    EStateM VenueFailure σ PyValue :=
  if isProhibited path then
    venueError "paper venue transport rejected a prohibited endpoint"
  else if t.canSign = false then
    Local.raise (.other (valueError
      "venue signer requires an API key, secret, and absolute path"))
  else do
    let response ← wire.call "paper venue request failed"
      ⟨method, t.url path, payload.map PyValue.map⟩
      (if method = "POST" then acceptedStatuses else [200]) none
    let decoded ← decodeBody "paper venue returned malformed JSON" response.body
    let entries ← object "paper venue response must be an object" decoded
    pure ((lookupEntry "result" entries).getD decoded)

def request :
    EStateM VenueFailure σ VenueRecord := do
  object "paper venue response result must be an object"
    (← t.requestPayload wire method path payload)

def submitOrder (payload : VenueRecord) : EStateM VenueFailure σ PyValue :=
  if t.outside.word payload ["client_order_id"] "" = "" then
    venueError "paper venue orders require the local idempotency key"
  else do
    let result ← t.request wire "POST" t.ordersPath (some payload)
    pure (.map result)

variable (clientOrderId : String)

def orderPath : String := t.ordersPath ++ "/" ++ urlQuote clientOrderId

/-- The path under which one order is cancelled. -/
def cancelPathOf : String :=
  String.intercalate (urlQuote clientOrderId) t.cancelPath

def cancelOrder : EStateM VenueFailure σ PyValue :=
  if isBlank clientOrderId then venueError "paper venue cancellation requires a client order ID"
  else do
    let result ← t.request wire "DELETE" (t.cancelPathOf clientOrderId) none
    pure (.map result)

/-- A venue that answers 404 does not know the order. -/
def queryOrder : EStateM VenueFailure σ (Option PyValue) :=
  if isBlank clientOrderId then venueError "paper venue reconciliation requires a client order ID"
  else onStatus 404 (t.request wire "GET" (t.orderPath clientOrderId) none)
    (fun record => pure (some (.map record))) (pure none)

/-- The orders in the answer to a request for all of them. -/
def openRecords (result : PyValue) : EStateM VenueFailure σ (List VenueRecord) :=
  let raw : PyValue := match result with
    | .seq items => .seq items
    | .map entries => (lookupEntry "orders" entries).getD
      ((lookupEntry "data" entries).getD (.seq []))
    | _ => .seq []
  match raw with
  | .seq _ =>
    match recordsOf raw with
    | none => venueError "paper venue open-order records must be objects"
    | some records => pure records
  | _ => venueError "paper venue open-order response must contain a list"

/-- The error of a request for the open orders has a text of its own. -/
def listOpenOrders : EStateM VenueFailure σ (List VenueRecord) := fun s =>
  match t.requestPayload wire "GET" t.ordersPath none s with
  | .ok result s' => openRecords result s'
  | .error (.venue _ status) s' =>
    .error (.venue "paper venue open-order request failed" status) s'
  | .error (.other e) s' => .error (.other e) s'

def native : NativeTransport σ where
  submitOrder := t.submitOrder wire
  queryOrder := t.queryOrder wire
  listOpenOrders := t.listOpenOrders wire
  cancelOrder := t.cancelOrder wire

end PaperTestnetVenueTransport

end AdvisorAI
