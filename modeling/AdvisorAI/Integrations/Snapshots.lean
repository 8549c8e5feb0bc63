import AdvisorAI.Integrations.BinanceSpot
import AdvisorAI.Integrations.CoinbaseExchange

/-!
# The account snapshots of the venues

`fetch_account_snapshot` of the two transports that know their venue: the
balances of the account become cash and positions under canonical instruments.
The snapshot is stamped with the time of the server that the transport
remembers, and only one that remembers none asks for it.
-/

namespace AdvisorAI

open Lib

/-- `VenueAccountSnapshot(…)`, with its checks; exact numbers are always finite. -/
def VenueAccountSnapshot.check (asOf : Timestamp) (cash : ℚ) (positions : Dict String ℚ)
    (marginUsed marginAvailable : ℚ) : Except PyError (VenueAccountSnapshot ℚ) :=
  if hnamed : ∀ key ∈ positions.keys, isBlank key = false then
    if hused : marginUsed < 0 then
      .error (valueError "venue margin used must be finite and non-negative")
    else if havailable : marginAvailable < 0 then
      .error (valueError "venue margin available must be finite and non-negative")
    else .ok {
      asOf := asOf
      cash := cash
      positions := positions
      marginUsed := some marginUsed
      marginAvailable := some marginAvailable
      venueOpenOrderIds := none
      finite := fun _ _ => rfl
      positions_named := hnamed
      margins := by
        intro value hvalue
        refine ⟨rfl, decide_eq_false ?_⟩
        rcases List.mem_pair.mp hvalue with rfl | rfl
        · exact hused
        · exact havailable }
  else .error (valueError "venue position identifiers cannot be blank")

theorem VenueAccountSnapshot.check_ok {asOf : Timestamp} {cash : ℚ} {positions : Dict String ℚ}
    {marginUsed marginAvailable : ℚ} {snapshot : VenueAccountSnapshot ℚ}
    (h : check asOf cash positions marginUsed marginAvailable = .ok snapshot) :
    snapshot.asOf = asOf ∧ snapshot.cash = cash ∧ snapshot.positions = positions ∧
      snapshot.marginUsed = some marginUsed ∧ snapshot.marginAvailable = some marginAvailable ∧
      snapshot.venueOpenOrderIds = none := by
  unfold check at h
  split_ifs at h
  cases h
  exact ⟨rfl, rfl, rfl, rfl, rfl, rfl⟩

/-- A value that is `True` itself. -/
def isTrue : Option PyValue → Bool
  | some (.bool b) => b
  | _ => false

/-- The check of a constructor inside a transport. -/
def constructed {α : Type} (made : Except PyError α) : Except VenueFailure α :=
  made.mapError .other

theorem constructed_ok {α : Type} {made : Except PyError α} {a : α}
    (h : constructed made = .ok a) : made = .ok a := by
  cases made with
  | ok b =>
    cases h
    rfl
  | error e => cases h

/-! ## Binance -/

namespace BinanceSpotTestnetTransport

variable {σ : Type} (settings : BinanceSettings σ)

def canonicalInstrumentId (symbol : String) : Except VenueFailure String :=
  let normalized := settings.outside.upper (strip symbol)
  if normalized = "" then .error (.other (valueError "Binance symbol cannot be blank"))
  else .ok ("crypto:" ++ normalized ++ ":binance_spot_testnet:spot")

def accountState : Binance σ VenueRecord := do
  let payload ← object "Binance account response must be an object"
    (← request settings "GET" "/api/v3/account" [] true false)
  if settings.outside.upper (settings.outside.word payload ["accountType"] "") ≠ "SPOT" then
    venueError "Binance account is not a Spot account"
  else if isTrue (lookupEntry "canTrade" payload) = false then
    venueError "Binance Spot Testnet account is not trade-enabled"
  else pure payload

/-- The balances under their assets; of two of one asset the later one counts. -/
def byAsset (balances : List VenueRecord) : Dict String VenueRecord :=
  balances.foldl (fun found record => found.set
    (settings.outside.upper (settings.outside.word record ["asset"] "")) record) Dict.empty

variable (record : VenueRecord)

/-- `_decimal(record.get(key, "0"), …)`. -/
def amount (key label : String) : Except VenueFailure ℚ :=
  settings.outside.decimalOf "Binance" label false (some (VenueOutside.field record [key] "0"))

def totalBalance (asset : String) : Except VenueFailure ℚ := do
  let free ← amount settings record "free" (asset ++ " free balance")
  let locked ← amount settings record "locked" (asset ++ " locked balance")
  if free + locked < 0 then
    .error (.venue ("Binance response has negative " ++ asset ++ " balance") none)
  else .ok (free + locked)

/-- The positions in the base assets of some symbols. -/
def positionsOf (found : Dict String VenueRecord) :
    List BinanceSpotSymbolSpec → Dict String ℚ → Except VenueFailure (Dict String ℚ)
  | [], positions => .ok positions
  | spec :: specs, positions =>
    match found.get spec.baseAsset with
    | none => positionsOf found specs positions
    | some record => do
      let quantity ← totalBalance settings record spec.baseAsset
      if quantity = 0 then positionsOf found specs positions
      else do
        let instrument ← canonicalInstrumentId settings spec.symbol
        positionsOf found specs (positions.set instrument quantity)

/-- What the balances say about an account in one quote asset. -/
structure Projection where
  quoteAsset : String
  quoteRecord : VenueRecord
  cash : ℚ
  positions : Dict String ℚ

/-- The part of `fetch_account_snapshot` that only computes. -/
def project (found : Dict String VenueRecord) (verified : List BinanceSpotSymbolSpec) :
    Except VenueFailure Projection :=
  match (verified.map fun spec => spec.quoteAsset).dedup with
  | [] => .error (.venue "Binance account snapshot requires verified symbols" none)
  | [quoteAsset] =>
    match found.get quoteAsset with
    | none => .error (.venue ("Binance account has no " ++ quoteAsset ++ " balance") none)
    | some quoteRecord => do
      let cash ← totalBalance settings quoteRecord quoteAsset
      let positions ← positionsOf settings found verified Dict.empty
      .ok ⟨quoteAsset, quoteRecord, cash, positions⟩
  | _ => .error (.venue "Binance account snapshot requires one quote asset" none)

/-- The server's time, asked for when none is remembered. -/
def rememberedTime : Binance σ Timestamp := do
  match ← Local.read fun t => t.lastServerTime with
  | some time => pure time
  | none => do
    let _ ← serverTime settings
    match ← Local.read fun t => t.lastServerTime with
    | some time => pure time
    | none => Local.raise (.other ⟨"AssertionError", ""⟩)

def fetchAccountSnapshot : Binance σ (VenueAccountSnapshot ℚ) := do
  let payload ← accountState settings
  let balances ← records "Binance" "balances" ((lookupEntry "balances" payload).getD .none)
  let verified ← Local.read fun t => t.verifiedSymbols.values
  let projection ← Local.lift (project settings (byAsset settings balances) verified)
  let asOf ← rememberedTime settings
  let free ← Local.lift (amount settings projection.quoteRecord "free"
    (projection.quoteAsset ++ " free balance"))
  Local.lift (constructed
    (VenueAccountSnapshot.check asOf projection.cash projection.positions 0 free))

end BinanceSpotTestnetTransport

/-! ## Coinbase -/

namespace CoinbaseExchangeSandboxTransport

variable {σ : Type} (settings : CoinbaseSettings σ)

def canonicalInstrumentId (productId : String) : Except VenueFailure String :=
  let normalized := settings.outside.upper (strip productId)
  if normalized = "" then .error (.other (valueError "Coinbase product ID cannot be blank"))
  else .ok ("crypto:" ++ normalized ++ ":coinbase_exchange_sandbox:spot")

def accounts : Coinbase σ (List VenueRecord) := do
  records "Coinbase" "accounts" (← request settings "GET" "/accounts" none true)

/-- `_decimal(account.get(key), …)`. -/
def amount (account : VenueRecord) (key label : String) : Except VenueFailure ℚ :=
  settings.outside.decimalOf "Coinbase" label false (lookupEntry key account)

/-- The product in which a currency is traded for dollars. -/
def productOf (verified : List CoinbaseProductSpec) (currency : String) :
    Option CoinbaseProductSpec :=
  verified.find? fun product => product.baseCurrency = currency && product.quoteCurrency = "USD"

/-- The positions in the currencies of some accounts. -/
def positionsOf (verified : List CoinbaseProductSpec) :
    List VenueRecord → Dict String ℚ → Except VenueFailure (Dict String ℚ)
  | [], positions => .ok positions
  | account :: accounts, positions =>
    let currency := settings.outside.upper (settings.outside.word account ["currency"] "")
    if currency = "" ∨ currency = "USD" then positionsOf verified accounts positions
    else do
      let quantity ← amount settings account "balance" (currency ++ " balance")
      if quantity = 0 then positionsOf verified accounts positions
      else
        match productOf verified currency with
        | none => .error (.venue
            ("Coinbase account contains non-zero unmapped asset " ++ currency) none)
        | some product => do
          let instrument ← canonicalInstrumentId settings product.productId
          positionsOf verified accounts (positions.set instrument quantity)

structure Projection where
  cash : ℚ
  available : ℚ
  positions : Dict String ℚ

/-- The part of `fetch_account_snapshot` that only computes. -/
def project (accounts : List VenueRecord) (verified : List CoinbaseProductSpec) :
    Except VenueFailure Projection :=
  match accounts.find? fun account => settings.outside.upper (settings.outside.str
      (VenueOutside.field account ["currency"] "")) = "USD" with
  | none => .error (.venue "Coinbase sandbox account state has no USD account" none)
  | some account => do
    let cash ← amount settings account "balance" "USD balance"
    let available ← amount settings account "available" "USD available"
    let positions ← positionsOf settings verified accounts Dict.empty
    .ok ⟨cash, available, positions⟩

/-- The server's time, asked for when none is remembered. -/
def rememberedTime : Coinbase σ Timestamp := do
  match ← Local.read fun t => t.lastServerTime with
  | some time => pure time
  | none => do
    let _ ← serverTime settings
    match ← Local.read fun t => t.lastServerTime with
    | some time => pure time
    | none => Local.raise (.other ⟨"AssertionError", ""⟩)

def fetchAccountSnapshot : Coinbase σ (VenueAccountSnapshot ℚ) := do
  let found ← accounts settings
  let verified ← Local.read fun t => t.verifiedProducts.values
  let projection ← Local.lift (project settings found verified)
  let asOf ← rememberedTime settings
  Local.lift (constructed
    (VenueAccountSnapshot.check asOf projection.cash projection.positions 0 projection.available))

end CoinbaseExchangeSandboxTransport

end AdvisorAI
