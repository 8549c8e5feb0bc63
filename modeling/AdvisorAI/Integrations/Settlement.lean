import AdvisorAI.Execution.AccountSteps
import AdvisorAI.Execution.MarketEvents
import AdvisorAI.Integrations.Freshness
import AdvisorAI.Lib.Checks

/-!
# Trades in the local books and at the venue

The venue and the local account settle the same trades. The venue moves the base asset, the quote
asset and the asset of the commission; the account moves a position and its cash, and takes every
commission from the cash. After a list of trades the books are what the venue's snapshot reports
if and only if every commission was paid in the quote asset, or nothing was (`settled_books_iff`).
-/

namespace AdvisorAI

open Lib List Local

/-- Cash and positions are the same, an instrument that is not there counting as none. -/
def Book.Same (a b : Book) : Prop :=
  a.cash = b.cash ∧ ∀ instrument, a.held instrument = b.held instrument

namespace BinanceSpotTestnetTransport

variable {σ : Type} (settings : BinanceSettings σ)

/-! ## Fills of trades -/

/-- What `fill_contract_values` returns. -/
structure FillContractValues where
  venueFillId : String
  orderId : String
  symbol : String
  side : Side
  quantity : ℚ
  price : ℚ
  fee : ℚ
  occurredAt : Timestamp

def milliseconds (label : String) (value : Option PyValue) : Except VenueFailure Timestamp := do
  let timestamp ← settings.outside.decimalOf "Binance" label true value
  ((settings.outside.fromMilliseconds timestamp).map Except.ok).getD
    (.error (.venue ("Binance response has malformed " ++ label) none))

def fillContractValues (record : VenueRecord) : Except VenueFailure FillContractValues := do
  let quantity ← settings.outside.decimalOf "Binance" "fill quantity" true (lookupEntry "qty" record)
  let price ← settings.outside.decimalOf "Binance" "fill price" true (lookupEntry "price" record)
  let fee ← amount settings record "commission" "fill fee"
  let occurredAt ← milliseconds settings "fill time" (lookupEntry "time" record)
  return {
    venueFillId := settings.outside.upper
        (settings.outside.str (VenueOutside.field record ["symbol"] "")) ++ ":" ++
      settings.outside.str (VenueOutside.field record ["id"] "")
    orderId := settings.outside.word record ["orderId"] ""
    symbol := settings.outside.upper (settings.outside.word record ["symbol"] "")
    side := if (lookupEntry "isBuyer" record).any CoinbaseExchangeSandboxTransport.isTruthy then .buy
      else .sell
    quantity := quantity
    price := price
    fee := fee
    occurredAt := occurredAt }

variable (values : FillContractValues)

/-- `Fill(…)` of these values. -/
def FillContractValues.fill (artifactId orderId : UUID) :
    Except PyError (AccountFill ℚ) :=
  if h : (0 < values.quantity ∧ 0 < values.price ∧ 0 ≤ values.fee) ∧
      isBlank values.venueFillId = false ∧
      (datetimeMin ≤ values.occurredAt ∧ values.occurredAt ≤ datetimeMax) then
    .ok {
      artifactId := artifactId
      orderId := orderId
      venueFillId := strip values.venueFillId
      quantity := values.quantity
      price := values.price
      fee := values.fee
      occurredAt := values.occurredAt
      quantity_pos := decide_eq_true h.1.1
      price_pos := decide_eq_true h.1.2.1
      fee_nonneg := decide_eq_false (not_lt.mpr h.1.2.2)
      venueFillId_normal := isIdentity_strip h.2.1
      occurredAt_valid := h.2.2 }
  else .error (valueError "validation error for Fill")

/-- The quantity of the base asset that comes with a fill. -/
def FillContractValues.signedQuantity : ℚ :=
  match values.side with
  | .buy => values.quantity
  | .sell => -values.quantity

def FillContractValues.cost : ℚ :=
  values.price * values.signedQuantity

/-! ## Markets and trades -/

/-- Verified symbols of one quote asset, each under its normal name. -/
structure SpotMarket where
  specs : List BinanceSpotSymbolSpec
  quoteAsset : String
  quoted : ∀ spec ∈ specs, spec.quoteAsset = quoteAsset
  traded : ∀ spec ∈ specs, spec.baseAsset ≠ quoteAsset
  normal : ∀ spec ∈ specs, settings.outside.upper (strip spec.symbol) = spec.symbol ∧
    spec.symbol ≠ ""
  distinct : (specs.map fun spec => spec.symbol).Nodup

/-- A trade as the venue lists it, in one of the symbols. -/
structure BinanceTrade (market : SpotMarket settings) where
  record : VenueRecord
  values : FillContractValues
  spec : BinanceSpotSymbolSpec
  read : fillContractValues settings record = .ok values
  spec_mem : spec ∈ market.specs
  symbol_eq : values.symbol = spec.symbol
  time_valid : datetimeMin ≤ values.occurredAt ∧ values.occurredAt ≤ datetimeMax

variable {settings} {market : SpotMarket settings}

def BinanceTrade.commissionAsset (trade : BinanceTrade settings market) : String :=
  settings.outside.upper (settings.outside.word trade.record ["commissionAsset"] "")

def instrumentOf (spec : BinanceSpotSymbolSpec) : String :=
  "crypto:" ++ spec.symbol ++ ":binance_spot_testnet:spot"

/-! ## The venue -/

abbrev Balances := String → ℚ

def Balances.move (balances : Balances) (asset : String) (change : ℚ) : Balances :=
  fun other => if other = asset then balances other + change else balances other

def settle (balances : Balances) (trade : BinanceTrade settings market) : Balances :=
  ((balances.move trade.spec.baseAsset trade.values.signedQuantity).move
    trade.spec.quoteAsset (-trade.values.cost)).move trade.commissionAsset (-trade.values.fee)

def settled (balances : Balances) (trades : List (BinanceTrade settings market)) : Balances :=
  trades.foldl settle balances

/-- The account that the transport is shown has these totals. -/
def Reports (market : SpotMarket settings) (t : BinanceSpotTestnetTransport σ)
    (balances : Balances) : Prop :=
  ∀ payload t₁ found t₂, accountState settings t = .ok payload t₁ →
    records "Binance" "balances" ((lookupEntry "balances" payload).getD .none) t₁ = .ok found t₂ →
    ∀ asset, asset = market.quoteAsset ∨ (∃ spec ∈ market.specs, asset = spec.baseAsset) →
      ((byAsset settings found).get asset = none → balances asset = 0) ∧
        ∀ record, (byAsset settings found).get asset = some record →
          totalBalance settings record asset = .ok (balances asset)

/-! ## The local books -/

section Books

variable (artifactId orderId : FillContractValues → UUID) (s : AccountState ℚ)

def bookTrade (trade : BinanceTrade settings market) :
    Except VenueFailure (AccountState ℚ) := do
  let values ← fillContractValues settings trade.record
  let fill ← constructed (values.fill (artifactId values) (orderId values))
  let instrumentId ← canonicalInstrumentId settings values.symbol
  constructed (Local.result (AccountState.applyFill fill values.side.value instrumentId) s)

def bookTrades (trades : List (BinanceTrade settings market)) :
    Except VenueFailure (AccountState ℚ) :=
  trades.foldlM (bookTrade artifactId orderId) s

end Books

/-- A book has the totals of an account, under the instruments of the market. -/
structure SpotMarket.Mirrors (market : SpotMarket settings) (balances : Balances) (book : Book) :
    Prop where
  cash : book.cash = balances market.quoteAsset
  held : ∀ spec ∈ market.specs, book.held (instrumentOf spec) = balances spec.baseAsset
  nothing : ∀ instrument, (∀ spec ∈ market.specs, instrument ≠ instrumentOf spec) →
    book.held instrument = 0

def reportedBook (snapshot : VenueAccountSnapshot ℚ) : Book := ⟨snapshot.cash, snapshot.positions⟩

/-! ## Names of instruments -/

variable {spec spec' : BinanceSpotSymbolSpec}

theorem instrumentOf_injective (h : instrumentOf spec = instrumentOf spec') :
    spec.symbol = spec'.symbol := by
  have hlist := congrArg String.toList h
  unfold instrumentOf at hlist
  simp only [String.toList_append] at hlist
  exact String.toList_inj.mp (append_cancel_left (append_cancel_right hlist))

theorem instrumentOf_plain (spec : BinanceSpotSymbolSpec) :
    isBlank (instrumentOf spec) = false ∧ strip (instrumentOf spec) = instrumentOf spec := by
  have hlist : (instrumentOf spec).toList
      = 'c' :: ("rypto:".toList ++ spec.symbol.toList ++ ":binance_spot_testnet:spo".toList ++ ['t']) := by
    unfold instrumentOf
    simp [String.toList_append]
  have hfirst : isSpace 'c' = false := by decide
  have hlast : isSpace 't' = false := by decide
  constructor
  · unfold isBlank
    rw [hlist, all_cons, hfirst]
    rfl
  · unfold strip
    rw [hlist, dropWhile_cons_of_neg (by rw [hfirst]; exact Bool.false_ne_true),
      ← cons_append, reverse_append, reverse_singleton, singleton_append,
      dropWhile_cons_of_neg (by rw [hlast]; exact Bool.false_ne_true), reverse_cons,
      reverse_reverse, cons_append, ← hlist, String.ofList_toList]

theorem canonicalInstrumentId_spec (hspec : spec ∈ market.specs) :
    canonicalInstrumentId settings spec.symbol = .ok (instrumentOf spec) := by
  obtain ⟨hnormal, hne⟩ := market.normal spec hspec
  unfold canonicalInstrumentId
  rw [hnormal, if_neg hne]
  rfl

/-! ## What a trade does -/

section Steps

variable (artifactId orderId : FillContractValues → UUID) {s s' : AccountState ℚ}
  {trade : BinanceTrade settings market}

theorem FillContractValues.signed_side (values : FillContractValues) :
    AdvisorAI.signedQuantity values.side.value values.quantity = values.signedQuantity := by
  unfold AdvisorAI.signedQuantity FillContractValues.signedQuantity
  cases values.side with
  | buy => exact if_pos (by decide)
  | sell => exact if_neg (by decide)

theorem BinanceTrade.positive (trade : BinanceTrade settings market) :
    0 < trade.values.quantity ∧ 0 < trade.values.price ∧ isBlank trade.values.venueFillId = false := by
  have hpositive : ∀ {label value q},
      settings.outside.decimalOf "Binance" label true value = .ok q → 0 < q := by
    intro label value q h
    unfold VenueOutside.decimalOf at h
    split at h
    · cases h
    · cases h
    · cases h
    · split at h
      · cases h
      · next q' _ =>
        rw [Bool.true_and] at h
        by_cases hle : q' ≤ 0
        · rw [if_pos (decide_eq_true hle)] at h
          cases h
        · rw [if_neg (by simpa using hle)] at h
          cases h
          exact not_le.mp hle
  have hread := trade.read
  obtain ⟨quantity, hquantity, hread⟩ := bind_ok_iff.mp hread
  obtain ⟨price, hprice, hread⟩ := bind_ok_iff.mp hread
  obtain ⟨fee, -, hread⟩ := bind_ok_iff.mp hread
  obtain ⟨occurredAt, -, hread⟩ := bind_ok_iff.mp hread
  have hvalues := (Except.ok.inj hread).symm
  rw [hvalues]
  refine ⟨hpositive hquantity, hpositive hprice, ?_⟩
  unfold isBlank
  simp only [String.toList_append, all_append]
  have hcolon : (":".toList.all isSpace) = false := by decide
  rw [hcolon]
  simp

theorem bookTrade_fee (h : bookTrade artifactId orderId s trade = .ok s') :
    0 ≤ trade.values.fee := by
  obtain ⟨values, hvalues, h⟩ := bind_ok_iff.mp h
  obtain ⟨fill, hfill, -⟩ := bind_ok_iff.mp h
  rw [trade.read] at hvalues
  cases hvalues
  replace hfill := constructed_ok hfill
  unfold FillContractValues.fill at hfill
  split at hfill
  · next hvalid => exact hvalid.1.2.2
  · cases hfill

/-- **A trade is booked**: its cost and its fee leave the cash, and one position moves. -/
theorem bookTrade_ok (hfee : 0 ≤ trade.values.fee) :
    ∃ s', bookTrade artifactId orderId s trade = .ok s' ∧
      s'.cash = s.cash - trade.values.cost - trade.values.fee ∧
      ∀ instrument, s'.book.held instrument
        = if instrument = instrumentOf trade.spec
          then s.book.held instrument + trade.values.signedQuantity
          else s.book.held instrument := by
  obtain ⟨hquantity, hprice, hidentity⟩ := trade.positive
  have hfill : ∃ fill, trade.values.fill (artifactId trade.values) (orderId trade.values) = .ok fill ∧
      fill.price = trade.values.price ∧ fill.quantity = trade.values.quantity ∧
      fill.fee = trade.values.fee :=
    ⟨_, dif_pos ⟨⟨hquantity, hprice, hfee⟩, hidentity, trade.time_valid⟩, rfl, rfl, rfl⟩
  obtain ⟨fill, hfill, hfillPrice, hfillQuantity, hfillFee⟩ := hfill
  obtain ⟨hblank, hstrip⟩ := instrumentOf_plain trade.spec
  have hside : lower (strip trade.values.side.value) ∈ ["buy", "sell"] := by
    cases trade.values.side with
    | buy => decide
    | sell => decide
  obtain ⟨s₁, hrun, -, -, hcash, hpositions⟩ := applyFill_run (s := s) fill hblank hside
  rw [hfillPrice, hfillQuantity, FillContractValues.signed_side] at hcash hpositions
  rw [hstrip] at hpositions
  have hbook : bookTrade artifactId orderId s trade = .ok (s₁.advanced fill.occurredAt) := by
    refine bind_ok_iff.mpr ⟨_, trade.read, bind_ok_iff.mpr ⟨fill, by rw [hfill]; rfl, ?_⟩⟩
    rw [trade.symbol_eq]
    refine bind_ok_iff.mpr ⟨_, canonicalInstrumentId_spec trade.spec_mem, ?_⟩
    unfold Local.result
    rw [hrun]
    rfl
  refine ⟨_, hbook, ?_, ?_⟩
  · show s₁.cash = _
    rw [hcash, hfillFee]
    rfl
  · intro instrument
    have htrade := s.book.held_trade (instrumentOf trade.spec) trade.values.price
      trade.values.signedQuantity instrument
    show s₁.positions.getD instrument 0 = _
    rw [hpositions]
    refine htrade.trans ?_
    by_cases h : instrument = instrumentOf trade.spec
    · rw [if_pos h, if_pos h, h]
    · rw [if_neg h, if_neg h]

end Steps

/-! ## What a list of trades does -/

section Runs

variable (artifactId orderId : FillContractValues → UUID) {s s' : AccountState ℚ}
  {balances : Balances}

theorem Balances.move_ne {balances : Balances} {asset other : String} (h : other ≠ asset)
    (change : ℚ) : balances.move asset change other = balances other := if_neg h

theorem Balances.move_self (balances : Balances) (asset : String) (change : ℚ) :
    balances.move asset change asset = balances asset + change := if_pos rfl

/-- A commission that is paid in the quote asset. -/
def BinanceTrade.quoteFee (trade : BinanceTrade settings market) : ℚ :=
  if trade.commissionAsset = market.quoteAsset then trade.values.fee else 0

theorem settle_quote (balances : Balances) (trade : BinanceTrade settings market) :
    settle balances trade market.quoteAsset
      = balances market.quoteAsset - trade.values.cost - trade.quoteFee := by
  have hquote := market.quoted _ trade.spec_mem
  have hbase := market.traded _ trade.spec_mem
  unfold settle BinanceTrade.quoteFee
  by_cases hasset : trade.commissionAsset = market.quoteAsset
  · rw [if_pos hasset, hasset, Balances.move_self, hquote, Balances.move_self,
      Balances.move_ne hbase.symm]
    ring
  · rw [if_neg hasset, Balances.move_ne (Ne.symm hasset), hquote, Balances.move_self,
      Balances.move_ne hbase.symm]
    ring

variable {spec spec' : BinanceSpotSymbolSpec}

theorem settle_base (balances : Balances) (trade : BinanceTrade settings market)
    (hfee : trade.values.fee = 0 ∨ trade.commissionAsset = market.quoteAsset)
    (hspec : spec ∈ market.specs) :
    settle balances trade spec.baseAsset
      = if spec.baseAsset = trade.spec.baseAsset
        then balances spec.baseAsset + trade.values.signedQuantity
        else balances spec.baseAsset := by
  have hquote := market.quoted _ trade.spec_mem
  have hbase := market.traded _ hspec
  have hcommission : ∀ b : Balances, b.move trade.commissionAsset (-trade.values.fee) spec.baseAsset
      = b spec.baseAsset := by
    intro b
    rcases hfee with hfee | hasset
    · unfold Balances.move
      rw [hfee, neg_zero, add_zero, ite_self]
    · rw [hasset, Balances.move_ne hbase]
  unfold settle
  rw [hcommission, hquote, Balances.move_ne hbase]
  rfl

theorem SpotMarket.base_iff (market : SpotMarket settings) (hspec : spec ∈ market.specs)
    (hspec' : spec' ∈ market.specs) :
    spec.baseAsset = spec'.baseAsset ↔ instrumentOf spec = instrumentOf spec' := by
  have hsymbol : ∀ spec ∈ market.specs, spec.symbol = spec.baseAsset ++ market.quoteAsset := by
    intro spec hspec
    rw [spec.symbol_eq, market.quoted _ hspec]
  constructor
  · intro hbase
    unfold instrumentOf
    rw [hsymbol _ hspec, hsymbol _ hspec', hbase]
  · intro hinstrument
    have h := instrumentOf_injective hinstrument
    rw [hsymbol _ hspec, hsymbol _ hspec'] at h
    have hlist := congrArg String.toList h
    rw [String.toList_append, String.toList_append] at hlist
    exact String.toList_inj.mp (append_cancel_right hlist)

/-- **One trade keeps the books equal** when its commission is paid in the quote asset. -/
theorem bookTrade_mirrors {trade : BinanceTrade settings market} (hfee : 0 ≤ trade.values.fee ∧
      (trade.values.fee = 0 ∨ trade.commissionAsset = market.quoteAsset))
    (h : market.Mirrors balances s.book) :
    ∃ s', bookTrade artifactId orderId s trade = .ok s' ∧
      market.Mirrors (settle balances trade) s'.book := by
  obtain ⟨s', hbook, hcash, hheld⟩ :=
    bookTrade_ok artifactId orderId (s := s) hfee.1
  have hquoteFee : trade.quoteFee = trade.values.fee := by
    unfold BinanceTrade.quoteFee
    split
    · rfl
    · next hasset => exact (hfee.2.resolve_right hasset).symm
  refine ⟨s', hbook, ?_, ?_, ?_⟩
  · rw [settle_quote, hquoteFee, ← h.cash]
    exact hcash
  · intro spec hspec
    rw [hheld, settle_base _ _ hfee.2 hspec, ← h.held spec hspec]
    by_cases hsame : spec.baseAsset = trade.spec.baseAsset
    · rw [if_pos hsame, if_pos ((market.base_iff hspec trade.spec_mem).mp hsame)]
    · rw [if_neg hsame, if_neg (mt (market.base_iff hspec trade.spec_mem).mpr hsame)]
  · intro instrument hnone
    rw [hheld, if_neg (hnone _ trade.spec_mem)]
    exact h.nothing instrument hnone

variable {trades : List (BinanceTrade settings market)}

theorem bookTrades_mirrors (hfees : ∀ trade ∈ trades, 0 ≤ trade.values.fee ∧
      (trade.values.fee = 0 ∨ trade.commissionAsset = market.quoteAsset))
    (h : market.Mirrors balances s.book) :
    ∃ s', bookTrades artifactId orderId s trades = .ok s' ∧
      market.Mirrors (settled balances trades) s'.book := by
  induction trades generalizing s balances with
  | nil => exact ⟨s, rfl, h⟩
  | cons trade trades ih =>
    rw [forall_mem_cons] at hfees
    obtain ⟨s₁, hfirst, hmirrors⟩ :=
      bookTrade_mirrors artifactId orderId hfees.1 h
    obtain ⟨s', hrest, hmirrors'⟩ := ih hfees.2 hmirrors
    exact ⟨s', bind_ok_iff.mpr ⟨s₁, hfirst, hrest⟩, hmirrors'⟩

/-- What is paid for trades, and their commissions. -/
def totalPaid (fee : BinanceTrade settings market → ℚ) (trades : List (BinanceTrade settings market)) :
    ℚ := (trades.map fun trade => trade.values.cost + fee trade).sum

theorem bookTrades_cash (h : bookTrades artifactId orderId s trades = .ok s') :
    (∀ trade ∈ trades, 0 ≤ trade.values.fee) ∧
      s'.cash = s.cash - totalPaid (fun trade => trade.values.fee) trades := by
  induction trades generalizing s with
  | nil =>
    cases h
    exact ⟨fun _ ht => absurd ht not_mem_nil, (sub_zero _).symm⟩
  | cons trade trades ih =>
    obtain ⟨s₁, hfirst, hrest⟩ := bind_ok_iff.mp h
    have hfee := bookTrade_fee _ _ hfirst
    obtain ⟨s₂, hbook, hcash, -⟩ :=
      bookTrade_ok artifactId orderId (s := s) hfee
    rw [hfirst] at hbook
    cases hbook
    obtain ⟨hfees, hcash'⟩ := ih hrest
    refine ⟨forall_mem_cons.mpr ⟨hfee, hfees⟩, ?_⟩
    rw [hcash', hcash]
    unfold totalPaid
    rw [map_cons, sum_cons]
    ring

theorem settled_quote (balances : Balances) (trades : List (BinanceTrade settings market)) :
    settled balances trades market.quoteAsset
      = balances market.quoteAsset - totalPaid BinanceTrade.quoteFee trades := by
  induction trades generalizing balances with
  | nil => exact (sub_zero _).symm
  | cons trade trades ih =>
    have hstep : settled balances (trade :: trades) = settled (settle balances trade) trades := rfl
    rw [hstep, ih, settle_quote]
    unfold totalPaid
    rw [map_cons, sum_cons]
    ring

/-- Commissions that are no less than those in the quote asset, and are the same in total, are all
in the quote asset. -/
theorem quoteFees_of_total (hfees : ∀ trade ∈ trades, 0 ≤ trade.values.fee)
    (h : totalPaid (fun trade => trade.values.fee) trades = totalPaid BinanceTrade.quoteFee trades)
    : ∀ trade ∈ trades, trade.values.fee = 0 ∨ trade.commissionAsset = market.quoteAsset := by
  have hle : ∀ trade : BinanceTrade settings market, 0 ≤ trade.values.fee →
      trade.quoteFee ≤ trade.values.fee := by
    intro trade hfee
    unfold BinanceTrade.quoteFee
    split
    · exact le_refl _
    · exact hfee
  have hsum : ∀ l : List (BinanceTrade settings market), (∀ trade ∈ l, 0 ≤ trade.values.fee) →
      totalPaid BinanceTrade.quoteFee l ≤ totalPaid (fun trade => trade.values.fee) l := by
    intro l hl
    refine sum_le_sum ?_
    intro trade htrade
    exact add_le_add (le_refl _) (hle trade (hl trade htrade))
  induction trades with
  | nil => exact fun _ ht => absurd ht not_mem_nil
  | cons trade trades ih =>
    rw [forall_mem_cons] at hfees ⊢
    unfold totalPaid at h
    rw [map_cons, map_cons, sum_cons, sum_cons] at h
    have hrest := hsum trades hfees.2
    unfold totalPaid at hrest
    have hfirst := hle trade hfees.1
    refine ⟨?_, ih hfees.2 (by unfold totalPaid; linarith)⟩
    have hsame : trade.quoteFee = trade.values.fee := by linarith
    unfold BinanceTrade.quoteFee at hsame
    split at hsame
    · next hasset => exact Or.inr hasset
    · exact Or.inl hsame.symm

end Runs

/-! ## The snapshot -/

section Snapshot

variable {balances : Balances} {found : Dict String VenueRecord}

/-- What the records of the balances say of an asset. -/
def Shown (settings : BinanceSettings σ) (found : Dict String VenueRecord) (asset : String)
    (total : ℚ) : Prop :=
  (found.get asset = none → total = 0) ∧
    ∀ record, found.get asset = some record → totalBalance settings record asset = .ok total

/-- The positions are those in the base assets. -/
theorem positionsOf_ok {specs : List BinanceSpotSymbolSpec} {positions positions' : Dict String ℚ}
    (hmem : ∀ spec ∈ specs, spec ∈ market.specs)
    (hdistinct : (specs.map fun spec => spec.symbol).Nodup)
    (hshown : ∀ spec ∈ specs, Shown settings found spec.baseAsset (balances spec.baseAsset))
    (hnew : ∀ spec ∈ specs, positions.getD (instrumentOf spec) 0 = 0)
    (h : positionsOf settings found specs positions = .ok positions') :
    (∀ spec ∈ specs, positions'.getD (instrumentOf spec) 0 = balances spec.baseAsset) ∧
      ∀ instrument, (∀ spec ∈ specs, instrument ≠ instrumentOf spec) →
        positions'.getD instrument 0 = positions.getD instrument 0 := by
  induction specs generalizing positions with
  | nil =>
    cases h
    exact ⟨fun _ hs => absurd hs not_mem_nil, fun _ _ => rfl⟩
  | cons spec specs ih =>
    rw [forall_mem_cons] at hmem hshown hnew
    rw [map_cons, nodup_cons] at hdistinct
    have hothers : ∀ other ∈ specs, instrumentOf other ≠ instrumentOf spec := by
      intro other hother hsame
      refine hdistinct.1 ?_
      rw [← instrumentOf_injective hsame]
      exact mem_map_of_mem hother
    -- what is there after this symbol stays there
    have hgo : ∀ p : Dict String ℚ, p.getD (instrumentOf spec) 0 = balances spec.baseAsset →
        (∀ instrument, instrument ≠ instrumentOf spec →
          p.getD instrument 0 = positions.getD instrument 0) →
        positionsOf settings found specs p = .ok positions' →
        (∀ other ∈ spec :: specs,
          positions'.getD (instrumentOf other) 0 = balances other.baseAsset) ∧
          ∀ instrument, (∀ other ∈ spec :: specs, instrument ≠ instrumentOf other) →
            positions'.getD instrument 0 = positions.getD instrument 0 := by
      intro p hself hrest hp
      obtain ⟨hheld, hkept⟩ := ih hmem.2 hdistinct.2 hshown.2 (fun other hother =>
        (hrest _ (hothers other hother)).trans (hnew.2 other hother)) hp
      refine ⟨forall_mem_cons.mpr ⟨?_, hheld⟩, ?_⟩
      · exact (hkept _ fun other hother => (hothers other hother).symm).trans hself
      · intro instrument hnone
        rw [forall_mem_cons] at hnone
        exact (hkept _ hnone.2).trans (hrest _ hnone.1)
    obtain ⟨hnone, hsome⟩ := hshown.1
    unfold positionsOf at h
    cases hfound : found.get spec.baseAsset with
    | none =>
      rw [hfound] at h
      exact hgo positions (hnew.1.trans (hnone hfound).symm) (fun _ _ => rfl) h
    | some record =>
      rw [hfound] at h
      obtain ⟨quantity, hquantity, h⟩ := bind_ok_iff.mp h
      rw [hsome record hfound] at hquantity
      cases hquantity
      by_cases hzero : balances spec.baseAsset = 0
      · rw [if_pos hzero] at h
        exact hgo positions (hnew.1.trans hzero.symm) (fun _ _ => rfl) h
      · rw [if_neg hzero] at h
        obtain ⟨instrument, hinstrument, h⟩ := bind_ok_iff.mp h
        rw [canonicalInstrumentId_spec hmem.1] at hinstrument
        cases hinstrument
        refine hgo _ ?_ ?_ h
        · unfold Dict.getD
          rw [Dict.get_set_self]
          rfl
        · intro other hother
          unfold Dict.getD
          rw [Dict.get_set_ne _ hother]

variable {t t' : BinanceSpotTestnetTransport σ}

theorem accountState_verified {payload : VenueRecord}
    (h : accountState settings t = .ok payload t') : t'.verifiedSymbols = t.verifiedSymbols := by
  have hrequest : Local.Keeps verifiedSymbols
      (request settings "GET" "/api/v3/account" [] true false) := by
    refine .bind (pathUrl_keeps _ _ _) fun url => .bind ?_ fun response => decodeBody_keeps _ _
    refine onClient_keeps ?_ _
    intro c t
    rfl
  have hkeeps : Local.Keeps verifiedSymbols (accountState settings) :=
    .bind hrequest fun _ => .bind (object_keeps _ _) fun _ =>
      .ite (.raise _) (.ite (.raise _) (.pure _))
  exact hkeeps.ok h

/-- **A snapshot reports the books** of an account in the symbols of the market. -/
theorem snapshot_mirrors {snapshot : VenueAccountSnapshot ℚ}
    (hverified : t.verifiedSymbols.values = market.specs) (hreports : Reports market t balances)
    (h : fetchAccountSnapshot settings t = .ok snapshot t') :
    market.Mirrors balances (reportedBook snapshot) := by
  obtain ⟨payload, t₁, haccount, h₁⟩ := of_bind_ok h
  obtain ⟨listed, t₂, hlisted, h₂⟩ := of_bind_ok h₁
  obtain ⟨verified, t₃, hread, h₃⟩ := of_bind_ok h₂
  obtain ⟨projection, t₄, hprojection, h₄⟩ := of_bind_ok h₃
  obtain ⟨asOf, t₅, -, h₅⟩ := of_bind_ok h₄
  obtain ⟨free, t₆, -, hmade⟩ := of_bind_ok h₅
  have hshown : ∀ asset, asset = market.quoteAsset ∨ (∃ spec ∈ market.specs, asset = spec.baseAsset) →
      Shown settings (byAsset settings listed) asset (balances asset) :=
    hreports payload t₁ listed t₂ haccount hlisted
  have hsame := accountState_verified haccount
  cases (records_keeps (p := id) _ _ _).ok hlisted
  cases hread
  obtain ⟨-, hprojection⟩ := lift_ok hprojection
  obtain ⟨-, hcash, hpositions, -⟩ := VenueAccountSnapshot.check_ok (constructed_ok (lift_ok hmade).2)
  dsimp only at hprojection
  rw [hsame, hverified] at hprojection
  unfold project at hprojection
  split at hprojection
  · cases hprojection
  · next quoteAsset hquotes =>
    have hquote : quoteAsset = market.quoteAsset := by
      have hmem : quoteAsset ∈ (market.specs.map fun spec => spec.quoteAsset).dedup := by
        rw [hquotes]
        exact mem_singleton_self _
      obtain ⟨spec, hspec, rfl⟩ := mem_map.mp (mem_dedup.mp hmem)
      exact market.quoted spec hspec
    rw [hquote] at hprojection
    split at hprojection
    · cases hprojection
    · next record hrecord =>
      obtain ⟨cash, hcash', hprojection⟩ := bind_ok_iff.mp hprojection
      obtain ⟨positions, hpositions', hprojection⟩ := bind_ok_iff.mp hprojection
      rw [(hshown _ (Or.inl rfl)).2 record hrecord] at hcash'
      cases hcash'
      cases hprojection
      obtain ⟨hheld, hnothing⟩ := positionsOf_ok (fun _ hs => hs) market.distinct
        (fun spec hspec => hshown _ (Or.inr ⟨spec, hspec, rfl⟩)) (fun _ _ => rfl) hpositions'
      refine ⟨hcash, ?_, ?_⟩
      · intro spec hspec
        show snapshot.positions.getD _ 0 = _
        rw [hpositions]
        exact hheld spec hspec
      · intro instrument hnone
        show snapshot.positions.getD _ 0 = _
        rw [hpositions]
        exact hnothing instrument hnone
  · cases hprojection

end Snapshot

/-! ## The books and the snapshot -/

theorem same_of_mirrors {balances : Balances} {a b : Book} (ha : market.Mirrors balances a)
    (hb : market.Mirrors balances b) : a.Same b := by
  refine ⟨ha.cash.trans hb.cash.symm, ?_⟩
  intro instrument
  by_cases h : ∃ spec ∈ market.specs, instrument = instrumentOf spec
  · obtain ⟨spec, hspec, rfl⟩ := h
    exact (ha.held spec hspec).trans (hb.held spec hspec).symm
  · have hnone : ∀ spec ∈ market.specs, instrument ≠ instrumentOf spec :=
      fun spec hspec heq => h ⟨spec, hspec, heq⟩
    exact (ha.nothing _ hnone).trans (hb.nothing _ hnone).symm

/-- **The local books agree with the snapshot** after trades exactly when every commission is nothing
or is paid in the quote asset. -/
theorem settled_books_iff {artifactId orderId : FillContractValues → UUID} {s : AccountState ℚ}
    {balances : Balances} {trades : List (BinanceTrade settings market)}
    {t t' : BinanceSpotTestnetTransport σ} {snapshot : VenueAccountSnapshot ℚ}
    (hstart : market.Mirrors balances s.book) (hverified : t.verifiedSymbols.values = market.specs)
    (hreports : Reports market t (settled balances trades))
    (hsnapshot : fetchAccountSnapshot settings t = .ok snapshot t') :
    (∃ s', bookTrades artifactId orderId s trades = .ok s' ∧ s'.book.Same (reportedBook snapshot)) ↔
      ∀ trade ∈ trades, 0 ≤ trade.values.fee ∧
        (trade.values.fee = 0 ∨ trade.commissionAsset = market.quoteAsset) := by
  have hreported := snapshot_mirrors hverified hreports hsnapshot
  constructor
  · rintro ⟨s', hbooked, hcash, -⟩
    obtain ⟨hfees, hpaid⟩ := bookTrades_cash _ _ hbooked
    have hvenue := hreported.cash
    rw [settled_quote, ← hstart.cash] at hvenue
    have htotal : s'.cash = (reportedBook snapshot).cash := hcash
    have hbook : s.book.cash = s.cash := rfl
    rw [hpaid, hvenue, hbook] at htotal
    intro trade htrade
    exact ⟨hfees trade htrade, quoteFees_of_total hfees (by linarith) trade htrade⟩
  · intro hfees
    obtain ⟨s', hbooked, hmirrors⟩ :=
      bookTrades_mirrors artifactId orderId hfees hstart
    exact ⟨s', hbooked, same_of_mirrors hmirrors hreported⟩

/-! ## A commission in a third asset -/

/-- A venue that shows an account with these totals, spelled by their lengths. -/
def totalsWire (usdt btc : ℕ) : Wire ℕ where
  request request _ _ n := .ok ⟨200, .json (if request.url.path = "/api/v3/time" then
      .map [("serverTime", .str "i")]
    else .map [("accountType", .str "SPOT"), ("canTrade", .bool true),
      ("balances", .seq [
        .map [("asset", .str "USDT"), ("free", .str (String.ofList (List.replicate usdt 'i'))),
          ("locked", .str "")],
        .map [("asset", .str "BTC"), ("free", .str (String.ofList (List.replicate btc 'i'))),
          ("locked", .str "")]])])⟩ (n + 1)

/-- The venue after one unit was bought for three. -/
def boughtSettings : BinanceSettings ℕ := ⟨totalsWire 7 1, tallyVenue, 5000, fun _ => 1⟩

def btcMarket : SpotMarket boughtSettings where
  specs := [btcSpec]
  quoteAsset := "USDT"
  quoted := by
    intro spec hspec
    rw [mem_singleton.mp hspec]
    rfl
  traded := by
    intro spec hspec
    rw [mem_singleton.mp hspec]
    decide
  normal := by
    intro spec hspec
    rw [mem_singleton.mp hspec]
    decide
  distinct := nodup_singleton _

/-- One unit is bought for three, and a unit of a third asset is the commission. -/
def bnbTrade : BinanceTrade boughtSettings btcMarket where
  record := [("symbol", .str "BTCUSDT"), ("id", .str "1"), ("orderId", .str "9"),
    ("isBuyer", .bool true), ("qty", .str "i"), ("price", .str "iii"), ("commission", .str "i"),
    ("commissionAsset", .str "BNB"), ("time", .str "i")]
  values := ⟨"BTCUSDT:1", "9", "BTCUSDT", .buy, 1, 3, 1, 1⟩
  spec := btcSpec
  read := by
    have hone : ∀ label value, tallyVenue.decimalOf "Binance" label value (some (.str "i")) = .ok 1 := by
      intro label value
      cases value <;> rfl
    have hthree : ∀ label, tallyVenue.decimalOf "Binance" label true (some (.str "iii")) = .ok 3 :=
      fun _ => rfl
    refine bind_ok_iff.mpr ⟨_, hone _ _, bind_ok_iff.mpr ⟨_, hthree _, bind_ok_iff.mpr
      ⟨_, hone _ _, bind_ok_iff.mpr ⟨1, ?_, ?_⟩⟩⟩⟩
    · exact bind_ok_iff.mpr ⟨_, hone _ _, by decide +kernel⟩
    · rfl
  spec_mem := mem_singleton_self _
  symbol_eq := rfl
  time_valid := by decide

/-- Ten of the quote asset and some of a third one. -/
def startTotals : Balances := fun asset =>
  if asset = "USDT" then 10 else if asset = "BNB" then 5 else 0

def boughtTransport : BinanceSpotTestnetTransport ℕ :=
  ⟨1, Dict.empty.set "BTCUSDT" btcSpec, Dict.empty, Dict.empty, none⟩

theorem startTotals_mirrored : btcMarket.Mirrors startTotals (AccountState.new (10 : ℚ) 0).book where
  cash := by decide +kernel
  held := by
    intro spec hspec
    rw [mem_singleton.mp hspec]
    decide +kernel
  nothing := fun _ _ => rfl

theorem bought_reports : Reports btcMarket boughtTransport (settled startTotals [bnbTrade]) := by
  intro payload t₁ found t₂ haccount hfound asset hasset
  cases haccount
  cases hfound
  have hassets : asset = "USDT" ∨ asset = "BTC" := by
    rcases hasset with hquote | ⟨spec, hspec, hbase⟩
    · exact Or.inl hquote
    · rw [mem_singleton.mp hspec] at hbase
      exact Or.inr hbase
  rcases hassets with rfl | rfl
  · refine ⟨fun hnone => (by cases hnone), ?_⟩
    intro record hrecord
    cases hrecord
    decide +kernel
  · refine ⟨fun hnone => (by cases hnone), ?_⟩
    intro record hrecord
    cases hrecord
    decide +kernel

theorem bought_shown : ∃ snapshot t',
    fetchAccountSnapshot boughtSettings boughtTransport = .ok snapshot t' := by
  have hreturns : (Local.result (fetchAccountSnapshot boughtSettings) boughtTransport).toOption.isSome
      = true := by decide +kernel
  unfold Local.result at hreturns
  cases hfetch : fetchAccountSnapshot boughtSettings boughtTransport with
  | ok snapshot t' => exact ⟨snapshot, t', rfl⟩
  | error e t' =>
    rw [hfetch] at hreturns
    cases hreturns

/-- The commission left the third asset at the venue, and the cash in the local books. -/
theorem bnb_commission_differs : ¬∀ (s : AccountState ℚ) (balances : Balances)
    (trades : List (BinanceTrade boughtSettings btcMarket))
    (t t' : BinanceSpotTestnetTransport ℕ) (snapshot : VenueAccountSnapshot ℚ),
    btcMarket.Mirrors balances s.book → t.verifiedSymbols.values = btcMarket.specs →
    Reports btcMarket t (settled balances trades) →
    fetchAccountSnapshot boughtSettings t = .ok snapshot t' →
    ∃ s', bookTrades (fun _ => 1) (fun _ => 2) s trades = .ok s' ∧
      s'.book.Same (reportedBook snapshot) := by
  intro h
  obtain ⟨snapshot, t', hsnapshot⟩ := bought_shown
  obtain ⟨s', hbooked, hcash, -⟩ := h (AccountState.new 10 0) startTotals [bnbTrade] boughtTransport
    t' snapshot startTotals_mirrored rfl bought_reports hsnapshot
  have hlocal := (bookTrades_cash _ _ hbooked).2
  have hvenue : (reportedBook snapshot).cash = settled startTotals [bnbTrade] btcMarket.quoteAsset :=
    (snapshot_mirrors rfl bought_reports hsnapshot).cash
  have hvalues : (AccountState.new (10 : ℚ) 0).cash
        - totalPaid (fun trade => trade.values.fee) [bnbTrade] = 6 ∧
      settled startTotals [bnbTrade] btcMarket.quoteAsset = 7 := by decide +kernel
  rw [hvalues.1] at hlocal
  rw [hvalues.2] at hvenue
  have hsame : s'.cash = (reportedBook snapshot).cash := hcash
  rw [hlocal, hvenue] at hsame
  exact absurd hsame (by decide +kernel)

/-- The same trade decided by its commission. -/
theorem settled_books_bnb : ∃ snapshot t',
    fetchAccountSnapshot boughtSettings boughtTransport = .ok snapshot t' ∧
    ((∃ s', bookTrades (fun _ => 1) (fun _ => 2) (AccountState.new (10 : ℚ) 0) [bnbTrade] = .ok s' ∧
        s'.book.Same (reportedBook snapshot)) ↔
      ∀ trade ∈ [bnbTrade], 0 ≤ trade.values.fee ∧
        (trade.values.fee = 0 ∨ trade.commissionAsset = btcMarket.quoteAsset)) := by
  obtain ⟨snapshot, t', hsnapshot⟩ := bought_shown
  exact ⟨snapshot, t', hsnapshot,
    settled_books_iff startTotals_mirrored rfl bought_reports hsnapshot⟩

end BinanceSpotTestnetTransport

end AdvisorAI
