import AdvisorAI.Integrations.Freshness
import AdvisorAI.Integrations.Reach

/-!
# The filters of a product

A venue takes orders of a product in steps of the quantity and of the price, between bounds, and
from some value on. The Binance transport holds an order against all of these before it sends it,
the Coinbase transport against the bounds of the quantity alone: `sent_orders_fit_iff`.
-/

namespace AdvisorAI

open Lib List Local

/-- What a venue asks of the orders of a product. -/
structure ProductFilters where
  baseIncrement : ℚ
  baseMin : ℚ
  baseMax : Option ℚ
  quoteIncrement : ℚ
  minNotional : Option ℚ

namespace ProductFilters

variable (f : ProductFilters) (quantity : ℚ) (price : Option ℚ)

/-- The steps of the quantity and of a limit price, and the least value. -/
def OnGrid : Prop :=
  BinanceSpotTestnetTransport.isMultiple quantity f.baseIncrement = true ∧ ∀ p ∈ price,
    BinanceSpotTestnetTransport.isMultiple p f.quoteIncrement = true ∧
      ∀ least ∈ f.minNotional, least ≤ p * quantity

/-- **An order fits** its product. -/
def Fits : Prop :=
  f.baseMin ≤ quantity ∧ (∀ most ∈ f.baseMax, quantity ≤ most) ∧ f.OnGrid quantity price

end ProductFilters

namespace VenueOutside

variable (outside : VenueOutside) (venue label : String) (payload : VenueRecord)

/-- The quantity of an order; the venues have their own words for it. -/
def orderQuantity : Except VenueFailure ℚ :=
  outside.decimalOf venue label true (lookupEntry "quantity" payload)

def orderPrice : Except VenueFailure ℚ :=
  outside.decimalOf venue "order price" true (lookupEntry "price" payload)

/-- The price of a limit order. -/
def limitPrice : Option ℚ :=
  if lower (outside.word payload ["order_type"] "") ∈ ["limit", "passive_limit"] then
    (outside.orderPrice venue payload).toOption
  else none

end VenueOutside

/-! ## Binance -/

namespace BinanceSpotTestnetTransport

variable {settings : BinanceSettings SafeHttpClient} {payload : VenueRecord}
  {t : BinanceSpotTestnetTransport SafeHttpClient}

def filters (spec : BinanceSpotSymbolSpec) : ProductFilters :=
  ⟨spec.baseIncrement, spec.baseMinQty, spec.baseMaxQty, spec.quoteIncrement, spec.minNotional⟩

/-- The order of a symbol that was admitted fits it. -/
def FitsSymbol (settings : BinanceSettings SafeHttpClient) (payload : VenueRecord)
    (t : BinanceSpotTestnetTransport SafeHttpClient) : Prop :=
  ∃ spec quantity, t.verifiedSymbols.get (settings.outside.upper (strip
      (settings.outside.upper (settings.outside.word payload ["symbol"] "")))) = some spec ∧
    settings.outside.orderQuantity "Binance" "order quantity" payload = .ok quantity ∧
    (filters spec).Fits quantity (settings.outside.limitPrice "Binance" payload)

/-- **What the Binance transport sends** fits its product. -/
theorem fits_of_sends (h : Sends client (submitOrder settings payload) t) :
    FitsSymbol settings payload t := by
  obtain ⟨order, hvalid, -⟩ := Sends.of_bind (validateOrder_keeps payload) h
  unfold validateOrder at hvalid
  split_ifs at hvalid with hid hadmissible
  · cases hvalid
  · cases hvalid
  obtain ⟨spec, t₁, hspec, hvalid⟩ := of_bind_ok hvalid
  obtain ⟨quantity, t₂, hquantity, hvalid⟩ := of_bind_ok hvalid
  obtain ⟨_, t₃, hchecked, hvalid⟩ := of_bind_ok hvalid
  have hchecked := (lift_ok hchecked).2
  unfold validateQuantity at hchecked
  split_ifs at hchecked with hstep hleast hmost
  have hstep : isMultiple quantity spec.baseIncrement = true := by simpa using hstep
  have hmost : ∀ most ∈ spec.baseMaxQty, quantity ≤ most := by
    simpa [Option.any_eq_false] using hmost
  refine ⟨spec, quantity, (verifiedSymbol_ok hspec).2, (lift_ok hquantity).2, not_lt.mp hleast,
    hmost, hstep, ?_⟩
  intro p hp
  unfold VenueOutside.limitPrice at hp
  split_ifs at hp with hlimit
  · have htype : lower (settings.outside.word payload ["order_type"] "") ≠ "market" := by
      intro hmarket
      rw [hmarket] at hlimit
      exact absurd hlimit (by decide)
    dsimp only at hvalid
    rw [if_neg htype] at hvalid
    split_ifs at hvalid
    · obtain ⟨_, t₄, hprice, -⟩ := of_bind_ok hvalid
      have hprice := (lift_ok hprice).2
      have hread : settings.outside.decimalOf "Binance" "order price" true
          (lookupEntry "price" payload) = .ok p := ok_of_toOption hp
      unfold validatePrice at hprice
      split_ifs at hprice with hnone
      rw [hread] at hprice
      dsimp only [bind, Except.bind] at hprice
      split_ifs at hprice with htick hnotional
      have htick : isMultiple p spec.quoteIncrement = true := by simpa using htick
      have hnotional : ∀ least ∈ spec.minNotional, least ≤ p * quantity := by
        simpa [Option.any_eq_false] using hnotional
      exact ⟨htick, hnotional⟩
    · cases hvalid
  · cases hp

end BinanceSpotTestnetTransport

/-! ## Coinbase -/

/-- A product as `from_record` reads it, with two filters that no order is held against. -/
structure CoinbaseProduct extends CoinbaseProductSpec where
  quoteIncrement : ℚ
  minMarketFunds : Option ℚ

namespace CoinbaseExchangeSandboxTransport

variable {http : HttpSettings} {settings : CoinbaseSettings SafeHttpClient}
  {payload : VenueRecord} {t : CoinbaseExchangeSandboxTransport SafeHttpClient}
  {product : CoinbaseProduct} {quantity : ℚ}

def filters (product : CoinbaseProduct) : ProductFilters :=
  ⟨product.baseIncrement, product.baseMinSize.getD product.baseIncrement, product.baseMaxSize,
    product.quoteIncrement, product.minMarketFunds⟩

/-- An order of a quantity within the bounds of its product, with a price that can be read. -/
structure WithinBounds (outside : VenueOutside) (payload : VenueRecord)
    (product : CoinbaseProductSpec) (quantity : ℚ) : Prop where
  named : ¬(outside.word payload ["client_order_id"] "" = "" ∨
    outside.upper (outside.word payload ["symbol"] "") = "" ∨
      lower (outside.word payload ["side"] "") ∉ ["buy", "sell"])
  quantity_eq : outside.orderQuantity "Coinbase" "order size" payload = .ok quantity
  least : product.baseMinSize.getD product.baseIncrement ≤ quantity
  most : ∀ most ∈ product.baseMaxSize, quantity ≤ most
  priced : ∀ value ∈ (lookupEntry "price" payload).filter fun value => !value.same .none,
    ∃ p, outside.decimalOf "Coinbase" "order price" true (some value) = .ok p

/-- The order is of this product, which was admitted. -/
def Ordered (settings : CoinbaseSettings SafeHttpClient) (payload : VenueRecord)
    (t : CoinbaseExchangeSandboxTransport SafeHttpClient) (product : CoinbaseProductSpec) : Prop :=
  t.verifiedProducts.get (settings.outside.upper (strip
    (settings.outside.upper (settings.outside.word payload ["symbol"] "")))) = some product

theorem validateOrder_ok_iff {product : CoinbaseProductSpec} (hproduct : Ordered settings payload t product) :
    (∃ order, validateOrder settings payload t = .ok order t) ↔
      ∃ quantity, WithinBounds settings.outside payload product quantity := by
  have hverified : verifiedProduct settings
      (settings.outside.upper (settings.outside.word payload ["symbol"] "")) t = .ok product t := by
    refine (Local.bind_ok (read_ok _ _)).trans ?_
    rw [hproduct]
    rfl
  constructor
  · rintro ⟨order, hvalid⟩
    unfold validateOrder at hvalid
    split_ifs at hvalid with hid
    · cases hvalid
    · rw [Local.bind_ok hverified] at hvalid
      obtain ⟨quantity, t₁, hquantity, hvalid⟩ := of_bind_ok hvalid
      split_ifs at hvalid with hleast hmost
      · cases hvalid
      · cases hvalid
      · refine ⟨quantity, hid, (lift_ok hquantity).2, not_lt.mp hleast,
          by simpa [Option.any_eq_false] using hmost, ?_⟩
        intro value hgiven
        rw [hgiven] at hvalid
        obtain ⟨p, t₂, hprice, -⟩ := of_bind_ok hvalid
        exact ⟨p, (lift_ok hprice).2⟩
  · rintro ⟨quantity, hbounds⟩
    have hmost : product.baseMaxSize.any (fun most => most < quantity) = false := by
      simpa [Option.any_eq_false] using hbounds.most
    have hquantity : settings.outside.decimalOf "Coinbase" "order size" true
        (lookupEntry "quantity" payload) = .ok quantity := hbounds.quantity_eq
    unfold validateOrder
    rw [if_neg hbounds.named, Local.bind_ok hverified, hquantity]
    show ∃ order, (ite (quantity < product.baseMinSize.getD product.baseIncrement) _ _ :
      Coinbase SafeHttpClient ValidOrder) t = _
    rw [if_neg (not_lt.mpr hbounds.least), hmost, if_neg Bool.false_ne_true]
    cases hgiven : (lookupEntry "price" payload).filter fun value => !value.same .none with
    | none => exact ⟨_, rfl⟩
    | some value =>
      obtain ⟨p, hprice⟩ := hbounds.priced value hgiven
      rw [hprice]
      exact ⟨_, rfl⟩

/-- **What the Coinbase transport sends** is an order within the bounds. -/
theorem sends_iff (hwire : settings.wire = http.wire) (hready : Ready http settings t)
    (hreviewed : Reviewed http) {product : CoinbaseProductSpec}
    (hproduct : Ordered settings payload t product) :
    Sends client (submitOrder settings payload) t ↔
      ∃ quantity, WithinBounds settings.outside payload product quantity := by
  refine Iff.trans ?_ (validateOrder_ok_iff hproduct)
  constructor
  · intro h
    obtain ⟨order, hvalid, -⟩ := Sends.of_bind (validateOrder_keeps payload) h
    exact ⟨order, hvalid⟩
  · rintro ⟨order, hvalid⟩
    refine (Sends.bind_ok_iff hvalid rfl).mpr ?_
    refine Sends.bind (n := 0) (request_reaches hwire hready hreviewed orders_path _ _) fun _ => ?_
    refine Issues.bind_quiet (Issues.object _ _) fun record => ?_
    refine Issues.bind_quiet (Issues.lift _) fun normalized => Issues.ite (Issues.raise _) ?_
    exact Issues.bind_quiet (Issues.modify fun t => rfl) fun _ => Issues.pure _

def FitsProduct (settings : CoinbaseSettings SafeHttpClient) (payload : VenueRecord)
    (product : CoinbaseProduct) : Prop :=
  ∃ quantity, settings.outside.orderQuantity "Coinbase" "order size" payload = .ok quantity ∧
    (filters product).Fits quantity (settings.outside.limitPrice "Coinbase" payload)

def wholeProduct : CoinbaseProduct := ⟨⟨"A-B", "A", "B", 1, none, none⟩, 1, none⟩

def wholeOutside : VenueOutside := { paperVenue with
  decimal := fun s => if s = "1" then some 1 else if s = "1.5" then some (3 / 2) else none }

def wholeHttp : HttpSettings :=
  deadSettings "api-public.sandbox.exchange.coinbase.com" 0 zero_le_five

def wholeSettings : CoinbaseSettings SafeHttpClient := ⟨wholeHttp.wire, wholeOutside, fun _ => true⟩

def wholeTransport : CoinbaseExchangeSandboxTransport SafeHttpClient :=
  ⟨.fresh, Dict.empty.set "A-B" wholeProduct.toCoinbaseProductSpec, Dict.empty, none⟩

def orderOf (quantity : String) : VenueRecord :=
  [("client_order_id", .str "1"), ("symbol", .str "A-B"), ("side", .str "buy"),
    ("quantity", .str quantity), ("order_type", .str "limit"), ("price", .str "1")]

theorem wholeTransport_ready : Ready wholeHttp wholeSettings wholeTransport :=
  ⟨fun _ hopened => (by cases hopened), rfl⟩

theorem wholeHttp_reviewed : Reviewed wholeHttp :=
  mem_singleton.mpr (SafeHttpClient.hostName_ofList (by decide))

theorem ordered_whole (quantity : String) : Ordered wholeSettings (orderOf quantity) wholeTransport
    wholeProduct.toCoinbaseProductSpec := by
  have hstrip : strip (strip "A-B") = "A-B" := by decide
  show wholeTransport.verifiedProducts.get (strip (strip "A-B")) = _
  rw [hstrip]
  exact Dict.get_set_self _ _ _

end CoinbaseExchangeSandboxTransport

end AdvisorAI
