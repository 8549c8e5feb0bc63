import AdvisorAI.Execution.Native
import AdvisorAI.Integrations.Freshness
import AdvisorAI.Lib.Checks
import AdvisorAI.Runtime.DefaultOrders

/-!
# Default orders on Binance

The idempotency key of a default order has a colon in it, and is 38 characters
long. The transport sends it as the client order id, which may have neither, so
that `_validate_order` refuses every default order before anything else about it
is looked at (`default_order_refused`).
-/

namespace AdvisorAI

open Lib DefaultOrders List

/-! ## Keys of default orders -/

theorem mem_strip {s : String} {c : Char} (hc : c ∈ s.toList) (hspace : isSpace c = false) :
    c ∈ (strip s).toList := by
  have hdrop : ∀ l : List Char, c ∈ l → c ∈ l.dropWhile isSpace := by
    intro l hl
    induction l with
    | nil => exact hl
    | cons d l ih =>
      by_cases hd : isSpace d = true
      · rw [dropWhile_cons_of_pos hd]
        refine ih ((mem_cons.mp hl).resolve_left ?_)
        rintro rfl
        rw [hspace] at hd
        cases hd
      · rw [dropWhile_cons_of_neg hd]
        exact hl
  unfold strip
  rw [String.toList_ofList, mem_reverse]
  exact hdrop _ (mem_reverse.mpr (hdrop _ hc))

theorem buildOrderFromChoice_key {artifactId parentIntentId : UUID} {createdAt : Timestamp}
    {choice : ExecutionChoice} {executionPlan : ExecutionPlan} {instrument : InstrumentIdentity}
    {key : String} {order : Order}
    (h : buildOrderFromChoice artifactId createdAt choice parentIntentId executionPlan instrument
      key = .ok order) : order.idempotencyKey = strip key := by
  unfold buildOrderFromChoice at h
  dsimp only at h
  split at h
  · cases h
    rfl
  · cases h

section Keys

variable {o : BuilderOutside} {decision : DecisionBundle} {executionPlan : ExecutionPlan}
  {account : AccountState ℚ} {market : RiskMarketState} {policy : ExecutionPolicyKind}

theorem orderFor_key {n : ℕ} {p : TargetPosition} {order : Order}
    (h : orderFor o decision executionPlan account market policy n p = .ok (some order)) :
    ':' ∈ order.idempotencyKey.toList := by
  unfold orderFor at h
  split at h
  · cases h
  · obtain ⟨choice, -, h⟩ := bind_ok_iff.mp h
    cases choice with
    | none => cases h
    | some choice =>
      obtain ⟨built, hbuilt, h⟩ := bind_ok_iff.mp h
      cases h
      rw [buildOrderFromChoice_key hbuilt]
      refine mem_strip ?_ (by decide)
      unfold idempotencyKey
      rw [String.toList_append]
      exact mem_append_left _ (by decide)

variable {orders : List Order}

theorem ordersFrom_keys {n : ℕ} {positions : List TargetPosition}
    (h : ordersFrom o decision executionPlan account market policy n positions = .ok orders) :
    ∀ order ∈ orders, ':' ∈ order.idempotencyKey.toList := by
  induction positions generalizing n orders with
  | nil =>
    cases h
    exact fun _ ho => absurd ho not_mem_nil
  | cons p rest ih =>
    obtain ⟨first, hfirst, h⟩ := bind_ok_iff.mp h
    obtain ⟨others, hothers, h⟩ := bind_ok_iff.mp h
    cases h
    intro order horder
    rcases mem_append.mp horder with horder | horder
    · rw [Option.mem_toList] at horder
      rw [horder] at hfirst
      exact orderFor_key hfirst
    · exact ih hothers order horder

theorem buildDefaultOrders_keys {result : DecisionPipelineResult}
    (h : buildDefaultOrders o result account market policy = .ok orders) :
    ∀ order ∈ orders, ':' ∈ order.idempotencyKey.toList := by
  unfold buildDefaultOrders at h
  split at h
  · cases h
    exact fun _ ho => absurd ho not_mem_nil
  · split at h
    · cases h
      exact fun _ ho => absurd ho not_mem_nil
    · exact ordersFrom_keys h

end Keys

/-! ## Submitting one -/

section Refused

variable {σ : Type} {settings : BinanceSettings σ}

open BinanceSpotTestnetTransport in
theorem validateOrder_refused {payload : VenueRecord} {key : String} {c : Char}
    (hid : lookupEntry "client_order_id" payload = some (.str key)) (hkey : strip key = key)
    (hc : c ∈ key.toList) (hrefused : isIdCharacter c = false) (t : BinanceSpotTestnetTransport σ) :
    ∃ e, validateOrder settings payload t = .error e t := by
  have hword : settings.outside.word payload ["client_order_id"] "" = key := by
    unfold VenueOutside.word VenueOutside.field
    rw [List.findSome?_cons, hid]
    show strip (settings.outside.str (.str key)) = key
    rw [settings.outside.str_str, hkey]
  have hinadmissible : 36 < key.length ∨ key.toList.any (fun c => !isIdCharacter c) = true := by
    right
    rw [any_eq_true]
    exact ⟨c, hc, by rw [hrefused]; rfl⟩
  unfold validateOrder
  rw [hword]
  split
  · exact ⟨_, rfl⟩
  · exact ⟨_, rfl⟩

variable {adapter : NativeVenueAdapter (BinanceSpotTestnetTransport σ)}

theorem submit_refused (htransport : adapter.transport = BinanceSpotTestnetTransport.native settings)
    {order : Order} {c : Char} (hc : c ∈ order.idempotencyKey.toList)
    (hrefused : BinanceSpotTestnetTransport.isIdCharacter c = false)
    (s : NativeState (BinanceSpotTestnetTransport σ)) :
    ∃ e s', adapter.submit order s = .error e s' ∧ s'.transport = s.transport := by
  unfold NativeVenueAdapter.submit
  split
  · exact ⟨_, s, rfl, rfl⟩
  · have hkeeps : Local.Keeps NativeState.transport
        (NativeVenueAdapter.bindOrder order : Native (BinanceSpotTestnetTransport σ) Unit) :=
      NativeVenueAdapter.bindOrder_keeps order
    cases hbind : NativeVenueAdapter.bindOrder order s with
    | error e s₁ => exact ⟨e, s₁, Local.bind_error hbind, hkeeps.error hbind⟩
    | ok u s₁ =>
      rw [Local.bind_ok hbind]
      have hrefusal : ∃ e, BinanceSpotTestnetTransport.validateOrder settings
          (adapter.payloadOf order) s₁.transport = .error e s₁.transport :=
        validateOrder_refused rfl order.idempotencyKey_normal.2 hc hrefused s₁.transport
      obtain ⟨e, he⟩ := hrefusal
      have hsubmit : adapter.transport.submitOrder (adapter.payloadOf order) s₁.transport
          = .error e s₁.transport := by
        rw [htransport]
        exact Local.bind_error he
      exact ⟨e, s₁, Local.bind_error (NativeVenueAdapter.onTransport_error hsubmit),
        hkeeps.ok hbind⟩

/-- **No default order is sent**: the adapter raises, and the transport has asked the venue
nothing. -/
theorem default_order_refused
    (htransport : adapter.transport = BinanceSpotTestnetTransport.native settings)
    {o : BuilderOutside} {result : DecisionPipelineResult} {account : AccountState ℚ}
    {market : RiskMarketState} {policy : ExecutionPolicyKind} {orders : List Order}
    (horders : buildDefaultOrders o result account market policy = .ok orders) {order : Order}
    (horder : order ∈ orders) (s : NativeState (BinanceSpotTestnetTransport σ)) :
    ∃ e s', adapter.submit order s = .error e s' ∧ s'.transport = s.transport :=
  submit_refused htransport (buildDefaultOrders_keys horders order horder) (by decide) s

end Refused

/-! ## A purchase on a verified symbol -/

/-- The symbol of an order is verified, and its quantity and price are on the symbol's grid and
within its bounds. -/
structure Tradable {σ : Type} (settings : BinanceSettings σ)
    (adapter : NativeVenueAdapter (BinanceSpotTestnetTransport σ)) (order : Order)
    (t : BinanceSpotTestnetTransport σ) (spec : BinanceSpotSymbolSpec) (quantity : ℚ) : Prop where
  verified : t.verifiedSymbols.get (settings.outside.upper
    (settings.outside.word (adapter.payloadOf order) ["symbol"] "")) = some spec
  sized : settings.outside.decimalOf "Binance" "order quantity" true
    (lookupEntry "quantity" (adapter.payloadOf order)) = .ok quantity
  onGrid : BinanceSpotTestnetTransport.validateQuantity spec quantity = .ok ()
  priced : BinanceSpotTestnetTransport.validatePrice settings spec quantity
    (lookupEntry "price" (adapter.payloadOf order)) = .ok ()

def spotInstrument : InstrumentIdentity := { paperInstrument with venueSymbol := some "BTCUSDT" }

def spotTarget : TargetPortfolio := { paperTarget with
  positions := [⟨62, spotInstrument, .ofNat 4, none, []⟩], positions_nodup := by decide +kernel }

def spotDecision : DecisionBundle := { paperDecision 0 with
  targetPortfolio := spotTarget, target_snapshot := rfl }

def spotPurchase : Order := { defaultPurchase with instrument := spotInstrument }

theorem spotPurchase_approved :
    buildDefaultOrders paperBuilder ⟨spotDecision, some approvedVerdict⟩
      (paperHoldings Dict.empty) paperMarket = .ok [spotPurchase] := by
  decide +kernel

def spotSettings : BinanceSettings ℕ := ⟨tickingWire, tallyVenue, 5000, fun _ => 1⟩

def spotAdapter : NativeVenueAdapter (BinanceSpotTestnetTransport ℕ) where
  venue := "binance"
  strictVenue := false
  transport := BinanceSpotTestnetTransport.native spotSettings
  fetchAccountSnapshot := none
  outside := tallyVenue
  decimalText d := String.ofList (List.replicate d.digits 'i')
  parseUuid _ := none
  venue_ne := binance_ne

theorem spotPurchase_tradable :
    Tradable spotSettings spotAdapter spotPurchase tickingTransport btcSpec 4 where
  verified := rfl
  sized := by decide +kernel
  onGrid := by decide +kernel
  priced := by decide +kernel

/-- A default purchase on the grid of a verified symbol is not acknowledged. -/
theorem default_purchase_refused :
    ¬∀ (settings : BinanceSettings ℕ)
        (adapter : NativeVenueAdapter (BinanceSpotTestnetTransport ℕ)) (o : BuilderOutside)
        (result : DecisionPipelineResult) (account : AccountState ℚ) (market : RiskMarketState)
        (policy : ExecutionPolicyKind) (orders : List Order)
        (s : NativeState (BinanceSpotTestnetTransport ℕ)),
      adapter.transport = BinanceSpotTestnetTransport.native settings →
      buildDefaultOrders o result account market policy = .ok orders →
      ∀ order ∈ orders, ∀ spec quantity,
        Tradable settings adapter order s.transport spec quantity →
        ∃ acknowledgement s', adapter.submit order s = .ok acknowledgement s' := by
  intro h
  obtain ⟨acknowledgement, s', hsent⟩ := h spotSettings spotAdapter paperBuilder
    ⟨spotDecision, some approvedVerdict⟩ (paperHoldings Dict.empty) paperMarket .passiveLimit
    [spotPurchase] (.init tickingTransport) rfl spotPurchase_approved spotPurchase
    (mem_singleton_self _) btcSpec 4 spotPurchase_tradable
  have hcolon : ':' ∈ spotPurchase.idempotencyKey.toList := by decide
  have hrefused : ∃ e s'', spotAdapter.submit spotPurchase (.init tickingTransport) = .error e s'' ∧
      s''.transport = tickingTransport :=
    submit_refused rfl hcolon (by decide) (.init tickingTransport)
  obtain ⟨e, s'', hraised, -⟩ := hrefused
  rw [hraised] at hsent
  cases hsent

/-- It has not reached the transport either. -/
theorem default_order_refused_spot :
    ∃ e s', spotAdapter.submit spotPurchase (.init tickingTransport) = .error e s' ∧
      s'.transport = tickingTransport :=
  default_order_refused rfl spotPurchase_approved (mem_singleton_self _) (.init tickingTransport)

end AdvisorAI
