import AdvisorAI.Execution.Exposure

/-!
# What an order check promises

`checkOrder` looks at one instrument and values the others at the marks it finds.
`Cleared` is what it has established of an order it approves. It does not look at
the other holdings one by one, counts a holding without a mark as nothing, and
divides by the equity from before the fill; `check_order_safe_iff` says that these
are the ways in which an approved order can leave a book outside its limits.
-/

namespace AdvisorAI

open Lib RiskKernel

variable {o : KernelOutside} {killSwitch : Option String} {order : OrderTerms}
  {account account' : AccountState ℚ} {market : RiskMarketState} {policy : RiskPolicy}
  {price mark : ℚ}

def Approves (o : KernelOutside) (killSwitch : Option String) (order : OrderTerms)
    (account : AccountState ℚ) (market : RiskMarketState) (policy : RiskPolicy) : Prop :=
  ∃ check, checkOrder o killSwitch order account market policy = .ok check ∧
    check.approved = true

theorem checkOrder_approved_iff (b : Bool) :
    (∃ check, checkOrder o killSwitch order account market policy = .ok check ∧ check.approved = b) ↔
      (∃ hash, authoritativeHash o account market = .ok hash) ∧
        decide (checkReasons o order account market (exactFigures account) policy killSwitch = [])
          = b := by
  unfold checkOrder
  rw [accountFigures_exact]
  dsimp only [bind, Except.bind]
  generalize checkReasons o order account market (exactFigures account) policy killSwitch = reasons
  cases authoritativeHash o account market with
  | error e =>
    constructor
    · rintro ⟨check, h, -⟩
      cases h
    · rintro ⟨⟨hash, h⟩, -⟩
      cases h
  | ok hash =>
    constructor
    · rintro ⟨check, h, hb⟩
      cases h
      exact ⟨⟨hash, rfl⟩, hb⟩
    · rintro ⟨-, hb⟩
      exact ⟨_, rfl, hb⟩

theorem approves_iff : Approves o killSwitch order account market policy ↔
    (∃ hash, authoritativeHash o account market = .ok hash) ∧
      checkReasons o order account market (exactFigures account) policy killSwitch = [] :=
  (checkOrder_approved_iff true).trans (and_congr_right fun _ => decide_eq_true_iff)

/-! ## What has been checked -/

/-- The limits found nothing against the order. -/
structure Cleared (o : KernelOutside) (order : OrderTerms) (account : AccountState ℚ)
    (market : RiskMarketState) (policy : RiskPolicy) (price mark : ℚ) : Prop where
  priced : order.price = some price
  marked : market.marks.get order.instrument = some mark
  limits : ∀ limit ∈ policy.hardLimits, ∀ k : HardLimit, limit.name = k.name →
    orderLimitReasons o order account market (exactFigures account) price mark limit k = []

theorem cleared_of_approves (h : Approves o killSwitch order account market policy) :
    ∃ price mark, Cleared o order account market policy price mark := by
  obtain ⟨-, hreasons⟩ := approves_iff.mp h
  unfold checkReasons at hreasons
  simp only [List.append_eq_nil_iff, reasonIf_eq_nil, not_or] at hreasons
  obtain ⟨⟨⟨⟨⟨⟨⟨⟨⟨⟨⟨⟨-, -⟩, -⟩, -, hmark, -⟩, -⟩, -⟩, -⟩, -⟩, -⟩, -⟩, -⟩, hprice⟩, hlimits⟩ := hreasons
  cases hp : order.price with
  | none => exact absurd hp hprice
  | some price =>
    cases hm : market.marks.get order.instrument with
    | none => exact absurd hm hmark
    | some mark =>
      rw [hp, hm] at hlimits
      refine ⟨price, mark, hp, hm, ?_⟩
      intro limit hlimit k hname
      have hnone := List.flatMap_eq_nil_iff.mp hlimits limit hlimit
      rw [HardLimit.ofName_eq_some.mpr hname.symm] at hnone
      exact hnone

def filledBook (order : OrderTerms) (account : AccountState ℚ) (price : ℚ) : Book :=
  account.book.trade order.instrument price order.signedQuantity

theorem sum_proposedPositions {f : String → ℚ → ℚ} (hf : f order.instrument 0 = 0) :
    (proposedPositions order account).sum f = (filledBook order account price).positions.sum f := by
  unfold filledBook
  rw [Book.sum_trade _ _ _ _ hf]
  unfold proposedPositions
  rw [Dict.sum_set]
  have hterm : account.positions.term f order.instrument
      = f order.instrument (account.book.held order.instrument) :=
    Book.term_held (b := account.book) hf
  rw [hterm]
  rfl

theorem grossValue_proposed (price : ℚ) (marks : Dict String ℚ) :
    grossValue (proposedPositions order account) marks = (filledBook order account price).gross marks :=
  sum_proposedPositions (by simp)

theorem netValue_proposed (price : ℚ) (marks : Dict String ℚ) :
    netValue (proposedPositions order account) marks = (filledBook order account price).net marks :=
  sum_proposedPositions (by simp)

theorem orderedNotional_eq (price : ℚ) (h : market.marks.get order.instrument = some mark) :
    orderedNotional order account mark
      = |(filledBook order account price).notional market.marks order.instrument| := by
  unfold filledBook Book.notional
  rw [Book.held_trade, if_pos rfl]
  unfold Dict.getD
  rw [h]
  rfl

section Cleared

variable (h : Cleared o order account market policy price mark)

include h

theorem Cleared.gross :
    policy.Bounds .maxGrossNotional ((filledBook order account price).gross market.marks ≤ ·) := by
  intro limit hlimit hname
  have hnone := h.limits limit hlimit _ hname
  unfold orderLimitReasons at hnone
  rwa [overLimit_eq_nil, grossValue_proposed price] at hnone

theorem Cleared.net :
    policy.Bounds .maxNetNotional (|(filledBook order account price).net market.marks| ≤ ·) := by
  intro limit hlimit hname
  have hnone := h.limits limit hlimit _ hname
  unfold orderLimitReasons at hnone
  rwa [overLimit_eq_nil, netValue_proposed price] at hnone

theorem Cleared.position : policy.Bounds .maxPositionNotional
    (|(filledBook order account price).notional market.marks order.instrument| ≤ ·) := by
  intro limit hlimit hname
  have hnone := h.limits limit hlimit _ hname
  unfold orderLimitReasons at hnone
  rwa [overLimit_eq_nil, orderedNotional_eq price h.marked] at hnone

theorem Cleared.concentration : policy.Bounds .maxConcentration fun bound =>
    |(filledBook order account price).notional market.marks order.instrument|
      ≤ bound * (filledBook order account price).gross market.marks := by
  intro limit hlimit hname
  have hnone := h.limits limit hlimit _ hname
  unfold orderLimitReasons at hnone
  rw [grossValue_proposed price, orderedNotional_eq price h.marked] at hnone
  refine (Book.concentrated_iff _ _ _ _).mp fun hgross => ?_
  rwa [if_neg hgross, overLimit_eq_nil] at hnone

theorem Cleared.cash :
    policy.Bounds .maxCashDeficit (Max.max 0 (-(filledBook order account price).cash) ≤ ·) := by
  intro limit hlimit hname
  have hnone := h.limits limit hlimit _ hname
  unfold orderLimitReasons at hnone
  rwa [overLimit_eq_nil] at hnone

end Cleared

/-- What the check leaves out does no harm: the other holdings have marks and
keep the limits on one holding, and the filled book is levered within the limit
by the equity it has at the market's marks. -/
structure RestFits (order : OrderTerms) (account : AccountState ℚ) (market : RiskMarketState)
    (policy : RiskPolicy) (price : ℚ) : Prop where
  marked : ∀ i, i ≠ order.instrument → account.book.held i ≠ 0 → market.marks.get i ≠ none
  position : policy.Bounds .maxPositionNotional fun bound =>
    ∀ i, i ≠ order.instrument → |account.book.notional market.marks i| ≤ bound
  concentration : policy.Bounds .maxConcentration fun bound =>
    ∀ i, i ≠ order.instrument → |account.book.notional market.marks i|
      ≤ bound * (filledBook order account price).gross market.marks
  leverage : policy.Bounds .maxLeverage fun bound =>
    let equity := account.book.equity market.marks
      + order.signedQuantity * (market.marks.getD order.instrument 0 - price)
    (filledBook order account price).gross market.marks = 0 ∨
      0 < equity ∧ (filledBook order account price).gross market.marks ≤ bound * equity

theorem Cleared.within_iff (h : Cleared o order account market policy price mark) :
    (filledBook order account price).Within market.marks policy ∧ account.book.Marked market.marks
      ↔ RestFits order account market policy price := by
  have hother : ∀ i, i ≠ order.instrument → (filledBook order account price).notional market.marks i
      = account.book.notional market.marks i := fun i hi => Book.notional_trade_ne _ _ _ _ _ hi
  have hequity : (filledBook order account price).equity market.marks
      = account.book.equity market.marks
        + order.signedQuantity * (market.marks.getD order.instrument 0 - price) :=
    Book.equity_trade _ _ _ _ _
  constructor
  · rintro ⟨hwithin, hmarked⟩
    refine ⟨fun i _ => hmarked i, ?_, ?_, ?_⟩
    · intro limit hlimit hname i hi
      rw [← hother i hi]
      exact hwithin.position limit hlimit hname i
    · intro limit hlimit hname i hi
      rw [← hother i hi]
      exact hwithin.concentration limit hlimit hname i
    · intro limit hlimit hname
      rw [← hequity]
      exact hwithin.leverage limit hlimit hname
  · intro hfits
    refine ⟨⟨h.gross, h.net, ?_, ?_, ?_, h.cash⟩, ?_⟩
    · intro limit hlimit hname i
      by_cases hi : i = order.instrument
      · rw [hi]
        exact h.position limit hlimit hname
      · rw [hother i hi]
        exact hfits.position limit hlimit hname i hi
    · intro limit hlimit hname
      have hlevered := hfits.leverage limit hlimit hname
      rw [← hequity] at hlevered
      exact hlevered
    · intro limit hlimit hname i
      by_cases hi : i = order.instrument
      · rw [hi]
        exact h.concentration limit hlimit hname
      · rw [hother i hi]
        exact hfits.concentration limit hlimit hname i hi
    · intro i hheld
      by_cases hi : i = order.instrument
      · rw [hi, h.marked]
        simp
      · exact hfits.marked i hi hheld

/-- **Approved orders.** An approved order, filled whole at its price, leaves a
book within its limits and without a holding nobody can value, exactly when what
the check leaves out does no harm. -/
theorem check_order_safe_iff {fill : AccountFill ℚ} {side : String}
    (hside : lower (strip side) = order.side.value)
    (hinstrument : strip order.instrument = order.instrument)
    (hquantity : fill.quantity = order.quantity) (hprice : order.price = some fill.price)
    (hfee : fill.fee = 0)
    (hfill : Local.result (AccountState.applyFill fill side order.instrument) account
      = .ok account') :
    ((Approves o killSwitch order account market policy →
        account'.book.Within market.marks policy ∧ account.book.Marked market.marks)
      ↔ (Approves o killSwitch order account market policy →
        RestFits order account market policy fill.price)) := by
  have hsigned : AccountState.signed (lower (strip side)) fill.quantity
      = .ok order.signedQuantity := by
    rw [hside, hquantity]
    unfold AccountState.signed OrderTerms.signedQuantity
    cases order.side with
    | buy => rfl
    | sell => rfl
  have hbook : account'.book = filledBook order account fill.price :=
    applyFill_book hsigned hinstrument hfee hfill
  rw [hbook]
  have hiff : Approves o killSwitch order account market policy →
      ((filledBook order account fill.price).Within market.marks policy ∧
        account.book.Marked market.marks ↔ RestFits order account market policy fill.price) := by
    intro happroved
    obtain ⟨price, mark, hcleared⟩ := cleared_of_approves happroved
    have hsame : price = fill.price := Option.some.inj (hcleared.priced.symm.trans hprice)
    rw [hsame] at hcleared
    exact hcleared.within_iff
  constructor
  · intro h happroved
    exact (hiff happroved).mp (h happroved)
  · intro h happroved
    exact (hiff happroved).mpr (h happroved)

/-! ## A paper market -/

def paperOutside : KernelOutside where
  spell _ := ""
  accountDigest _ := paperDigest
  marketDigest _ := paperDigest
  sha256 _ := paperDigest

def paperMarket : RiskMarketState where
  marks := Dict.empty.set "crypto:BTC-USD" 100
  staleInstruments := ∅
  staleSeconds := Dict.empty
  disagreedInstruments := ∅
  clockDriftSeconds := 0
  volatility := Dict.empty
  liquidityNotional := Dict.empty
  spreadBps := Dict.empty
  expectedSlippageBps := Dict.empty
  expectedImpactBps := Dict.empty
  venueHealthy := Dict.empty
  modelDrift := false
  unsupportedRegime := false
  expiredForecasts := ∅
  reconciliationClean := true
  orderCount := 0
  fundingCostBps := 0
  borrowCostBps := 0
  counterpartyExposure := 0
  collateralAvailable := none
  named := by decide +kernel
  flagsNamed := by decide +kernel
  marks_pos := by decide +kernel
  volatility_nonneg := by decide +kernel
  liquidity_pos := by decide +kernel
  costs_nonneg := by decide +kernel
  counters_nonneg := by decide +kernel

def paperLimit (k : HardLimit) (limit : ℕ) : RiskLimit where
  name := k.name
  limit := .ofNat limit
  unit := "USD"
  limit_nonneg := by simp
  name_normal := by
    have hall : ∀ k ∈ HardLimit.all, isBlank k.name = false ∧ strip k.name = k.name := by
      decide +kernel
    exact hall k (HardLimit.mem_all k)
  unit_normal := by decide +kernel

def paperPolicy (limits : List RiskLimit) (h : (limits.map RiskLimit.name).Nodup := by decide +kernel) :
    RiskPolicy where
  artifactId := 50
  policyVersion := "v1"
  effectiveAt := 0
  hardLimits := limits
  approvedBy := "owner"
  policyVersion_ne := by decide +kernel
  approvedBy_ne := by decide +kernel
  hardLimits_nodup := h

def grossPolicy : RiskPolicy := paperPolicy [paperLimit .maxGrossNotional 600]

def paperTerms : OrderTerms where
  instrument := "crypto:BTC-USD"
  side := .buy
  quantity := 4
  price := some 100
  quantity_pos := by decide +kernel
  price_pos := by decide +kernel

def paperHoldings (positions : Dict String ℚ) : AccountState ℚ :=
  { AccountState.new 1000 0 with positions := positions }

/-- With cash alone nothing is left out of the check. -/
theorem check_order_safe_iff_paper :
    ∃ account', Local.result (AccountState.applyFill (bookFill "v-1" 4 100 0 (by decide +kernel) paperFillId_normal) "buy"
        "crypto:BTC-USD") (paperHoldings Dict.empty) = .ok account' ∧
      Approves paperOutside none paperTerms (paperHoldings Dict.empty) paperMarket grossPolicy ∧
      account'.book.Within paperMarket.marks grossPolicy ∧
      (paperHoldings Dict.empty).book.Marked paperMarket.marks := by
  have hrun : (Local.result (AccountState.applyFill (bookFill "v-1" 4 100 0 (by decide +kernel) paperFillId_normal) "buy"
      "crypto:BTC-USD") (paperHoldings Dict.empty)).toOption.any (fun _ => true) = true := by
    decide +kernel
  obtain ⟨account', hfill, -⟩ := ok_of_toOption_any hrun
  have happroves : Approves paperOutside none paperTerms (paperHoldings Dict.empty) paperMarket
      grossPolicy :=
    ok_of_toOption_any (by decide +kernel)
  have hfits : RestFits paperTerms (paperHoldings Dict.empty) paperMarket grossPolicy 100 := by
    refine ⟨fun i _ hheld => absurd rfl hheld, ?_, ?_, ?_⟩
    all_goals
      -- the policy has one limit, and it is another one
      intro limit hlimit hname
      obtain rfl := List.mem_singleton.mp hlimit
      exact absurd hname (by decide +kernel)
  have hsafe : account'.book.Within paperMarket.marks grossPolicy ∧
      (paperHoldings Dict.empty).book.Marked paperMarket.marks :=
    (check_order_safe_iff (by decide +kernel) (by decide +kernel) rfl rfl rfl hfill).mpr
      (fun _ => hfits) happroves
  exact ⟨account', hfill, happroves, hsafe⟩

/-- Five hundred units of an instrument without a mark count as nothing. -/
theorem unmarked_holding_counts_nothing :
    Approves paperOutside none paperTerms
        (paperHoldings (Dict.empty.set "crypto:ETH-USD" 500)) paperMarket grossPolicy ∧
      ¬(paperHoldings (Dict.empty.set "crypto:ETH-USD" 500)).book.Marked paperMarket.marks := by
  refine ⟨ok_of_toOption_any (by decide +kernel), ?_⟩
  intro h
  exact h "crypto:ETH-USD" (by decide +kernel) (by decide +kernel)

end AdvisorAI
