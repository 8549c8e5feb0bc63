import AdvisorAI.Execution.PortfolioLimits
import AdvisorAI.Runtime.DefaultOrders

/-!
# A rebalance

A target is constructed, its default orders are made and filled at the marks. The account then has
the cash and the quantities of the target: `rebalance_reaches_target`. It follows the cash through
three sums that are one: over the targets, over the orders and over the fills.
-/

namespace AdvisorAI

open Lib AccountState RiskKernel TargetPortfolioBuilder List

/-- The numbers of a request are decimals. -/
structure FiniteRequest (builder : TargetPortfolioBuilder) (request : PortfolioRequest) :
    Prop where
  cash : FiniteDecimal request.account.cash
  holdings : FiniteHoldings request.account
  marks : ∀ i, FiniteDecimal (request.marks.getD i 0)
  bps : FiniteDecimal (builder.feeBps + builder.spreadBps + builder.impactBps)

/-- The account has come to the target: its cash and its quantities, where what is inside the
no-trade band is kept. -/
structure Rebalanced (builder : TargetPortfolioBuilder) (request : PortfolioRequest)
    (target : TargetPortfolio) (account : AccountState ℚ) : Prop where
  cash : account.cash = target.cashTarget.value
  reached : ∀ p ∈ target.positions,
    account.positions.getD p.instrument.canonicalId 0 = p.targetQuantity.value
  targeted : ∀ t ∈ request.targets.entries, account.positions.getD t.1.canonicalId 0
    = if keeps builder request t.1.canonicalId t.2.value (request.marks.getD t.1.canonicalId 0)
      then request.account.positions.getD t.1.canonicalId 0 else t.2.value

theorem FiniteDecimal.list_sum {l : List ℚ} (h : ∀ q ∈ l, FiniteDecimal q) :
    FiniteDecimal l.sum := by
  induction l with
  | nil => exact .zero
  | cons q rest ih =>
    rw [forall_mem_cons] at h
    rw [sum_cons]
    exact h.1.add (ih h.2)

variable {builder : TargetPortfolioBuilder} {uuid4 : ℕ → UUID} {request : PortfolioRequest}
  {target : TargetPortfolio}

theorem FiniteRequest.flows (h : FiniteRequest builder request)
    (t : InstrumentIdentity × Decimal) : FiniteDecimal (targetFlows builder request t).1 ∧
      FiniteDecimal (targetFlows builder request t).2 := by
  have hdelta : FiniteDecimal (t.2.value - current request t.1.canonicalId) :=
    t.2.value_finite.sub (h.holdings _)
  unfold targetFlows TargetPortfolioBuilder.flows
  split
  · exact ⟨.zero, .zero⟩
  · refine ⟨hdelta.mul (h.marks _), ?_⟩
    have hpart : FiniteDecimal (1 / 10000) := ⟨1, 4, by norm_num⟩
    rw [div_eq_mul_one_div]
    exact ((hdelta.abs.mul (h.marks _)).mul h.bps).mul hpart

theorem adopted_value (h : FiniteRequest builder request) (i : String) (quantity : Decimal)
    (mark : ℚ) : (adopted builder request i quantity mark).value
      = if keeps builder request i quantity.value mark then request.account.positions.getD i 0
        else quantity.value := by
  unfold adopted
  split
  · exact Decimal.value_ofRat (h.holdings i)
  · rfl

theorem adopted_outlay (h : FiniteRequest builder request) (t : InstrumentIdentity × Decimal) :
    request.marks.getD (adoptedTarget builder request t).1 0
        * ((adoptedTarget builder request t).2.value
          - request.account.positions.getD (adoptedTarget builder request t).1 0)
      = (targetFlows builder request t).1 := by
  show request.marks.getD t.1.canonicalId 0 * ((adopted builder request t.1.canonicalId t.2
    (request.marks.getD t.1.canonicalId 0)).value - current request t.1.canonicalId) = _
  rw [adopted_value h]
  unfold targetFlows TargetPortfolioBuilder.flows
  split
  · show _ * (current request t.1.canonicalId - current request t.1.canonicalId) = 0
    rw [sub_self, mul_zero]
  · exact mul_comm _ _

variable {o : BuilderOutside} {result : DecisionPipelineResult} {risk : RiskDecision}
  {market : RiskMarketState} {policy : ExecutionPolicyKind} {orders : List Order}
  {fills : List OrderFill}

/-- **A rebalance comes to its target.** The texts of an instrument are stripped when it is made. -/
theorem rebalance_reaches_target (hfinite : FiniteRequest builder request)
    (hstripped : ∀ t ∈ request.targets.entries, strip t.1.canonicalId = t.1.canonicalId)
    (hbuild : build builder uuid4 request = .ok target)
    (htarget : result.decision.targetPortfolio = target)
    (hrisk : result.riskDecision = some risk) (happroved : risk.outcome = .approved)
    (horders : buildDefaultOrders o result request.account market policy = .ok orders)
    (hfills : FillsCompletely orders fills) (hprices : ∀ f ∈ fills,
      f.fill.price = request.marks.getD f.order.instrument.canonicalId 0)
    (hfees : (fills.map fun f => f.fill.fee).sum = target.expectedCost.value) :
    ∃ s', Runs.runFrom accountStep request.account (fills.map OrderFill.mutation) = some s' ∧
      Rebalanced builder request target s' := by
  have hadmitted : risk.outcome ≠ .rejected := by
    rw [happroved]
    decide
  obtain ⟨s', hrun, hcash, hweighted, hheld⟩ :=
    held_ordered hfinite.holdings hrisk hadmitted horders hfills
  rw [htarget] at hweighted hheld
  obtain ⟨made, hmade, -, hpositions, hcost, hcashTarget⟩ := build_made hbuild
  obtain ⟨hwanted, -, hcosts, hcashes⟩ := foldlM_addTarget hmade
  have hmadeOf : target.positions.map wanted
      = (sortedTargets request).map (adoptedTarget builder request) := by
    rw [hpositions]
    exact hwanted
  have hreached : ∀ p ∈ target.positions,
      s'.positions.getD p.instrument.canonicalId 0 = p.targetQuantity.value := by
    have hnormal : ∀ i ∈ targetInstruments target, strip i = i := by
      intro i hi
      obtain ⟨p, hp, rfl⟩ := mem_map.mp hi
      have hmem : wanted p ∈ (sortedTargets request).map (adoptedTarget builder request) :=
        hmadeOf ▸ mem_map_of_mem hp
      obtain ⟨t, ht, heq⟩ := mem_map.mp hmem
      have hid : t.1.canonicalId = p.instrument.canonicalId := congrArg Prod.fst heq
      rw [← hid]
      exact hstripped t (mem_mergeSort.mp ht)
    intro p hp
    rw [hheld, netTraded_normal hnormal hp]
    exact add_sub_cancel _ _
  refine ⟨s', hrun, ?_, hreached, ?_⟩
  · have hfinite₂ : FiniteDecimal made.expectedCost := by
      rw [hcosts]
      refine FiniteDecimal.zero.add (.list_sum ?_)
      intro q hq
      obtain ⟨t, -, rfl⟩ := mem_map.mp hq
      exact (hfinite.flows t).2
    have hfinite₁ : FiniteDecimal made.cashTarget := by
      rw [hcashes]
      refine hfinite.cash.sub (.list_sum ?_)
      intro q hq
      obtain ⟨t, -, rfl⟩ := mem_map.mp hq
      exact (hfinite.flows t).1
    have htraded : (fills.map fun f => f.fill.price * f.signed).sum
        = ((sortedTargets request).map fun t => (targetFlows builder request t).1).sum := by
      calc (fills.map fun f => f.fill.price * f.signed).sum
          = (fills.map fun f =>
              request.marks.getD f.order.instrument.canonicalId 0 * f.signed).sum := by
            refine congrArg List.sum (map_congr_left ?_)
            intro f hf
            rw [hprices f hf]
        _ = (target.positions.map fun p => request.marks.getD p.instrument.canonicalId 0
              * DefaultOrders.delta request.account p).sum :=
            hweighted fun i => request.marks.getD i 0
        _ = ((target.positions.map wanted).map fun e => request.marks.getD e.1 0
              * (e.2.value - request.account.positions.getD e.1 0)).sum := by
            rw [map_map]
            rfl
        _ = _ := by
            rw [hmadeOf, map_map]
            refine congrArg List.sum (map_congr_left ?_)
            exact fun t _ => adopted_outlay hfinite t
    have houtlay : (fills.map OrderFill.outlay).sum
        = (fills.map fun f => f.fill.price * f.signed).sum
          + (fills.map fun f => f.fill.fee).sum := sum_map_add
    rw [hcash, houtlay, htraded, hfees, hcost, hcashTarget, Decimal.value_ofRat hfinite₂,
      Decimal.value_ofRat (hfinite₁.sub hfinite₂), hcashes, sub_sub]
  · intro t ht
    have hmem : adoptedTarget builder request t ∈ target.positions.map wanted :=
      hmadeOf ▸ mem_map_of_mem (mem_mergeSort.mpr ht)
    obtain ⟨p, hp, heq⟩ := mem_map.mp hmem
    have hid : p.instrument.canonicalId = t.1.canonicalId := congrArg Prod.fst heq
    have hquantity : p.targetQuantity = adopted builder request t.1.canonicalId t.2
      (request.marks.getD t.1.canonicalId 0) := congrArg Prod.snd heq
    rw [← hid, hreached p hp, hid, hquantity, adopted_value hfinite]

/-! ## Four units for ten basis points -/

def tenBasisPoints : TargetPortfolioBuilder where
  minimumTradeNotional := 0
  noTradeBand := 0
  feeBps := 10
  spreadBps := 0
  impactBps := 0
  thresholds_nonneg := by decide +kernel

def fourUnitsRequest : PortfolioRequest where
  snapshotId := 61
  account := paperHoldings Dict.empty
  targets := Dict.empty.set paperInstrument (.ofNat 4)
  marks := paperMarket.marks
  expectedReturns := Dict.empty
  constructionMethod := "paper"
  riskConstraintsVersion := "v1"
  constraints := none

def decisionOn (target : TargetPortfolio) : DecisionPipelineResult :=
  ⟨{ paperDecision 0 with
      snapshotId := target.snapshotId
      targetPortfolio := target
      target_snapshot := rfl }, some approvedVerdict⟩

def fillAtMark : OrderFill :=
  ⟨defaultPurchase, bookFill "v-1" 4 100 (2 / 5) (by decide +kernel) paperFillId_normal⟩

theorem fourUnits_finite : FiniteRequest tenBasisPoints fourUnitsRequest where
  cash := ⟨1000, 0, by decide +kernel⟩
  holdings := cash_only_finite
  marks := by
    intro i
    have hmarks : ∀ e ∈ fourUnitsRequest.marks.entries, e.2 = 100 := by decide +kernel
    unfold Dict.getD
    cases hget : fourUnitsRequest.marks.get i with
    | none => exact .zero
    | some mark =>
      have hmark : mark = 100 := hmarks _ (Dict.mem_entries_iff.mpr hget)
      rw [hmark]
      exact ⟨100, 0, by norm_num⟩
  bps := ⟨10, 0, by decide +kernel⟩

/-- The account ends with the four units and what the target leaves of its cash. -/
theorem fourUnits_rebalanced : ∃ target s',
    build tenBasisPoints id fourUnitsRequest = .ok target ∧
      Runs.runFrom accountStep fourUnitsRequest.account [fillAtMark.mutation] = some s' ∧
      Rebalanced tenBasisPoints fourUnitsRequest target s' := by
  have hany : (build tenBasisPoints id fourUnitsRequest).toOption.any (fun target =>
      decide (buildDefaultOrders paperBuilder (decisionOn target) fourUnitsRequest.account
          paperMarket = .ok [defaultPurchase] ∧ target.expectedCost.value = 2 / 5)) = true := by
    decide +kernel
  obtain ⟨target, hbuild, hmade⟩ := ok_of_toOption_any hany
  obtain ⟨horders, hcost⟩ := of_decide_eq_true hmade
  have hfills : FillsCompletely [defaultPurchase] [fillAtMark] := by
    refine ⟨fun f hf => ?_, fun order horder => ?_⟩
    · rw [mem_singleton.mp hf]
      exact mem_singleton_self _
    · rw [mem_singleton.mp horder]
      decide +kernel
  obtain ⟨s', hrun, hrebalanced⟩ := rebalance_reaches_target fourUnits_finite
    (by decide +kernel) hbuild rfl rfl rfl horders hfills (by decide +kernel)
    (by rw [hcost]; decide +kernel)
  exact ⟨target, s', hbuild, hrun, hrebalanced⟩

end AdvisorAI
