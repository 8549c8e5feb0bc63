import AdvisorAI.Execution.AccountSteps
import AdvisorAI.Execution.Policies
import AdvisorAI.Execution.Reduction
import AdvisorAI.Runtime.CycleOrders
import Mathlib.Algebra.BigOperators.Ring.List

/-!
# Default orders

`build_default_orders` turns an admitted target into one order for each position that differs from
what the account holds. Filled completely, its orders move the holdings by those differences
(`held_filled`). The differences are always taken to the target itself, so that a reduced decision
is executed as if it had been approved (`default_orders_reach_iff`).
-/

namespace AdvisorAI

open Lib AccountState RiskKernel DeterministicExecutionPolicy
open List hiding choose

/-- What the builder takes from outside: how a number is spelled, SHA-256, and the identities that
the plan and the orders draw. -/
structure BuilderOutside where
  spell : ℚ → String
  sha256 : String → Digest
  planId : UUID
  drawn : ℕ → UUID × Timestamp

namespace DefaultOrders

variable (o : BuilderOutside)

def plan (decision : DecisionBundle) (risk : RiskDecision) : ExecutionPlan where
  artifactId := o.planId
  riskDecisionId := risk.artifactId
  targetPortfolioId := decision.targetPortfolio.artifactId
  policyVersion := decision.targetPortfolio.riskConstraintsVersion
  instructions := ["deterministic paper target rebalance"]
  expiresAt := decision.expiresAt
  createdAt := decision.createdAt
  policyVersion_ne := decision.targetPortfolio.riskConstraintsVersion_ne
  instructions_ne := ⟨by simp, by decide +kernel⟩
  expires := decision.expires

/-- The idempotency key of an order: 32 digits of the hash of what it is for. -/
def idempotencyKey (decision : DecisionBundle) (instrumentId : String) (choice : ExecutionChoice) :
    String :=
  let fingerprint := o.sha256 (uuidText decision.missionId ++ ":" ++
    uuidText decision.targetPortfolio.artifactId ++ ":" ++ instrumentId ++ ":" ++
    choice.side.value ++ ":" ++ o.spell choice.quantity)
  "paper:" ++ String.ofList (fingerprint.text.toList.take 32)

def delta (account : AccountState ℚ) (p : TargetPosition) : ℚ :=
  p.targetQuantity.value - account.positions.getD p.instrument.canonicalId 0

variable (decision : DecisionBundle) (executionPlan : ExecutionPlan) (account : AccountState ℚ)
  (market : RiskMarketState) (policy : ExecutionPolicyKind)

/-- The order for the `n`-th position, if anything is to be traded. -/
def orderFor (n : ℕ) (p : TargetPosition) : Except PyError (Option Order) :=
  match hmark : market.marks.get p.instrument.canonicalId with
  | none => .error ⟨"KeyError", pyRepr p.instrument.canonicalId⟩
  | some mark => do
    match ← choose (delta account p) (.ofMark mark (market.mark_pos hmark)) policy with
    | none => return none
    | some choice =>
      let order ← buildOrderFromChoice (o.drawn n).1 (o.drawn n).2 choice decision.missionId
        executionPlan p.instrument
        (idempotencyKey o decision p.instrument.canonicalId choice)
      return some order

def ordersFrom : ℕ → List TargetPosition → Except PyError (List Order)
  | _, [] => .ok []
  | n, p :: rest => do
    let order ← orderFor o decision executionPlan account market policy n p
    let orders ← ordersFrom (n + 1) rest
    return order.toList ++ orders

end DefaultOrders

open DefaultOrders in
def buildDefaultOrders (o : BuilderOutside) (result : DecisionPipelineResult)
    (account : AccountState ℚ) (market : RiskMarketState)
    (policy : ExecutionPolicyKind := .passiveLimit) : Except PyError (List Order) :=
  match result.riskDecision with
  | none => .ok []
  | some risk =>
    if risk.outcome = .rejected then .ok []
    else ordersFrom o result.decision (plan o result.decision risk) account market policy 0
      result.decision.targetPortfolio.positions

/-! ## What the orders ask for -/

section Orders

variable {o : BuilderOutside} {decision : DecisionBundle} {executionPlan : ExecutionPlan}
  {account : AccountState ℚ} {market : RiskMarketState} {policy : ExecutionPolicyKind}

/-- What orders trade of an instrument; a fill strips the identifier. -/
def netOrdered (orders : List Order) (i : String) : ℚ :=
  (orders.map fun order =>
    if strip order.instrument.canonicalId = i then order.terms.signedQuantity else 0).sum

def netTraded (account : AccountState ℚ) (positions : List TargetPosition) (i : String) : ℚ :=
  (positions.map fun p =>
    if strip p.instrument.canonicalId = i then DefaultOrders.delta account p else 0).sum

theorem delta_finite (h : FiniteHoldings account) (p : TargetPosition) :
    FiniteDecimal (DefaultOrders.delta account p) :=
  p.targetQuantity.value_finite.sub (h _)

theorem normal_side (side : Side) : lower (strip side.value) = side.value := by
  cases side with
  | buy => decide +kernel
  | sell => decide +kernel

theorem terms_signedQuantity (order : Order) :
    order.terms.signedQuantity = signedQuantity order.side.value order.quantity.value := by
  unfold OrderTerms.signedQuantity Order.terms signedQuantity
  rw [normal_side]
  cases order.side with
  | buy => rfl
  | sell => rfl

theorem signedQuantity_of_delta (d : ℚ) : signedQuantity (tradedSide d).value |d| = d := by
  unfold signedQuantity
  rw [normal_side]
  unfold tradedSide
  by_cases hpos : 0 < d
  · rw [if_pos hpos, abs_of_pos hpos]
    rfl
  · rw [if_neg hpos, if_neg (by decide), abs_of_nonpos (not_lt.mp hpos), neg_neg]

/-- What the builder makes of one position. -/
theorem orderFor_ok (hholdings : FiniteHoldings account) {n : ℕ} {p : TargetPosition}
    {ordered : Option Order}
    (h : DefaultOrders.orderFor o decision executionPlan account market policy n p = .ok ordered) :
    isBlank p.instrument.canonicalId = false ∧
      (ordered = none ∧ DefaultOrders.delta account p = 0 ∨
        ∃ order, ordered = some order ∧ order.instrument = p.instrument ∧
          order.terms.signedQuantity = DefaultOrders.delta account p) := by
  unfold DefaultOrders.orderFor at h
  split at h
  · cases h
  · next mark hmark =>
    have hnamed : isBlank p.instrument.canonicalId = false := by
      refine market.named _ ?_
      have hkey : p.instrument.canonicalId ∈ market.marks.keys :=
        Dict.mem_keys_iff.mpr ⟨mark, hmark⟩
      simp only [mem_append]
      exact .inl (.inl (.inl (.inl (.inl (.inl (.inl hkey))))))
    refine ⟨hnamed, ?_⟩
    obtain ⟨choice, hchoice, h⟩ := ok_of_bind_ok h
    unfold choose at hchoice
    by_cases hzero : DefaultOrders.delta account p = 0
    · rw [dif_pos hzero] at hchoice
      cases hchoice
      cases h
      exact .inl ⟨rfl, hzero⟩
    · rw [dif_neg hzero, if_neg (by norm_num)] at hchoice
      cases hchoice
      obtain ⟨order, horder, h⟩ := ok_of_bind_ok h
      cases h
      obtain ⟨hside, hquantity, hinstrument⟩ := buildOrderFromChoice_ok horder
      obtain ⟨hchosenSide, hchosenQuantity⟩ := chosen_signed hzero
        (.ofMark mark (market.mark_pos hmark)) policy
      refine .inr ⟨order, rfl, hinstrument, ?_⟩
      rw [terms_signedQuantity, hside, hchosenSide, hquantity, hchosenQuantity,
        Decimal.value_ofRat (delta_finite hholdings p).abs, signedQuantity_of_delta]

/-- **What the builder makes of a target**: orders for named instruments of the target, which
trade what the target trades, however instruments are weighted. -/
theorem ordersFrom_ok (hholdings : FiniteHoldings account) {n : ℕ}
    {positions : List TargetPosition} {orders : List Order}
    (h : DefaultOrders.ordersFrom o decision executionPlan account market policy n positions
      = .ok orders) :
    (∀ order ∈ orders, isBlank order.instrument.canonicalId = false) ∧
      (orders.map fun order => order.instrument.canonicalId).Sublist
        (positions.map fun p => p.instrument.canonicalId) ∧
      ∀ weight : String → ℚ,
        (orders.map fun order =>
          weight order.instrument.canonicalId * order.terms.signedQuantity).sum
        = (positions.map fun p =>
          weight p.instrument.canonicalId * DefaultOrders.delta account p).sum := by
  induction positions generalizing n orders with
  | nil =>
    cases h
    exact ⟨fun _ hmem => absurd hmem not_mem_nil, List.Sublist.refl _, fun _ => rfl⟩
  | cons p rest ih =>
    obtain ⟨ordered, hordered, h⟩ := ok_of_bind_ok h
    obtain ⟨tail, htail, h⟩ := ok_of_bind_ok h
    cases h
    obtain ⟨hnamed, hsublist, hnet⟩ := ih htail
    obtain ⟨hblank, hone⟩ := orderFor_ok hholdings hordered
    rcases hone with ⟨rfl, hzero⟩ | ⟨order, rfl, hinstrument, hsigned⟩
    · refine ⟨hnamed, hsublist.cons _, ?_⟩
      intro weight
      show (tail.map _).sum = _
      rw [hnet, map_cons, sum_cons, hzero, mul_zero, zero_add]
    · refine ⟨?_, ?_, ?_⟩
      · intro order' hmem
        rcases mem_cons.mp hmem with rfl | hmem
        · rw [hinstrument]
          exact hblank
        · exact hnamed order' hmem
      · show (order.instrument.canonicalId :: _).Sublist (p.instrument.canonicalId :: _)
        rw [hinstrument]
        exact hsublist.cons_cons _
      · intro weight
        show (List.map _ (order :: tail)).sum = _
        rw [map_cons, sum_cons, map_cons, sum_cons, hnet, hinstrument, hsigned]

end Orders

/-! ## Fills -/

section Fills

variable {account : AccountState ℚ}

structure OrderFill where
  order : Order
  fill : AccountFill ℚ

variable (f : OrderFill)

def OrderFill.mutation : AccountMutation ℚ :=
  .fill f.fill f.order.side.value f.order.instrument.canonicalId

/-- The quantity filled, negative on the selling side. -/
def OrderFill.signed : ℚ := signedQuantity f.order.side.value f.fill.quantity

def netFilled (fills : List OrderFill) (i : String) : ℚ :=
  (fills.map fun f => if strip f.order.instrument.canonicalId = i then f.signed else 0).sum

/-- The fills are fills of the orders, and fill each of them completely. -/
structure FillsCompletely (orders : List Order) (fills : List OrderFill) : Prop where
  ordered : ∀ f ∈ fills, f.order ∈ orders
  complete : ∀ order ∈ orders,
    ((fills.filter fun f => f.order = order).map fun f => f.fill.quantity).sum
      = order.quantity.value

def OrderFill.outlay : ℚ := f.fill.price * f.signed + f.fill.fee

variable {fills : List OrderFill}

/-- Fills of named instruments all go through, and move the holdings by what they trade and the
cash by what they cost. -/
theorem held_filled {s : AccountState ℚ}
    (hnamed : ∀ f ∈ fills, isBlank f.order.instrument.canonicalId = false) :
    ∃ s', Runs.runFrom accountStep s (fills.map OrderFill.mutation) = some s' ∧
      s'.cash = s.cash - (fills.map OrderFill.outlay).sum ∧
      ∀ i, s'.book.held i = s.book.held i + netFilled fills i := by
  induction fills generalizing s with
  | nil => exact ⟨s, rfl, (sub_zero _).symm, fun _ => (add_zero _).symm⟩
  | cons f rest ih =>
    have hside : lower (strip f.order.side.value) ∈ ["buy", "sell"] := by
      rw [normal_side]
      cases f.order.side with
      | buy => decide
      | sell => decide
    obtain ⟨s₁, hrun, -, -, hcash, hpositions⟩ := applyFill_run (s := s) f.fill
      (hnamed f mem_cons_self) hside
    have hstep : accountStep s f.mutation = some (s₁.advanced f.fill.occurredAt) := by
      show (Local.result (applyFill f.fill f.order.side.value f.order.instrument.canonicalId)
        s).toOption = _
      unfold Local.result
      rw [hrun]
      rfl
    obtain ⟨s', hrest, hrestCash, hheld⟩ := ih (s := s₁.advanced f.fill.occurredAt)
      fun g hg => hnamed g (mem_cons_of_mem f hg)
    refine ⟨s', ?_, ?_, ?_⟩
    · rw [map_cons, Runs.runFrom_cons hstep]
      exact hrest
    · have hafter : (s₁.advanced f.fill.occurredAt).cash = s.cash - f.outlay := by
        show s₁.cash = _
        rw [hcash, sub_sub]
        rfl
      rw [hrestCash, hafter, map_cons, sum_cons, sub_sub]
    · intro i
      have hone : (s₁.advanced f.fill.occurredAt).book.held i
          = if i = strip f.order.instrument.canonicalId then s.book.held i + f.signed
            else s.book.held i := by
        show s₁.positions.getD i 0 = _
        rw [hpositions]
        refine (s.book.held_trade (strip f.order.instrument.canonicalId) f.fill.price
          f.signed i).trans ?_
        split
        · next hi => rw [hi]
        · rfl
      rw [hheld, hone]
      unfold netFilled
      rw [map_cons, sum_cons]
      by_cases hi : i = strip f.order.instrument.canonicalId
      · rw [if_pos hi, if_pos hi.symm, add_assoc]
      · rw [if_neg hi, if_neg (Ne.symm hi), zero_add]

variable {orders : List Order}

theorem sum_by_order (hnodup : orders.Nodup) (g : OrderFill → ℚ) :
    ∀ {fills : List OrderFill}, (∀ f ∈ fills, f.order ∈ orders) →
    (fills.map g).sum
      = (orders.map fun order => ((fills.filter fun f => f.order = order).map g).sum).sum := by
  intro fills
  induction fills with
  | nil =>
    intro _
    simp
  | cons f rest ih =>
    intro hmem
    have hone : ∀ order, (((f :: rest).filter fun f => f.order = order).map g).sum
        = (if order = f.order then g f else 0)
          + ((rest.filter fun f => f.order = order).map g).sum := by
      intro order
      by_cases h : f.order = order
      · rw [filter_cons_of_pos (by simpa using h), map_cons, sum_cons,
          if_pos h.symm]
      · rw [filter_cons_of_neg (by simpa using h), if_neg (Ne.symm h), zero_add]
    rw [map_cons, sum_cons, ih fun f' hf' => hmem f' (mem_cons_of_mem f hf')]
    simp only [hone]
    have hcount : orders.count f.order = 1 :=
      count_eq_one_of_mem hnodup (hmem f mem_cons_self)
    have hfirst := sum_map_ite_eq orders (fun _ => g f) (fun _ => 0) f.order
    rw [hcount, one_nsmul, sub_zero, map_const', sum_replicate, nsmul_zero,
      add_zero] at hfirst
    rw [sum_map_add, hfirst]

theorem signedQuantity_sum (side : String) (quantities : List ℚ) :
    (quantities.map (signedQuantity side)).sum = signedQuantity side quantities.sum := by
  unfold signedQuantity
  split
  · rw [map_id']
  · induction quantities with
    | nil => rfl
    | cons q rest ih =>
      rw [map_cons, sum_cons, ih, sum_cons, neg_add]

theorem weighted_filled (hnodup : orders.Nodup) (hfills : FillsCompletely orders fills)
    (weight : String → ℚ) :
    (fills.map fun f => weight f.order.instrument.canonicalId * f.signed).sum
      = (orders.map fun order =>
        weight order.instrument.canonicalId * order.terms.signedQuantity).sum := by
  rw [sum_by_order hnodup _ hfills.ordered]
  refine congrArg List.sum (map_congr_left ?_)
  intro order horder
  have hfilled : ∀ f ∈ fills.filter fun f => f.order = order,
      weight f.order.instrument.canonicalId * f.signed
        = weight order.instrument.canonicalId
          * signedQuantity order.side.value f.fill.quantity := by
    intro f hf
    have heq : f.order = order := by simpa using (mem_filter.mp hf).2
    rw [← heq]
    rfl
  have hquantity : ((fills.filter fun f => f.order = order).map fun f =>
      signedQuantity order.side.value f.fill.quantity).sum = order.terms.signedQuantity := by
    rw [terms_signedQuantity, ← hfills.complete order horder, ← signedQuantity_sum, map_map]
    simp only [Function.comp_def]
  rw [map_congr_left hfilled, sum_map_mul_left, hquantity]

theorem netFilled_eq (hnodup : orders.Nodup) (hfills : FillsCompletely orders fills) (i : String) :
    netFilled fills i = netOrdered orders i := by
  have h := weighted_filled hnodup hfills fun id => if strip id = i then 1 else 0
  simp only [ite_mul, one_mul, zero_mul] at h
  exact h

end Fills

/-! ## The target reached -/

/-- What a decision admits: the target's positions, or the reduced ones. -/
def RiskDecision.authorised (risk : RiskDecision) (target : TargetPortfolio) :
    List TargetPosition :=
  if risk.outcome = .reduced then risk.reducedPositions else target.positions

/-- The account holds what is authorised of every instrument of the target. -/
def Reached (account : AccountState ℚ) (target : TargetPortfolio)
    (authorised : List TargetPosition) : Prop :=
  ∀ p ∈ authorised, p.instrument.canonicalId ∈ targetInstruments target →
    account.positions.getD p.instrument.canonicalId 0 = p.targetQuantity.value

/-- What is authorised is what the trades towards the target come to. -/
def Accords (account : AccountState ℚ) (target : TargetPortfolio)
    (authorised : List TargetPosition) : Prop :=
  ∀ p ∈ authorised, p.instrument.canonicalId ∈ targetInstruments target →
    account.positions.getD p.instrument.canonicalId 0
      + netTraded account target.positions p.instrument.canonicalId = p.targetQuantity.value

section Reaching

variable {o : BuilderOutside} {result : DecisionPipelineResult} {risk : RiskDecision}
  {account : AccountState ℚ} {market : RiskMarketState} {policy : ExecutionPolicyKind}
  {orders : List Order} {fills : List OrderFill}

theorem held_ordered (hholdings : FiniteHoldings account) (hrisk : result.riskDecision = some risk)
    (hadmitted : risk.outcome ≠ .rejected)
    (horders : buildDefaultOrders o result account market policy = .ok orders)
    (hfills : FillsCompletely orders fills) :
    ∃ s', Runs.runFrom accountStep account (fills.map OrderFill.mutation) = some s' ∧
      s'.cash = account.cash - (fills.map OrderFill.outlay).sum ∧
      (∀ weight : String → ℚ,
        (fills.map fun f => weight f.order.instrument.canonicalId * f.signed).sum
        = (result.decision.targetPortfolio.positions.map fun p =>
          weight p.instrument.canonicalId * DefaultOrders.delta account p).sum) ∧
      ∀ i, s'.positions.getD i 0 = account.positions.getD i 0
        + netTraded account result.decision.targetPortfolio.positions i := by
  unfold buildDefaultOrders at horders
  rw [hrisk] at horders
  dsimp only at horders
  rw [if_neg hadmitted] at horders
  obtain ⟨hnamed, hsublist, hweighted⟩ := ordersFrom_ok hholdings horders
  have hnodup : orders.Nodup := List.Nodup.of_map _
    (hsublist.nodup result.decision.targetPortfolio.positions_nodup)
  have hnamedFills : ∀ f ∈ fills, isBlank f.order.instrument.canonicalId = false :=
    fun f hf => hnamed f.order (hfills.ordered f hf)
  obtain ⟨s', hrun, hcash, hheld⟩ := held_filled (s := account) hnamedFills
  refine ⟨s', hrun, hcash, fun weight => (weighted_filled hnodup hfills weight).trans
    (hweighted weight), ?_⟩
  intro i
  have hnet : netOrdered orders i
      = netTraded account result.decision.targetPortfolio.positions i := by
    have h := hweighted fun id => if strip id = i then 1 else 0
    simp only [ite_mul, one_mul, zero_mul] at h
    exact h
  rw [← hnet, ← netFilled_eq hnodup hfills]
  exact hheld i

variable {target : TargetPortfolio}

theorem netTraded_normal (hnormal : ∀ i ∈ targetInstruments target, strip i = i)
    {p : TargetPosition} (hp : p ∈ target.positions) :
    netTraded account target.positions p.instrument.canonicalId
      = DefaultOrders.delta account p := by
  have hnodup : target.positions.Nodup := List.Nodup.of_map _ target.positions_nodup
  have hterms : ∀ q ∈ target.positions,
      (if strip q.instrument.canonicalId = p.instrument.canonicalId
        then DefaultOrders.delta account q else 0)
      = if q = p then DefaultOrders.delta account p else 0 := by
    intro q hq
    rw [hnormal _ (mem_map.mpr ⟨q, hq, rfl⟩)]
    by_cases heq : q = p
    · rw [heq, if_pos rfl, if_pos rfl]
    · have hne : q.instrument.canonicalId ≠ p.instrument.canonicalId := fun h =>
        heq (inj_on_of_nodup_map target.positions_nodup hq hp h)
      rw [if_neg heq, if_neg hne]
  have hone := sum_map_ite_eq target.positions
    (fun _ => DefaultOrders.delta account p) (fun _ => 0) p
  rw [count_eq_one_of_mem hnodup hp, one_nsmul, sub_zero, map_const',
    sum_replicate, nsmul_zero, add_zero] at hone
  unfold netTraded
  rw [map_congr_left hterms]
  exact hone

theorem accords_iff (hnormal : ∀ i ∈ targetInstruments target, strip i = i)
    (authorised : List TargetPosition) :
    Accords account target authorised ↔ ∀ p ∈ authorised, ∀ q ∈ target.positions,
      q.instrument.canonicalId = p.instrument.canonicalId →
      p.targetQuantity.value = q.targetQuantity.value := by
  have hdelta : ∀ q ∈ target.positions, account.positions.getD q.instrument.canonicalId 0
      + netTraded account target.positions q.instrument.canonicalId = q.targetQuantity.value := by
    intro q hq
    rw [netTraded_normal hnormal hq]
    exact add_sub_cancel _ _
  constructor
  · intro h p hp q hq hsame
    have hp' := h p hp (mem_map.mpr ⟨q, hq, hsame⟩)
    rw [← hsame, hdelta q hq] at hp'
    exact hp'.symm
  · intro h p hp hmem
    obtain ⟨q, hq, hsame⟩ := mem_map.mp hmem
    rw [h p hp q hq hsame, ← hsame]
    exact hdelta q hq

end Reaching

/-! ## A paper rebalance -/

/-- Hashes that tell nothing apart, identities counted off. -/
def paperBuilder : BuilderOutside where
  spell _ := ""
  sha256 _ := paperDigest
  planId := 80
  drawn n := (81 + n, 0)

/-- A verdict on the paper target of four units. -/
def paperVerdict (outcome : RiskOutcome) (reasons : List String) (reduced : List TargetPosition)
    (hoccasion : outcome = .rejected → reasons ≠ [])
    (hreduced : outcome = .reduced → reduced ≠ [])
    (happroved : outcome = .approved → reduced = []) (hnodup : reasons.Nodup) : RiskDecision where
  artifactId := 85
  targetPortfolioId := 60
  riskPolicyId := 50
  outcome := outcome
  authoritativeStateHash := paperDigest.text
  reasons := reasons
  reducedPositions := reduced
  rejected_reasons := hoccasion
  reduced_positions := hreduced
  approved_positions := happroved
  reasons_nodup := hnodup

def approvedVerdict : RiskDecision :=
  paperVerdict .approved [] [] (by decide) (by decide) (fun _ => rfl) nodup_nil

def halvedVerdict : RiskDecision :=
  paperVerdict .reduced ["max_gross_notional"] [⟨62, paperInstrument, .ofNat 2, none, []⟩]
    (by decide) (fun _ => cons_ne_nil _ _) (by decide) (nodup_singleton _)

theorem defaultKey_normal : isBlank ("paper:" ++ String.ofList (List.replicate 32 '0')) = false ∧
    strip ("paper:" ++ String.ofList (List.replicate 32 '0'))
      = "paper:" ++ String.ofList (List.replicate 32 '0') := by
  decide +kernel

theorem fourUnits_decimal_pos : 0 < (Decimal.ofNat 4).value := by simp

theorem hundred_price_pos : ∀ p ∈ some (Decimal.ofNat 100), 0 < p.value := by
  intro p hp
  cases hp
  exact Decimal.hundred_pos

def defaultPurchase : Order where
  artifactId := 81
  createdAt := 0
  parentIntentId := 70
  executionPlanId := 80
  instrument := paperInstrument
  side := .buy
  quantity := .ofNat 4
  orderType := "passive_limit"
  price := some (.ofNat 100)
  timeInForce := "gtc"
  idempotencyKey := "paper:" ++ String.ofList (List.replicate 32 '0')
  state := .created
  quantity_pos := fourUnits_decimal_pos
  price_pos := hundred_price_pos
  tokens_normal := passive_tokens_normal
  limit_priced := fun _ => rfl
  idempotencyKey_normal := defaultKey_normal

theorem defaultPurchase_approved :
    buildDefaultOrders paperBuilder ⟨paperDecision 0, some approvedVerdict⟩
      (paperHoldings Dict.empty) paperMarket = .ok [defaultPurchase] := by
  decide +kernel

theorem defaultPurchase_halved :
    buildDefaultOrders paperBuilder ⟨paperDecision 0, some halvedVerdict⟩
      (paperHoldings Dict.empty) paperMarket = .ok [defaultPurchase] := by
  decide +kernel

def defaultFills : List OrderFill :=
  [⟨defaultPurchase, bookFill "v-1" 3 100 0 (by decide +kernel) paperFillId_normal⟩,
    ⟨defaultPurchase, bookFill "v-2" 1 99 1 (by decide +kernel) laterFillId_normal⟩]

theorem defaultFills_complete : FillsCompletely [defaultPurchase] defaultFills where
  ordered := by
    intro f hf
    rcases mem_cons.mp hf with rfl | hf
    · exact mem_singleton_self _
    · rw [mem_singleton.mp hf]
      exact mem_singleton_self _
  complete := by
    intro order horder
    rw [mem_singleton.mp horder]
    decide +kernel

theorem cash_only_finite : FiniteHoldings (paperHoldings Dict.empty) :=
  fun _ => FiniteDecimal.zero

end AdvisorAI
