import AdvisorAI.Contracts.FiniteDecimals
import AdvisorAI.Execution.Risk

/-!
# Execution policies

The parameters of an order are chosen from the difference to trade and a quote. The policy decides
between an immediate and a passive order; which side and how much follow from the difference alone.
-/

namespace AdvisorAI

open Lib

inductive ExecutionPolicyKind where
  | immediate | passiveLimit
deriving DecidableEq, Repr

/-- A quote. Its numbers are positive and the ask is not below the bid. -/
structure QuoteState where
  mark : ℚ
  bid : Option ℚ
  ask : Option ℚ
  mark_pos : 0 < mark
  bid_pos : ∀ b ∈ bid, 0 < b
  ask_pos : ∀ a ∈ ask, 0 < a
  ordered : ∀ b ∈ bid, ∀ a ∈ ask, b ≤ a

namespace QuoteState

/-- `QuoteState(mark=mark)`. -/
def ofMark (mark : ℚ) (h : 0 < mark) : QuoteState where
  mark := mark
  bid := none
  ask := none
  mark_pos := h
  bid_pos := by simp
  ask_pos := by simp
  ordered := by simp

variable (quote : QuoteState)

/-- What an immediate order is priced at: the other side of the book, or the mark. -/
def takerPrice : Side → ℚ
  | .buy => quote.ask.getD quote.mark
  | .sell => quote.bid.getD quote.mark

/-- What a passive order is priced at: its own side of the book, or the mark. -/
def makerPrice : Side → ℚ
  | .buy => quote.bid.getD quote.mark
  | .sell => quote.ask.getD quote.mark

theorem getD_pos {price : Option ℚ} {mark : ℚ} (hprice : ∀ p ∈ price, 0 < p) (hmark : 0 < mark) :
    0 < price.getD mark := by
  cases price with
  | none => exact hmark
  | some p => exact hprice p rfl

theorem takerPrice_pos (side : Side) : 0 < quote.takerPrice side := by
  cases side with
  | buy => exact getD_pos quote.ask_pos quote.mark_pos
  | sell => exact getD_pos quote.bid_pos quote.mark_pos

theorem makerPrice_pos (side : Side) : 0 < quote.makerPrice side := by
  cases side with
  | buy => exact getD_pos quote.bid_pos quote.mark_pos
  | sell => exact getD_pos quote.ask_pos quote.mark_pos

end QuoteState

structure ExecutionChoice where
  policy : ExecutionPolicyKind
  side : Side
  quantity : ℚ
  orderType : String
  price : ℚ
  timeInForce : String
  reason : String
  quantity_pos : 0 < quantity
  price_pos : 0 < price
  tokens_normal : ∀ t ∈ [orderType, timeInForce], isBlank t = false ∧ lower (strip t) = t

namespace DeterministicExecutionPolicy

variable (signedDelta : ℚ)

def tradedSide : Side := if 0 < signedDelta then .buy else .sell

theorem immediate_tokens_normal :
    ∀ t ∈ ["market", "ioc"], isBlank t = false ∧ lower (strip t) = t := by
  decide +kernel

theorem passive_tokens_normal :
    ∀ t ∈ ["passive_limit", "gtc"], isBlank t = false ∧ lower (strip t) = t := by
  decide +kernel

def chosen (hdelta : signedDelta ≠ 0) (quote : QuoteState) :
    ExecutionPolicyKind → ExecutionChoice
  | .immediate =>
    { policy := .immediate
      side := tradedSide signedDelta
      quantity := |signedDelta|
      orderType := "market"
      price := quote.takerPrice (tradedSide signedDelta)
      timeInForce := "ioc"
      reason := "immediate policy selected by deterministic urgency rule"
      quantity_pos := abs_pos.mpr hdelta
      price_pos := quote.takerPrice_pos _
      tokens_normal := immediate_tokens_normal }
  | .passiveLimit =>
    { policy := .passiveLimit
      side := tradedSide signedDelta
      quantity := |signedDelta|
      orderType := "passive_limit"
      price := quote.makerPrice (tradedSide signedDelta)
      timeInForce := "gtc"
      reason := "passive limit policy selected to reduce spread cost"
      quantity_pos := abs_pos.mpr hdelta
      price_pos := quote.makerPrice_pos _
      tokens_normal := passive_tokens_normal }

/-- `choose`. Nothing to trade is no choice, whatever the urgency. -/
def choose (quote : QuoteState) (policy : ExecutionPolicyKind) (urgency : ℚ := 1 / 2) :
    Except PyError (Option ExecutionChoice) :=
  if h : signedDelta = 0 then .ok none
  else if ¬(0 ≤ urgency ∧ urgency ≤ 1) then
    .error (valueError "execution urgency must be between zero and one")
  else .ok (some (chosen signedDelta h quote policy))

theorem chosen_signed {signedDelta : ℚ} (hdelta : signedDelta ≠ 0) (quote : QuoteState)
    (policy : ExecutionPolicyKind) :
    (chosen signedDelta hdelta quote policy).side = tradedSide signedDelta ∧
      (chosen signedDelta hdelta quote policy).quantity = |signedDelta| := by
  cases policy with
  | immediate => exact ⟨rfl, rfl⟩
  | passiveLimit => exact ⟨rfl, rfl⟩

end DeterministicExecutionPolicy

/-! ## Orders -/

structure ExecutionPlan where
  artifactId : UUID
  riskDecisionId : UUID
  targetPortfolioId : UUID
  policyVersion : String
  instructions : List String
  expiresAt : Timestamp
  createdAt : Timestamp
  policyVersion_ne : isBlank policyVersion = false
  instructions_ne : instructions ≠ [] ∧ ∀ i ∈ instructions, isBlank i = false
  expires : createdAt < expiresAt

/-- `build_order_from_choice`, with the identity that the order draws. -/
def buildOrderFromChoice (artifactId : UUID) (createdAt : Timestamp) (choice : ExecutionChoice)
    (parentIntentId : UUID) (executionPlan : ExecutionPlan) (instrument : InstrumentIdentity)
    (idempotencyKey : String) : Except PyError Order :=
  let quantity := Decimal.ofRat choice.quantity
  let price := Decimal.ofRat choice.price
  if h : isBlank idempotencyKey = false ∧ 0 < quantity.value ∧ 0 < price.value then .ok
    { artifactId, createdAt, parentIntentId
      executionPlanId := executionPlan.artifactId
      instrument
      side := choice.side
      quantity
      orderType := choice.orderType
      price := some price
      timeInForce := choice.timeInForce
      idempotencyKey := strip idempotencyKey
      state := .created
      quantity_pos := h.2.1
      price_pos := by
        intro p hp
        cases hp
        exact h.2.2
      tokens_normal := choice.tokens_normal
      limit_priced := fun _ => rfl
      idempotencyKey_normal := ⟨by rw [isBlank_strip]; exact h.1, strip_strip _⟩ }
  else .error ⟨"ValidationError", "Order"⟩

theorem buildOrderFromChoice_ok {artifactId parentIntentId : UUID} {createdAt : Timestamp}
    {choice : ExecutionChoice} {executionPlan : ExecutionPlan} {instrument : InstrumentIdentity}
    {idempotencyKey : String} {order : Order}
    (h : buildOrderFromChoice artifactId createdAt choice parentIntentId executionPlan instrument
      idempotencyKey = .ok order) : order.side = choice.side ∧
      order.quantity = .ofRat choice.quantity ∧ order.instrument = instrument := by
  unfold buildOrderFromChoice at h
  dsimp only at h
  split at h
  · cases h
    exact ⟨rfl, rfl, rfl⟩
  · cases h

end AdvisorAI
