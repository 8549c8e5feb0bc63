import Mathlib.Algebra.Order.Field.Rat
import AdvisorAI.Lib.Text

/-!
# The contracts of a durable hand-off

Orders, fills and risk records are validated when they are built and frozen
afterwards. The structures below carry the validators as proof fields, so a
value of type `Order` or `Fill` has already passed them.

Decimals keep their spelling. Two artifacts are compared by the JSON text of
their payloads, in which `1` and `1.0` differ although they are equal as
numbers; `Decimal` therefore stores sign, digits and exponent, equality on it
is equality of the spelled text, and `Decimal.value` is the number the
arithmetic of the order manager and the risk kernel is about.
-/

namespace AdvisorAI

open Lib

abbrev UUID := Nat

/-- An aware timestamp, in microseconds of UTC. -/
abbrev Timestamp := Int

/-- An exception: its class and its message. -/
structure PyError where
  typeName : String
  message : String
deriving DecidableEq, Repr

def valueError (message : String) : PyError := ⟨"ValueError", message⟩

structure Digest where
  text : String
  length_eq : text.length = 64
  hexadecimal : ∀ c ∈ text.toList, c ∈ "0123456789abcdef".toList
deriving DecidableEq

def paperDigest : Digest where
  text := String.ofList (List.replicate 64 '0')
  length_eq := by
    rw [String.length_ofList, List.length_replicate]
  hexadecimal := by
    intro c hc
    rw [String.toList_ofList] at hc
    rw [List.eq_of_mem_replicate hc]
    decide

/-- A finite decimal number as written: `±digits · 10 ^ exponent`. -/
structure Decimal where
  negative : Bool
  digits : Nat
  exponent : Int
deriving DecidableEq, Repr

namespace Decimal

def value (d : Decimal) : ℚ :=
  let signed : Int := if d.negative then -(d.digits : Int) else d.digits
  match d.exponent with
  | .ofNat e => (signed * 10 ^ e : Int)
  | .negSucc e => (signed : ℚ) / (10 ^ (e + 1) : Nat)

/-- The decimal spelled by an integer literal. -/
def ofNat (n : Nat) : Decimal := ⟨false, n, 0⟩

@[simp] theorem value_ofNat (n : Nat) : (ofNat n).value = n := by
  simp [value, ofNat]

end Decimal

inductive AssetClass where
  | crypto | equity | fx | future | option | fund | other
deriving DecidableEq, Repr

def AssetClass.value : AssetClass → String
  | .crypto => "crypto"
  | .equity => "equity"
  | .fx => "fx"
  | .future => "future"
  | .option => "option"
  | .fund => "fund"
  | .other => "other"

theorem AssetClass.value_injective : Function.Injective AssetClass.value := by
  intro a b h
  cases a <;> cases b <;> first | rfl | exact absurd h (by decide)

/-- Canonical, venue-aware instrument identity. It is an artifact of its own:
its identifier and creation time are part of every payload that embeds it. -/
structure InstrumentIdentity where
  artifactId : UUID
  createdAt : Timestamp
  canonicalId : String
  assetClass : AssetClass
  venue : Option String := none
  venueSymbol : Option String := none
  baseAsset : Option String := none
  quoteAsset : Option String := none
  validFrom : Option Timestamp := none
  validTo : Option Timestamp := none
  canonicalId_ne : canonicalId ≠ ""
  validWindow : ∀ a ∈ validFrom, ∀ b ∈ validTo, a < b
deriving DecidableEq

def paperInstrument : InstrumentIdentity where
  artifactId := 100
  createdAt := 0
  canonicalId := "crypto:BTC-USD"
  assetClass := .crypto
  canonicalId_ne := by decide
  validWindow := by simp

/-! ### Texts and numbers of the examples -/

theorem paperKey_normal : isBlank "key-1" = false ∧ strip "key-1" = "key-1" := by
  decide +kernel

theorem paperFillId_normal : isBlank "v-1" = false ∧ strip "v-1" = "v-1" := by
  decide +kernel

theorem laterFillId_normal : isBlank "v-2" = false ∧ strip "v-2" = "v-2" := by
  decide +kernel

theorem Decimal.hundred_pos : 0 < (Decimal.ofNat 100).value := by simp

theorem Decimal.nothing_nonneg : 0 ≤ (Decimal.ofNat 0).value := by simp

/-! ## Orders and fills -/

inductive Side where
  | buy | sell
deriving DecidableEq, Repr

def Side.value : Side → String
  | .buy => "buy"
  | .sell => "sell"

theorem Side.value_injective : Function.Injective Side.value := by
  intro a b h
  cases a <;> cases b <;> first | rfl | exact absurd h (by decide)

inductive OrderState where
  | created | riskApproved | routed | acknowledged | partiallyFilled | filled
  | cancelPending | cancelled | rejected | expired | reconciled
deriving DecidableEq, Repr

def OrderState.value : OrderState → String
  | .created => "created"
  | .riskApproved => "risk_approved"
  | .routed => "routed"
  | .acknowledged => "acknowledged"
  | .partiallyFilled => "partially_filled"
  | .filled => "filled"
  | .cancelPending => "cancel_pending"
  | .cancelled => "cancelled"
  | .rejected => "rejected"
  | .expired => "expired"
  | .reconciled => "reconciled"

/-- Every state, in the order of the enumeration. -/
def OrderState.all : List OrderState :=
  [.created, .riskApproved, .routed, .acknowledged, .partiallyFilled, .filled, .cancelPending,
    .cancelled, .rejected, .expired, .reconciled]

theorem OrderState.mem_all (s : OrderState) : s ∈ OrderState.all := by
  cases s <;> decide

/-- A decidable property of states is decided by trying them all. -/
instance OrderState.decidableForall {p : OrderState → Prop} [DecidablePred p] :
    Decidable (∀ s, p s) :=
  decidable_of_iff (∀ s ∈ OrderState.all, p s) ⟨fun h s => h s s.mem_all, fun h s _ => h s⟩

def limitOrderTypes : List String := ["limit", "passive_limit"]

structure Order where
  artifactId : UUID
  createdAt : Timestamp
  parentIntentId : UUID
  executionPlanId : UUID
  instrument : InstrumentIdentity
  side : Side
  quantity : Decimal
  orderType : String
  price : Option Decimal
  timeInForce : String
  idempotencyKey : String
  state : OrderState
  quantity_pos : 0 < quantity.value
  price_pos : ∀ p ∈ price, 0 < p.value
  tokens_normal : ∀ t ∈ [orderType, timeInForce], isBlank t = false ∧ lower (strip t) = t
  limit_priced : orderType ∈ limitOrderTypes → price.isSome
  idempotencyKey_normal : isBlank idempotencyKey = false ∧ strip idempotencyKey = idempotencyKey
deriving DecidableEq

/-- `order.model_copy(update={"state": state})`. -/
def Order.withState (o : Order) (s : OrderState) : Order := { o with state := s }

structure Fill where
  artifactId : UUID
  createdAt : Timestamp
  orderId : UUID
  venueFillId : String
  quantity : Decimal
  price : Decimal
  fee : Decimal
  occurredAt : Timestamp
  quantity_pos : 0 < quantity.value
  price_pos : 0 < price.value
  fee_nonneg : 0 ≤ fee.value
  venueFillId_normal : isBlank venueFillId = false ∧ strip venueFillId = venueFillId
deriving DecidableEq

/-- The JSON of an order without `artifact_id` and `created_at`. Everything
else is compared, the state and the nested instrument's identity included. -/
def Order.logicalPayload (o : Order) : Order := { o with artifactId := 0, createdAt := 0 }

/-- The JSON of a fill without `artifact_id` and `created_at`. -/
def Fill.logicalPayload (f : Fill) : Fill := { f with artifactId := 0, createdAt := 0 }

section StateUpdate

variable (o : Order) (s t : OrderState)

@[simp] theorem Order.withState_artifactId : (o.withState s).artifactId = o.artifactId := rfl
@[simp] theorem Order.withState_idempotencyKey :
    (o.withState s).idempotencyKey = o.idempotencyKey := rfl
@[simp] theorem Order.withState_quantity : (o.withState s).quantity = o.quantity := rfl
@[simp] theorem Order.withState_state : (o.withState s).state = s := rfl
@[simp] theorem Order.withState_withState : (o.withState s).withState t = o.withState t := rfl
@[simp] theorem Order.withState_self : o.withState o.state = o := rfl

end StateUpdate

theorem Fill.venueFillId_of_logicalPayload {f g : Fill}
    (h : f.logicalPayload = g.logicalPayload) : f.venueFillId = g.venueFillId := by
  have hid := congrArg Fill.venueFillId h
  exact hid

theorem Fill.orderId_of_logicalPayload {f g : Fill}
    (h : f.logicalPayload = g.logicalPayload) : f.orderId = g.orderId := by
  have hid := congrArg Fill.orderId h
  exact hid

/-! ## Risk records -/

structure TargetPosition where
  artifactId : UUID
  instrument : InstrumentIdentity
  targetQuantity : Decimal
  expectedReturnAfterCosts : Option Decimal
  rationaleArtifactIds : List UUID
deriving DecidableEq

structure TargetPortfolio where
  artifactId : UUID
  snapshotId : UUID
  positions : List TargetPosition
  cashTarget : Decimal
  constructionMethod : String
  expectedCost : Decimal
  riskConstraintsVersion : String
  noTradeComparison : String
  expectedCost_nonneg : 0 ≤ expectedCost.value
  positions_nodup : (positions.map fun p => p.instrument.canonicalId).Nodup
  constructionMethod_ne : isBlank constructionMethod = false
  riskConstraintsVersion_ne : isBlank riskConstraintsVersion = false
  noTradeComparison_ne : isBlank noTradeComparison = false
deriving DecidableEq

structure RiskLimit where
  name : String
  limit : Decimal
  unit : String
  limit_nonneg : 0 ≤ limit.value
  name_normal : isBlank name = false ∧ strip name = name
  unit_normal : isBlank unit = false ∧ strip unit = unit
deriving DecidableEq

structure RiskPolicy where
  artifactId : UUID
  policyVersion : String
  effectiveAt : Timestamp
  hardLimits : List RiskLimit
  approvedBy : String
  policyVersion_ne : isBlank policyVersion = false
  approvedBy_ne : isBlank approvedBy = false
  hardLimits_nodup : (hardLimits.map RiskLimit.name).Nodup
deriving DecidableEq

inductive RiskOutcome where
  | approved | reduced | rejected
deriving DecidableEq, Repr

structure RiskDecision where
  artifactId : UUID
  targetPortfolioId : UUID
  riskPolicyId : UUID
  outcome : RiskOutcome
  authoritativeStateHash : String
  reasons : List String
  reducedPositions : List TargetPosition
  rejected_reasons : outcome = .rejected → reasons ≠ []
  reduced_positions : outcome = .reduced → reducedPositions ≠ []
  approved_positions : outcome = .approved → reducedPositions = []
  reasons_nodup : reasons.Nodup
deriving DecidableEq

end AdvisorAI
