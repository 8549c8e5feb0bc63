import AdvisorAI.Contracts.Scalars
import AdvisorAI.Lib.Dict
import AdvisorAI.Lib.Local

/-!
# The account

`AccountState` holds the cash, positions, marks and running totals of a paper
account, and its mutators follow the Python methods assignment by assignment: a
mutator that raises leaves what it has already assigned. They are generic in
the number type, so that they can be run with exact rationals and reasoned
about for every decimal context.

`snapshot` is the read-only copy with the derived figures, stamped with a hash
of the whole state.
-/

namespace AdvisorAI

open Lib

/-- A `Fill` as the account reads it, in the account's numbers. -/
structure AccountFill (N : Type) [Arith N] where
  artifactId : UUID
  orderId : UUID
  venueFillId : String
  quantity : N
  price : N
  fee : N
  occurredAt : Timestamp
  quantity_pos : Arith.lt Arith.zero quantity = true
  price_pos : Arith.lt Arith.zero price = true
  fee_nonneg : Arith.lt fee Arith.zero = false
  venueFillId_normal : isBlank venueFillId = false ∧ strip venueFillId = venueFillId
  occurredAt_valid : datetimeMin ≤ occurredAt ∧ occurredAt ≤ datetimeMax

/-- The account's fields, in the order of the source. -/
structure AccountState (N : Type) where
  cash : N
  positions : Dict String N
  marks : Dict String N
  averageCost : Dict String N
  feesPaid : N
  fundingPaid : N
  realizedPnl : N
  marginUsed : N
  marginAvailable : Option N
  startingCash : Option N
  peakEquity : Option N
  dailyRealizedPnl : N
  rollingRealizedPnl : N
  liquidationBuffer : Option N
  borrowPaid : N
  fxAdjustments : N
  corporateActionAdjustments : N
  asOf : Timestamp
deriving DecidableEq

abbrev Account (N : Type) := EStateM PyError (AccountState N)

namespace AccountState

variable {N : Type} [Arith N]

def new (cash : N) (asOf : Timestamp) : AccountState N where
  cash := cash
  positions := Dict.empty
  marks := Dict.empty
  averageCost := Dict.empty
  feesPaid := Arith.zero
  fundingPaid := Arith.zero
  realizedPnl := Arith.zero
  marginUsed := Arith.zero
  marginAvailable := none
  startingCash := none
  peakEquity := none
  dailyRealizedPnl := Arith.zero
  rollingRealizedPnl := Arith.zero
  liquidationBuffer := none
  borrowPaid := Arith.zero
  fxAdjustments := Arith.zero
  corporateActionAdjustments := Arith.zero
  asOf := asOf

/-- `x < 0`. -/
def isNegative (x : N) : Bool := Arith.lt x Arith.zero

variable (s : AccountState N)

/-- `__post_init__`: what is checked of the fields given, and the two defaults
taken from the cash. -/
def postInit : Except PyError (AccountState N) :=
  let monetary := [s.cash, s.feesPaid, s.fundingPaid, s.realizedPnl, s.marginUsed,
    s.dailyRealizedPnl, s.rollingRealizedPnl, s.borrowPaid, s.fxAdjustments,
    s.corporateActionAdjustments] ++ s.marginAvailable.toList ++ s.startingCash.toList ++
    s.peakEquity.toList ++ s.liquidationBuffer.toList
  let startingCash := s.startingCash.getD s.cash
  let peakEquity := s.peakEquity.getD s.cash
  if monetary.any fun value => !Arith.isFinite value then
    .error (valueError "account monetary values must be finite")
  else if (s.positions.keys ++ s.marks.keys ++ s.averageCost.keys).any isBlank then
    .error (valueError "account instrument identifiers cannot be blank")
  else if (s.positions.values ++ s.marks.values).any fun value => !Arith.isFinite value then
    .error (valueError "account positions and marks must be finite")
  else if s.marks.values.any fun value => !Arith.lt Arith.zero value then
    .error (valueError "account marks must be positive")
  else if s.averageCost.values.any fun value => !Arith.isFinite value || isNegative value then
    .error (valueError "average costs cannot be negative")
  else if [s.feesPaid, s.fundingPaid, s.marginUsed, s.borrowPaid].any isNegative then
    .error (valueError "account fees, funding, and margin cannot be negative")
  else if isNegative s.cash then
    .error (valueError "paper account cash cannot start negative")
  else if isNegative startingCash then
    .error (valueError "starting cash cannot be negative")
  else if isNegative peakEquity then
    .error (valueError "peak equity cannot be negative")
  else .ok { s with startingCash := some startingCash, peakEquity := some peakEquity }

omit [Arith N] in
private theorem ok_of_ite {α : Type} {c : Prop} [Decidable c] {e : PyError} {a : α}
    {x : Except PyError α} (h : (if c then .error e else x) = .ok a) : x = .ok a := by
  split at h
  · cases h
  · exact h

theorem postInit_ok {s s' : AccountState N} (h : s.postInit = .ok s') :
    s' = { s with
      startingCash := some (s.startingCash.getD s.cash)
      peakEquity := some (s.peakEquity.getD s.cash) } := by
  -- Nine checks, each of which has to pass.
  iterate 9 replace h := ok_of_ite h
  cases h
  rfl

def aware (value : Datetime) : Except PyError Timestamp :=
  value.aware "account timestamp must include a timezone"

/-! ## Derived figures -/

def unrealized : Except PyError N :=
  Arith.sum (s.positions.entries.filterMap fun (instrument, quantity) =>
    (s.marks.get instrument).map fun mark => do
      let gain ← Arith.sub mark (s.averageCost.getD instrument mark)
      Arith.mul gain quantity)

def grossNotional : Except PyError N :=
  Arith.sum (s.positions.entries.map fun (instrument, quantity) => do
    Arith.mul (← Arith.abs quantity) (s.marks.getD instrument Arith.zero))

def netNotional : Except PyError N :=
  Arith.sum (s.positions.entries.map fun (instrument, quantity) =>
    Arith.mul quantity (s.marks.getD instrument Arith.zero))

def equity : Except PyError N := do
  Arith.add s.cash (← Arith.sum (s.positions.entries.map fun (instrument, quantity) =>
    Arith.mul quantity (s.marks.getD instrument Arith.zero)))

/-- `self.peak_equity or default`. -/
def peakOr (default : N) : N :=
  match s.peakEquity with
  | some peak => if Arith.isZero peak then default else peak
  | none => default

def drawdown : Except PyError N := do
  let loss ← Arith.sub (s.peakOr Arith.zero) (← s.equity)
  return Arith.max Arith.zero loss

/-! ## Mutators -/

def updatePeakEquity : Account N Unit :=
  Local.assign fun s => do
    let equity ← s.equity
    return { s with peakEquity := some (Arith.max (s.peakOr equity) equity) }

/-- `self.as_of = max(self.as_of, occurred_at)` followed by `_update_peak_equity`. -/
def advance (occurredAt : Timestamp) : Account N Unit := do
  Local.modify fun s => { s with asOf := Max.max s.asOf occurredAt }
  updatePeakEquity

/-- The direction of a position, as the factor of its gains. -/
def direction (quantity : N) : Except PyError N :=
  if Arith.lt Arith.zero quantity then .ok Arith.one else Arith.neg Arith.one

variable (price oldQuantity oldAverage signedQuantity : N)

/-- The realized profit of the part of a fill that closes a position. -/
def closeOut : Account N Unit :=
  if !Arith.isZero oldQuantity &&
      Arith.lt Arith.zero oldQuantity != Arith.lt Arith.zero signedQuantity then
    Local.assign fun s => do
      let closed := Arith.min (← Arith.abs oldQuantity) (← Arith.abs signedQuantity)
      let gain ← Arith.mul (← Arith.sub price oldAverage) closed
      return { s with
        realizedPnl := ← Arith.add s.realizedPnl (← Arith.mul gain (← direction oldQuantity)) }
  else pure ()

/-- The average cost after a fill that opens or extends a position. -/
def extendedAverage : Except PyError N := do
  let total ← Arith.add (← Arith.abs oldQuantity) (← Arith.abs signedQuantity)
  let before ← Arith.mul oldAverage (← Arith.abs oldQuantity)
  let added ← Arith.mul price (← Arith.abs signedQuantity)
  Arith.div (← Arith.add before added) total

/-- What a fill does to the positions and their average costs. -/
def movePosition (instrument : String) (price oldQuantity oldAverage signedQuantity newQuantity : N) :
    Account N Unit :=
  if Arith.isZero newQuantity then
    Local.modify fun s => { s with
      positions := s.positions.erase instrument
      averageCost := s.averageCost.erase instrument }
  else if (!Arith.lt oldQuantity Arith.zero && Arith.lt Arith.zero signedQuantity) ||
      (!Arith.lt Arith.zero oldQuantity && Arith.lt signedQuantity Arith.zero) then do
    Local.assign fun s => do
      let average ← extendedAverage price oldQuantity oldAverage signedQuantity
      return { s with averageCost := s.averageCost.set instrument average }
    Local.modify fun s => { s with positions := s.positions.set instrument newQuantity }
  else do
    Local.modify fun s => { s with positions := s.positions.set instrument newQuantity }
    -- A fill that crosses zero opens the rest at its own price.
    if !Arith.isZero oldQuantity &&
        Arith.lt Arith.zero oldQuantity != Arith.lt Arith.zero newQuantity then
      Local.modify fun s => { s with averageCost := s.averageCost.set instrument price }
    else pure ()

variable (fill : AccountFill N)

/-- What a fill does to the totals, once the position has moved. -/
def bookTotals (signedQuantity realizedBefore : N) : Account N Unit := do
  Local.assign fun s => do
    return { s with cash := ← Arith.sub s.cash (← Arith.mul fill.price signedQuantity) }
  Local.assign fun s => do return { s with feesPaid := ← Arith.add s.feesPaid fill.fee }
  Local.assign fun s => do return { s with cash := ← Arith.sub s.cash fill.fee }
  let realizedPnl ← Local.read fun s => s.realizedPnl
  let realizedDelta ← Local.lift (Arith.sub realizedPnl realizedBefore)
  let change ← Local.lift (Arith.sub realizedDelta fill.fee)
  Local.assign fun s => do
    return { s with dailyRealizedPnl := ← Arith.add s.dailyRealizedPnl change }
  Local.assign fun s => do
    return { s with rollingRealizedPnl := ← Arith.add s.rollingRealizedPnl change }
  advance fill.occurredAt

/-- The quantity of a fill, negative on the selling side. -/
def signed (side : String) (quantity : N) : Except PyError N :=
  if side = "buy" then .ok quantity else Arith.neg quantity

def applyFill (side instrumentId : String) : Account N Unit :=
  if isBlank instrumentId then
    Local.raise (valueError "fill instrument identifier cannot be blank")
  else
    let instrument := strip instrumentId
    let side := lower (strip side)
    if side ∉ ["buy", "sell"] then Local.raise (valueError "side must be buy or sell")
    else do
      let signedQuantity ← Local.lift (signed side fill.quantity)
      let oldQuantity ← Local.read fun s => s.positions.getD instrument Arith.zero
      let oldAverage ← Local.read fun s => s.averageCost.getD instrument Arith.zero
      let newQuantity ← Local.lift (Arith.add oldQuantity signedQuantity)
      let realizedBefore ← Local.read fun s => s.realizedPnl
      closeOut fill.price oldQuantity oldAverage signedQuantity
      movePosition instrument fill.price oldQuantity oldAverage signedQuantity newQuantity
      bookTotals fill signedQuantity realizedBefore

variable (amount : N)

/-- The assignments funding and borrow costs share. -/
def payCost : Account N Unit := do
  Local.assign fun s => do return { s with cash := ← Arith.sub s.cash amount }
  Local.assign fun s => do
    return { s with dailyRealizedPnl := ← Arith.sub s.dailyRealizedPnl amount }
  Local.assign fun s => do
    return { s with rollingRealizedPnl := ← Arith.sub s.rollingRealizedPnl amount }

variable (occurredAt : Datetime)

/-- Funding assigns first and looks at the time last. -/
def applyFunding : Account N Unit :=
  if !Arith.isFinite amount || isNegative amount then
    Local.raise (valueError "funding amount must be finite and non-negative")
  else do
    Local.assign fun s => do return { s with fundingPaid := ← Arith.add s.fundingPaid amount }
    payCost amount
    let occurredAt ← Local.lift (aware occurredAt)
    advance occurredAt

def applyCashTransfer : Account N Unit :=
  if Arith.isZero amount || !Arith.isFinite amount then
    Local.raise (valueError "cash transfer amount cannot be zero")
  else do
    let occurredAt ← Local.lift (aware occurredAt)
    Local.assign fun s => do return { s with cash := ← Arith.add s.cash amount }
    advance occurredAt

def applyBorrow : Account N Unit :=
  if !Arith.isFinite amount || isNegative amount then
    Local.raise (valueError "borrow amount must be finite and non-negative")
  else do
    let occurredAt ← Local.lift (aware occurredAt)
    Local.assign fun s => do return { s with borrowPaid := ← Arith.add s.borrowPaid amount }
    payCost amount
    advance occurredAt

def applyFxAdjustment : Account N Unit :=
  if !Arith.isFinite amount || Arith.isZero amount then
    Local.raise (valueError "FX adjustment must be finite and non-zero")
  else do
    let occurredAt ← Local.lift (aware occurredAt)
    Local.assign fun s => do
      return { s with fxAdjustments := ← Arith.add s.fxAdjustments amount }
    Local.assign fun s => do return { s with cash := ← Arith.add s.cash amount }
    advance occurredAt

/-- The assignments a corporate action and a dividend share. -/
def creditAction : Account N Unit := do
  Local.assign fun s => do
    return { s with
      corporateActionAdjustments := ← Arith.add s.corporateActionAdjustments amount }
  Local.assign fun s => do return { s with cash := ← Arith.add s.cash amount }

def applyCorporateAction : Account N Unit :=
  if !Arith.isFinite amount || Arith.isZero amount then
    Local.raise (valueError "corporate action adjustment must be finite and non-zero")
  else do
    let occurredAt ← Local.lift (aware occurredAt)
    creditAction amount
    advance occurredAt

/-- Replace the value under a key by a computed one, if there is one. -/
def rescale (d : Dict String N) (instrument : String) (f : N → Except PyError N) :
    Except PyError (Dict String N) :=
  match d.get instrument with
  | none => .ok d
  | some value => do return d.set instrument (← f value)

variable (instrumentId : String)

def applySplit (ratio : N) (occurredAt : Datetime) : Account N Unit :=
  let instrument := strip instrumentId
  if instrument = "" then Local.raise (valueError "split instrument identifier cannot be blank")
  else if !Arith.isFinite ratio || !Arith.lt Arith.zero ratio then
    Local.raise (valueError "split ratio must be finite and positive")
  else do
    let occurredAt ← Local.lift (aware occurredAt)
    Local.assign fun s => do
      return { s with positions := ← rescale s.positions instrument (Arith.mul · ratio) }
    Local.assign fun s => do
      return { s with averageCost := ← rescale s.averageCost instrument (Arith.div · ratio) }
    Local.assign fun s => do
      return { s with marks := ← rescale s.marks instrument (Arith.div · ratio) }
    advance occurredAt

def applyDividend (cashPerUnit : N) (occurredAt : Datetime) :
    Account N Unit :=
  let instrument := strip instrumentId
  if instrument = "" then Local.raise (valueError "dividend instrument identifier cannot be blank")
  else if !Arith.isFinite cashPerUnit || isNegative cashPerUnit then
    Local.raise (valueError "dividend cash per unit must be finite and non-negative")
  else do
    let occurredAt ← Local.lift (aware occurredAt)
    let quantity ← Local.read fun s => s.positions.getD instrument Arith.zero
    let amount ← Local.lift (Arith.mul quantity cashPerUnit)
    if Arith.isZero amount then pure () else creditAction amount
    advance occurredAt

/-- The margin is assigned first, the time looked at last. -/
def updateMargin (marginUsed marginAvailable : N) (asOf : Datetime) : Account N Unit :=
  if !Arith.isFinite marginUsed || !Arith.isFinite marginAvailable || isNegative marginUsed ||
      isNegative marginAvailable then
    Local.raise (valueError "margin values cannot be negative")
  else do
    Local.modify fun s => { s with
      marginUsed := marginUsed
      marginAvailable := some marginAvailable
      liquidationBuffer := some marginAvailable }
    let asOf ← Local.lift (aware asOf)
    advance asOf

def mark (instrumentId : String) (price : N) (asOf : Datetime) : Account N Unit :=
  if isBlank instrumentId then
    Local.raise (valueError "mark instrument identifier cannot be blank")
  else if !Arith.isFinite price || !Arith.lt Arith.zero price then
    Local.raise (valueError "mark price must be positive")
  else do
    let instrument := strip instrumentId
    let asOf ← Local.lift (aware asOf)
    Local.modify fun s => { s with marks := s.marks.set instrument price }
    advance asOf

end AccountState

inductive AccountMutation (N : Type) [Arith N] where
  | fill (fill : AccountFill N) (side instrumentId : String)
  | funding (amount : N) (occurredAt : Datetime)
  | cashTransfer (amount : N) (occurredAt : Datetime)
  | borrow (amount : N) (occurredAt : Datetime)
  | fxAdjustment (amount : N) (occurredAt : Datetime)
  | corporateAction (amount : N) (occurredAt : Datetime)
  | split (instrumentId : String) (ratio : N) (occurredAt : Datetime)
  | dividend (instrumentId : String) (cashPerUnit : N) (occurredAt : Datetime)
  | margin (marginUsed marginAvailable : N) (asOf : Datetime)
  | mark (instrumentId : String) (price : N) (asOf : Datetime)

open AccountState in
def AccountMutation.run {N : Type} [Arith N] : AccountMutation N → Account N Unit
  | .fill f side instrumentId => applyFill f side instrumentId
  | .funding amount occurredAt => applyFunding amount occurredAt
  | .cashTransfer amount occurredAt => applyCashTransfer amount occurredAt
  | .borrow amount occurredAt => applyBorrow amount occurredAt
  | .fxAdjustment amount occurredAt => applyFxAdjustment amount occurredAt
  | .corporateAction amount occurredAt => applyCorporateAction amount occurredAt
  | .split instrumentId ratio occurredAt => applySplit instrumentId ratio occurredAt
  | .dividend instrumentId cashPerUnit occurredAt =>
    applyDividend instrumentId cashPerUnit occurredAt
  | .margin marginUsed marginAvailable asOf => updateMargin marginUsed marginAvailable asOf
  | .mark instrumentId price asOf => AccountState.mark instrumentId price asOf

/-! ## Snapshots -/

/-- What the state hash is taken of, a number standing for its text. -/
structure HashedState (N : Type) where
  cash : N
  positions : List (String × N)
  averageCost : List (String × N)
  marks : List (String × N)
  feesPaid : N
  fundingPaid : N
  realizedPnl : N
  unrealizedPnl : N
  marginUsed : N
  marginAvailable : Option N
  startingCash : Option N
  peakEquity : Option N
  dailyRealizedPnl : N
  rollingRealizedPnl : N
  borrowPaid : N
  fxAdjustments : N
  corporateActionAdjustments : N
  liquidationBuffer : Option N
  asOf : Timestamp

structure AccountStateSnapshot (N : Type) where
  cash : N
  positions : List (String × N)
  marks : List (String × N)
  feesPaid : N
  fundingPaid : N
  realizedPnl : N
  unrealizedPnl : N
  marginUsed : N
  marginAvailable : Option N
  asOf : Timestamp
  stateHash : Digest
  equity : N
  grossNotional : N
  netNotional : N
  drawdown : N
  dailyRealizedPnl : N
  rollingRealizedPnl : N
  liquidationBuffer : Option N
  borrowPaid : N
  fxAdjustments : N
  corporateActionAdjustments : N
  averageCost : List (String × N)
deriving DecidableEq

section Snapshot

variable {N : Type} [Arith N]

/-- `__post_init__` of a snapshot. The keys of a dictionary are distinct, and
the timestamp and the digest have their form by type. -/
def AccountStateSnapshot.postInit (s : AccountStateSnapshot N) :
    Except PyError (AccountStateSnapshot N) :=
  let values := [s.cash] ++ s.positions.map Prod.snd ++ s.marks.map Prod.snd ++
    [s.feesPaid, s.fundingPaid, s.realizedPnl, s.unrealizedPnl, s.marginUsed, s.equity,
      s.grossNotional, s.netNotional, s.drawdown, s.dailyRealizedPnl, s.rollingRealizedPnl,
      s.borrowPaid, s.fxAdjustments, s.corporateActionAdjustments] ++
    s.marginAvailable.toList ++ s.liquidationBuffer.toList
  if values.any fun value => !Arith.isFinite value then
    .error (valueError "account snapshot values must be finite Decimal instances")
  else if s.positions.any fun entry => isBlank entry.1 then
    .error (valueError "account snapshot position identifiers cannot be blank")
  else if s.marks.any fun entry => isBlank entry.1 then
    .error (valueError "account snapshot mark identifiers cannot be blank")
  else if s.averageCost.any fun entry => isBlank entry.1 then
    .error (valueError "account snapshot average-cost identifiers cannot be blank")
  else if s.averageCost.any fun entry =>
      !Arith.isFinite entry.2 || AccountState.isNegative entry.2 then
    .error (valueError "account snapshot average costs must be finite and non-negative")
  else .ok s

/-- `sorted` entries of a dictionary; their keys are distinct. -/
def sortedEntries (d : Dict String N) : List (String × N) :=
  d.entries.mergeSort fun a b => decide (a.1 ≤ b.1)

namespace AccountState

/-- The payload of the state hash, with the unrealized profit it contains. -/
def hashed (s : AccountState N) (unrealizedPnl : N) : HashedState N where
  cash := s.cash
  positions := sortedEntries s.positions
  averageCost := sortedEntries s.averageCost
  marks := sortedEntries s.marks
  feesPaid := s.feesPaid
  fundingPaid := s.fundingPaid
  realizedPnl := s.realizedPnl
  unrealizedPnl := unrealizedPnl
  marginUsed := s.marginUsed
  marginAvailable := s.marginAvailable
  startingCash := s.startingCash
  peakEquity := s.peakEquity
  dailyRealizedPnl := s.dailyRealizedPnl
  rollingRealizedPnl := s.rollingRealizedPnl
  borrowPaid := s.borrowPaid
  fxAdjustments := s.fxAdjustments
  corporateActionAdjustments := s.corporateActionAdjustments
  liquidationBuffer := s.liquidationBuffer
  asOf := s.asOf

/-- `snapshot`, with SHA-256 of the payload's JSON as a parameter. -/
def snapshot (digest : HashedState N → Digest) (s : AccountState N) :
    Except PyError (AccountStateSnapshot N) := do
  let unrealizedPnl ← s.unrealized
  AccountStateSnapshot.postInit {
    cash := s.cash
    positions := sortedEntries s.positions
    marks := sortedEntries s.marks
    feesPaid := s.feesPaid
    fundingPaid := s.fundingPaid
    realizedPnl := s.realizedPnl
    unrealizedPnl := unrealizedPnl
    marginUsed := s.marginUsed
    marginAvailable := s.marginAvailable
    asOf := s.asOf
    stateHash := digest (s.hashed unrealizedPnl)
    equity := ← s.equity
    grossNotional := ← s.grossNotional
    netNotional := ← s.netNotional
    drawdown := ← s.drawdown
    dailyRealizedPnl := s.dailyRealizedPnl
    rollingRealizedPnl := s.rollingRealizedPnl
    liquidationBuffer := s.liquidationBuffer
    borrowPaid := s.borrowPaid
    fxAdjustments := s.fxAdjustments
    corporateActionAdjustments := s.corporateActionAdjustments
    averageCost := sortedEntries s.averageCost }

end AccountState

end Snapshot

end AdvisorAI
