import AdvisorAI.Execution.Account
import AdvisorAI.Execution.Venue
import AdvisorAI.Ledger.Sqlite
import AdvisorAI.Lib.Journal
import AdvisorAI.Lib.Prog

/-!
# The account ledger

`AccountLedger` couples the account to the ACCOUNT ledger. Its ten operations
are one pattern with ten encoders: the key of the event is looked up among the
payloads applied before; a known key is a retry and must repeat the payload; a
new one is computed on a copy of the account, appended with the hash of that
copy's state, committed, remembered and published. `AccountEntry` is what an
operation puts into the pattern, and `applyEntry` the pattern.

`hydrate` is the constructor: ten branches decode the events and apply them to
the account it was given, checking the state hash after each.
-/

namespace AdvisorAI

open Lib

/-! ## Events -/

inductive AccountEventType where
  | fillApplied | fundingApplied | cashTransferApplied | markApplied | marginUpdated
  | borrowApplied | fxAdjustmentApplied | corporateActionApplied | splitApplied
  | dividendApplied
  | other (name : String)
deriving DecidableEq

def AccountEventType.name : AccountEventType → String
  | .fillApplied => "fill_applied"
  | .fundingApplied => "funding_applied"
  | .cashTransferApplied => "cash_transfer_applied"
  | .markApplied => "mark_applied"
  | .marginUpdated => "margin_updated"
  | .borrowApplied => "borrow_applied"
  | .fxAdjustmentApplied => "fx_adjustment_applied"
  | .corporateActionApplied => "corporate_action_applied"
  | .splitApplied => "split_applied"
  | .dividendApplied => "dividend_applied"
  | .other name => name

/-- A value of a payload: a text, or the text of an identifier, a number or a time. -/
inductive PayloadValue (N : Type) where
  | text (s : String)
  | uuid (id : UUID)
  | number (x : N)
  | time (d : Datetime)
deriving DecidableEq

abbrev Payload (N : Type) := List (String × PayloadValue N)

namespace Payload

variable {N : Type} (payload : Payload N)

/-- `payload.get(name)`. -/
def get (name : String) : Option (PayloadValue N) :=
  lookupEntry name payload

/-- `payload[name]`. -/
def item (name : String) : Except PyError (PayloadValue N) :=
  match payload.get name with
  | some value => .ok value
  | none => .error ⟨"KeyError", pyRepr name⟩

/-- `str(payload[name])`, of a value that is a text. -/
def text (payload : Payload N) (name : String) : Except PyError String := do
  match ← payload.item name with
  | .text s => .ok s
  | _ => .error (valueError "not a text")

/-- `UUID(str(payload[name]))`. -/
def uuid (payload : Payload N) (name : String) : Except PyError UUID := do
  match ← payload.item name with
  | .uuid id => .ok id
  | _ => .error (valueError "badly formed hexadecimal UUID string")

/-- `Decimal(str(payload[name]))`. -/
def number (payload : Payload N) (name : String) : Except PyError N := do
  match ← payload.item name with
  | .number x => .ok x
  | _ => .error ⟨"InvalidOperation", "invalid decimal"⟩

/-- `datetime.fromisoformat(str(payload[name]))`. -/
def time (payload : Payload N) (name : String) : Except PyError Datetime := do
  match ← payload.item name with
  | .time d => .ok d
  | _ => .error (valueError "Invalid isoformat string")

end Payload

abbrev AccountEvent (N : Type) := LedgerEvent AccountEventType (Payload N)

/-- The ledger, the account, the payloads applied to it by key, what was
published, and the next unused event id. -/
structure AccountWorld (N : Type) where
  accountEvents : List (AccountEvent N)
  account : AccountState N
  appliedPayloads : Dict String (Payload N)
  published : List EventEnvelope
  nextEventId : UUID

def AccountWorld.init {N : Type} (account : AccountState N) : AccountWorld N :=
  ⟨[], account, Dict.empty, [], 0⟩

abbrev AccountOps (N : Type) := Prog (AccountWorld N) PyError

def idempotencyConflict (message : String) : PyError := ⟨"IdempotencyConflict", message⟩

/-! ## The pattern of the operations -/

/-- What an operation puts into the pattern. -/
structure AccountEntry (N : Type) [Arith N] where
  key : String
  eventType : AccountEventType
  publishType : String
  artifactId : Option UUID
  /-- The payload of the event, the state hash apart. -/
  payload : Payload N
  /-- What a retry has to repeat. -/
  compared : Payload N
  /-- What the key was reused for, when it does not. -/
  conflict : String
  /-- The payload remembered in the process carries the state hash. -/
  remembersHash : Bool
  mutation : AccountMutation N

section Pattern

variable {N : Type} [Arith N] [DecidableEq N] (digest : HashedState N → Digest)
  (env : Surroundings)

/-- `self.account.snapshot()`. -/
def accountSnapshot : AccountOps N (AccountStateSnapshot N) := do
  let account ← Prog.read fun w => w.account
  Prog.lift (account.snapshot digest)

/-- `_publish_event`. -/
def publishAccountEvent (event : AccountEvent N) (publishType : String)
    (artifactId : Option UUID) : AccountOps N Unit :=
  match env.eventBus with
  | none => pure ()
  | some publish => Prog.atomic fun w =>
    let envelope : EventEnvelope := ⟨event.eventId, publishType, event.occurredAt,
      artifactId.toList, "ledger://account/" ++ uuidText event.eventId⟩
    match publish envelope with
    | none => (.ok (), { w with published := w.published ++ [envelope] })
    | some e => (.error e, w)

/-- `_republish`. -/
def republishAccountEvent (key publishType : String) (artifactId : Option UUID) :
    AccountOps N Unit :=
  match env.eventBus with
  | none => pure ()
  | some _ => do
    match ← Prog.read fun w => SqliteLedgers.findKey w.accountEvents key with
    | none => pure ()
    | some event => publishAccountEvent env event publishType artifactId

/-- `self.ledgers.append`. -/
def appendAccountEvent (eventType : AccountEventType) (key : String) (payload : Payload N) :
    AccountOps N (AccountEvent N) :=
  Prog.atomic fun w =>
    match SqliteLedgers.append w.accountEvents ⟨w.nextEventId, eventType, key, env.now, payload⟩ with
    | (result, events) =>
      (result, { w with accountEvents := events, nextEventId := w.nextEventId + 1 })

/-- A payload with the hash of the state it leads to. -/
def withHash (payload : Payload N) (snapshot : AccountStateSnapshot N) : Payload N :=
  payload ++ [("state_hash", .text snapshot.stateHash.text)]

def applyEntry (entry : AccountEntry N) : AccountOps N (AccountStateSnapshot N) := do
  match ← Prog.read fun w => w.appliedPayloads.get entry.key with
  | some prior =>
    if entry.compared.any fun field => prior.get field.1 ≠ some field.2 then
      Prog.raise (idempotencyConflict
        ("idempotency key " ++ pyRepr entry.key ++ " reused for " ++ entry.conflict))
    else do
      republishAccountEvent env entry.key entry.publishType entry.artifactId
      accountSnapshot digest
  | none => do
    let candidate ← Prog.onCopy (fun w => w.account) entry.mutation.run
    let snapshot ← Prog.lift (candidate.snapshot digest)
    let stored ← appendAccountEvent env entry.eventType entry.key
      (withHash entry.payload snapshot)
    Prog.modify fun w => { w with account := candidate }
    -- The event counts as applied before it is published: when publishing
    -- fails, a retry must not apply it again.
    Prog.modify fun w => { w with
      appliedPayloads := w.appliedPayloads.set entry.key
        (if entry.remembersHash then withHash entry.payload snapshot else entry.payload) }
    publishAccountEvent env stored entry.publishType entry.artifactId
    accountSnapshot digest

end Pattern

/-! ## The operations -/

section Entries

variable {N : Type} [Arith N]

def fillEntry (fill : AccountFill N) (side instrumentId : String) :
    Except PyError (AccountEntry N) :=
  let instrument := strip instrumentId
  let side := lower (strip side)
  if instrument = "" then
    .error (valueError "fill instrument identifier cannot be blank")
  else
    let payload : Payload N := [("fill_id", .uuid fill.artifactId),
      ("venue_fill_id", .text fill.venueFillId), ("order_id", .uuid fill.orderId),
      ("instrument_id", .text instrument), ("side", .text side),
      ("quantity", .number fill.quantity), ("price", .number fill.price),
      ("fee", .number fill.fee), ("occurred_at", .time (.ofTimestamp fill.occurredAt))]
    .ok {
      key := "account-fill:" ++ fill.venueFillId
      eventType := .fillApplied
      publishType := "account_fill_applied"
      artifactId := some fill.artifactId
      payload := payload
      compared := payload
      conflict := "different fill"
      remembersHash := false
      mutation := .fill fill side instrument }

variable (amount : N) (occurredAt : Datetime)

def fundingEntry (fundingId : String) :
    Except PyError (AccountEntry N) :=
  let fundingId := strip fundingId
  if fundingId = "" then .error (valueError "funding ID is required")
  else .ok {
    key := "funding:" ++ fundingId
    eventType := .fundingApplied
    publishType := "account_funding_applied"
    artifactId := none
    payload := [("amount", .number amount), ("occurred_at", .time occurredAt),
      ("funding_id", .text fundingId)]
    compared := [("amount", .number amount), ("occurred_at", .time occurredAt)]
    conflict := "different funding"
    remembersHash := false
    mutation := .funding amount occurredAt }

def cashTransferEntry (transferId : String) :
    Except PyError (AccountEntry N) :=
  let transferId := strip transferId
  if transferId = "" then .error (valueError "cash transfer ID is required")
  else .ok {
    key := "cash-transfer:" ++ transferId
    eventType := .cashTransferApplied
    publishType := "account_cash_transfer_applied"
    artifactId := none
    payload := [("amount", .number amount), ("occurred_at", .time occurredAt),
      ("transfer_id", .text transferId)]
    compared := [("amount", .number amount), ("occurred_at", .time occurredAt)]
    conflict := "different cash transfer"
    remembersHash := true
    mutation := .cashTransfer amount occurredAt }

/-- `_apply_adjustment`. -/
def adjustmentEntry (adjustmentId keyPrefix : String) (eventType : AccountEventType)
    (publishType : String) (mutation : AccountMutation N) :
    Except PyError (AccountEntry N) :=
  let adjustmentId := strip adjustmentId
  if adjustmentId = "" then .error (valueError "account adjustment ID is required")
  else
    let payload : Payload N := [("amount", .number amount), ("occurred_at", .time occurredAt),
      ("adjustment_id", .text adjustmentId)]
    .ok {
      key := keyPrefix ++ ":" ++ adjustmentId
      eventType := eventType
      publishType := publishType
      artifactId := none
      payload := payload
      compared := payload
      conflict := "different account adjustment"
      remembersHash := false
      mutation := mutation }

def borrowEntry (borrowId : String) :
    Except PyError (AccountEntry N) :=
  adjustmentEntry amount occurredAt borrowId "borrow" .borrowApplied "account_borrow_applied"
    (.borrow amount occurredAt)

def fxAdjustmentEntry (adjustmentId : String) :
    Except PyError (AccountEntry N) :=
  adjustmentEntry amount occurredAt adjustmentId "fx" .fxAdjustmentApplied
    "account_fx_adjustment_applied" (.fxAdjustment amount occurredAt)

def corporateActionEntry (actionId : String) :
    Except PyError (AccountEntry N) :=
  adjustmentEntry amount occurredAt actionId "corporate-action" .corporateActionApplied
    "account_corporate_action_applied" (.corporateAction amount occurredAt)

variable (instrumentId : String)

/-- `_apply_instrument_action`. -/
def instrumentActionEntry (amount : N) (occurredAt : Datetime) (actionId keyPrefix : String)
    (eventType : AccountEventType) (publishType amountName : String)
    (mutation : String → AccountMutation N) :
    Except PyError (AccountEntry N) :=
  let instrument := strip instrumentId
  let actionId := strip actionId
  if instrument = "" ∨ actionId = "" then
    .error (valueError "corporate-action instrument and action IDs are required")
  else
    let payload : Payload N := [("instrument_id", .text instrument),
      (amountName, .number amount), ("occurred_at", .time occurredAt),
      ("action_id", .text actionId)]
    .ok {
      key := keyPrefix ++ ":" ++ actionId
      eventType := eventType
      publishType := publishType
      artifactId := none
      payload := payload
      compared := payload
      conflict := "a different corporate action"
      remembersHash := false
      mutation := mutation instrument }

def splitEntry (ratio : N) (occurredAt : Datetime) (actionId : String) :
    Except PyError (AccountEntry N) :=
  instrumentActionEntry instrumentId ratio occurredAt actionId "split" .splitApplied
    "account_split_applied" "ratio" fun instrument => .split instrument ratio occurredAt

def dividendEntry (cashPerUnit : N) (occurredAt : Datetime) (actionId : String) :
    Except PyError (AccountEntry N) :=
  instrumentActionEntry instrumentId cashPerUnit occurredAt actionId "dividend"
    .dividendApplied "account_dividend_applied" "cash_per_unit"
    fun instrument => .dividend instrument cashPerUnit occurredAt

def markEntry (price : N) (asOf : Datetime) (markId : String) :
    Except PyError (AccountEntry N) :=
  let markId := strip markId
  let instrument := strip instrumentId
  if markId = "" ∨ instrument = "" then
    .error (valueError "mark and instrument IDs are required")
  else .ok {
    key := "mark:" ++ markId
    eventType := .markApplied
    publishType := "account_mark_applied"
    artifactId := none
    payload := [("instrument_id", .text instrument), ("price", .number price),
      ("as_of", .time asOf), ("mark_id", .text markId)]
    compared := [("instrument_id", .text instrument), ("price", .number price),
      ("as_of", .time asOf)]
    conflict := "different mark"
    remembersHash := true
    mutation := .mark instrument price asOf }

def marginEntry (marginUsed marginAvailable : N) (asOf : Datetime) (marginId : String) :
    Except PyError (AccountEntry N) :=
  let marginId := strip marginId
  if marginId = "" then .error (valueError "margin ID is required")
  else
    let payload : Payload N := [("margin_used", .number marginUsed),
      ("margin_available", .number marginAvailable), ("as_of", .time asOf),
      ("margin_id", .text marginId)]
    .ok {
      key := "margin:" ++ marginId
      eventType := .marginUpdated
      publishType := "account_margin_updated"
      artifactId := none
      payload := payload
      compared := payload
      conflict := "different margin"
      remembersHash := false
      mutation := .margin marginUsed marginAvailable asOf }

/-- An operation of the account ledger with its arguments. -/
inductive AccountCall (N : Type) [Arith N] where
  | fill (fill : AccountFill N) (side instrumentId : String)
  | funding (amount : N) (occurredAt : Datetime) (fundingId : String)
  | cashTransfer (amount : N) (occurredAt : Datetime) (transferId : String)
  | borrow (amount : N) (occurredAt : Datetime) (borrowId : String)
  | fxAdjustment (amount : N) (occurredAt : Datetime) (adjustmentId : String)
  | corporateAction (amount : N) (occurredAt : Datetime) (actionId : String)
  | split (instrumentId : String) (ratio : N) (occurredAt : Datetime) (actionId : String)
  | dividend (instrumentId : String) (cashPerUnit : N) (occurredAt : Datetime)
      (actionId : String)
  | mark (instrumentId : String) (price : N) (asOf : Datetime) (markId : String)
  | margin (marginUsed marginAvailable : N) (asOf : Datetime) (marginId : String)

/-- What the operation puts into the pattern, once its identifiers are checked. -/
def AccountCall.entry : AccountCall N → Except PyError (AccountEntry N)
  | .fill f side instrumentId => fillEntry f side instrumentId
  | .funding amount occurredAt fundingId => fundingEntry amount occurredAt fundingId
  | .cashTransfer amount occurredAt transferId => cashTransferEntry amount occurredAt transferId
  | .borrow amount occurredAt borrowId => borrowEntry amount occurredAt borrowId
  | .fxAdjustment amount occurredAt adjustmentId =>
    fxAdjustmentEntry amount occurredAt adjustmentId
  | .corporateAction amount occurredAt actionId =>
    corporateActionEntry amount occurredAt actionId
  | .split instrumentId ratio occurredAt actionId =>
    splitEntry instrumentId ratio occurredAt actionId
  | .dividend instrumentId cashPerUnit occurredAt actionId =>
    dividendEntry instrumentId cashPerUnit occurredAt actionId
  | .mark instrumentId price asOf markId => markEntry instrumentId price asOf markId
  | .margin marginUsed marginAvailable asOf marginId =>
    marginEntry marginUsed marginAvailable asOf marginId

/-- `apply_fill`, `apply_funding`, …: one operation. -/
def AccountCall.run [DecidableEq N] (digest : HashedState N → Digest) (env : Surroundings)
    (call : AccountCall N) : AccountOps N (AccountStateSnapshot N) := do
  let entry ← Prog.lift call.entry
  applyEntry digest env entry

end Entries

/-- `applied_fill_ids`: the venue's ids of the fills applied. -/
def appliedFillIds {N : Type} (appliedPayloads : Dict String (Payload N)) : List String :=
  appliedPayloads.values.filterMap fun payload =>
    match payload.get "venue_fill_id" with
    | some (.text venueFillId) => some venueFillId
    | _ => none

/-! ## Hydration -/

section Hydration

variable {N : Type} [Arith N]

/-- `Fill(...)` of a fill payload; the contract validates it again. -/
def replayedFill (payload : Payload N) : Except PyError (AccountFill N) := do
  let artifactId ← payload.uuid "fill_id"
  let orderId ← payload.uuid "order_id"
  let venueFillId ← payload.text "venue_fill_id"
  let quantity ← payload.number "quantity"
  let price ← payload.number "price"
  let fee ← payload.number "fee"
  let occurredAt ← (← payload.time "occurred_at").aware "timestamps must include a timezone"
  if h : (Arith.lt Arith.zero quantity = true ∧ Arith.lt Arith.zero price = true ∧
      Arith.lt fee Arith.zero = false) ∧
      (isBlank venueFillId = false ∧ strip venueFillId = venueFillId) ∧
      (datetimeMin ≤ occurredAt ∧ occurredAt ≤ datetimeMax) then
    .ok ⟨artifactId, orderId, venueFillId, quantity, price, fee, occurredAt, h.1.1, h.1.2.1,
      h.1.2.2, h.2.1, h.2.2⟩
  else .error (valueError "validation error for Fill")

variable (eventType : AccountEventType)

/-- The mutation an event records; `none` when the event is not the account's. -/
def replayedMutation (payload : Payload N) :
    Except PyError (Option (AccountMutation N)) :=
  match eventType with
  | .fillApplied => do
    return some (.fill (← replayedFill payload) (← payload.text "side")
      (← payload.text "instrument_id"))
  | .fundingApplied => do
    return some (.funding (← payload.number "amount") (← payload.time "occurred_at"))
  | .cashTransferApplied => do
    return some (.cashTransfer (← payload.number "amount") (← payload.time "occurred_at"))
  | .markApplied => do
    return some (.mark (← payload.text "instrument_id") (← payload.number "price")
      (← payload.time "as_of"))
  | .marginUpdated => do
    return some (.margin (← payload.number "margin_used") (← payload.number "margin_available")
      (← payload.time "as_of"))
  | .borrowApplied => do
    return some (.borrow (← payload.number "amount") (← payload.time "occurred_at"))
  | .fxAdjustmentApplied => do
    return some (.fxAdjustment (← payload.number "amount") (← payload.time "occurred_at"))
  | .corporateActionApplied => do
    return some (.corporateAction (← payload.number "amount") (← payload.time "occurred_at"))
  | .splitApplied => do
    return some (.split (← payload.text "instrument_id") (← payload.number "ratio")
      (← payload.time "occurred_at"))
  | .dividendApplied => do
    return some (.dividend (← payload.text "instrument_id") (← payload.number "cash_per_unit")
      (← payload.time "occurred_at"))
  | .other _ => .ok none

/-- What a fill that cannot be replayed raises. -/
def replayError (e : PyError) : PyError :=
  if eventType = .fillApplied ∧ e.typeName ∈ ["KeyError", "TypeError", "ValueError"] then
    idempotencyConflict "account ledger contains invalid fill payload"
  else e

/-- The account after an event was applied to it. -/
def replayedAccount (account : AccountState N) (event : AccountEvent N) :
    Except PyError (Option (AccountState N)) :=
  match replayedMutation event.eventType event.payload with
  | .ok none => .ok none
  | .ok (some mutation) =>
    match Local.result mutation.run account with
    | .ok account' => .ok (some account')
    | .error e => .error (replayError event.eventType e)
  | .error e => .error (replayError event.eventType e)

variable [DecidableEq N] (digest : HashedState N → Digest)

/-- The state hash of an event is compared when there is one. -/
def checkHash (event : AccountEvent N) (account : AccountState N) : Except PyError Unit :=
  match event.payload.get "state_hash" with
  | none => .ok ()
  | some expected => do
    let snapshot ← account.snapshot digest
    if expected ≠ .text snapshot.stateHash.text then
      .error (idempotencyConflict
        ("account ledger state hash mismatch after " ++ event.eventType.name))
    else .ok ()

def hydrateAccountEvent (memory : AccountState N × Dict String (Payload N))
    (event : AccountEvent N) : Except PyError (AccountState N × Dict String (Payload N)) :=
  match replayedAccount memory.1 event with
  | .ok none => .ok memory
  | .ok (some account) =>
    match checkHash digest event account with
    | .ok () => .ok (account, memory.2.set event.idempotencyKey event.payload)
    | .error e => .error e
  | .error e => .error e

/-- `_hydrate`. -/
def hydrateAccount (account : AccountState N) (events : List (AccountEvent N)) :
    Except PyError (AccountState N × Dict String (Payload N)) :=
  Journal.replay (hydrateAccountEvent digest) (account, Dict.empty) events

end Hydration

end AdvisorAI
