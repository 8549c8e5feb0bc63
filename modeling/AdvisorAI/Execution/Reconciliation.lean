import Mathlib.Data.Finset.Sort
import AdvisorAI.Execution.AccountLedger
import AdvisorAI.Execution.Oms

/-!
# The reconciliation service

`ReconciliationService.run` compares the order manager with itself, with the
account ledger and with what the venue reports, and lists the discrepancies. It
changes nothing: with a ledger it records its finding there, under a key made of
the account's state hash and the finding's own.

A discrepancy is a value here and a text in the record; `Discrepancy.text` is
the text.
-/

namespace AdvisorAI

open Lib List

/-! ## Discrepancies -/

inductive Discrepancy (N : Type) where
  | ambiguousOrderAcknowledgementPending
  | routedOrderAcknowledgementPending
  | fillsReferenceUnknownOrder
  | orderFillQuantityOverrun (orderId : UUID) (filled : ℚ) (quantity : Decimal)
  | filledOrderQuantityMismatch (orderId : UUID)
  | partialOrderWithoutFill (orderId : UUID)
  | fillsMissingFromAccountLedger (venueFillIds : List String)
  | terminalOrdersNotReconciled
  | localAccountStateLagsVenueSnapshot
  | venueCashMismatch (venue account : N)
  | venuePositionMismatch (instrument : String) (venue account : N)
  | venueMarginUsedMismatch (venue account : N)
  | venueMarginAvailableMismatch (venue : N) (account : Option N)
  | localOpenOrdersMissingAtVenue (orderIds : List UUID)
  | venueOpenOrdersUnknownLocally (orderIds : List UUID)

/-- `str` of the numbers that appear in a discrepancy. -/
structure NumberText (N : Type) where
  decimal : Decimal → String
  total : ℚ → String
  number : N → String

def Discrepancy.code {N : Type} : Discrepancy N → String
  | .ambiguousOrderAcknowledgementPending => "ambiguous_order_acknowledgement_pending"
  | .routedOrderAcknowledgementPending => "routed_order_acknowledgement_pending"
  | .fillsReferenceUnknownOrder => "fills_reference_unknown_order"
  | .orderFillQuantityOverrun .. => "order_fill_quantity_overrun"
  | .filledOrderQuantityMismatch .. => "filled_order_quantity_mismatch"
  | .partialOrderWithoutFill .. => "partial_order_without_fill"
  | .fillsMissingFromAccountLedger .. => "fills_missing_from_account_ledger"
  | .terminalOrdersNotReconciled => "terminal_orders_not_reconciled"
  | .localAccountStateLagsVenueSnapshot => "local_account_state_lags_venue_snapshot"
  | .venueCashMismatch .. => "venue_cash_mismatch"
  | .venuePositionMismatch .. => "venue_position_mismatch"
  | .venueMarginUsedMismatch .. => "venue_margin_used_mismatch"
  | .venueMarginAvailableMismatch .. => "venue_margin_available_mismatch"
  | .localOpenOrdersMissingAtVenue .. => "local_open_orders_missing_at_venue"
  | .venueOpenOrdersUnknownLocally .. => "venue_open_orders_unknown_locally"

def Discrepancy.detail {N : Type} (str : NumberText N) : Discrepancy N → String
  | .orderFillQuantityOverrun orderId filled quantity =>
    ":" ++ uuidText orderId ++ ":" ++ str.total filled ++ ">" ++ str.decimal quantity
  | .filledOrderQuantityMismatch orderId => ":" ++ uuidText orderId
  | .partialOrderWithoutFill orderId => ":" ++ uuidText orderId
  | .fillsMissingFromAccountLedger venueFillIds => ":" ++ String.intercalate "," venueFillIds
  | .venueCashMismatch venue account =>
    ":" ++ str.number venue ++ "!=" ++ str.number account
  | .venuePositionMismatch instrument venue account =>
    ":" ++ instrument ++ ":" ++ str.number venue ++ "!=" ++ str.number account
  | .venueMarginUsedMismatch venue account =>
    ":" ++ str.number venue ++ "!=" ++ str.number account
  | .venueMarginAvailableMismatch venue account => ":" ++ str.number venue ++ "!=" ++
    (match account with
    | some account => str.number account
    | none => "None")
  | .localOpenOrdersMissingAtVenue orderIds =>
    ":" ++ String.intercalate "," (orderIds.map uuidText)
  | .venueOpenOrdersUnknownLocally orderIds =>
    ":" ++ String.intercalate "," (orderIds.map uuidText)
  | _ => ""

def Discrepancy.text {N : Type} (str : NumberText N) (d : Discrepancy N) : String :=
  d.code ++ d.detail str

private theorem text_head {N : Type} (str : NumberText N) (d : Discrepancy N) :
    (d.text str).toList.head? = d.code.toList.head? := by
  have hne : d.code.toList ≠ [] := by
    cases d with
    | _ =>
      simp only [Discrepancy.code]
      decide
  unfold Discrepancy.text
  rw [String.toList_append, List.head?_append_of_ne_nil _ hne]

theorem Discrepancy.text_eq_ambiguous {N : Type} {str : NumberText N} {d : Discrepancy N}
    (h : d.text str = "ambiguous_order_acknowledgement_pending") :
    d = .ambiguousOrderAcknowledgementPending := by
  have hfirst : d.code.toList.head? = some 'a' := by
    rw [← text_head str, h]
    rfl
  cases d with
  | ambiguousOrderAcknowledgementPending => rfl
  | _ =>
    simp only [code] at hfirst
    exact absurd hfirst (by decide)

/-! ## The venue's account -/

/-- The venue's projection of the account. -/
structure VenueAccountSnapshot (N : Type) [Arith N] where
  asOf : Timestamp
  cash : N
  positions : Dict String N
  marginUsed : Option N
  marginAvailable : Option N
  venueOpenOrderIds : Option (Finset UUID)
  finite : ∀ value ∈ cash :: positions.values, Arith.isFinite value = true
  positions_named : ∀ key ∈ positions.keys, isBlank key = false
  margins : ∀ value ∈ marginUsed.toList ++ marginAvailable.toList,
    Arith.isFinite value = true ∧ Arith.lt value Arith.zero = false

/-! ## The run -/

/-- `sorted(ids, key=str)`. -/
def sortedIds (ids : List UUID) : List UUID :=
  ids.mergeSort fun a b => decide (uuidText a ≤ uuidText b)

def sortedTexts (texts : List String) : List String :=
  texts.mergeSort fun a b => decide (a ≤ b)

/-- The states in which an order is open at the venue. -/
def openStates : List OrderState := [.routed, .acknowledged, .partiallyFilled, .cancelPending]

section Run

variable {N : Type} [Arith N]

/-- `a != b` of two numbers. -/
def differs (a b : N) : Bool := Arith.lt a b || Arith.lt b a

def orderDiscrepancies (fills : Dict String Fill) (order : Order) : List (Discrepancy N) :=
  let filled := filledQuantity fills order.artifactId
  (if order.quantity.value < filled then
    [.orderFillQuantityOverrun order.artifactId filled order.quantity] else []) ++
  (if order.state = .filled ∧ filled ≠ order.quantity.value then
    [.filledOrderQuantityMismatch order.artifactId] else []) ++
  (if order.state = .partiallyFilled ∧
      (fills.values.filter fun fill => fill.orderId = order.artifactId) = [] then
    [.partialOrderWithoutFill order.artifactId] else [])

/-- What is wrong with the orders and fills of a manager. -/
def managerDiscrepancies (orders : OrderManager) : List (Discrepancy N) :=
  (if orders.ambiguousOrders ≠ ∅ then [.ambiguousOrderAcknowledgementPending] else []) ++
  (if orders.orders.values.any fun order => order.state = .routed then
    [.routedOrderAcknowledgementPending] else []) ++
  (if orders.fills.values.any fun fill => orders.orders.get fill.orderId = none then
    [.fillsReferenceUnknownOrder] else []) ++
  orders.orders.values.flatMap (orderDiscrepancies orders.fills)

/-- The fills the account ledger has not applied. -/
def accountDiscrepancies (orders : OrderManager)
    (accountLedger : Option (Dict String (Payload N))) : List (Discrepancy N) :=
  match accountLedger with
  | none => []
  | some appliedPayloads =>
    let missing := (orders.fills.values.map fun fill => fill.venueFillId).filter fun id =>
      id ∉ appliedFillIds appliedPayloads
    if missing = [] then [] else [.fillsMissingFromAccountLedger (sortedTexts missing)]

/-- The orders that are done and not reconciled. -/
def terminalDiscrepancies (orders : OrderManager) : List (Discrepancy N) :=
  if orders.orders.values.any fun order => order.state ∈ terminalStates then
    [.terminalOrdersNotReconciled] else []

/-- Where the open orders the venue reports differ from the local ones. -/
def openOrderDiscrepancies (orders : OrderManager) (venueOpenOrderIds : Option (Finset UUID)) :
    List (Discrepancy N) :=
  match venueOpenOrderIds with
  | none => []
  | some venueOpen =>
    let localOpen := (orders.orders.values.filter fun order => order.state ∈ openStates).map
      fun order => order.artifactId
    let missingAtVenue := sortedIds (localOpen.filter fun id => id ∉ venueOpen)
    let unknownAtVenue := sortedIds ((venueOpen.filter fun id => id ∉ localOpen).sort (· ≤ ·))
    (if missingAtVenue = [] then [] else [.localOpenOrdersMissingAtVenue missingAtVenue]) ++
    (if unknownAtVenue = [] then [] else [.venueOpenOrdersUnknownLocally unknownAtVenue])

/-- Where the venue's account differs from the local one. -/
def venueDiscrepancies (orders : OrderManager) (local_ : AccountStateSnapshot N)
    (venue : VenueAccountSnapshot N) : List (Discrepancy N) :=
  let instruments := sortedTexts (local_.positions.map Prod.fst ++ venue.positions.keys).dedup
  (if local_.asOf < venue.asOf then [.localAccountStateLagsVenueSnapshot] else []) ++
  (if differs venue.cash local_.cash then [.venueCashMismatch venue.cash local_.cash] else []) ++
  (instruments.flatMap fun instrument =>
    let localValue := (lookupEntry instrument local_.positions).getD Arith.zero
    let venueValue := venue.positions.getD instrument Arith.zero
    if differs localValue venueValue then
      [.venuePositionMismatch instrument venueValue localValue] else []) ++
  (match venue.marginUsed with
  | some used =>
    if differs used local_.marginUsed then
      [.venueMarginUsedMismatch used local_.marginUsed] else []
  | none => []) ++
  (match venue.marginAvailable with
  | some available =>
    if local_.marginAvailable.all (differs available) then
      [.venueMarginAvailableMismatch available local_.marginAvailable] else []
  | none => []) ++
  openOrderDiscrepancies orders venue.venueOpenOrderIds

def discrepanciesOf (orders : OrderManager) (accountLedger : Option (Dict String (Payload N)))
    (localSnapshot : AccountStateSnapshot N) (venueSnapshot : Option (VenueAccountSnapshot N)) :
    List (Discrepancy N) :=
  managerDiscrepancies orders ++ accountDiscrepancies orders accountLedger ++
    terminalDiscrepancies orders ++
    (match venueSnapshot with
    | some venue => venueDiscrepancies orders localSnapshot venue
    | none => [])

/-- What the run takes from outside the program: the hash functions, the text of
numbers, a fresh identifier and the time. -/
structure ReconciliationService (N : Type) where
  digest : HashedState N → Digest
  str : NumberText N
  /-- The hash of a record without its `artifact_id` and `created_at`. -/
  logicalHash : Reconciliation → Digest
  /-- `uuid5` of the record's name. -/
  recordId : Digest → UUID
  freshId : UUID
  eventId : UUID
  now : Timestamp

namespace ReconciliationService

/-- The record of a run, before it goes to the ledger. -/
def finding (service : ReconciliationService N) (account : AccountState N)
    (orders : OrderManager) (accountLedger : Option (Dict String (Payload N)))
    (venueSnapshot : Option (VenueAccountSnapshot N)) : Except PyError Reconciliation :=
  match account.snapshot service.digest with
  | .error e => .error e
  | .ok localSnapshot =>
    let texts := (discrepanciesOf orders accountLedger localSnapshot venueSnapshot).map
      (Discrepancy.text service.str)
    let orderIds := sortedIds orders.orders.keys
    let fillIds := sortedIds (orders.fills.values.map fun fill => fill.artifactId)
    if h : orderIds.Nodup ∧ fillIds.Nodup then
      .ok ⟨service.freshId, service.now, account.asOf, localSnapshot.stateHash, orderIds, fillIds,
        texts.isEmpty, texts, h.1, h.2, List.isEmpty_iff⟩
    else .error (valueError "reconciliation fill IDs must be unique")

/-- `run`. With ledgers the record gets an identity of its content and is appended. -/
def run (service : ReconciliationService N) (ledgers : Option (List OrderEvent))
    (account : AccountState N) (orders : OrderManager)
    (accountLedger : Option (Dict String (Payload N)))
    (venueSnapshot : Option (VenueAccountSnapshot N)) :
    Except PyError Reconciliation × Option (List OrderEvent) :=
  match service.finding account orders accountLedger venueSnapshot with
  | .error e => (.error e, ledgers)
  | .ok found =>
    match ledgers with
    | none => (.ok found, none)
    | some events =>
      let logicalHash := service.logicalHash found
      let reconciliation := { found with
        artifactId := service.recordId logicalHash, createdAt := found.asOf }
      let key := "reconciliation:" ++ found.accountStateHash.text ++ ":" ++
        String.ofList (logicalHash.text.toList.take 24)
      match SqliteLedgers.append events ⟨service.eventId, .reconciliationRecorded, key,
          service.now, .reconciliation reconciliation⟩ with
      | (.ok _, events) => (.ok reconciliation, some events)
      | (.error e, events) => (.error e, some events)

theorem shown_of_snapshot {digest : HashedState N → Digest} {account : AccountState N}
    {shown : AccountStateSnapshot N} (h : account.snapshot digest = .ok shown) :
    shown.cash = account.cash ∧ shown.positions = sortedEntries account.positions ∧
      shown.marginUsed = account.marginUsed ∧ shown.marginAvailable = account.marginAvailable ∧
      shown.asOf = account.asOf := by
  obtain ⟨unrealized, -, h⟩ := ok_of_bind_ok h
  obtain ⟨equity, -, h⟩ := ok_of_bind_ok h
  obtain ⟨gross, -, h⟩ := ok_of_bind_ok h
  obtain ⟨net, -, h⟩ := ok_of_bind_ok h
  obtain ⟨drawdown, -, h⟩ := ok_of_bind_ok h
  unfold AccountStateSnapshot.postInit at h
  dsimp only at h
  split_ifs at h
  cases h
  exact ⟨rfl, rfl, rfl, rfl, rfl⟩

variable {service : ReconciliationService N} {ledgers : Option (List OrderEvent)}
  {account : AccountState N} {orders : OrderManager}
  {accountLedger : Option (Dict String (Payload N))}
  {venueSnapshot : Option (VenueAccountSnapshot N)} {r : Reconciliation}

theorem discrepancies_of_finding
    (h : service.finding account orders accountLedger venueSnapshot = .ok r) :
    ∃ localSnapshot, account.snapshot service.digest = .ok localSnapshot ∧
      r.discrepancies = (discrepanciesOf orders accountLedger localSnapshot venueSnapshot).map
        (Discrepancy.text service.str) := by
  unfold finding at h
  split at h
  · cases h
  · next localSnapshot hsnapshot =>
    refine ⟨localSnapshot, hsnapshot, ?_⟩
    dsimp only at h
    split at h
    · cases h
      rfl
    · cases h

theorem discrepancies_of_run
    (h : (service.run ledgers account orders accountLedger venueSnapshot).1 = .ok r) :
    ∃ localSnapshot, account.snapshot service.digest = .ok localSnapshot ∧
      r.discrepancies = (discrepanciesOf orders accountLedger localSnapshot venueSnapshot).map
        (Discrepancy.text service.str) := by
  unfold run at h
  split at h
  · cases h
  · next found hfound =>
    obtain ⟨localSnapshot, hsnapshot, hd⟩ := discrepancies_of_finding hfound
    refine ⟨localSnapshot, hsnapshot, ?_⟩
    rw [← hd]
    cases ledgers with
    | none =>
      cases h
      rfl
    | some events =>
      dsimp only at h
      split at h
      · cases h
        rfl
      · cases h

theorem reconciled_of_run
    (h : (service.run ledgers account orders accountLedger venueSnapshot).1 = .ok r) :
    ∃ localSnapshot, account.snapshot service.digest = .ok localSnapshot ∧
      (r.reconciled = true ↔
        discrepanciesOf orders accountLedger localSnapshot venueSnapshot = []) := by
  obtain ⟨localSnapshot, hsnapshot, hd⟩ := discrepancies_of_run h
  refine ⟨localSnapshot, hsnapshot, ?_⟩
  rw [r.reconciled_iff, hd, map_eq_nil_iff]

end ReconciliationService

/-! ## What a clean run means -/

/-- The states an order may be in when a run is clean. -/
def settledStates : List OrderState :=
  [.created, .riskApproved, .acknowledged, .partiallyFilled, .cancelPending, .reconciled]

private theorem mem_settledStates : ∀ s : OrderState,
    s ∈ settledStates ↔ s ≠ .routed ∧ s ∉ terminalStates := by
  decide

/-- The orders and fills of a manager agree with each other. -/
structure ManagerAgrees (orders : OrderManager) : Prop where
  answered : orders.ambiguousOrders = ∅
  settled : ∀ o ∈ orders.orders.values, o.state ∈ settledStates
  known : ∀ f ∈ orders.fills.values, ∃ o, orders.orders.get f.orderId = some o
  room : ∀ o ∈ orders.orders.values,
    filledQuantity orders.fills o.artifactId ≤ o.quantity.value
  partly : ∀ o ∈ orders.orders.values, o.state = .partiallyFilled →
    ∃ f ∈ orders.fills.values, f.orderId = o.artifactId

/-- The local account and the venue's agree, as do their open orders. -/
structure VenueAgrees (orders : OrderManager) (local_ : AccountStateSnapshot N)
    (venue : VenueAccountSnapshot N) : Prop where
  current : venue.asOf ≤ local_.asOf
  cash : differs venue.cash local_.cash = false
  positions : ∀ instrument,
    instrument ∈ local_.positions.map Prod.fst ∨ instrument ∈ venue.positions.keys →
    differs ((lookupEntry instrument local_.positions).getD Arith.zero)
      (venue.positions.getD instrument Arith.zero) = false
  marginUsed : ∀ used ∈ venue.marginUsed, differs used local_.marginUsed = false
  marginAvailable : ∀ available ∈ venue.marginAvailable,
    ∃ m, local_.marginAvailable = some m ∧ differs available m = false
  openOrders : ∀ venueOpen ∈ venue.venueOpenOrderIds, ∀ i,
    i ∈ venueOpen ↔ ∃ o ∈ orders.orders.values, o.state ∈ openStates ∧ o.artifactId = i

omit [Arith N] in
private theorem orderDiscrepancies_eq_nil {fills : Dict String Fill} {o : Order} :
    (orderDiscrepancies fills o : List (Discrepancy N)) = [] ↔
      filledQuantity fills o.artifactId ≤ o.quantity.value ∧
      (o.state = .filled → filledQuantity fills o.artifactId = o.quantity.value) ∧
      (o.state = .partiallyFilled → ∃ f ∈ fills.values, f.orderId = o.artifactId) := by
  unfold orderDiscrepancies
  simp only [append_eq_nil_iff, ite_eq_right_iff, cons_ne_nil, imp_false, not_lt,
    not_and, not_not, filter_eq_nil_iff, decide_eq_true_eq, and_assoc]
  refine and_congr_right fun _ => and_congr_right fun _ => ?_
  constructor
  · intro h hpart
    by_contra hnone
    exact h hpart fun f hf hid => hnone ⟨f, hf, hid⟩
  · intro h hpart hnone
    obtain ⟨f, hf, hid⟩ := h hpart
    exact hnone f hf hid

variable {m : OrderManager}

omit [Arith N] in
theorem managerDiscrepancies_eq_nil :
    (managerDiscrepancies m : List (Discrepancy N)) = [] ↔
      m.ambiguousOrders = ∅ ∧ (∀ o ∈ m.orders.values, o.state ≠ .routed) ∧
      (∀ f ∈ m.fills.values, m.orders.get f.orderId ≠ none) ∧
      ∀ o ∈ m.orders.values, (orderDiscrepancies m.fills o : List (Discrepancy N)) = [] := by
  unfold managerDiscrepancies
  simp only [append_eq_nil_iff, ite_eq_right_iff, cons_ne_nil, imp_false, not_not,
    any_eq_true, decide_eq_true_eq, not_exists, not_and, flatMap_eq_nil_iff, ne_eq,
    and_assoc]

omit [Arith N] in
private theorem accountDiscrepancies_eq_nil {applied : Dict String (Payload N)} :
    accountDiscrepancies m (some applied) = [] ↔
      ∀ f ∈ m.fills.values, f.venueFillId ∈ appliedFillIds applied := by
  unfold accountDiscrepancies
  simp only [ite_eq_left_iff, cons_ne_nil, imp_false, not_not, filter_eq_nil_iff,
    mem_map, decide_eq_true_eq, forall_exists_index, and_imp, forall_apply_eq_imp_iff₂]

omit [Arith N] in
private theorem terminalDiscrepancies_eq_nil :
    (terminalDiscrepancies m : List (Discrepancy N)) = [] ↔
      ∀ o ∈ m.orders.values, o.state ∉ terminalStates := by
  unfold terminalDiscrepancies
  simp only [ite_eq_right_iff, cons_ne_nil, imp_false, any_eq_true, decide_eq_true_eq,
    not_exists, not_and]

omit [Arith N] in
theorem managerAgrees_iff :
    ManagerAgrees m ↔ (managerDiscrepancies m : List (Discrepancy N)) = [] ∧
      (terminalDiscrepancies m : List (Discrepancy N)) = [] := by
  rw [managerDiscrepancies_eq_nil, terminalDiscrepancies_eq_nil]
  constructor
  · intro h
    have hstate : ∀ o ∈ m.orders.values, o.state ≠ .routed ∧ o.state ∉ terminalStates :=
      fun o ho => (mem_settledStates o.state).mp (h.settled o ho)
    refine ⟨⟨h.answered, fun o ho => (hstate o ho).1, ?_, ?_⟩, fun o ho => (hstate o ho).2⟩
    · intro f hf hnone
      obtain ⟨o, ho⟩ := h.known f hf
      rw [hnone] at ho
      cases ho
    · intro o ho
      rw [orderDiscrepancies_eq_nil]
      refine ⟨h.room o ho, ?_, h.partly o ho⟩
      intro hfilled
      exact absurd (by rw [hfilled]; decide) (hstate o ho).2
  · intro ⟨⟨hamb, hrouted, hknown, horders⟩, hterminal⟩
    refine ⟨hamb, ?_, ?_, ?_, ?_⟩
    · intro o ho
      exact (mem_settledStates o.state).mpr ⟨hrouted o ho, hterminal o ho⟩
    · intro f hf
      exact Option.ne_none_iff_exists'.mp (hknown f hf)
    · intro o ho
      exact (orderDiscrepancies_eq_nil.mp (horders o ho)).1
    · intro o ho
      exact (orderDiscrepancies_eq_nil.mp (horders o ho)).2.2

private theorem mem_sortedTexts {l : List String} {s : String} : s ∈ sortedTexts l ↔ s ∈ l :=
  mem_mergeSort

private theorem sortedIds_eq_nil {l : List UUID} : sortedIds l = [] ↔ l = [] := by
  unfold sortedIds
  rw [← length_eq_zero_iff, length_mergeSort, length_eq_zero_iff]

private theorem openOrders_iff {venueOpen : Finset UUID} :
    (∀ i, i ∈ venueOpen ↔ ∃ o ∈ m.orders.values, o.state ∈ openStates ∧ o.artifactId = i) ↔
      (∀ i ∈ (m.orders.values.filter fun o => o.state ∈ openStates).map fun o => o.artifactId,
        i ∈ venueOpen) ∧
      ∀ i ∈ venueOpen,
        i ∈ (m.orders.values.filter fun o => o.state ∈ openStates).map fun o => o.artifactId := by
  have hlocal : ∀ i, (∃ o ∈ m.orders.values, o.state ∈ openStates ∧ o.artifactId = i) ↔
      i ∈ (m.orders.values.filter fun o => o.state ∈ openStates).map fun o => o.artifactId := by
    intro i
    simp only [mem_map, mem_filter, decide_eq_true_eq, and_assoc]
  constructor
  · intro h
    exact ⟨fun i hi => (h i).mpr ((hlocal i).mpr hi), fun i hi => (hlocal i).mp ((h i).mp hi)⟩
  · intro h i
    obtain ⟨hsub, hsup⟩ := h
    exact ⟨fun hi => (hlocal i).mpr (hsup i hi), fun hi => hsub i ((hlocal i).mp hi)⟩

theorem venueDiscrepancies_eq_nil {local_ : AccountStateSnapshot N}
    {venue : VenueAccountSnapshot N} :
    venueDiscrepancies m local_ venue = [] ↔ VenueAgrees m local_ venue := by
  have hpositions : (∀ instrument,
      instrument ∈ local_.positions.map Prod.fst ∨ instrument ∈ venue.positions.keys →
      differs ((lookupEntry instrument local_.positions).getD Arith.zero)
        (venue.positions.getD instrument Arith.zero) = false) ↔
      ∀ instrument ∈ sortedTexts (local_.positions.map Prod.fst ++ venue.positions.keys).dedup,
        differs ((lookupEntry instrument local_.positions).getD Arith.zero)
          (venue.positions.getD instrument Arith.zero) = false := by
    simp only [mem_sortedTexts, mem_dedup, mem_append]
  have hused : (∀ used ∈ venue.marginUsed, differs used local_.marginUsed = false) ↔
      (match venue.marginUsed with
      | some used => if differs used local_.marginUsed then
          [Discrepancy.venueMarginUsedMismatch used local_.marginUsed] else []
      | none => []) = [] := by
    cases venue.marginUsed with
    | none => simp
    | some used => simp
  have havailable : (∀ available ∈ venue.marginAvailable,
      ∃ m, local_.marginAvailable = some m ∧ differs available m = false) ↔
      (match venue.marginAvailable with
      | some available => if local_.marginAvailable.all (differs available) then
          [Discrepancy.venueMarginAvailableMismatch available local_.marginAvailable] else []
      | none => []) = [] := by
    cases venue.marginAvailable with
    | none => simp
    | some available =>
      cases local_.marginAvailable with
      | none => simp
      | some own => simp
  have hopen : (∀ venueOpen ∈ venue.venueOpenOrderIds, ∀ i,
      i ∈ venueOpen ↔ ∃ o ∈ m.orders.values, o.state ∈ openStates ∧ o.artifactId = i) ↔
      openOrderDiscrepancies m venue.venueOpenOrderIds = ([] : List (Discrepancy N)) := by
    unfold openOrderDiscrepancies
    cases venue.venueOpenOrderIds with
    | none => simp
    | some venueOpen =>
      simp only [Option.mem_some_iff, forall_eq', openOrders_iff, append_eq_nil_iff,
        sortedIds_eq_nil, ite_eq_left_iff, cons_ne_nil, imp_false, not_not,
        filter_eq_nil_iff, decide_eq_true_eq]
      refine and_congr_right fun _ => ?_
      rw [← toFinset_eq_empty_iff, Finset.sort_toFinset, Finset.filter_eq_empty_iff]
      simp only [not_not]
  unfold venueDiscrepancies
  simp only [append_eq_nil_iff]
  rw [← hopen, ← hused, ← havailable]
  simp only [ite_eq_right_iff, cons_ne_nil, imp_false, flatMap_eq_nil_iff, not_lt,
    Bool.not_eq_true]
  constructor
  · intro h
    obtain ⟨⟨⟨⟨⟨hcurrent, hcash⟩, hpos⟩, hmarginUsed⟩, hmarginAvailable⟩, hopenOrders⟩ := h
    exact ⟨hcurrent, hcash, hpositions.mpr hpos, hmarginUsed, hmarginAvailable, hopenOrders⟩
  · intro h
    exact ⟨⟨⟨⟨⟨h.current, h.cash⟩, hpositions.mp h.positions⟩, h.marginUsed⟩, h.marginAvailable⟩,
      h.openOrders⟩

/-- **A clean run.** With an account ledger and a venue snapshot, `run` says
reconciled exactly when the manager's orders and fills agree with each other,
every fill of the manager is applied in the account ledger, by its venue id, and
the account and the open orders are the venue's. -/
theorem run_reconciled_iff {service : ReconciliationService N}
    {ledgers : Option (List OrderEvent)} {account : AccountState N} {orders : OrderManager}
    {applied : Dict String (Payload N)} {venue : VenueAccountSnapshot N} {r : Reconciliation}
    (h : (service.run ledgers account orders (some applied) (some venue)).1 = .ok r) :
    ∃ localSnapshot, account.snapshot service.digest = .ok localSnapshot ∧
      (r.reconciled = true ↔ ManagerAgrees orders ∧
        (∀ f ∈ orders.fills.values, f.venueFillId ∈ appliedFillIds applied) ∧
        VenueAgrees orders localSnapshot venue) := by
  obtain ⟨localSnapshot, hsnapshot, hclean⟩ := ReconciliationService.reconciled_of_run h
  refine ⟨localSnapshot, hsnapshot, ?_⟩
  rw [hclean, managerAgrees_iff (N := N)]
  unfold discrepanciesOf
  simp only [append_eq_nil_iff, accountDiscrepancies_eq_nil, venueDiscrepancies_eq_nil]
  constructor
  · intro ⟨⟨⟨hmanager, happlied⟩, hterminal⟩, hvenue⟩
    exact ⟨⟨hmanager, hterminal⟩, happlied, hvenue⟩
  · intro ⟨⟨hmanager, hterminal⟩, happlied, hvenue⟩
    exact ⟨⟨⟨hmanager, happlied⟩, hterminal⟩, hvenue⟩

end Run

/-! ## A paper account -/

def paperService : ReconciliationService ℚ where
  digest _ := paperDigest
  str := ⟨fun _ => "", fun _ => "", fun _ => ""⟩
  logicalHash _ := paperDigest
  recordId _ := 0
  freshId := 1
  eventId := 2
  now := 0

def paperAccountFill : AccountFill ℚ where
  artifactId := 11
  orderId := 1
  venueFillId := "v-1"
  quantity := 4
  price := 100
  fee := 0
  occurredAt := 0
  quantity_pos := by decide +kernel
  price_pos := by decide +kernel
  fee_nonneg := by decide +kernel
  venueFillId_normal := paperFillId_normal
  occurredAt_valid := epoch_valid

def paperAccountWorld : AccountWorld ℚ :=
  (Prog.run (AccountCall.run paperService.digest (.quiet 0)
    (.fill paperAccountFill "buy" "crypto:BTC-USD")) (.init (AccountState.new 1000 0))).2

def paperVenueSnapshot : VenueAccountSnapshot ℚ where
  asOf := 0
  cash := 600
  positions := Dict.empty.set "crypto:BTC-USD" 4
  marginUsed := none
  marginAvailable := none
  venueOpenOrderIds := none
  finite := by intro value _; rfl
  positions_named := by decide +kernel
  margins := by intro value hvalue; cases hvalue

private theorem paperRun :
    ((paperService.run none paperAccountWorld.account .empty
      (some paperAccountWorld.appliedPayloads) (some paperVenueSnapshot)).1.toOption).any
        (fun r => r.reconciled = true ∧
          appliedFillIds paperAccountWorld.appliedPayloads = ["v-1"]) = true := by
  decide +kernel

/-- The paper account is the venue's, and a manager without orders agrees with it. -/
theorem run_reconciled_iff_paper :
    ∃ r localSnapshot, (paperService.run none paperAccountWorld.account .empty
        (some paperAccountWorld.appliedPayloads) (some paperVenueSnapshot)).1 = .ok r ∧
      r.reconciled = true ∧
      (r.reconciled = true ↔ ManagerAgrees .empty ∧
        (∀ f ∈ OrderManager.empty.fills.values,
          f.venueFillId ∈ appliedFillIds paperAccountWorld.appliedPayloads) ∧
        VenueAgrees .empty localSnapshot paperVenueSnapshot) := by
  obtain ⟨r, hr, hfacts⟩ := ok_of_toOption_any paperRun
  obtain ⟨localSnapshot, -, hiff⟩ := run_reconciled_iff hr
  exact ⟨r, localSnapshot, hr, (of_decide_eq_true hfacts).1, hiff⟩

/-- The manager has never heard of the fill in the account, and the run is clean. -/
theorem clean_run_misses_account_fill :
    ¬∀ (service : ReconciliationService ℚ) (w : AccountWorld ℚ) (orders : OrderManager)
        (venue : VenueAccountSnapshot ℚ) (r : Reconciliation),
      (service.run none w.account orders (some w.appliedPayloads) (some venue)).1 = .ok r →
      r.reconciled = true →
      ∀ id ∈ appliedFillIds w.appliedPayloads, ∃ f ∈ orders.fills.values, f.venueFillId = id := by
  intro h
  obtain ⟨r, hr, hfacts⟩ := ok_of_toOption_any paperRun
  obtain ⟨hclean, hids⟩ := of_decide_eq_true hfacts
  obtain ⟨f, hf, -⟩ := h paperService paperAccountWorld .empty paperVenueSnapshot r hr hclean
    "v-1" (by rw [hids]; exact mem_singleton_self _)
  cases hf

end AdvisorAI
