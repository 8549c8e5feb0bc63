import AdvisorAI.Execution.Native
import AdvisorAI.Integrations.Freshness
import AdvisorAI.Lib.Checks
import AdvisorAI.Runtime.Halts

/-!
# Reconciling with a spot venue

`PaperRuntime.reconcile_once` fetches an account snapshot and the open orders,
runs the reconciliation, and trips the kill switch unless it is clean.

Both spot transports report the free quote balance as available margin, next to
a total that counts what resting orders lock. The local account tracks no locks:
its margin fields are what it was built with until a margin event sets them. So
cash and positions that agree are not enough, and an account that was built
without them is a mismatch every time (`reconcileOnce_clean_iff`).
-/

namespace AdvisorAI

open Lib List Local AccountState NativeVenueAdapter

/-! ## The run -/

/-- What `reconcile_once` may change: the controls, the adapter and the ORDER ledger. -/
structure ReconcileWorld (τ : Type) where
  control : ControlWorld
  adapter : NativeState τ
  orderEvents : List OrderEvent

/-- `replace(snapshot, venue_open_order_ids=…)`. -/
def VenueAccountSnapshot.withOpenOrders (snapshot : VenueAccountSnapshot ℚ)
    (orderIds : Finset UUID) : VenueAccountSnapshot ℚ :=
  { snapshot with venueOpenOrderIds := some orderIds }

/-- What the adapter is asked: the account, then the open orders. -/
def NativeVenueAdapter.venueSnapshot {τ : Type} (adapter : NativeVenueAdapter τ) :
    Native τ (VenueAccountSnapshot ℚ) := do
  let snapshot ← adapter.accountSnapshot
  let acknowledgements ← adapter.openOrders
  pure (snapshot.withOpenOrders (acknowledgements.map fun a => a.orderId).toFinset)

namespace PaperRuntime

/-- What a reconciliation of the runtime is made with. -/
structure Reconciler (τ : Type) where
  o : KernelOutside
  service : ReconciliationService ℚ
  adapter : NativeVenueAdapter τ
  account : AccountState ℚ
  orders : OrderManager

abbrev Reconciling (τ : Type) := Prog (ReconcileWorld τ) PyError

variable {τ : Type} (reconciler : Reconciler τ)

def onControls {α : Type} (x : Control α) : Reconciling τ α :=
  Prog.zoom ReconcileWorld.control (fun control w => { w with control := control }) x

def onAdapter {α : Type} (x : Native τ α) : Reconciling τ α :=
  Prog.atomic fun w =>
    match x w.adapter with
    | .ok a adapter => (.ok a, { w with adapter := adapter })
    | .error e adapter => (.error e.raised, { w with adapter := adapter })

/-- `reconciliation.run`. The runtime gives it no account ledger. -/
def recordRun (venueSnapshot : VenueAccountSnapshot ℚ) : Reconciling τ Reconciliation :=
  Prog.atomic fun w =>
    match reconciler.service.run (some w.orderEvents) reconciler.account reconciler.orders none
        (some venueSnapshot) with
    | (result, events) => (result, { w with orderEvents := events.getD w.orderEvents })

variable (now : Timestamp)

def haltUnlessClean (result : Reconciliation) : Reconciling τ Reconciliation :=
  if result.reconciled then pure result
  else do
    onControls (KillSwitch.trip reconciler.o now "paper_reconciliation_mismatch")
    pure result

/-- `reconcile_once` with a snapshot. -/
def reconcileWith (venueSnapshot : VenueAccountSnapshot ℚ) :
    Reconciling τ Reconciliation := do
  haltUnlessClean reconciler now (← recordRun reconciler venueSnapshot)

/-- `reconcile_once` without one: an error of the venue trips the kill switch too. -/
def reconcileOnce : Reconciling τ Reconciliation := do
  match ← Prog.attempt (onAdapter reconciler.adapter.venueSnapshot) with
  | .ok venueSnapshot => reconcileWith reconciler now venueSnapshot
  | .error e => do
    onControls (KillSwitch.trip reconciler.o now "paper_venue_reconciliation_error")
    Prog.raise e

end PaperRuntime

/-! ## What a run asks of the local side -/

/-- An account that a snapshot can be made of. -/
structure AccountState.Presentable (s : AccountState ℚ) : Prop where
  positions : ∀ key ∈ s.positions.keys, isBlank key = false
  marks : ∀ key ∈ s.marks.keys, isBlank key = false
  averageCost : ∀ key ∈ s.averageCost.keys, isBlank key = false
  costs : ∀ cost ∈ s.averageCost.values, 0 ≤ cost

variable {d : Dict String ℚ}

theorem mem_sortedEntries {entry : String × ℚ} :
    entry ∈ sortedEntries d ↔ entry ∈ d.entries := mem_mergeSort

variable (s : AccountState ℚ)

private theorem unrealized_exact : ∃ u, s.unrealized = .ok u := by
  have h := arith_sum (s.positions.entries.filterMap fun e =>
    (s.marks.get e.1).map fun mark => (mark - s.averageCost.getD e.1 mark) * e.2)
  rw [map_filterMap] at h
  have hterms : s.unrealized = Arith.sum (s.positions.entries.filterMap fun e =>
      Option.map Except.ok ((s.marks.get e.1).map fun mark =>
        (mark - s.averageCost.getD e.1 mark) * e.2)) := by
    unfold AccountState.unrealized
    congr 1
    refine filterMap_congr ?_
    rintro ⟨instrument, quantity⟩ _
    dsimp only
    cases s.marks.get instrument with
    | none => rfl
    | some mark => rfl
  exact ⟨_, hterms.trans h⟩

private theorem netNotional_exact : ∃ u, s.netNotional = .ok u := by
  have h := arith_sum (s.positions.entries.map fun e => e.2 * s.marks.getD e.1 0)
  rw [map_map] at h
  exact ⟨_, h⟩

private theorem any_blank_iff :
    (sortedEntries d).any (fun entry => isBlank entry.1) = true ↔
      ¬ ∀ key ∈ d.keys, isBlank key = false := by
  rw [any_eq_true]
  constructor
  · rintro ⟨entry, hentry, hblank⟩ h
    have hkey := h entry.1 (mem_map_of_mem (mem_sortedEntries.mp hentry))
    rw [hblank] at hkey
    cases hkey
  · intro h
    push Not at h
    obtain ⟨key, hkey, hblank⟩ := h
    obtain ⟨entry, hentry, rfl⟩ := mem_map.mp hkey
    exact ⟨entry, mem_sortedEntries.mpr hentry, by simpa using hblank⟩

private theorem any_cost_iff :
    (sortedEntries d).any (fun entry => !Arith.isFinite entry.2 ||
      AccountState.isNegative entry.2) = true ↔ ¬ ∀ cost ∈ d.values, 0 ≤ cost := by
  rw [any_eq_true]
  have hnegative : ∀ cost : ℚ, (!Arith.isFinite cost || AccountState.isNegative cost) = true ↔
      cost < 0 := by
    intro cost
    simp [AccountState.isNegative]
  constructor
  · rintro ⟨entry, hentry, hcost⟩ h
    have hle := h entry.2 (mem_map_of_mem (mem_sortedEntries.mp hentry))
    exact absurd hle (not_le.mpr ((hnegative _).mp hcost))
  · intro h
    push Not at h
    obtain ⟨cost, hcost, hlt⟩ := h
    obtain ⟨entry, hentry, rfl⟩ := mem_map.mp hcost
    exact ⟨entry, mem_sortedEntries.mpr hentry, (hnegative _).mpr hlt⟩

variable {digest : HashedState ℚ → Digest}

/-- **Exact accounts have snapshots** when no name in them is blank and no cost is negative. -/
theorem AccountState.snapshot_iff {s : AccountState ℚ} :
    (∃ shown, s.snapshot digest = .ok shown) ↔ s.Presentable := by
  obtain ⟨u, hu⟩ := unrealized_exact s
  obtain ⟨n, hn⟩ := netNotional_exact s
  have hfigures := accountFigures_exact (s := s)
  obtain ⟨gross, hgross, hfigures⟩ := bind_ok_iff.mp hfigures
  obtain ⟨equity, hequity, hfigures⟩ := bind_ok_iff.mp hfigures
  obtain ⟨drawdown, hdrawdown, -⟩ := bind_ok_iff.mp hfigures
  have hfinite : ∀ l : List ℚ, (l.any fun value => !Arith.isFinite value) = false := by
    intro l
    simp
  unfold AccountState.snapshot
  rw [hu, hgross, hequity, hdrawdown, hn]
  show (∃ shown, AccountStateSnapshot.postInit _ = .ok shown) ↔ _
  unfold AccountStateSnapshot.postInit
  dsimp only
  rw [hfinite, if_neg Bool.false_ne_true]
  simp only [any_blank_iff, any_cost_iff]
  constructor
  · rintro ⟨shown, h⟩
    split_ifs at h with h₁ h₂ h₃ h₄
    exact ⟨h₁, h₂, h₃, h₄⟩
  · intro h
    rw [if_neg (not_not.mpr h.positions), if_neg (not_not.mpr h.marks),
      if_neg (not_not.mpr h.averageCost), if_neg (not_not.mpr h.costs)]
    exact ⟨_, rfl⟩

theorem lookupEntry_sortedEntries (d : Dict String ℚ) (key : String) :
    lookupEntry key (sortedEntries d) = d.get key := by
  have hperm := mergeSort_perm d.entries fun a b : String × ℚ => decide (a.1 ≤ b.1)
  have hnodup : ((sortedEntries d).map Prod.fst).Nodup :=
    (hperm.map Prod.fst).nodup_iff.mpr d.nodup
  cases hget : d.get key with
  | none =>
    rw [lookupEntry_eq_none]
    intro hmem
    exact Dict.get_eq_none_iff.mp hget ((hperm.map Prod.fst).mem_iff.mp hmem)
  | some value =>
    exact lookupEntry_of_mem hnodup (mem_sortedEntries.mpr (Dict.mem_entries_iff.mpr hget))

/-! ## The reconciliation -/

namespace ReconciliationService

variable (service : ReconciliationService ℚ) (found : Reconciliation)

def stored : Reconciliation := { found with
  artifactId := service.recordId (service.logicalHash found), createdAt := found.asOf }

def event : OrderEvent :=
  ⟨service.eventId, .reconciliationRecorded,
    "reconciliation:" ++ found.accountStateHash.text ++ ":" ++
      String.ofList ((service.logicalHash found).text.toList.take 24),
    service.now, .reconciliation (service.stored found)⟩

/-- Nothing else in the ledger stands under the key or the id of the record of a clean run. -/
def Takes (events : List OrderEvent) (account : AccountState ℚ) (orders : OrderManager) : Prop :=
  ∀ found, service.finding account orders none none = .ok found → found.reconciled = true →
    ∃ event, (SqliteLedgers.append events (service.event found)).1 = .ok event

variable {service} {events : List OrderEvent} {account : AccountState ℚ} {orders : OrderManager}
  {venue : VenueAccountSnapshot ℚ} {r : Reconciliation}

theorem run_recorded :
    service.run (some events) account orders none (some venue)
      = match service.finding account orders none (some venue) with
        | .error e => (.error e, some events)
        | .ok found =>
          match SqliteLedgers.append events (service.event found) with
          | (.ok _, events) => (.ok (service.stored found), some events)
          | (.error e, events) => (.error e, some events) := rfl

theorem finding_ok (h : service.finding account orders none (some venue) = .ok r) :
    (orders.fills.values.map fun fill => fill.artifactId).Nodup := by
  unfold finding at h
  split at h
  · cases h
  · dsimp only at h
    split at h
    · next hids =>
      exact (mergeSort_perm _ _).nodup_iff.mp hids.2
    · cases h

theorem finding_clean {shown : AccountStateSnapshot ℚ}
    (hshown : account.snapshot service.digest = .ok shown)
    (hfills : (orders.fills.values.map fun fill => fill.artifactId).Nodup)
    (hvenue : discrepanciesOf orders none shown (some venue) = [])
    (hnone : discrepanciesOf orders none shown none = []) :
    ∃ r, service.finding account orders none (some venue) = .ok r ∧
      service.finding account orders none none = .ok r ∧ r.reconciled = true := by
  have hids : (sortedIds orders.orders.keys).Nodup ∧
      (sortedIds (orders.fills.values.map fun fill => fill.artifactId)).Nodup :=
    ⟨(mergeSort_perm _ _).nodup_iff.mpr orders.orders.nodup,
      (mergeSort_perm _ _).nodup_iff.mpr hfills⟩
  unfold finding
  rw [hshown]
  dsimp only
  rw [hvenue, hnone, dif_pos hids]
  exact ⟨_, rfl, rfl, rfl⟩

end ReconciliationService

/-- What a reconciliation asks of the local side, whatever the venue reports. -/
structure SelfConsistent (service : ReconciliationService ℚ) (events : List OrderEvent)
    (account : AccountState ℚ) (orders : OrderManager) : Prop where
  manager : ManagerAgrees orders
  presentable : account.Presentable
  fills : (orders.fills.values.map fun fill => fill.artifactId).Nodup
  ledger : service.Takes events account orders

section Clean

variable {service : ReconciliationService ℚ} {events : List OrderEvent} {account : AccountState ℚ}
  {orders : OrderManager} {venue : VenueAccountSnapshot ℚ}

private theorem discrepanciesOf_eq_nil {shown : AccountStateSnapshot ℚ} :
    discrepanciesOf orders none shown (some venue) = [] ↔
      ManagerAgrees orders ∧ VenueAgrees orders shown venue := by
  rw [managerAgrees_iff (N := ℚ), ← venueDiscrepancies_eq_nil]
  unfold discrepanciesOf accountDiscrepancies
  simp only [append_eq_nil_iff, and_true]

private theorem localDiscrepancies_eq_nil (shown : AccountStateSnapshot ℚ)
    (h : ManagerAgrees orders) : discrepanciesOf orders none shown none = [] := by
  rw [managerAgrees_iff (N := ℚ)] at h
  unfold discrepanciesOf accountDiscrepancies
  simp only [append_eq_nil_iff, and_true]
  exact h

/-- **A run with a venue snapshot is clean** when the local side is in order and agrees with it. -/
theorem run_clean_iff :
    (∃ r events', service.run (some events) account orders none (some venue) = (.ok r, events') ∧
        r.reconciled = true) ↔
      SelfConsistent service events account orders ∧
        ∀ shown, account.snapshot service.digest = .ok shown → VenueAgrees orders shown venue := by
  constructor
  · rintro ⟨r, events', hrun, hclean⟩
    have hok := congrArg Prod.fst hrun
    obtain ⟨shown, hshown, hreconciled⟩ := ReconciliationService.reconciled_of_run hok
    obtain ⟨hmanager, hvenue⟩ := discrepanciesOf_eq_nil.mp (hreconciled.mp hclean)
    rw [ReconciliationService.run_recorded] at hrun
    split at hrun
    · cases hrun
    · next found hfound =>
      have hfills := ReconciliationService.finding_ok hfound
      have hlocal := localDiscrepancies_eq_nil shown hmanager
      obtain ⟨found', hfound', hnone, hfoundClean⟩ := ReconciliationService.finding_clean hshown
        hfills (hreconciled.mp hclean) hlocal
      rw [hfound] at hfound'
      cases hfound'
      refine ⟨⟨hmanager, snapshot_iff.mp ⟨shown, hshown⟩, hfills, ?_⟩, ?_⟩
      · intro other hother _
        rw [hnone] at hother
        cases hother
        split at hrun
        · next event events'' happend =>
          exact ⟨event, congrArg Prod.fst happend⟩
        · cases hrun
      · intro shown' hshown'
        rw [hshown] at hshown'
        cases hshown'
        exact hvenue
  · rintro ⟨hself, hvenue⟩
    obtain ⟨shown, hshown⟩ := snapshot_iff.mpr hself.presentable
    have hnil := discrepanciesOf_eq_nil.mpr ⟨hself.manager, hvenue shown hshown⟩
    obtain ⟨found, hfound, hnone, hclean⟩ := ReconciliationService.finding_clean hshown hself.fills
      hnil (localDiscrepancies_eq_nil shown hself.manager)
    obtain ⟨event, happend⟩ := hself.ledger found hnone hclean
    rw [ReconciliationService.run_recorded, hfound]
    dsimp only
    split
    · exact ⟨_, _, rfl, hclean⟩
    · next e events' herror =>
      rw [herror] at happend
      cases happend

end Clean

/-! ## What the spot transports report -/

/-- A snapshot reports free funds as available margin, and no margin in use. -/
structure VenueAccountSnapshot.Reports (snapshot : VenueAccountSnapshot ℚ) (free : ℚ) : Prop where
  marginUsed : snapshot.marginUsed = some 0
  marginAvailable : snapshot.marginAvailable = some free

/-- Cash is the free and the locked part of the quote balance, available margin the free one. -/
theorem BinanceSpotTestnetTransport.fetchAccountSnapshot_quote {σ : Type}
    {settings : BinanceSettings σ} {t t' : BinanceSpotTestnetTransport σ}
    {snapshot : VenueAccountSnapshot ℚ} (h : fetchAccountSnapshot settings t = .ok snapshot t') :
    ∃ found verified projection free locked,
      project settings found verified = .ok projection ∧
      amount settings projection.quoteRecord "free" (projection.quoteAsset ++ " free balance")
        = .ok free ∧
      amount settings projection.quoteRecord "locked" (projection.quoteAsset ++ " locked balance")
        = .ok locked ∧
      snapshot.cash = free + locked ∧ snapshot.Reports free := by
  obtain ⟨payload, t₁, -, h₁⟩ := of_bind_ok h
  obtain ⟨listed, t₂, -, h₂⟩ := of_bind_ok h₁
  obtain ⟨verified, t₃, -, h₃⟩ := of_bind_ok h₂
  obtain ⟨projection, t₄, hprojection, h₄⟩ := of_bind_ok h₃
  obtain ⟨asOf, t₅, -, h₅⟩ := of_bind_ok h₄
  obtain ⟨free, t₆, hfree, hmade⟩ := of_bind_ok h₅
  replace hprojection := (lift_ok hprojection).2
  replace hfree := (lift_ok hfree).2
  obtain ⟨-, hcash, -, hused, havailable, -⟩ :=
    VenueAccountSnapshot.check_ok (constructed_ok (lift_ok hmade).2)
  have hproject := hprojection
  unfold project at hproject
  split at hproject
  · cases hproject
  · split at hproject
    · cases hproject
    · obtain ⟨cash, htotal, hproject⟩ := bind_ok_iff.mp hproject
      obtain ⟨positions, -, hproject⟩ := bind_ok_iff.mp hproject
      cases hproject
      obtain ⟨free', hfree', htotal⟩ := bind_ok_iff.mp htotal
      obtain ⟨locked, hlocked, htotal⟩ := bind_ok_iff.mp htotal
      rw [hfree] at hfree'
      cases hfree'
      split at htotal
      · cases htotal
      · cases htotal
        exact ⟨_, _, _, free, locked, hprojection, hfree, hlocked, hcash, ⟨hused, havailable⟩⟩
  · cases hproject

theorem CoinbaseExchangeSandboxTransport.fetchAccountSnapshot_quote {σ : Type}
    {settings : CoinbaseSettings σ} {t t' : CoinbaseExchangeSandboxTransport σ}
    {snapshot : VenueAccountSnapshot ℚ} (h : fetchAccountSnapshot settings t = .ok snapshot t') :
    ∃ found verified projection, project settings found verified = .ok projection ∧
      snapshot.cash = projection.cash ∧ snapshot.Reports projection.available := by
  obtain ⟨found, t₁, -, h₁⟩ := of_bind_ok h
  obtain ⟨verified, t₂, -, h₂⟩ := of_bind_ok h₁
  obtain ⟨projection, t₃, hprojection, h₃⟩ := of_bind_ok h₂
  obtain ⟨asOf, t₄, -, hmade⟩ := of_bind_ok h₃
  obtain ⟨-, hcash, -, hused, havailable, -⟩ :=
    VenueAccountSnapshot.check_ok (constructed_ok (lift_ok hmade).2)
  exact ⟨_, _, projection, (lift_ok hprojection).2, hcash, ⟨hused, havailable⟩⟩

/-- An adapter over one of the two transports that know their venue. -/
inductive OverSpotTransport : {τ : Type} → NativeVenueAdapter τ → Prop
  | binance {σ : Type} (settings : BinanceSettings σ)
      (adapter : NativeVenueAdapter (BinanceSpotTestnetTransport σ))
      (htransport : adapter.transport = BinanceSpotTestnetTransport.native settings)
      (hfetch : adapter.fetchAccountSnapshot
        = some (BinanceSpotTestnetTransport.fetchAccountSnapshot settings)) :
      OverSpotTransport adapter
  | coinbase {σ : Type} (settings : CoinbaseSettings σ)
      (adapter : NativeVenueAdapter (CoinbaseExchangeSandboxTransport σ))
      (htransport : adapter.transport = CoinbaseExchangeSandboxTransport.native settings)
      (hfetch : adapter.fetchAccountSnapshot
        = some (CoinbaseExchangeSandboxTransport.fetchAccountSnapshot settings)) :
      OverSpotTransport adapter

theorem OverSpotTransport.reports {τ : Type} {adapter : NativeVenueAdapter τ}
    (hover : OverSpotTransport adapter) {s s' : NativeState τ} {snapshot : VenueAccountSnapshot ℚ}
    (h : adapter.accountSnapshot s = .ok snapshot s') : ∃ free, snapshot.Reports free := by
  unfold NativeVenueAdapter.accountSnapshot at h
  cases hover with
  | binance settings adapter htransport hfetch =>
    rw [hfetch] at h
    obtain ⟨_, _, _, free, _, -, -, -, -, hreports⟩ :=
      BinanceSpotTestnetTransport.fetchAccountSnapshot_quote (onTransport_ok h).1
    exact ⟨free, hreports⟩
  | coinbase settings adapter htransport hfetch =>
    rw [hfetch] at h
    obtain ⟨_, _, projection, -, -, hreports⟩ :=
      CoinbaseExchangeSandboxTransport.fetchAccountSnapshot_quote (onTransport_ok h).1
    exact ⟨projection.available, hreports⟩

/-! ## The verdict -/

/-- Cash, positions and open orders of both sides are the same, and the local account is not older. -/
structure SameAccount (account : AccountState ℚ) (orders : OrderManager)
    (snapshot : VenueAccountSnapshot ℚ) (openOrders : List VenueAcknowledgement) : Prop where
  cash : account.cash = snapshot.cash
  positions : ∀ instrument,
    account.positions.getD instrument 0 = snapshot.positions.getD instrument 0
  current : snapshot.asOf ≤ account.asOf
  openOrders : ∀ i, (∃ a ∈ openOrders, a.orderId = i) ↔
    ∃ o ∈ orders.orders.values, o.state ∈ openStates ∧ o.artifactId = i

theorem differs_eq_false {a b : ℚ} : differs a b = false ↔ a = b := by
  unfold differs
  rw [Bool.or_eq_false_iff, arith_lt, arith_lt, decide_eq_false_iff_not, decide_eq_false_iff_not,
    not_lt, not_lt]
  constructor
  · intro h
    exact le_antisymm h.2 h.1
  · rintro rfl
    exact ⟨le_refl _, le_refl _⟩

/-- With the rest the same, it is down to the margin fields. -/
theorem venueAgrees_iff {account : AccountState ℚ} {orders : OrderManager}
    {snapshot : VenueAccountSnapshot ℚ} {openOrders : List VenueAcknowledgement} {free : ℚ}
    {shown : AccountStateSnapshot ℚ} (hsame : SameAccount account orders snapshot openOrders)
    (hreports : snapshot.Reports free) (hshown : account.snapshot digest = .ok shown) :
    VenueAgrees orders shown
        (snapshot.withOpenOrders (openOrders.map fun a => a.orderId).toFinset) ↔
      account.marginUsed = 0 ∧ account.marginAvailable = some free := by
  obtain ⟨hcash, hpositions, hused, havailable, hasOf⟩ :=
    ReconciliationService.shown_of_snapshot hshown
  constructor
  · intro h
    obtain ⟨own, hown, heq⟩ := h.marginAvailable free (by
      rw [Option.mem_def]
      exact hreports.marginAvailable)
    have hzero := h.marginUsed 0 (by
      rw [Option.mem_def]
      exact hreports.marginUsed)
    rw [differs_eq_false] at heq hzero
    rw [hused] at hzero
    rw [havailable, ← heq] at hown
    exact ⟨hzero.symm, hown⟩
  · rintro ⟨hzero, hfree⟩
    refine ⟨?_, ?_, ?_, ?_, ?_, ?_⟩
    · rw [hasOf]
      exact hsame.current
    · rw [hcash, hsame.cash]
      exact differs_eq_false.mpr rfl
    · intro instrument _
      rw [hpositions, lookupEntry_sortedEntries]
      exact differs_eq_false.mpr (hsame.positions instrument)
    · intro used hmem
      have hmem' : snapshot.marginUsed = some used := hmem
      rw [hreports.marginUsed] at hmem'
      cases hmem'
      rw [hused, hzero]
      exact differs_eq_false.mpr rfl
    · intro available hmem
      have hmem' : snapshot.marginAvailable = some available := hmem
      rw [hreports.marginAvailable] at hmem'
      cases hmem'
      exact ⟨free, havailable.trans hfree, differs_eq_false.mpr rfl⟩
    · intro venueOpen hmem i
      have hmem' : some (openOrders.map fun a => a.orderId).toFinset = some venueOpen := hmem
      cases hmem'
      rw [mem_toFinset, mem_map]
      exact hsame.openOrders i

namespace PaperRuntime

variable {τ : Type} {reconciler : Reconciler τ} {w : ReconcileWorld τ} {a₁ a₂ : NativeState τ}
  {snapshot : VenueAccountSnapshot ℚ} {openOrders : List VenueAcknowledgement} {now : Timestamp}

private theorem run_bind {σ ε α β : Type} {x : Prog σ ε α} {f : α → Prog σ ε β} {s s' : σ} {a : α}
    {n : Option ℕ} (h : x none s = (.ok a, n, s')) : (x >>= f) none s = f a n s' := by
  show Prog.bind x f none s = _
  unfold Prog.bind
  rw [h]

theorem venueSnapshot_ok {adapter : NativeVenueAdapter τ} {s : NativeState τ}
    (hsnapshot : adapter.accountSnapshot s = .ok snapshot a₁)
    (hopen : adapter.openOrders a₁ = .ok openOrders a₂) :
    adapter.venueSnapshot s
      = .ok (snapshot.withOpenOrders (openOrders.map fun a => a.orderId).toFinset) a₂ := by
  unfold NativeVenueAdapter.venueSnapshot
  rw [bind_ok hsnapshot, bind_ok hopen]
  rfl

variable {venue : VenueAccountSnapshot ℚ}

theorem reconcileOnce_run (h : reconciler.adapter.venueSnapshot w.adapter = .ok venue a₂) :
    (reconcileOnce reconciler now).run w
      = (reconcileWith reconciler now venue).run { w with adapter := a₂ } := by
  have hcall : onAdapter reconciler.adapter.venueSnapshot none w
      = (.ok venue, none, { w with adapter := a₂ }) := by
    unfold onAdapter Prog.atomic
    dsimp only
    rw [if_neg (by simp), h]
    rfl
  have htry : Prog.attempt (onAdapter reconciler.adapter.venueSnapshot) none w
      = (.ok (.ok venue), none, { w with adapter := a₂ }) := by
    unfold Prog.attempt
    rw [hcall]
  unfold Prog.run reconcileOnce
  rw [run_bind htry]

/-- A clean run leaves the controls alone; any other that returns has tripped the kill switch. -/
theorem reconcileWith_ok :
    (∃ r w', (reconcileWith reconciler now venue).run w = (.ok r, w') ∧ r.reconciled = true ∧
        w'.control = w.control) ↔
      ∃ r events', reconciler.service.run (some w.orderEvents) reconciler.account reconciler.orders
        none (some venue) = (.ok r, events') ∧ r.reconciled = true := by
  unfold Prog.run reconcileWith
  rcases hrun : reconciler.service.run (some w.orderEvents) reconciler.account reconciler.orders none
    (some venue) with ⟨e | r, events'⟩
  · have hrecorded : recordRun reconciler venue none w
        = (.error (.raised e), none, { w with orderEvents := events'.getD w.orderEvents }) := by
      unfold recordRun Prog.atomic
      dsimp only
      rw [if_neg (by simp), hrun]
      rfl
    constructor
    · rintro ⟨r, w', h, -⟩
      have hstop : ((recordRun reconciler venue >>= haltUnlessClean reconciler now) none w).1
          = .error (.raised e) := by
        show (Prog.bind _ _ none w).1 = _
        unfold Prog.bind
        rw [hrecorded]
      have hok := congrArg Prod.fst h
      rw [hstop] at hok
      cases hok
    · rintro ⟨r, events'', h, -⟩
      cases h
  · have hrecorded : recordRun reconciler venue none w
        = (.ok r, none, { w with orderEvents := events'.getD w.orderEvents }) := by
      unfold recordRun Prog.atomic
      dsimp only
      rw [if_neg (by simp), hrun]
      rfl
    rw [run_bind hrecorded]
    constructor
    · rintro ⟨r', w', h, hclean, -⟩
      refine ⟨r, _, rfl, ?_⟩
      by_contra hdirty
      unfold haltUnlessClean at h
      rw [if_neg hdirty] at h
      have hret := congrArg Prod.fst h
      obtain ⟨_, n₁, w₁, -, hlast⟩ := Prog.bind_ok (b := r') (Prod.ext hret rfl)
      have hsame : r = r' := by
        have hfirst := congrArg Prod.fst hlast
        cases hfirst
        rfl
      rw [← hsame] at hclean
      exact hdirty hclean
    · rintro ⟨r', events'', h, hclean⟩
      cases h
      refine ⟨r, { w with orderEvents := events'.getD w.orderEvents }, ?_, hclean, rfl⟩
      unfold haltUnlessClean
      rw [if_pos hclean]
      rfl

/-- **`reconcile_once` is clean** on an account that agrees with the venue exactly when the local
side is in order and its margin fields are those the venue reports. -/
theorem reconcileOnce_clean_iff (hover : OverSpotTransport reconciler.adapter)
    (hsnapshot : reconciler.adapter.accountSnapshot w.adapter = .ok snapshot a₁)
    (hopen : reconciler.adapter.openOrders a₁ = .ok openOrders a₂)
    (hsame : SameAccount reconciler.account reconciler.orders snapshot openOrders) :
    ∃ free, snapshot.Reports free ∧
      ((∃ r w', (reconcileOnce reconciler now).run w = (.ok r, w') ∧ r.reconciled = true ∧
          w'.control = w.control) ↔
        SelfConsistent reconciler.service w.orderEvents reconciler.account reconciler.orders ∧
          reconciler.account.marginUsed = 0 ∧ reconciler.account.marginAvailable = some free) := by
  obtain ⟨free, hreports⟩ := hover.reports hsnapshot
  refine ⟨free, hreports, ?_⟩
  rw [reconcileOnce_run (venueSnapshot_ok hsnapshot hopen)]
  refine (reconcileWith_ok (w := { w with adapter := a₂ })).trans ?_
  rw [run_clean_iff]
  refine and_congr_right fun hself => ?_
  obtain ⟨shown, hshown⟩ := snapshot_iff.mpr hself.presentable
  constructor
  · intro h
    exact (venueAgrees_iff hsame hreports hshown).mp (h shown hshown)
  · intro h shown' hshown'
    exact (venueAgrees_iff hsame hreports hshown').mpr h

/-! ## An account whose margin nobody set -/

def idleWire : Wire ℕ where
  request request _ _ n := .ok ⟨200, .json (if request.url.path = "/api/v3/time" then
      .map [("serverTime", .str "i")]
    else if request.url.path = "/api/v3/openOrders" then .seq []
    else .map [("accountType", .str "SPOT"), ("canTrade", .bool true),
      ("balances", .seq [.map [("asset", .str "USDT"), ("free", .str "iiiii"),
        ("locked", .str "")]])])⟩ (n + 1)

def idleSettings : BinanceSettings ℕ := ⟨idleWire, tallyVenue, 5000, fun _ => 1⟩

def idleAdapter : NativeVenueAdapter (BinanceSpotTestnetTransport ℕ) where
  venue := "binance"
  strictVenue := true
  transport := BinanceSpotTestnetTransport.native idleSettings
  fetchAccountSnapshot := some (BinanceSpotTestnetTransport.fetchAccountSnapshot idleSettings)
  outside := tallyVenue
  decimalText _ := ""
  parseUuid _ := none
  venue_ne := binance_ne

variable (marginAvailable : Option ℚ)

def idleReconciler :
    Reconciler (BinanceSpotTestnetTransport ℕ) where
  o := paperOutside
  service := paperService
  adapter := idleAdapter
  account := { AccountState.new 5 1 with marginAvailable := marginAvailable }
  orders := .empty

def idleWorld : ReconcileWorld (BinanceSpotTestnetTransport ℕ) :=
  ⟨.init, .init tickingTransport, []⟩

theorem idle_shown : ∃ snapshot a₁ a₂,
    idleAdapter.accountSnapshot idleWorld.adapter = .ok snapshot a₁ ∧
    idleAdapter.openOrders a₁ = .ok [] a₂ ∧ snapshot.cash = 5 ∧ snapshot.asOf = 1 ∧
    snapshot.positions.entries = [] := by
  have hreturns : (match idleAdapter.accountSnapshot idleWorld.adapter with
      | .ok snapshot a₁ => decide (snapshot.cash = 5 ∧ snapshot.asOf = 1 ∧
          snapshot.positions.entries = []) &&
        (match idleAdapter.openOrders a₁ with
        | .ok found _ => decide (found = [])
        | .error _ _ => false)
      | .error _ _ => false) = true := by
    decide +kernel
  cases hsnapshot : idleAdapter.accountSnapshot idleWorld.adapter with
  | error e a =>
    rw [hsnapshot] at hreturns
    cases hreturns
  | ok snapshot a₁ =>
    rw [hsnapshot] at hreturns
    dsimp only at hreturns
    cases hopen : idleAdapter.openOrders a₁ with
    | error e a =>
      rw [hopen, Bool.and_false] at hreturns
      cases hreturns
    | ok found a₂ =>
      rw [hopen] at hreturns
      simp only [Bool.and_eq_true, decide_eq_true_eq] at hreturns
      obtain ⟨⟨hcash, hasOf, hpositions⟩, rfl⟩ := hreturns
      exact ⟨snapshot, a₁, a₂, rfl, hopen, hcash, hasOf, hpositions⟩

theorem idle_over : OverSpotTransport idleAdapter := .binance idleSettings idleAdapter rfl rfl

theorem idle_same {snapshot : VenueAccountSnapshot ℚ} (hcash : snapshot.cash = 5)
    (hasOf : snapshot.asOf = 1) (hpositions : snapshot.positions.entries = []) :
    SameAccount (idleReconciler marginAvailable).account .empty snapshot [] where
  cash := hcash.symm
  positions := by
    intro instrument
    unfold Dict.getD Dict.get
    rw [hpositions]
    rfl
  current := hasOf.le
  openOrders := by
    intro i
    simp [OrderManager.empty]

/-- Everything agrees, and the margin that nobody set is a mismatch. -/
theorem unset_margin_mismatch :
    ¬∀ (reconciler : Reconciler (BinanceSpotTestnetTransport ℕ))
        (w : ReconcileWorld (BinanceSpotTestnetTransport ℕ))
        (a₁ a₂ : NativeState (BinanceSpotTestnetTransport ℕ)) (snapshot : VenueAccountSnapshot ℚ)
        (openOrders : List VenueAcknowledgement) (now : Timestamp),
      OverSpotTransport reconciler.adapter →
      (∃ cash asOf, reconciler.account = AccountState.new cash asOf) →
      reconciler.adapter.accountSnapshot w.adapter = .ok snapshot a₁ →
      reconciler.adapter.openOrders a₁ = .ok openOrders a₂ →
      SameAccount reconciler.account reconciler.orders snapshot openOrders →
      ∃ r w', (reconcileOnce reconciler now).run w = (.ok r, w') ∧ r.reconciled = true ∧
        w'.control = w.control := by
  intro h
  obtain ⟨snapshot, a₁, a₂, hsnapshot, hopen, hcash, hasOf, hpositions⟩ := idle_shown
  have hsame := idle_same none hcash hasOf hpositions
  have hclean := h (idleReconciler none) idleWorld a₁ a₂ snapshot [] 0 idle_over ⟨5, 1, rfl⟩
    hsnapshot hopen hsame
  have hvenue : (idleReconciler none).adapter.venueSnapshot idleWorld.adapter = .ok _ a₂ :=
    venueSnapshot_ok hsnapshot hopen
  rw [reconcileOnce_run hvenue] at hclean
  obtain ⟨hself, hagrees⟩ := run_clean_iff.mp (reconcileWith_ok.mp hclean)
  obtain ⟨shown, hshown⟩ := snapshot_iff.mpr hself.presentable
  obtain ⟨free, hreports⟩ := idle_over.reports hsnapshot
  obtain ⟨-, hmargin⟩ := (venueAgrees_iff hsame hreports hshown).mp (hagrees shown hshown)
  cases hmargin

/-- The same venue, and an account that was built with the margin it reports. -/
theorem reconcileOnce_clean_idle : ∃ snapshot a₁ free,
    idleAdapter.accountSnapshot idleWorld.adapter = .ok snapshot a₁ ∧ snapshot.Reports free ∧
    ((∃ r w', (reconcileOnce (idleReconciler (some 5)) 0).run idleWorld = (.ok r, w') ∧
        r.reconciled = true ∧ w'.control = idleWorld.control) ↔
      SelfConsistent paperService [] (idleReconciler (some 5)).account .empty ∧
        (idleReconciler (some 5)).account.marginUsed = 0 ∧
        (idleReconciler (some 5)).account.marginAvailable = some free) := by
  obtain ⟨snapshot, a₁, a₂, hsnapshot, hopen, hcash, hasOf, hpositions⟩ := idle_shown
  obtain ⟨free, hreports, hiff⟩ := @reconcileOnce_clean_iff _ (idleReconciler (some 5)) idleWorld a₁ a₂
    snapshot [] 0 idle_over hsnapshot hopen (idle_same (some 5) hcash hasOf hpositions)
  exact ⟨snapshot, a₁, free, hsnapshot, hreports, hiff⟩

end PaperRuntime

end AdvisorAI
