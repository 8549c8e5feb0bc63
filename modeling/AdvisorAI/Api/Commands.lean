import AdvisorAI.Api.Dashboard
import AdvisorAI.Lib.Runs

/-!
# Dashboard commands with a failing ledger

`execute` answers a key it has a receipt for with that receipt. For a new key it
does what the command asks of the runtime or the bundle store, remembers the
receipt and then appends the command to the INCIDENT ledger, from which a new
process reads its receipts back.

`accepted_recorded_iff` is about histories in which appends raise, keys come again
and processes restart. What decides is `takers`: the calls whose receipts the
memory holds.
-/

namespace AdvisorAI

open Lib
open List hiding after

namespace DashboardProjection

open Dashboard (CommandKind)

/-! ## Requests and receipts -/

variable (command : CommandKind)

/-- The commands that need a confirmation and a step-up token. -/
def sensitive : Prop := command ≠ .refreshData

structure DashboardCommandRequest where
  command : CommandKind
  idempotencyKey : String
  reason : String
  confirmed : Bool
  stepUpToken : Option String
  requestedMode : Option String
  configPatch : Option (Dict String String)
  key_length : 12 ≤ idempotencyKey.length ∧ idempotencyKey.length ≤ 128
  reason_length : 3 ≤ reason.length ∧ reason.length ≤ 500
  token_length : ∀ t ∈ stepUpToken, 8 ≤ t.length ∧ t.length ≤ 256
  mode_length : ∀ m ∈ requestedMode, 1 ≤ m.length ∧ m.length ≤ 32
  mode_given : command = .setMode → requestedMode.isSome
  patch_given : command = .proposeConfig → ∃ patch ∈ configPatch, patch.entries ≠ []
  hash_given : command = .rollbackConfig →
    ∃ patch ∈ configPatch, ∃ hash ∈ patch.get "content_hash", isBlank hash = false
  confirmed_sensitive : sensitive command → confirmed = true
  token_sensitive : sensitive command → stepUpToken.isSome

structure CommandReceipt where
  commandId : String
  command : CommandKind
  status : String
  message : String
  acceptedAt : Timestamp
  safeState : String
  auditEventId : String
  requestedMode : Option String
  configPatch : Option (Dict String String)
  configHash : Option String
deriving DecidableEq

/-- The payload of a recorded command. `_record_rejected` leaves the mode and the
patch out. -/
structure CommandRecord where
  actor : String
  idempotencyKey : String
  reason : String
  scope : Option (Option String × Option (Dict String String))
  receipt : CommandReceipt
deriving DecidableEq

/-! ## What a call meets -/

/-- `runtime.halt(reason)` and `runtime.resume(approved_by=actor)`: what they raise. -/
structure RuntimeControl where
  halt : String → Option PyError
  resume : String → Option PyError

/-- The ends of `config_store.rollback`: the bundle is active, it is invalid (an
`OSError`, `ValueError`, `RuntimeError` or `KeyError`), or something else is raised. -/
inductive RollbackEnd where
  | activated
  | invalid
  | raised (e : PyError)

/-- The bundle store: `propose` creates a bundle of the active content and a patch
and returns its hash. -/
structure ConfigBundleStore where
  propose : Dict String String → Except PyError String
  rollback : String → String → String → RollbackEnd

/-- A call of `execute`: what it is given, the identifiers and the time it draws,
whether the overview it reads shows a clean reconciliation, and what the append and
the rebuilding of the overview raise. -/
structure Call where
  request : DashboardCommandRequest
  actor : String
  commandId : String
  eventId : String
  now : Timestamp
  overview : Except PyError Bool
  runtime : Option RuntimeControl
  configStore : Option ConfigBundleStore
  fault : Option PyError
  rebuildFault : Option PyError

/-! ## The verdict -/

def allowedModes : List String := ["trade_fast", "standard", "deep", "builder", "recovery"]

/-- The result status, the message and the config hash a command gets, or that it
is recorded as rejected on the way. -/
inductive Verdict where
  | decided (status message : String) (configHash : Option String)
  | recordRejected (message : String)

namespace Verdict

def accepted (message : String) : Verdict := .decided "accepted" message none

def rejected (message : String) : Verdict := .decided "rejected" message none

end Verdict

/-- `config_hash[:12]`. -/
def shortHash (hash : String) : String := String.ofList (hash.toList.take 12)

/-- What a command comes to, before anything is remembered. -/
def verdict (c : Call) : Except PyError Verdict := do
  let clean ← c.overview
  match c.request.command with
  | .haltPaper =>
    match c.runtime.bind fun runtime => runtime.halt c.request.reason with
    | some e => .error e
    | none =>
      .ok (.accepted "Paper activity halted; resume requires step-up authentication.")
  | .resumePaper =>
    if clean then
      match c.runtime.bind fun runtime => runtime.resume c.actor with
      | some _ =>
        .ok (.recordRejected "Resume rejected until the runtime kill switch can be reset.")
      | none => .ok (.accepted "Paper activity resumed after the reconciliation guard.")
    else .ok (.rejected "Resume rejected until reconciliation is clean.")
  | .setMode =>
    let mode := c.request.requestedMode.getD ""
    if mode ∈ allowedModes then .ok (.accepted ("Operating mode changed to " ++ mode ++ "."))
    else .ok (.rejected ("Mode " ++ pyRepr mode ++ " is not admitted by the mode registry."))
  | .proposeConfig =>
    match c.configStore with
    | none =>
      .ok (.accepted
        "Configuration revision recorded for review; no policy is applied by this receipt.")
    | some store =>
      let hash ← store.propose (c.request.configPatch.getD .empty)
      .ok (.decided "accepted" ("Configuration revision staged for review; no policy is applied "
        ++ "(bundle " ++ shortHash hash ++ ").") (some hash))
  | .rollbackConfig =>
    match c.configStore with
    | none => .ok (.rejected "Configuration rollback rejected because no bundle store is bound.")
    | some store =>
      let hash := (c.request.configPatch.getD .empty).get "content_hash"
      match store.rollback (hash.getD "") c.actor c.request.reason with
      | .activated => .ok (.decided "accepted" ("Configuration bundle "
          ++ shortHash (hash.getD "") ++ " rolled back and activated.") hash)
      | .invalid => .ok (.decided "rejected"
          "Configuration rollback rejected because the bundle is invalid." hash)
      | .raised e => .error e
  | .refreshData =>
    .ok (.accepted "Refresh request recorded; source workers retain acquisition authority.")

/-- The receipt of a call with a result status. -/
def Call.receipt (c : Call) (status message : String) (configHash : Option String) :
    CommandReceipt where
  commandId := c.commandId
  command := c.request.command
  status := status
  message := message
  acceptedAt := c.now
  safeState := "paper_only"
  auditEventId := c.eventId
  requestedMode := c.request.requestedMode
  configPatch := c.request.configPatch
  configHash := configHash

def Call.record (c : Call) : Verdict → CommandRecord
  | .decided status message configHash =>
    ⟨c.actor, c.request.idempotencyKey, c.request.reason,
      some (c.request.requestedMode, c.request.configPatch), c.receipt status message configHash⟩
  | .recordRejected message =>
    ⟨c.actor, c.request.idempotencyKey, c.request.reason, none, c.receipt "rejected" message none⟩

/-! ## The projection and its ledger -/

inductive CommandEventType where
  | dashboardCommandRecorded
  | other (name : String)
deriving DecidableEq

inductive CommandPayload where
  | command (record : CommandRecord)
  /-- The payload of another writer, as its JSON text. -/
  | other (json : String)
deriving DecidableEq

abbrev CommandEvent := LedgerEvent CommandEventType CommandPayload

/-- The INCIDENT ledger, the receipts in memory and the next unused event id. -/
structure CommandWorld where
  incidentEvents : List CommandEvent
  receipts : Dict String CommandReceipt
  nextEventId : UUID

/-- `f"dashboard-command:{command.idempotency_key}"`. -/
def commandKey (idempotencyKey : String) : String := "dashboard-command:" ++ idempotencyKey

/-- `execute`, and `_record_rejected` for the verdict that goes through it. The
receipt is remembered before it is appended. -/
def execute (c : Call) (w : CommandWorld) : Except PyError CommandReceipt × CommandWorld :=
  match w.receipts.get c.request.idempotencyKey with
  | some prior => (.ok prior, w)
  | none =>
    match verdict c with
    | .error e => (.error e, w)
    | .ok v =>
      let record := c.record v
      let receipts := w.receipts.set c.request.idempotencyKey record.receipt
      match SqliteLedgers.appendUnder c.fault w.incidentEvents ⟨w.nextEventId,
          .dashboardCommandRecorded, commandKey c.request.idempotencyKey, c.now,
          .command record⟩ with
      | (.error e, events) => (.error e, ⟨events, receipts, w.nextEventId + 1⟩)
      | (.ok _, events) =>
        -- only an accepted command has the overview rebuilt
        match c.rebuildFault, decide (record.receipt.status = "accepted") with
        | some e, true => (.error e, ⟨events, receipts, w.nextEventId + 1⟩)
        | _, _ => (.ok record.receipt, ⟨events, receipts, w.nextEventId + 1⟩)

def recordOf (e : CommandEvent) : Option CommandRecord :=
  match e.eventType, e.payload with
  | .dashboardCommandRecorded, .command record => some record
  | _, _ => none

def remember (receipts : Dict String CommandReceipt) (record : CommandRecord) :
    Dict String CommandReceipt :=
  receipts.set record.idempotencyKey record.receipt

variable (events : List CommandEvent)

def hydrateCommands : Dict String CommandReceipt :=
  (events.filterMap recordOf).foldl remember .empty

/-! ## Histories -/

/-- The projection, and the calls whose receipts its memory holds: those that got
past their verdict under a new key, less those whose append raised in a process
that is gone. -/
structure CommandSystem where
  world : CommandWorld
  takers : List Call

/-- What happens: a command, a restart, an event of another writer. -/
inductive CommandAction where
  | execute (c : Call)
  | restart
  | incident (name key : String) (now : Timestamp) (json : String)
      (h : ∀ idempotencyKey, key ≠ commandKey idempotencyKey)

def Call.takes (c : Call) (w : CommandWorld) : Bool :=
  (w.receipts.get c.request.idempotencyKey).isNone && (verdict c).toOption.isSome

namespace CommandSystem

def init : CommandSystem := ⟨⟨[], .empty, 0⟩, []⟩

def step (sys : CommandSystem) : CommandAction → CommandSystem
  | .execute c =>
    ⟨(DashboardProjection.execute c sys.world).2,
      if c.takes sys.world then sys.takers ++ [c] else sys.takers⟩
  | .restart =>
    ⟨{ sys.world with receipts := hydrateCommands sys.world.incidentEvents },
      sys.takers.filter fun c => c.fault.isNone⟩
  | .incident name key now json _ =>
    let appended := SqliteLedgers.append sys.world.incidentEvents
      ⟨sys.world.nextEventId, .other name, key, now, .other json⟩
    ⟨{ sys.world with
        incidentEvents := appended.2
        nextEventId := sys.world.nextEventId + 1 }, sys.takers⟩

/-- A projection on a new ledger, after some actions. -/
def after (actions : List CommandAction) : CommandSystem := actions.foldl step init

end CommandSystem

def SamePatch : Option (Dict String String) → Option (Dict String String) → Prop
  | none, none => True
  | some a, some b => ∀ k, a.get k = b.get k
  | _, _ => False

def SameCommand (a b : DashboardCommandRequest) : Prop :=
  a.command = b.command ∧ a.reason = b.reason ∧ SamePatch a.configPatch b.configPatch

variable (request : DashboardCommandRequest)

/-- The ledger has an event for the request, as an accepted command of its kind,
with its reason and its patch. -/
def Recorded : Prop :=
  ∃ e ∈ events, ∃ record, recordOf e = some record ∧
    record.idempotencyKey = request.idempotencyKey ∧
    record.receipt.command = request.command ∧ record.reason = request.reason ∧
    SamePatch record.receipt.configPatch request.configPatch ∧
    record.receipt.status = "accepted"

/-! ## What the memory and the ledger hold -/

/-- The record of a call that got past its verdict. -/
def Call.record? (c : Call) : Option CommandRecord := (verdict c).toOption.map c.record

@[simp] theorem record_idempotencyKey (c : Call) (v : Verdict) :
    (c.record v).idempotencyKey = c.request.idempotencyKey := by
  cases v <;> rfl

@[simp] theorem record_reason (c : Call) (v : Verdict) : (c.record v).reason = c.request.reason := by
  cases v <;> rfl

@[simp] theorem record_command (c : Call) (v : Verdict) :
    (c.record v).receipt.command = c.request.command := by
  cases v <;> rfl

@[simp] theorem record_configPatch (c : Call) (v : Verdict) :
    (c.record v).receipt.configPatch = c.request.configPatch := by
  cases v <;> rfl

/-- The takers make up the memory, and those whose append did not raise the ledger. -/
structure Held (sys : CommandSystem) : Prop where
  ids : ∀ e ∈ sys.world.incidentEvents, e.eventId < sys.world.nextEventId
  receipts_eq : sys.world.receipts = (sys.takers.filterMap Call.record?).foldl remember .empty
  records_eq : sys.world.incidentEvents.filterMap recordOf
    = (sys.takers.filter fun c => c.fault.isNone).filterMap Call.record?
  keyed : ∀ e ∈ sys.world.incidentEvents, ∀ idempotencyKey,
    e.idempotencyKey = commandKey idempotencyKey →
      ∃ record, recordOf e = some record ∧ record.idempotencyKey = idempotencyKey
  distinct : (sys.takers.map fun c => c.request.idempotencyKey).Nodup
  decided : ∀ c ∈ sys.takers, ∃ v, verdict c = .ok v

theorem get_remember {records : List CommandRecord} {idempotencyKey : String}
    {receipt : CommandReceipt} (h : (records.map CommandRecord.idempotencyKey).Nodup) :
    (records.foldl remember .empty).get idempotencyKey = some receipt ↔
      ∃ record ∈ records, record.idempotencyKey = idempotencyKey ∧ record.receipt = receipt := by
  induction records using List.reverseRecOn with
  | nil => simp
  | append_singleton records last ih =>
    rw [map_append, nodup_append] at h
    rw [foldl_append, foldl_cons, foldl_nil]
    unfold remember
    rw [Dict.get_set]
    by_cases hkey : idempotencyKey = last.idempotencyKey
    · rw [if_pos hkey]
      constructor
      · intro hreceipt
        exact ⟨last, mem_append_right _ (mem_singleton_self _), hkey.symm,
          Option.some.inj hreceipt⟩
      · rintro ⟨record, hrecord, hsame, rfl⟩
        rcases mem_append.mp hrecord with hold | hlast
        · exact absurd (hsame.trans hkey) (h.2.2 _ (mem_map.mpr ⟨record, hold, rfl⟩) _
            (mem_singleton_self _))
        · rw [mem_singleton.mp hlast]
    · rw [if_neg hkey, show (List.foldl (fun receipts record => receipts.set record.idempotencyKey
        record.receipt) Dict.empty records).get idempotencyKey = some receipt ↔ _ from ih h.1]
      constructor
      · rintro ⟨record, hrecord, hsame⟩
        exact ⟨record, mem_append_left _ hrecord, hsame⟩
      · rintro ⟨record, hrecord, hsame, hreceipt⟩
        rcases mem_append.mp hrecord with hold | hlast
        · exact ⟨record, hold, hsame, hreceipt⟩
        · rw [mem_singleton.mp hlast] at hsame
          exact absurd hsame.symm hkey

theorem record?_eq {c : Call} {v : Verdict} (h : verdict c = .ok v) :
    c.record? = some (c.record v) := by
  unfold Call.record?
  rw [h]
  rfl

theorem records_keys {calls : List Call} (h : ∀ c ∈ calls, ∃ v, verdict c = .ok v) :
    (calls.filterMap Call.record?).map CommandRecord.idempotencyKey
      = calls.map fun c => c.request.idempotencyKey := by
  induction calls with
  | nil => rfl
  | cons c rest ih =>
    obtain ⟨v, hv⟩ := h c mem_cons_self
    rw [filterMap_cons_some (record?_eq hv), map_cons, map_cons,
      record_idempotencyKey, ih fun b hb => h b (mem_cons_of_mem c hb)]

section Holding

variable {sys : CommandSystem} {c : Call} {v : Verdict}

theorem held_init : Held .init where
  ids := fun _ h => absurd h not_mem_nil
  receipts_eq := rfl
  records_eq := rfl
  keyed := fun _ h => absurd h not_mem_nil
  distinct := nodup_nil
  decided := fun _ h => absurd h not_mem_nil

variable {idempotencyKey a b name key json : String}

theorem Held.get_receipts (h : Held sys) {receipt : CommandReceipt} :
    sys.world.receipts.get idempotencyKey = some receipt ↔
      ∃ t ∈ sys.takers, ∃ v, verdict t = .ok v ∧ t.request.idempotencyKey = idempotencyKey ∧
        (t.record v).receipt = receipt := by
  rw [h.receipts_eq, get_remember (by rw [records_keys h.decided]; exact h.distinct)]
  constructor
  · rintro ⟨record, hrecord, hkey, hreceipt⟩
    obtain ⟨t, ht, hof⟩ := mem_filterMap.mp hrecord
    obtain ⟨v, hv⟩ := h.decided t ht
    rw [record?_eq hv] at hof
    cases hof
    rw [record_idempotencyKey] at hkey
    exact ⟨t, ht, v, hv, hkey, hreceipt⟩
  · rintro ⟨t, ht, v, hv, hkey, hreceipt⟩
    refine ⟨t.record v, mem_filterMap.mpr ⟨t, ht, record?_eq hv⟩, ?_, hreceipt⟩
    rw [record_idempotencyKey]
    exact hkey

theorem Held.recorded (h : Held sys) {record : CommandRecord} :
    (∃ e ∈ sys.world.incidentEvents, recordOf e = some record) ↔
      ∃ t ∈ sys.takers, ∃ v, verdict t = .ok v ∧ t.fault = none ∧ t.record v = record := by
  rw [← mem_filterMap, h.records_eq, mem_filterMap]
  constructor
  · rintro ⟨t, ht, hof⟩
    obtain ⟨hmem, hfault⟩ := mem_filter.mp ht
    obtain ⟨v, hv⟩ := h.decided t hmem
    rw [record?_eq hv] at hof
    exact ⟨t, hmem, v, hv, Option.isNone_iff_eq_none.mp hfault, Option.some.inj hof⟩
  · rintro ⟨t, ht, v, hv, hfault, rfl⟩
    refine ⟨t, mem_filter.mpr ⟨ht, ?_⟩, record?_eq hv⟩
    exact Option.isNone_iff_eq_none.mpr hfault

theorem Held.key_new (h : Held sys) (hnone : sys.world.receipts.get idempotencyKey = none) :
    ∀ e ∈ sys.world.incidentEvents, e.idempotencyKey ≠ commandKey idempotencyKey := by
  intro e he hkey
  obtain ⟨record, hof, hrecord⟩ := h.keyed e he idempotencyKey hkey
  obtain ⟨t, ht, v, hv, -, rfl⟩ := h.recorded.mp ⟨e, he, hof⟩
  rw [record_idempotencyKey] at hrecord
  rw [h.get_receipts.mpr ⟨t, ht, v, hv, hrecord, rfl⟩] at hnone
  cases hnone

def commandEvent (eventId : UUID) (c : Call) (v : Verdict) : CommandEvent :=
  ⟨eventId, .dashboardCommandRecorded, commandKey c.request.idempotencyKey, c.now,
    .command (c.record v)⟩

/-- **A call that takes its key.** It is remembered; it is written unless its append
raises, and returns its own receipt only then. -/
theorem Held.execute_taken (h : Held sys)
    (hnone : sys.world.receipts.get c.request.idempotencyKey = none) (hv : verdict c = .ok v) :
    (execute c sys.world).2 = ⟨if c.fault.isNone
        then sys.world.incidentEvents ++ [commandEvent sys.world.nextEventId c v]
        else sys.world.incidentEvents,
      sys.world.receipts.set c.request.idempotencyKey (c.record v).receipt,
      sys.world.nextEventId + 1⟩ ∧
    ∀ receipt, (execute c sys.world).1 = .ok receipt →
      c.fault = none ∧ receipt = (c.record v).receipt := by
  have happend : SqliteLedgers.append sys.world.incidentEvents
      (commandEvent sys.world.nextEventId c v) = (.ok (commandEvent sys.world.nextEventId c v),
        sys.world.incidentEvents ++ [commandEvent sys.world.nextEventId c v]) :=
    SqliteLedgers.append_of_new (h.key_new hnone) fun e he => Nat.ne_of_lt (h.ids e he)
  unfold execute
  rw [hnone, hv]
  cases hfault : c.fault with
  | some e =>
    refine ⟨rfl, ?_⟩
    intro receipt hok
    cases hok
  | none =>
    dsimp only [SqliteLedgers.appendUnder]
    unfold commandEvent at happend
    rw [happend]
    dsimp only
    split
    · refine ⟨rfl, ?_⟩
      intro receipt hok
      cases hok
    · refine ⟨rfl, ?_⟩
      intro receipt hok
      exact ⟨rfl, (Except.ok.inj hok).symm⟩

theorem commandKey_injective (h : commandKey a = commandKey b) : a = b := by
  have hl := congrArg String.toList h
  unfold commandKey at hl
  rw [String.toList_append, String.toList_append] at hl
  exact String.toList_inj.mp (append_cancel_left hl)

theorem Held.execute (h : Held sys) (c : Call) : Held (sys.step (.execute c)) := by
  unfold CommandSystem.step
  dsimp only
  cases hget : sys.world.receipts.get c.request.idempotencyKey with
  | some prior =>
    have htakes : c.takes sys.world = false := by
      unfold Call.takes
      rw [hget]
      rfl
    have hsame : (DashboardProjection.execute c sys.world).2 = sys.world := by
      unfold DashboardProjection.execute
      rw [hget]
    rw [htakes, hsame]
    exact h
  | none =>
    cases hv : verdict c with
    | error e =>
      have htakes : c.takes sys.world = false := by
        unfold Call.takes
        rw [hv]
        exact Bool.and_false _
      have hsame : (DashboardProjection.execute c sys.world).2 = sys.world := by
        unfold DashboardProjection.execute
        rw [hget, hv]
      rw [htakes, hsame]
      exact h
    | ok v =>
      have htakes : c.takes sys.world = true := by
        unfold Call.takes
        rw [hget, hv]
        rfl
      rw [htakes, (h.execute_taken hget hv).1, if_pos rfl]
      have hfresh : ∀ t ∈ sys.takers, t.request.idempotencyKey ≠ c.request.idempotencyKey := by
        intro t ht hkey
        obtain ⟨v', hv'⟩ := h.decided t ht
        rw [h.get_receipts.mpr ⟨t, ht, v', hv', hkey, rfl⟩] at hget
        cases hget
      have hids : ∀ e ∈ sys.world.incidentEvents, e.eventId < sys.world.nextEventId + 1 :=
        fun e he => Nat.lt_succ_of_lt (h.ids e he)
      exact {
        ids := by
          split
          · intro e he
            rcases mem_append.mp he with hold | hlast
            · exact hids e hold
            · rw [mem_singleton.mp hlast]
              exact Nat.lt_succ_self _
          · exact hids
        receipts_eq := by
          rw [filterMap_append, foldl_append, ← h.receipts_eq,
            filterMap_cons_some (record?_eq hv)]
          show _ = remember sys.world.receipts (c.record v)
          unfold remember
          rw [record_idempotencyKey]
        records_eq := by
          rw [filter_append, filterMap_append, ← h.records_eq]
          cases hfault : c.fault with
          | some e =>
            rw [filter_cons_of_neg (by simp [hfault])]
            exact (append_nil _).symm
          | none =>
            rw [filter_cons_of_pos (by simp [hfault]),
              filterMap_cons_some (record?_eq hv)]
            exact filterMap_append
        keyed := by
          split
          · intro e he idempotencyKey hkey
            rcases mem_append.mp he with hold | hlast
            · exact h.keyed e hold idempotencyKey hkey
            · rw [mem_singleton.mp hlast] at hkey ⊢
              refine ⟨c.record v, rfl, ?_⟩
              rw [record_idempotencyKey]
              exact commandKey_injective hkey
          · exact h.keyed
        distinct := by
          rw [map_append, nodup_append]
          refine ⟨h.distinct, nodup_singleton _, ?_⟩
          intro k hk k' hk'
          obtain ⟨t, ht, rfl⟩ := mem_map.mp hk
          rw [map_singleton, mem_singleton] at hk'
          rw [hk']
          exact hfresh t ht
        decided := by
          intro t ht
          rcases mem_append.mp ht with hold | hlast
          · exact h.decided t hold
          · rw [mem_singleton.mp hlast]
            exact ⟨v, hv⟩ }

theorem Held.restart (h : Held sys) : Held (sys.step .restart) where
  ids := h.ids
  receipts_eq := congrArg (List.foldl remember .empty) h.records_eq
  records_eq := by
    show sys.world.incidentEvents.filterMap recordOf = _
    rw [h.records_eq]
    unfold CommandSystem.step
    rw [filter_filter]
    simp only [Bool.and_self]
  keyed := h.keyed
  distinct := (filter_sublist.map _).nodup h.distinct
  decided := fun c hc => h.decided c (mem_filter.mp hc).1

theorem Held.incident (h : Held sys) {now : Timestamp}
    (hkey : ∀ idempotencyKey, key ≠ commandKey idempotencyKey) :
    Held (sys.step (.incident name key now json hkey)) := by
  have hids : ∀ e ∈ sys.world.incidentEvents, e.eventId < sys.world.nextEventId + 1 :=
    fun e he => Nat.lt_succ_of_lt (h.ids e he)
  have hkept : Held ⟨{ sys.world with nextEventId := sys.world.nextEventId + 1 }, sys.takers⟩ :=
    ⟨hids, h.receipts_eq, h.records_eq, h.keyed, h.distinct, h.decided⟩
  unfold CommandSystem.step
  dsimp only
  rcases SqliteLedgers.append_cases sys.world.incidentEvents
      ⟨sys.world.nextEventId, .other name, key, now, .other json⟩ with
    ⟨e, happend⟩ | ⟨existing, -, -, -, happend⟩ | ⟨-, happend⟩
  · rw [happend]
    exact hkept
  · rw [happend]
    exact hkept
  · rw [happend]
    refine ⟨?_, h.receipts_eq, ?_, ?_, h.distinct, h.decided⟩
    · intro e he
      rcases mem_append.mp he with hold | hlast
      · exact hids e hold
      · rw [mem_singleton.mp hlast]
        exact Nat.lt_succ_self _
    · rw [filterMap_append, h.records_eq]
      exact append_nil _
    · intro e he idempotencyKey hcommand
      rcases mem_append.mp he with hold | hlast
      · exact h.keyed e hold idempotencyKey hcommand
      · rw [mem_singleton.mp hlast] at hcommand
        exact absurd hcommand (hkey idempotencyKey)

theorem Held.step (h : Held sys) (a : CommandAction) : Held (sys.step a) := by
  cases a with
  | execute c => exact h.execute c
  | restart => exact h.restart
  | incident name key now json hkey => exact h.incident hkey

theorem held_after (actions : List CommandAction) : Held (.after actions) := by
  unfold CommandSystem.after
  induction actions using List.reverseRecOn with
  | nil => exact held_init
  | append_singleton actions a ih =>
    rw [foldl_append]
    exact Held.step ih a

end Holding

/-- A command that needs nothing but a confirmation and a token. -/
def plainRequest (reason : String) (hreason : 3 ≤ reason.length ∧ reason.length ≤ 500)
    (hplain : command = .haltPaper ∨ command = .refreshData) : DashboardCommandRequest where
  command := command
  idempotencyKey := "operator-command-1"
  reason := reason
  confirmed := true
  stepUpToken := some "step-up-token"
  requestedMode := none
  configPatch := none
  key_length := by decide
  reason_length := hreason
  token_length := by decide
  mode_length := by simp
  mode_given := by rcases hplain with rfl | rfl <;> decide
  patch_given := by rcases hplain with rfl | rfl <;> simp
  hash_given := by rcases hplain with rfl | rfl <;> simp
  confirmed_sensitive := fun _ => rfl
  token_sensitive := fun _ => rfl

/-- A call on a projection without a runtime and without a bundle store. -/
def plainCall (fault : Option PyError) : Call :=
  ⟨request, "owner", "cmd-1", "evt-1", 0, .ok true, none, none, fault, none⟩

def haltRequest : DashboardCommandRequest :=
  plainRequest .haltPaper "operator safety halt" (by decide) (Or.inl rfl)

def refreshRequest : DashboardCommandRequest :=
  plainRequest .refreshData "look again" (by decide) (Or.inr rfl)

end DashboardProjection

end AdvisorAI
