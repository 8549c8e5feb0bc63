import AdvisorAI.GateFaults
import AdvisorAI.Lib.Local

/-!
# Soak samples and a failing ledger

The soak controller keeps samples of the paper runtime in memory and in the
INCIDENT ledger, in that order, and takes a sample it has for recorded: like the
gate registry it remembers before it writes. `record_durable_iff` is about both.
-/

namespace AdvisorAI

open Lib List

/-! ## Samples -/

inductive FailureScenario where
  | priceGap | volatilityJump | correlationBreakdown | spreadDepthCollapse | haltDelist
  | fundingLiquidationCascade | stablecoinDepeg | venueOutage | withdrawalFreeze
  | counterpartyFailure | staleDuplicateData | clockDrift | duplicatePartialFill
deriving DecidableEq, Repr

/-- One interval's counters, its numbers compared by value. -/
structure SoakSample where
  sampleId : UUID
  takenAt : Timestamp
  decisionCount : ℕ
  tradeCount : ℕ
  netUtilityAfterCosts : ℚ
  resourceStable : Bool
  reconciliationClean : Bool
  safetyClean : Bool
  adverseScenarios : List FailureScenario
  dataScorecardPassed : Bool
  modelScorecardPassed : Bool
  agentScorecardPassed : Bool
  riskScorecardPassed : Bool
  executionScorecardPassed : Bool
  headroomGib : Option ℚ
  noTradeNetUtility : Option ℚ
  benchmarkNetUtility : Option ℚ
  trades_le : tradeCount ≤ decisionCount
  scenarios_nodup : adverseScenarios.Nodup
  headroom_nonneg : ∀ h ∈ headroomGib, 0 ≤ h
deriving DecidableEq

/-! ## The controller -/

/-- The samples in their order; `_by_id` is a lookup in them. -/
structure PaperSoakController where
  startedAt : Timestamp
  samples : List SoakSample

namespace PaperSoakController

variable (s : PaperSoakController)

def byId (sampleId : UUID) : Option SoakSample :=
  s.samples.find? fun sample => sample.sampleId = sampleId

def recordLocal (sample : SoakSample) :
    Except PyError PaperSoakController :=
  if sample.takenAt < s.startedAt then .error (valueError "soak sample precedes soak start")
  else match s.byId sample.sampleId with
    | some prior =>
      if prior ≠ sample then .error (valueError "soak sample ID is immutable") else .ok s
    | none => .ok { s with samples := s.samples ++ [sample] }

end PaperSoakController

inductive SoakEventType where
  | soakSampleRecorded
  | other (name : String)
deriving DecidableEq

inductive SoakPayload where
  | sample (sample : SoakSample)
  /-- The payload of another writer, as its JSON text. -/
  | other (json : String)
deriving DecidableEq

abbrev SoakEvent := LedgerEvent SoakEventType SoakPayload

/-- `f"soak:{sample.sample_id}"`. -/
def soakKey (sampleId : UUID) : String := "soak:" ++ uuidText sampleId

/-- The ledger, the controller of the running process and the next unused event id. -/
structure SoakWorld where
  incidentEvents : List SoakEvent
  controller : PaperSoakController
  nextEventId : UUID

/-- A new ledger and the controller constructed on it. -/
def SoakWorld.init (startedAt : Timestamp) : SoakWorld := ⟨[], ⟨startedAt, []⟩, 0⟩

/-- A call of `record`: the time, the sample, and what the database raises. -/
structure SoakCall where
  now : Timestamp
  sample : SoakSample
  fault : Option PyError

variable (c : SoakCall)

/-- `record`. -/
def recordSample (w : SoakWorld) : Except PyError Unit × SoakWorld :=
  match w.controller.recordLocal c.sample with
  | .error e => (.error e, w)
  | .ok controller =>
    if (w.controller.byId c.sample.sampleId).isSome then (.ok (), { w with controller })
    else
      let event : SoakEvent := ⟨w.nextEventId, .soakSampleRecorded, soakKey c.sample.sampleId,
        c.now, .sample c.sample⟩
      match SqliteLedgers.appendUnder c.fault w.incidentEvents event with
      | (result, events) => (result.map fun _ => (), ⟨events, controller, w.nextEventId + 1⟩)

def hydrateSample (s : PaperSoakController) (event : SoakEvent) :
    Except PyError PaperSoakController :=
  if event.eventType ≠ .soakSampleRecorded then .ok s
  else match event.payload with
    | .other _ => .error (valueError "soak ledger contains an invalid sample payload")
    | .sample sample => s.recordLocal sample

/-- `PaperSoakController(started_at, ledgers=ledgers)`. -/
def hydrateSamples (startedAt : Timestamp) (events : List SoakEvent) :
    Except PyError PaperSoakController :=
  Journal.replay hydrateSample ⟨startedAt, []⟩ events

def soakAfter (startedAt : Timestamp) (calls : List SoakCall) : SoakWorld :=
  calls.foldl (fun w c => (recordSample c w).2) (.init startedAt)

/-- The controller takes the sample, and the database fails. -/
def SoakCall.Interrupts (w : SoakWorld) : Prop :=
  w.controller.byId c.sample.sampleId = none ∧ w.controller.startedAt ≤ c.sample.takenAt ∧
    c.fault ≠ none

/-- One of the calls was for this sample and its append raised. -/
def SoakInterrupted (startedAt : Timestamp) (calls : List SoakCall) (sample : SoakSample) : Prop :=
  ∃ earlier c later, calls = earlier ++ c :: later ∧ c.sample = sample ∧
    c.Interrupts (soakAfter startedAt earlier)

/-! ## The controller as one that remembers before it writes -/

def SoakCall.call : Remember.Call SoakSample Timestamp :=
  ⟨c.sample, c.now, c.fault.isSome⟩

def acceptsSample (startedAt : Timestamp) (_ : List SoakSample) (_ : Timestamp)
    (sample : SoakSample) : Bool :=
  decide (startedAt ≤ sample.takenAt)

def soakSamples (events : List SoakEvent) : List SoakSample :=
  events.filterMap fun e => match e.payload with
    | .sample sample => some sample
    | .other _ => none

/-- The memory of the controller and its part of the ledger. -/
structure SoakRemembers (startedAt : Timestamp) (w : SoakWorld) (m : Remember SoakSample) :
    Prop where
  controller_eq : w.controller = ⟨startedAt, m.known⟩
  events_eq : w.incidentEvents.map (fun e => (e.eventType, e.idempotencyKey, e.payload))
    = m.written.map fun sample => (.soakSampleRecorded, soakKey sample.sampleId, .sample sample)
  ids : ∀ e ∈ w.incidentEvents, e.eventId < w.nextEventId
  written : m.written ⊆ m.known
  started : ∀ sample ∈ m.known, startedAt ≤ sample.takenAt

variable {startedAt : Timestamp} {w : SoakWorld} {m : Remember SoakSample} {calls : List SoakCall}

theorem soakRemembers_init : SoakRemembers startedAt (.init startedAt) .empty where
  controller_eq := rfl
  events_eq := rfl
  ids := fun _ h => absurd h not_mem_nil
  written := List.Subset.refl _
  started := fun _ h => absurd h not_mem_nil

theorem soakKey_injective {i j : UUID} (h : soakKey i = soakKey j) : i = j := by
  have hl := congrArg String.toList h
  unfold soakKey at hl
  rw [String.toList_append, String.toList_append] at hl
  exact uuidText_injective (String.toList_inj.mp (append_cancel_left hl))

variable {sample : SoakSample}

theorem SoakRemembers.append_new (h : SoakRemembers startedAt w m) {now : Timestamp}
    (hnew : ∀ r ∈ m.known, r.sampleId ≠ sample.sampleId) :
    SqliteLedgers.append w.incidentEvents ⟨w.nextEventId, .soakSampleRecorded,
        soakKey sample.sampleId, now, .sample sample⟩
      = (.ok ⟨w.nextEventId, .soakSampleRecorded, soakKey sample.sampleId, now, .sample sample⟩,
        w.incidentEvents ++ [⟨w.nextEventId, .soakSampleRecorded, soakKey sample.sampleId, now,
          .sample sample⟩]) := by
  apply SqliteLedgers.append_of_new
  · intro e he hkey
    have hmem : (e.eventType, e.idempotencyKey, e.payload) ∈ w.incidentEvents.map
        fun e => (e.eventType, e.idempotencyKey, e.payload) := mem_map.mpr ⟨e, he, rfl⟩
    rw [h.events_eq] at hmem
    obtain ⟨r, hr, hrow⟩ := mem_map.mp hmem
    obtain ⟨-, hrow⟩ := Prod.mk.inj hrow
    obtain ⟨hrkey, -⟩ := Prod.mk.inj hrow
    exact hnew r (h.written hr) (soakKey_injective (hrkey.trans hkey))
  · intro e he
    exact Nat.ne_of_lt (h.ids e he)

/-- **One call.** It does what the call of the abstract registry does. -/
theorem SoakRemembers.step (h : SoakRemembers startedAt w m) (c : SoakCall) :
    SoakRemembers startedAt (recordSample c w).2
        (Remember.call SoakSample.sampleId (acceptsSample startedAt) m c.call).2 ∧
      ((recordSample c w).1 = .ok () →
        (Remember.call SoakSample.sampleId (acceptsSample startedAt) m c.call).1 = .returned) ∧
      (c.Interrupts w ↔
        (Remember.call SoakSample.sampleId (acceptsSample startedAt) m c.call).1
          = .interrupted) := by
  unfold recordSample Remember.call SoakCall.Interrupts PaperSoakController.recordLocal
    PaperSoakController.byId acceptsSample SoakCall.call
  rw [h.controller_eq]
  cases hprior : m.known.find? fun r => r.sampleId = c.sample.sampleId with
  | some item =>
    have hstarted := h.started item (List.mem_of_find?_eq_some hprior)
    dsimp only
    by_cases hsame : item = c.sample
    · rw [hsame] at hstarted
      rw [if_neg (not_lt.mpr hstarted), if_neg (not_not_intro hsame), if_pos hsame]
      refine ⟨?_, by simp, by simp⟩
      simp only [Option.isSome_some, if_true]
      exact ⟨rfl, h.events_eq, h.ids, h.written, h.started⟩
    · rw [if_pos hsame, if_neg hsame]
      by_cases hbefore : c.sample.takenAt < startedAt
      · rw [if_pos hbefore]
        exact ⟨h, by simp, by simp⟩
      · rw [if_neg hbefore]
        exact ⟨h, by simp, by simp⟩
  | none =>
    have hnew : ∀ r ∈ m.known, r.sampleId ≠ c.sample.sampleId := by
      intro r hr
      simpa using List.find?_eq_none.mp hprior r hr
    by_cases hbefore : c.sample.takenAt < startedAt
    · rw [if_pos hbefore, if_pos (decide_eq_false (not_le.mpr hbefore))]
      refine ⟨h, by simp, ?_⟩
      simp [hbefore]
    · have hafter := not_lt.mp hbefore
      have hids : ∀ e ∈ w.incidentEvents, e.eventId < w.nextEventId + 1 :=
        fun e he => Nat.lt_succ_of_lt (h.ids e he)
      have hstarted : ∀ sample ∈ m.known ++ [c.sample], startedAt ≤ sample.takenAt := by
        intro sample hsample
        rcases mem_append.mp hsample with hold | hlast
        · exact h.started sample hold
        · rw [mem_singleton.mp hlast]
          exact hafter
      rw [if_neg hbefore, if_neg (by simp [hafter])]
      simp only [Option.isSome_none, Bool.false_eq_true, if_false]
      cases hfault : c.fault with
      | some e =>
        refine ⟨⟨rfl, h.events_eq, hids, ?_, hstarted⟩, ?_, by simp [hafter]⟩
        · exact fun r hr => mem_append_left _ (h.written hr)
        · intro hok
          cases hok
      | none =>
        dsimp only [SqliteLedgers.appendUnder]
        rw [h.append_new hnew]
        refine ⟨⟨rfl, ?_, ?_, ?_, hstarted⟩, by simp, by simp⟩
        · show (w.incidentEvents ++ [_]).map _ = (m.written ++ [c.sample]).map _
          rw [map_append, map_append, h.events_eq]
          rfl
        · intro e he
          rcases mem_append.mp he with hold | hlast
          · exact hids e hold
          · rw [mem_singleton.mp hlast]
            exact Nat.lt_succ_self _
        · intro r hr
          rcases mem_append.mp hr with hold | hlast
          · exact mem_append_left _ (h.written hold)
          · exact mem_append_right _ hlast

theorem soakRemembers_after (startedAt : Timestamp) (calls : List SoakCall) :
    SoakRemembers startedAt (soakAfter startedAt calls)
      (Remember.after SoakSample.sampleId (acceptsSample startedAt) (calls.map SoakCall.call)) :=
  Remember.represents_after soakRemembers_init (fun c _ _ h => (h.step c).1) calls

theorem soakInterrupted_iff : SoakInterrupted startedAt calls sample ↔
    Remember.Interrupted SoakSample.sampleId (acceptsSample startedAt) (calls.map SoakCall.call)
      sample :=
  Remember.interrupted_map_iff soakRemembers_init (fun c _ _ h => (h.step c).1)
    (fun c _ _ h => (h.step c).2.2)

theorem SoakRemembers.samples_eq (h : SoakRemembers startedAt w m) :
    soakSamples w.incidentEvents = m.written := by
  have hread : ∀ events : List SoakEvent, soakSamples events
      = (events.map fun e => (e.eventType, e.idempotencyKey, e.payload)).filterMap fun row =>
        match row.2.2 with
        | .sample sample => some sample
        | .other _ => none := by
    intro events
    rw [filterMap_map]
    rfl
  rw [hread, h.events_eq, filterMap_map]
  exact filterMap_some

/-- A call of `record` that returned leaves its sample in the ledger exactly when
no append for this sample raised before. -/
theorem sample_recorded_iff {c : SoakCall}
    (h : (recordSample c (soakAfter startedAt calls)).1 = .ok ()) :
    c.sample ∈ soakSamples (recordSample c (soakAfter startedAt calls)).2.incidentEvents
      ↔ ¬SoakInterrupted startedAt calls c.sample := by
  obtain ⟨hafter, hreturned, -⟩ := (soakRemembers_after startedAt calls).step c
  rw [hafter.samples_eq, soakInterrupted_iff]
  exact Remember.mem_written_iff (hreturned h)

/-- A controller reads its samples back. -/
theorem hydrateSamples_eq (h : SoakRemembers startedAt w m)
    (hdistinct : (m.written.map SoakSample.sampleId).Nodup) :
    hydrateSamples startedAt w.incidentEvents = .ok ⟨startedAt, m.written⟩ := by
  have hreplay : ∀ (events : List SoakEvent) (samples : List SoakSample),
      (samples.map SoakSample.sampleId).Nodup → (∀ s ∈ samples, startedAt ≤ s.takenAt) →
      events.map (fun e => (e.eventType, e.idempotencyKey, e.payload)) = samples.map
        (fun s => (SoakEventType.soakSampleRecorded, soakKey s.sampleId, SoakPayload.sample s)) →
      hydrateSamples startedAt events = .ok ⟨startedAt, samples⟩ := by
    intro events
    induction events using List.reverseRecOn with
    | nil =>
      intro samples _ _ hrows
      rw [map_eq_nil_iff.mp hrows.symm]
      rfl
    | append_singleton events e ih =>
      intro samples hnodup hstarted hrows
      rw [map_append, map_singleton] at hrows
      obtain ⟨front, last, rfl, hfront, hlast⟩ := map_eq_append_iff.mp hrows.symm
      obtain ⟨s, rfl⟩ : ∃ s, last = [s] := by
        obtain ⟨s, rest, rfl, -, hrest⟩ := map_eq_cons_iff.mp hlast
        rw [map_eq_nil_iff.mp hrest]
        exact ⟨s, rfl⟩
      rw [map_append, nodup_append] at hnodup
      have hrest := ih front hnodup.1
        (fun s hs => hstarted s (mem_append_left _ hs)) hfront.symm
      unfold hydrateSamples at hrest ⊢
      rw [Journal.replay_concat, hrest]
      show hydrateSample ⟨startedAt, front⟩ e = _
      obtain ⟨htype, hrow⟩ := Prod.mk.inj (singleton_inj.mp hlast)
      obtain ⟨-, hpayload⟩ := Prod.mk.inj hrow
      have hnone : (front.find? fun r => r.sampleId = s.sampleId) = none := by
        rw [List.find?_eq_none]
        intro r hr hid
        exact hnodup.2.2 _ (mem_map.mpr ⟨r, hr, rfl⟩) _ (mem_singleton_self _)
          (of_decide_eq_true hid)
      unfold hydrateSample PaperSoakController.recordLocal PaperSoakController.byId
      rw [← htype, ← hpayload]
      simp only [ne_eq, not_true_eq_false, if_false]
      rw [if_neg (not_lt.mpr (hstarted s (mem_append_right _ (mem_singleton_self _)))),
        hnone]
  exact hreplay _ _ hdistinct (fun s hs => h.started s (h.written hs)) h.events_eq

theorem samples_hydrate_iff :
    hydrateSamples startedAt (soakAfter startedAt calls).incidentEvents
        = .ok (soakAfter startedAt calls).controller
      ↔ ∀ sample, ¬SoakInterrupted startedAt calls sample := by
  have hafter := soakRemembers_after startedAt calls
  have hsound := Remember.sound_after SoakSample.sampleId (acceptsSample startedAt)
    (calls.map SoakCall.call)
  simp only [soakInterrupted_iff]
  rw [hydrateSamples_eq hafter ((hsound.written.map _).nodup hsound.distinct),
    hafter.controller_eq, ← Remember.written_eq_known_iff]
  constructor
  · intro hsame
    exact congrArg PaperSoakController.samples (Except.ok.inj hsame)
  · intro hsame
    rw [hsame]

/-! ## Both registries -/

/-- **What a failing append costs.** A call that returned, of the gate registry or
of the soak controller, leaves its record in the ledger exactly when no append for
that record raised before; and a fresh instance holds the records of the live one
exactly when no append raised at all, for gates if also no record rests on
evidence that has expired by the time it is replayed. -/
theorem record_durable_iff (canonicalHash : PhaseGateRecord → Digest) :
    (∀ (calls : List GateCall) (c : GateCall) (clock : UUID → Timestamp),
      let w := gatesAfter canonicalHash calls
      ((∃ g, (recordGateUnder canonicalHash c w).1 = .ok g) →
        (c.record ∈ gateRecords (recordGateUnder canonicalHash c w).2.modelEvents
          ↔ ¬GateInterrupted canonicalHash calls c.record)) ∧
      (hydrateGates clock w.modelEvents = .ok w.registry
        ↔ (∀ g, ¬GateInterrupted canonicalHash calls g) ∧
          Journal.Each (ReplaySupported clock) w.modelEvents)) ∧
    (∀ (startedAt : Timestamp) (calls : List SoakCall) (c : SoakCall),
      let w := soakAfter startedAt calls
      ((recordSample c w).1 = .ok () →
        (c.sample ∈ soakSamples (recordSample c w).2.incidentEvents
          ↔ ¬SoakInterrupted startedAt calls c.sample)) ∧
      (hydrateSamples startedAt w.incidentEvents = .ok w.controller
        ↔ ∀ sample, ¬SoakInterrupted startedAt calls sample)) := by
  constructor
  · intro calls c clock
    exact ⟨gate_recorded_iff, gates_hydrate_iff⟩
  · intro startedAt calls c
    exact ⟨sample_recorded_iff, samples_hydrate_iff⟩

def paperSample : SoakSample where
  sampleId := 90
  takenAt := 1
  decisionCount := 1
  tradeCount := 0
  netUtilityAfterCosts := 0
  resourceStable := true
  reconciliationClean := true
  safetyClean := true
  adverseScenarios := []
  dataScorecardPassed := true
  modelScorecardPassed := true
  agentScorecardPassed := true
  riskScorecardPassed := true
  executionScorecardPassed := true
  headroomGib := none
  noTradeNetUtility := none
  benchmarkNetUtility := none
  trades_le := by decide
  scenarios_nodup := nodup_nil
  headroom_nonneg := by simp

variable (fault : Option PyError)

def gateCall : GateCall := ⟨1, passedGate 1 0 phase_zero, fault⟩

def soakCall : SoakCall := ⟨1, paperSample, fault⟩

/-- Nothing went wrong before: both calls return and leave their records. -/
theorem record_durable_paper :
    passedGate 1 0 (Or.inl rfl) ∈ gateRecords (recordGateUnder (fun _ => paperDigest)
        (gateCall none) (gatesAfter (fun _ => paperDigest) [])).2.modelEvents ∧
      paperSample ∈ soakSamples (recordSample (soakCall none) (soakAfter 0 [])).2.incidentEvents := by
  obtain ⟨hgates, hsoak⟩ := record_durable_iff fun _ => paperDigest
  constructor
  · refine ((hgates [] (gateCall none) fun _ => 2).1 ?_).mpr ?_
    · obtain ⟨g, hg, -⟩ := ok_of_toOption_any (x := (recordGateUnder (fun _ => paperDigest)
        (gateCall none) (gatesAfter (fun _ => paperDigest) [])).1)
        (p := fun _ => true) (by decide +kernel)
      exact ⟨g, hg⟩
    · rintro ⟨earlier, c, later, hsplit, -⟩
      simp at hsplit
  · refine ((hsoak 0 [] (soakCall none)).1 ?_).mpr ?_
    · decide +kernel
    · rintro ⟨earlier, c, later, hsplit, -⟩
      simp at hsplit

/-- **A retry reports success and writes nothing.** The append of the first call
raises; the second call returns, and the ledger stays empty. -/
theorem retry_returns_unrecorded :
    (∃ w, w = gatesAfter (fun _ => paperDigest) [gateCall (some diskFull), gateCall none] ∧
      (∃ g, (recordGateUnder (fun _ => paperDigest) (gateCall none)
        (gatesAfter (fun _ => paperDigest) [gateCall (some diskFull)])).1 = .ok g) ∧
      gateRecords w.modelEvents = [] ∧
      hydrateGates (fun _ => 2) w.modelEvents ≠ .ok w.registry) ∧
    (∃ w, w = soakAfter 0 [soakCall (some diskFull), soakCall none] ∧
      (recordSample (soakCall none) (soakAfter 0 [soakCall (some diskFull)])).1 = .ok () ∧
      soakSamples w.incidentEvents = [] ∧
      hydrateSamples 0 w.incidentEvents ≠ .ok w.controller) := by
  constructor
  · refine ⟨_, rfl, ?_, by decide +kernel, ?_⟩
    · obtain ⟨g, hg, -⟩ := ok_of_toOption_any (x := (recordGateUnder (fun _ => paperDigest)
        (gateCall none) (gatesAfter (fun _ => paperDigest) [gateCall (some diskFull)])).1)
        (p := fun _ => true) (by decide +kernel)
      exact ⟨g, hg⟩
    · intro hsame
      have hlive : (gatesAfter (fun _ => paperDigest)
          [gateCall (some diskFull), gateCall none]).registry.records 0 ≠ [] := by
        decide +kernel
      apply hlive
      have hempty : (gatesAfter (fun _ => paperDigest)
          [gateCall (some diskFull), gateCall none]).modelEvents = [] := by
        decide +kernel
      rw [hempty] at hsame
      exact congrArg (fun r => PhaseGateRegistry.records r 0) (Except.ok.inj hsame).symm
  · refine ⟨_, rfl, by decide +kernel, by decide +kernel, ?_⟩
    intro hsame
    have hempty : (soakAfter 0 [soakCall (some diskFull), soakCall none]).incidentEvents = [] := by
      decide +kernel
    have hlive : (soakAfter 0 [soakCall (some diskFull), soakCall none]).controller.samples ≠ [] := by
      decide +kernel
    rw [hempty] at hsame
    exact hlive (congrArg PaperSoakController.samples (Except.ok.inj hsame)).symm

end AdvisorAI
