import AdvisorAI.GateReplay
import AdvisorAI.Lib.Remember

/-!
# Gate records and a failing ledger

`record` remembers a gate before it appends it, and answers from memory when the
record comes again. Here the append may raise. The registry is then one that
remembers before it writes: `GatesRemember` is the abstraction, and what is lost
follows from the library.
-/

namespace AdvisorAI

open Lib List

section Operations

variable (canonicalHash : PhaseGateRecord → Digest)

/-- A call of `record`: the time, the record, and what the database raises. -/
structure GateCall where
  now : Timestamp
  record : PhaseGateRecord
  fault : Option PyError

/-- `record` while the database may fail. -/
def recordGateUnder (c : GateCall) (w : GateWorld) :
    Except PyError PhaseGateRecord × GateWorld :=
  match w.registry.prior c.record with
  | some item =>
    if item ≠ c.record then (.error PhaseGateRegistry.recordIdImmutable, w) else (.ok item, w)
  | none =>
    match w.registry.appendLocal c.now c.record with
    | .error e => (.error e, w)
    | .ok registry =>
      match SqliteLedgers.appendUnder c.fault w.modelEvents
          (gateEvent canonicalHash w.nextEventId c.now c.record) with
      | (.error e, events) => (.error e, ⟨events, registry, w.nextEventId + 1⟩)
      | (.ok _, events) => (.ok c.record, ⟨events, registry, w.nextEventId + 1⟩)

def gatesAfter (calls : List GateCall) : GateWorld :=
  calls.foldl (fun w c => (recordGateUnder canonicalHash c w).2) .init

/-- The registry takes the record, and the database fails. -/
def GateCall.Interrupts (c : GateCall) (w : GateWorld) : Prop :=
  w.registry.prior c.record = none ∧ (∃ r, w.registry.appendLocal c.now c.record = .ok r) ∧
    c.fault ≠ none

/-- One of the calls was for this record and its append raised. -/
def GateInterrupted (calls : List GateCall) (g : PhaseGateRecord) : Prop :=
  ∃ earlier c later, calls = earlier ++ c :: later ∧ c.record = g ∧
    c.Interrupts (gatesAfter canonicalHash earlier)

end Operations

/-! ## The registry as one that remembers before it writes -/

namespace PhaseGateRecord

def ident (g : PhaseGateRecord) : ℕ × UUID := (g.phase, g.recordId)

end PhaseGateRecord

variable (known : List PhaseGateRecord)

/-- The records the registry takes, after those it knows. -/
def acceptsGate (now : Timestamp) (g : PhaseGateRecord) : Bool :=
  ((gateProjection known).appendLocal now g).toOption.isSome

def GateCall.call (c : GateCall) : Remember.Call PhaseGateRecord Timestamp :=
  ⟨c.record, c.now, c.fault.isSome⟩

theorem prior_gateProjection (g : PhaseGateRecord) :
    (gateProjection known).prior g = known.find? fun r => r.ident = g.ident := by
  unfold PhaseGateRegistry.prior PhaseGateRecord.ident
  rw [gateProjection_records, List.find?_filter]
  congr 1
  funext r
  simp

/-- The memory of the registry and its part of the ledger. -/
structure GatesRemember (canonicalHash : PhaseGateRecord → Digest) (w : GateWorld)
    (m : Remember PhaseGateRecord) : Prop where
  registry_eq : w.registry = gateProjection m.known
  records_eq : gateRecords w.modelEvents = m.written
  sound : Journal.Each SoundGateEvent w.modelEvents
  keys : ∀ e ∈ w.modelEvents, ∃ g ∈ m.written, e.idempotencyKey = gateKey canonicalHash g
  ids : ∀ e ∈ w.modelEvents, e.eventId < w.nextEventId
  written : m.written ⊆ m.known

variable {canonicalHash : PhaseGateRecord → Digest} {w : GateWorld} {m : Remember PhaseGateRecord}
  {calls : List GateCall}

theorem gatesRemember_init : GatesRemember canonicalHash .init .empty where
  registry_eq := rfl
  records_eq := rfl
  sound := Journal.each_nil _
  keys := fun _ h => absurd h not_mem_nil
  ids := fun _ h => absurd h not_mem_nil
  written := List.Subset.refl _

variable {g : PhaseGateRecord}

theorem GatesRemember.append_new (h : GatesRemember canonicalHash w m) {now : Timestamp}
    (hnew : ∀ r ∈ m.known, r.ident ≠ g.ident) :
    SqliteLedgers.append w.modelEvents (gateEvent canonicalHash w.nextEventId now g)
      = (.ok (gateEvent canonicalHash w.nextEventId now g),
        w.modelEvents ++ [gateEvent canonicalHash w.nextEventId now g]) := by
  apply SqliteLedgers.append_of_new
  · intro e he hkey
    obtain ⟨r, hr, hrkey⟩ := h.keys e he
    rw [hrkey] at hkey
    obtain ⟨hphase, hid⟩ := gateKey_injective canonicalHash hkey
    exact hnew r (h.written hr) (Prod.ext hphase hid)
  · intro e he
    exact Nat.ne_of_lt (h.ids e he)

/-- **One call.** It does what the call of the abstract registry does. -/
theorem GatesRemember.step (h : GatesRemember canonicalHash w m) (c : GateCall) :
    GatesRemember canonicalHash (recordGateUnder canonicalHash c w).2
        (Remember.call PhaseGateRecord.ident acceptsGate m c.call).2 ∧
      ((∃ g, (recordGateUnder canonicalHash c w).1 = .ok g) ↔
        (Remember.call PhaseGateRecord.ident acceptsGate m c.call).1 = .returned) ∧
      (c.Interrupts w ↔
        (Remember.call PhaseGateRecord.ident acceptsGate m c.call).1 = .interrupted) := by
  unfold recordGateUnder Remember.call GateCall.Interrupts acceptsGate GateCall.call
  rw [h.registry_eq, prior_gateProjection]
  cases hprior : m.known.find? fun r => r.ident = c.record.ident with
  | some item =>
    dsimp only
    by_cases hsame : item = c.record
    · rw [if_neg (not_not_intro hsame), if_pos hsame]
      refine ⟨h, by simp, by simp⟩
    · rw [if_pos hsame, if_neg hsame]
      refine ⟨h, by simp, by simp⟩
  | none =>
    have hnew : ∀ r ∈ m.known, r.ident ≠ c.record.ident := by
      intro r hr
      simpa using List.find?_eq_none.mp hprior r hr
    have hfresh : FreshGate m.known c.record := by
      intro r hr hphase hid
      exact hnew r hr (Prod.ext hphase hid)
    cases hlocal : (gateProjection m.known).appendLocal c.now c.record with
    | error e =>
      refine ⟨h, by simp [Except.toOption], by simp [Except.toOption]⟩
    | ok registry =>
      have hregistry := ((appendLocal_ok_iff hfresh).mp hlocal).1
      have hids : ∀ e ∈ w.modelEvents, e.eventId < w.nextEventId + 1 :=
        fun e he => Nat.lt_succ_of_lt (h.ids e he)
      cases hfault : c.fault with
      | some e =>
        refine ⟨⟨hregistry, h.records_eq, h.sound, h.keys, hids, ?_⟩,
          by simp [SqliteLedgers.appendUnder, Except.toOption], by simp [Except.toOption]⟩
        exact fun r hr => mem_append_left _ (h.written hr)
      | none =>
        dsimp only [SqliteLedgers.appendUnder]
        rw [h.append_new hnew]
        refine ⟨?_, by simp [Except.toOption], by simp [Except.toOption]⟩
        have hgate : gateOf (gateEvent canonicalHash w.nextEventId c.now c.record)
            = some c.record := rfl
        refine ⟨hregistry, ?_, Journal.each_concat.mpr ⟨h.sound, ?_, ?_⟩, ?_, ?_, ?_⟩
        · show gateRecords (w.modelEvents ++ [_]) = m.written ++ [c.record]
          rw [gateRecords_concat, h.records_eq, hgate]
          rfl
        · exact fun _ => ⟨c.record, rfl⟩
        · intro g hg
          cases hg
          rw [h.records_eq]
          exact fun r hr => hfresh r (h.written hr)
        · intro e he
          rcases mem_append.mp he with hold | hlast
          · obtain ⟨g, hg, hkey⟩ := h.keys e hold
            exact ⟨g, mem_append_left _ hg, hkey⟩
          · rw [mem_singleton.mp hlast]
            exact ⟨c.record, mem_append_right _ (mem_singleton_self _), rfl⟩
        · intro e he
          rcases mem_append.mp he with hold | hlast
          · exact hids e hold
          · rw [mem_singleton.mp hlast]
            exact Nat.lt_succ_self _
        · intro r hr
          rcases mem_append.mp hr with hold | hlast
          · exact mem_append_left _ (h.written hold)
          · exact mem_append_right _ hlast

theorem gatesRemember_after (canonicalHash : PhaseGateRecord → Digest) (calls : List GateCall) :
    GatesRemember canonicalHash (gatesAfter canonicalHash calls)
      (Remember.after PhaseGateRecord.ident acceptsGate (calls.map GateCall.call)) :=
  Remember.represents_after gatesRemember_init (fun c _ _ h => (h.step c).1) calls

theorem gateInterrupted_iff : GateInterrupted canonicalHash calls g ↔
    Remember.Interrupted PhaseGateRecord.ident acceptsGate (calls.map GateCall.call) g :=
  Remember.interrupted_map_iff gatesRemember_init (fun c _ _ h => (h.step c).1)
    (fun c _ _ h => (h.step c).2.2)

/-- A call of `record` that returned leaves its record in the ledger exactly when
no append for this record raised before. -/
theorem gate_recorded_iff {c : GateCall}
    (h : ∃ g, (recordGateUnder canonicalHash c (gatesAfter canonicalHash calls)).1 = .ok g) :
    c.record ∈ gateRecords
        (recordGateUnder canonicalHash c (gatesAfter canonicalHash calls)).2.modelEvents
      ↔ ¬GateInterrupted canonicalHash calls c.record := by
  have hbefore := gatesRemember_after canonicalHash calls
  obtain ⟨hafter, hreturned, -⟩ := hbefore.step c
  rw [hafter.records_eq, gateInterrupted_iff]
  exact Remember.mem_written_iff (hreturned.mp h)

/-- A fresh registry holds the same records exactly when no append raised, and
no record rests on evidence that has expired by the time it is replayed. -/
theorem gates_hydrate_iff {clock : UUID → Timestamp} :
    hydrateGates clock (gatesAfter canonicalHash calls).modelEvents
        = .ok (gatesAfter canonicalHash calls).registry
      ↔ (∀ g, ¬GateInterrupted canonicalHash calls g) ∧
        Journal.Each (ReplaySupported clock) (gatesAfter canonicalHash calls).modelEvents := by
  have hafter := gatesRemember_after canonicalHash calls
  rw [hydrateGates_ok_iff hafter.sound, hafter.registry_eq, hafter.records_eq]
  simp only [gateInterrupted_iff]
  rw [← Remember.written_eq_known_iff]
  refine and_congr_left' ?_
  constructor
  · intro hsame
    -- the registry of a list holds its records, each under its phase
    have hmem : ∀ {l : List PhaseGateRecord} {g : PhaseGateRecord},
        g ∈ (gateProjection l).records g.phase ↔ g ∈ l := by
      intro l g
      rw [gateProjection_records, mem_filter]
      simp
    rw [Remember.written_eq_known_iff]
    intro g hinterrupted
    obtain ⟨hknown, hunwritten⟩ := ((Remember.sound_after _ _ _).lacking g).mpr hinterrupted
    apply hunwritten
    rw [← hmem, ← hsame, hmem]
    exact hknown
  · intro hsame
    rw [hsame]

end AdvisorAI
