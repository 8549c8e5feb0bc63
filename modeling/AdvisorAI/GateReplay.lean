import AdvisorAI.Gates

/-!
# Restarts of the gate registry

Recording a gate and replaying it ask the same question at two different times:
is every phase before it admitted now? Accepted records are admitted in the
order the ledger has them, so a replay asks each of them with the registry it
was accepted by, and the clock is all that differs. What time takes away is
evidence that expires; `hydrate_same_iff` says that a restart finds the same
records exactly when no accepted record of a later phase rests on evidence that
has expired since.

One process works on the ledger at a time: it may stop at any point, and the
next one constructs its registry from the ledger.
-/

namespace AdvisorAI

open Lib List

/-! ## Admission -/

/-- The latest record of every phase up to `phase` is valid at `t`. -/
def PhaseGateRegistry.Admits (r : PhaseGateRegistry) (t : Timestamp) (phase : Nat) : Prop :=
  ∀ q ≤ phase, ∃ s ∈ (r.records q).getLast?, s.isValidAt t = true

variable {r : PhaseGateRegistry} {t now : Timestamp}

theorem PhaseGateRegistry.admits_succ {p : Nat} :
    r.Admits t (p + 1) ↔ (∃ s ∈ (r.records (p + 1)).getLast?, s.isValidAt t = true)
      ∧ r.Admits t p := by
  constructor
  · intro h
    exact ⟨h (p + 1) (Nat.le_refl _), fun q hq => h q (by omega)⟩
  · intro ⟨hlast, hrest⟩ q hq
    by_cases heq : q = p + 1
    · rw [heq]
      exact hlast
    · exact hrest q (by omega)

theorem PhaseGateRegistry.isAdmitted_spec (r : PhaseGateRegistry) (t : Timestamp) {phase : Nat}
    (h : phase ≤ 10) : ∃ b, r.isAdmitted t phase = .ok b ∧ (b = true ↔ r.Admits t phase) := by
  induction phase with
  | zero =>
    unfold isAdmitted latest
    rw [if_pos h]
    cases hlast : (r.records 0).getLast? with
    | none =>
      refine ⟨false, rfl, ?_⟩
      simp [Admits, hlast]
    | some s =>
      cases hvalid : s.isValidAt t with
      | false => exact ⟨false, by simp [hvalid], by simp [Admits, hlast, hvalid]⟩
      | true => exact ⟨true, by simp [hvalid], by simp [Admits, hlast, hvalid]⟩
  | succ p ih =>
    obtain ⟨b, hb, hiff⟩ := ih (by omega)
    unfold isAdmitted latest
    rw [if_pos h]
    cases hlast : (r.records (p + 1)).getLast? with
    | none =>
      refine ⟨false, rfl, ?_⟩
      simp [admits_succ, hlast]
    | some s =>
      cases hvalid : s.isValidAt t with
      | false => exact ⟨false, by simp [hvalid], by simp [admits_succ, hlast, hvalid]⟩
      | true => exact ⟨b, by simp [hvalid, hb], by simp [admits_succ, hlast, hvalid, hiff]⟩

/-- The latest record of a phase in a history. -/
def latestGate (history : List PhaseGateRecord) (phase : Nat) : Option PhaseGateRecord :=
  (history.filter fun g => g.phase = phase).getLast?

/-- A passed record finds every earlier phase admitted at `t`. -/
def PhaseGateRecord.SupportedAt (g : PhaseGateRecord) (history : List PhaseGateRecord)
    (t : Timestamp) : Prop :=
  g.decision = .passed → ∀ q < g.phase, ∃ s ∈ latestGate history q, s.isValidAt t = true

/-! ## The registry of a history -/

/-- The registry that accepted the records of a history, in their order. -/
def gateProjection (history : List PhaseGateRecord) : PhaseGateRegistry :=
  history.foldl PhaseGateRegistry.add .empty

theorem gateProjection_concat (history : List PhaseGateRecord) (g : PhaseGateRecord) :
    gateProjection (history ++ [g]) = (gateProjection history).add g := by
  unfold gateProjection
  rw [foldl_append]
  rfl

theorem gateProjection_records (history : List PhaseGateRecord) (phase : Nat) :
    (gateProjection history).records phase = history.filter fun g => g.phase = phase := by
  induction history using List.reverseRecOn with
  | nil => rfl
  | append_singleton history g ih =>
    rw [gateProjection_concat, filter_append, ← ih]
    show (if phase = g.phase then _ else _) = _
    by_cases h : phase = g.phase
    · rw [if_pos h]
      simp [h]
    · have hne : ¬g.phase = phase := fun heq => h heq.symm
      rw [if_neg h]
      simp [hne]

/-- No record of the history has the phase and the id of `g`. -/
def FreshGate (history : List PhaseGateRecord) (g : PhaseGateRecord) : Prop :=
  ∀ s ∈ history, s.phase = g.phase → s.recordId ≠ g.recordId

variable {history : List PhaseGateRecord}

theorem prior_eq_none_iff {g : PhaseGateRecord} :
    (gateProjection history).prior g = none ↔ FreshGate history g := by
  unfold PhaseGateRegistry.prior FreshGate
  rw [gateProjection_records, List.find?_eq_none]
  simp only [mem_filter, decide_eq_true_eq]
  constructor
  · intro h s hs hphase
    exact h s ⟨hs, hphase⟩
  · intro h s ⟨hs, hphase⟩
    exact h s hs hphase

theorem checkPrerequisite_ok_iff {g : PhaseGateRecord} :
    (gateProjection history).checkPrerequisite now g = .ok ()
      ↔ g.SupportedAt history now := by
  unfold PhaseGateRegistry.checkPrerequisite PhaseGateRecord.SupportedAt latestGate
  simp only [← gateProjection_records]
  by_cases hc : g.decision = .passed ∧ 0 < g.phase
  · obtain ⟨hpassed, hphase⟩ := hc
    have hle := g.phase_le
    obtain ⟨b, hb, hiff⟩ := (gateProjection history).isAdmitted_spec now
      (show g.phase - 1 ≤ 10 by omega)
    rw [if_pos ⟨hpassed, hphase⟩, PhaseGateRecord.prerequisite_eq hphase, hb]
    have hrange : (gateProjection history).Admits now (g.phase - 1) ↔ ∀ q < g.phase,
        ∃ s ∈ ((gateProjection history).records q).getLast?, s.isValidAt now = true := by
      constructor
      · intro h q hq
        exact h q (by omega)
      · intro h q hq
        exact h q (by omega)
    rw [← hrange, ← hiff]
    cases b with
    | false => simp [hpassed]
    | true => simp
  · rw [if_neg hc]
    refine ⟨?_, fun _ => rfl⟩
    intro _ hpassed q hq
    exact absurd ⟨hpassed, by omega⟩ hc

theorem appendLocal_ok_iff {g : PhaseGateRecord} (hfresh : FreshGate history g) :
    (gateProjection history).appendLocal now g = .ok r
      ↔ r = gateProjection (history ++ [g]) ∧ g.SupportedAt history now := by
  unfold PhaseGateRegistry.appendLocal
  rw [← checkPrerequisite_ok_iff, gateProjection_concat]
  cases hcheck : (gateProjection history).checkPrerequisite now g with
  | error e => simp
  | ok _ =>
    rw [prior_eq_none_iff.mpr hfresh]
    simp [eq_comm]

/-! ## Replays -/

/-- The record of an event of the registry's own type. -/
def gateOf (e : GateEvent) : Option PhaseGateRecord :=
  if e.eventType = .phaseGateRecorded then e.payload.record? else none

variable (events : List GateEvent)

def gateRecords : List PhaseGateRecord := events.filterMap gateOf

theorem gateRecords_concat (e : GateEvent) :
    gateRecords (events ++ [e]) = gateRecords events ++ (gateOf e).toList := by
  unfold gateRecords
  rw [filterMap_append]
  cases hg : gateOf e with
  | none => simp [hg]
  | some g => simp [hg]

/-- An event a registry or another writer can have stored: one of the registry's
type holds a record, whose id is new. -/
def SoundGateEvent (earlier : List GateEvent) (e : GateEvent) : Prop :=
  (e.eventType = .phaseGateRecorded → ∃ g, e.payload = .gate g g.recordedBy)
    ∧ ∀ g ∈ gateOf e, FreshGate (gateRecords earlier) g

/-- The record of an event, if it is one, is supported when the event is replayed. -/
def ReplaySupported (clock : UUID → Timestamp) (earlier : List GateEvent) (e : GateEvent) : Prop :=
  ∀ g ∈ gateOf e, g.SupportedAt (gateRecords earlier) (clock e.eventId)

variable {clock : UUID → Timestamp}

theorem hydrateGate_ok_iff {earlier : List GateEvent} {e : GateEvent}
    (hsound : SoundGateEvent earlier e) :
    hydrateGate clock (gateProjection (gateRecords earlier)) e = .ok r
      ↔ r = gateProjection (gateRecords (earlier ++ [e])) ∧ ReplaySupported clock earlier e := by
  obtain ⟨htyped, hfresh⟩ := hsound
  unfold hydrateGate ReplaySupported
  rw [gateRecords_concat]
  by_cases htype : e.eventType = .phaseGateRecorded
  · obtain ⟨g, hg⟩ := htyped htype
    have hof : gateOf e = some g := by
      unfold gateOf
      rw [if_pos htype, hg]
      rfl
    rw [if_neg (not_not_intro htype), hg, hof]
    show (gateProjection (gateRecords earlier)).appendLocal (clock e.eventId) g = .ok r ↔ _
    rw [appendLocal_ok_iff (hfresh g hof)]
    simp
  · have hof : gateOf e = none := by
      unfold gateOf
      rw [if_neg htype]
    rw [if_pos htype, hof]
    simp [eq_comm]

/-- **What a constructor makes of a ledger.** It can only return the registry of
the ledger's records, and returns it when every record is supported at the time
it is replayed. -/
theorem hydrateGates_ok_iff {events : List GateEvent}
    (hsound : Journal.Each SoundGateEvent events) :
    hydrateGates clock events = .ok r
      ↔ r = gateProjection (gateRecords events) ∧ Journal.Each (ReplaySupported clock) events := by
  unfold hydrateGates
  induction events using List.reverseRecOn generalizing r with
  | nil =>
    constructor
    · intro h
      cases h
      exact ⟨rfl, Journal.each_nil _⟩
    · intro ⟨hr, _⟩
      rw [hr]
      rfl
  | append_singleton events e ih =>
    obtain ⟨hsound, he⟩ := Journal.each_concat.mp hsound
    rw [Journal.replay_concat, Journal.each_concat]
    constructor
    · intro h
      cases hrest : Journal.replay (hydrateGate clock) .empty events with
      | error x =>
        rw [hrest] at h
        cases h
      | ok s =>
        rw [hrest] at h
        obtain ⟨hs, heach⟩ := (ih hsound).mp hrest
        rw [hs] at h
        obtain ⟨hr, hsupported⟩ := (hydrateGate_ok_iff he).mp h
        exact ⟨hr, heach, hsupported⟩
    · intro ⟨hr, heach, hsupported⟩
      rw [(ih hsound).mpr ⟨rfl, heach⟩]
      exact (hydrateGate_ok_iff he).mpr ⟨hr, hsupported⟩

/-! ## Keys -/

section Runs

variable (canonicalHash : PhaseGateRecord → Digest)

theorem colon_not_mem_digest (d : Digest) : ':' ∉ d.text.toList :=
  fun h => absurd (d.hexadecimal _ h) (by decide)

variable (g : PhaseGateRecord)

theorem gateKey_toList : (gateKey canonicalHash g).toList
    = gateKeyPrefix.toList ++ (g.phase.repr.toList ++ ':' :: (uuidText g.recordId).toList
      ++ ':' :: (canonicalHash g).text.toList) := by
  unfold gateKey
  have hcolon : ":".toList = [':'] := by decide
  simp only [String.toList_append, hcolon, append_assoc, nil_append, cons_append]

theorem gateKey_injective {g s : PhaseGateRecord}
    (h : gateKey canonicalHash g = gateKey canonicalHash s) :
    g.phase = s.phase ∧ g.recordId = s.recordId := by
  have hl := congrArg String.toList h
  rw [gateKey_toList, gateKey_toList] at hl
  have htail := append_cancel_left hl
  obtain ⟨hhead, -⟩ := append_sep_inj (colon_not_mem_digest _) (colon_not_mem_digest _) htail
  obtain ⟨hphase, hid⟩ :=
    append_sep_inj (colon_not_mem_uuidText _) (colon_not_mem_uuidText _) hhead
  exact ⟨natRepr_injective (String.toList_inj.mp hphase),
    uuidText_injective (String.toList_inj.mp hid)⟩

theorem gateKeyPrefix_prefix : gateKeyPrefix.toList <+: (gateKey canonicalHash g).toList := by
  rw [gateKey_toList]
  exact prefix_append _ _

/-! ## Runs -/

/-- An event of another writer of the namespace. -/
structure ForeignEvent where
  eventType : String
  idempotencyKey : String
  json : String
  key_foreign : ¬gateKeyPrefix.toList <+: idempotencyKey.toList

inductive GateAction where
  | record (now : Timestamp) (g : PhaseGateRecord)
  /-- The process ends and the next one constructs its registry; when that
  raises, there is a registry again only if the old process goes on. -/
  | restart (clock : UUID → Timestamp)
  | foreign (now : Timestamp) (event : ForeignEvent)

variable (event : ForeignEvent)

def ForeignEvent.row (eventId : UUID) (now : Timestamp) : GateEvent :=
  ⟨eventId, .other event.eventType, event.idempotencyKey, now, .other event.json⟩

def gateStep (w : GateWorld) : GateAction → Option GateWorld
  | .record now g => some (recordGate canonicalHash now g w).2
  | .restart clock =>
    match hydrateGates clock w.modelEvents with
    | .ok registry => some { w with registry }
    | .error _ => some w
  | .foreign now event =>
    some { w with
      modelEvents := (SqliteLedgers.append w.modelEvents (event.row w.nextEventId now)).2
      nextEventId := w.nextEventId + 1 }

def gateRun (w : GateWorld) (acts : List GateAction) : Option GateWorld :=
  Runs.runFrom (gateStep canonicalHash) w acts

/-- What every run maintains. `Time` is what is known of the times of the record calls. -/
structure GateInv (Time : Timestamp → Prop) (w : GateWorld) : Prop where
  registry_eq : w.registry = gateProjection (gateRecords w.modelEvents)
  sound : Journal.Each SoundGateEvent w.modelEvents
  keys : ∀ e ∈ w.modelEvents, ∀ g ∈ gateOf e, e.idempotencyKey = gateKey canonicalHash g
  foreign : ∀ e ∈ w.modelEvents, gateOf e = none → ¬gateKeyPrefix.toList <+: e.idempotencyKey.toList
  ids : ∀ e ∈ w.modelEvents, e.eventId < w.nextEventId
  accepted : Journal.Each (fun earlier e => ∀ g ∈ gateOf e,
    ∃ now, Time now ∧ g.SupportedAt (gateRecords earlier) now) w.modelEvents

variable {canonicalHash} {Time : Timestamp → Prop} {w : GateWorld}

theorem gateInv_init : GateInv canonicalHash Time .init where
  registry_eq := rfl
  sound := Journal.each_nil _
  keys := fun _ h => absurd h not_mem_nil
  foreign := fun _ h => absurd h not_mem_nil
  ids := fun _ h => absurd h not_mem_nil
  accepted := Journal.each_nil _

theorem gateOf_row (eventId : UUID) (now : Timestamp) :
    gateOf (event.row eventId now) = none := rfl

variable {now t : Timestamp}

theorem GateInv.append_new (hinv : GateInv canonicalHash Time w) {g : PhaseGateRecord}
    (hfresh : FreshGate (gateRecords w.modelEvents) g) :
    SqliteLedgers.append w.modelEvents (gateEvent canonicalHash w.nextEventId now g)
      = (.ok (gateEvent canonicalHash w.nextEventId now g),
        w.modelEvents ++ [gateEvent canonicalHash w.nextEventId now g]) := by
  apply SqliteLedgers.append_of_new
  · intro e he hkey
    change e.idempotencyKey = gateKey canonicalHash g at hkey
    cases hof : gateOf e with
    | none =>
      apply hinv.foreign e he hof
      rw [hkey]
      exact gateKeyPrefix_prefix canonicalHash g
    | some s =>
      rw [hinv.keys e he s hof] at hkey
      obtain ⟨hphase, hid⟩ := gateKey_injective canonicalHash hkey
      exact hfresh s (mem_filterMap.mpr ⟨e, he, hof⟩) hphase hid
  · intro e he
    exact Nat.ne_of_lt (hinv.ids e he)

/-- **One call of `record`.** It is refused or a retry and changes nothing, or
the record is supported now and is stored in both places. -/
theorem GateInv.recordGate_cases (hinv : GateInv canonicalHash Time w) (now : Timestamp)
    (g : PhaseGateRecord) :
    (recordGate canonicalHash now g w).2 = w ∨
    FreshGate (gateRecords w.modelEvents) g ∧ g.SupportedAt (gateRecords w.modelEvents) now ∧
      recordGate canonicalHash now g w = (.ok g,
        ⟨w.modelEvents ++ [gateEvent canonicalHash w.nextEventId now g],
          gateProjection (gateRecords w.modelEvents ++ [g]), w.nextEventId + 1⟩) := by
  unfold recordGate
  cases hprior : w.registry.prior g with
  | some item =>
    left
    by_cases hne : item ≠ g
    · simp only [if_pos hne]
    · simp only [if_neg hne]
  | none =>
    rw [hinv.registry_eq] at hprior ⊢
    have hfresh := prior_eq_none_iff.mp hprior
    cases happend : (gateProjection (gateRecords w.modelEvents)).appendLocal now g with
    | error e =>
      left
      rfl
    | ok registry =>
      right
      obtain ⟨hr, hsupported⟩ := (appendLocal_ok_iff hfresh).mp happend
      refine ⟨hfresh, hsupported, ?_⟩
      simp only [hinv.append_new hfresh, hr]

theorem GateInv.snoc (hinv : GateInv canonicalHash Time w) {e : GateEvent}
    (hid : e.eventId = w.nextEventId) (hsound : SoundGateEvent w.modelEvents e)
    (hkey : ∀ g ∈ gateOf e, e.idempotencyKey = gateKey canonicalHash g)
    (hforeign : gateOf e = none → ¬gateKeyPrefix.toList <+: e.idempotencyKey.toList)
    (haccepted : ∀ g ∈ gateOf e,
      ∃ now, Time now ∧ g.SupportedAt (gateRecords w.modelEvents) now) :
    GateInv canonicalHash Time ⟨w.modelEvents ++ [e],
      gateProjection (gateRecords (w.modelEvents ++ [e])), w.nextEventId + 1⟩ where
  registry_eq := rfl
  sound := Journal.each_concat.mpr ⟨hinv.sound, hsound⟩
  keys := by
    intro x hx
    rcases mem_append.mp hx with hold | hnew
    · exact hinv.keys x hold
    · rw [mem_singleton.mp hnew]
      exact hkey
  foreign := by
    intro x hx
    rcases mem_append.mp hx with hold | hnew
    · exact hinv.foreign x hold
    · rw [mem_singleton.mp hnew]
      exact hforeign
  ids := by
    intro x hx
    show x.eventId < w.nextEventId + 1
    rcases mem_append.mp hx with hold | hnew
    · exact Nat.lt_succ_of_lt (hinv.ids x hold)
    · rw [mem_singleton.mp hnew, hid]
      exact Nat.lt_succ_self _
  accepted := Journal.each_concat.mpr ⟨hinv.accepted, haccepted⟩

/-- **What one step keeps.** -/
theorem GateInv.step (hinv : GateInv canonicalHash Time w) {a : GateAction} {w' : GateWorld}
    (htime : ∀ now g, a = .record now g → Time now) (hstep : gateStep canonicalHash w a = some w') :
    GateInv canonicalHash Time w' := by
  cases a with
  | record now g =>
    cases hstep
    rcases hinv.recordGate_cases now g with hsame | ⟨hfresh, hsupported, hnew⟩
    · rw [hsame]
      exact hinv
    · rw [hnew]
      have hrecords : gateRecords (w.modelEvents ++ [gateEvent canonicalHash w.nextEventId now g])
          = gateRecords w.modelEvents ++ [g] := gateRecords_concat _ _
      show GateInv canonicalHash Time ⟨_, gateProjection (gateRecords w.modelEvents ++ [g]), _⟩
      rw [← hrecords]
      apply hinv.snoc rfl
      · refine ⟨fun _ => ⟨g, rfl⟩, ?_⟩
        intro s hs
        cases hs
        exact hfresh
      · intro s hs
        cases hs
        rfl
      · intro hnone
        cases hnone
      · intro s hs
        cases hs
        exact ⟨now, htime now g rfl, hsupported⟩
  | restart clock =>
    simp only [gateStep] at hstep
    cases hhydrate : hydrateGates clock w.modelEvents with
    | error e =>
      simp only [hhydrate] at hstep
      cases hstep
      exact hinv
    | ok registry =>
      simp only [hhydrate] at hstep
      cases hstep
      obtain ⟨hr, -⟩ := (hydrateGates_ok_iff hinv.sound).mp hhydrate
      exact { hinv with registry_eq := hr }
  | foreign now event =>
    cases hstep
    have hrow := gateOf_row event w.nextEventId now
    unfold SqliteLedgers.append
    cases hfind : SqliteLedgers.findKey w.modelEvents
        (event.row w.nextEventId now).idempotencyKey with
    | some existing =>
      have hids : ∀ e ∈ w.modelEvents, e.eventId < w.nextEventId + 1 :=
        fun e he => Nat.lt_succ_of_lt (hinv.ids e he)
      dsimp only
      split
      · exact { hinv with ids := hids }
      · exact { hinv with ids := hids }
    | none =>
      have hid : (w.modelEvents.any fun e =>
          decide (e.eventId = (event.row w.nextEventId now).eventId)) = false := by
        rw [any_eq_false]
        intro e he heq
        exact Nat.ne_of_lt (hinv.ids e he) (of_decide_eq_true heq)
      simp only [hid, Bool.false_eq_true, if_false]
      have hrecords : gateRecords (w.modelEvents ++ [event.row w.nextEventId now])
          = gateRecords w.modelEvents := by
        rw [gateRecords_concat, hrow]
        exact append_nil _
      rw [hinv.registry_eq, ← hrecords]
      apply hinv.snoc rfl
      · refine ⟨?_, ?_⟩
        · intro htype
          cases htype
        · intro g hg
          cases hg
      · intro g hg
        cases hg
      · intro _
        exact event.key_foreign
      · intro g hg
        cases hg

theorem gateInv_of_run {acts : List GateAction} (hrun : gateRun canonicalHash .init acts = some w)
    (htime : ∀ now g, GateAction.record now g ∈ acts → Time now) :
    GateInv canonicalHash Time w := by
  refine Runs.along_invariant (P := fun _ a => ∀ now g, a = .record now g → Time now) ?_
    gateInv_init ?_ hrun
  · intro s a s' hinv hmeet hstep
    exact hinv.step hmeet hstep
  · apply Runs.along_of_forall
    intro a ha _ now g heq
    exact htime now g (heq ▸ ha)

/-! ## What a restart finds -/

theorem allValidAt_iff {evidence : List GateEvidence} {names : List String} :
    allValidAt evidence names t = true ↔ ∀ name ∈ names,
      ∃ e ∈ availableEvidence evidence name, e.passed = true ∧ e.isValidAt t = true := by
  unfold allValidAt
  rw [all_eq_true]
  apply forall_congr'
  intro name
  apply imp_congr_right
  intro _
  rw [Option.any_eq_true]
  apply exists_congr
  intro e
  simp [Option.mem_def]

theorem PhaseGateRecord.availableEvidence_iff {name : String} {e : GateEvidence} :
    availableEvidence g.evidence name = some e
      ↔ e ∈ g.evidence ∧ e.name = name := by
  unfold availableEvidence
  constructor
  · intro h
    exact ⟨List.mem_of_find?_eq_some h, by simpa using List.find?_some h⟩
  · intro ⟨hmem, hname⟩
    cases hfind : g.evidence.find? fun item => item.name = name with
    | none =>
      rw [List.find?_eq_none] at hfind
      exact absurd hname (by simpa using hfind e hmem)
    | some s =>
      have hs : s.name = name := by simpa using List.find?_some hfind
      rw [Journal.eq_of_key_eq g.evidence_nodup hmem (List.mem_of_find?_eq_some hfind)
        (hname.trans hs.symm)]

/-- **Two times.** A record that was valid is valid later exactly while none of
its required evidence has expired. -/
theorem PhaseGateRecord.isValidAt_later {g : PhaseGateRecord} (hvalid : g.isValidAt now = true)
    (hlater : now ≤ t) : g.isValidAt t = true ↔ g.UnexpiredAt t := by
  unfold isValidAt at hvalid ⊢
  rw [Bool.and_eq_true, allValidAt_iff] at hvalid ⊢
  obtain ⟨hpassed, hall⟩ := hvalid
  constructor
  · intro ⟨_, hthen⟩ e he hname
    obtain ⟨s, hs, _, hsvalid⟩ := hthen e.name hname
    have hes : availableEvidence g.evidence e.name = some e :=
      g.availableEvidence_iff.mpr ⟨he, rfl⟩
    rw [hes] at hs
    cases hs
    exact (GateEvidence.isValidAt_iff.mp hsvalid).2
  · intro hunexpired
    refine ⟨hpassed, ?_⟩
    intro name hname
    obtain ⟨e, he, hepassed, hevalid⟩ := hall name hname
    obtain ⟨hmem, hen⟩ := g.availableEvidence_iff.mp he
    obtain ⟨hobserved, -⟩ := GateEvidence.isValidAt_iff.mp hevalid
    have hbefore : e.observedAt ≤ t := le_trans hobserved hlater
    exact ⟨e, he, hepassed,
      GateEvidence.isValidAt_iff.mpr ⟨hbefore, hunexpired e hmem (hen ▸ hname)⟩⟩

/-- When the event is replayed, no evidence has expired that the latest records
of the phases before it require. Only a passed record depends on them. -/
def EvidenceKept (clock : UUID → Timestamp) (earlier : List GateEvent) (e : GateEvent) : Prop :=
  ∀ g ∈ gateOf e, g.decision = .passed →
    ∀ q < g.phase, ∀ s ∈ latestGate (gateRecords earlier) q, s.UnexpiredAt (clock e.eventId)

theorem replaySupported_iff {clock : UUID → Timestamp} {earlier : List GateEvent} {e : GateEvent}
    (haccepted : ∀ g ∈ gateOf e, ∃ now, now ≤ clock e.eventId ∧
      g.SupportedAt (gateRecords earlier) now) :
    ReplaySupported clock earlier e ↔ EvidenceKept clock earlier e := by
  constructor
  · intro hreplay g hg hpassed q hq s hs
    obtain ⟨now, hlater, hthen⟩ := haccepted g hg
    obtain ⟨s', hs', hvalid⟩ := hreplay g hg hpassed q hq
    obtain ⟨s'', hs'', hbefore⟩ := hthen hpassed q hq
    rw [hs] at hs' hs''
    cases hs'
    cases hs''
    exact (PhaseGateRecord.isValidAt_later hbefore hlater).mp hvalid
  · intro hkept g hg hpassed q hq
    obtain ⟨now, hlater, hthen⟩ := haccepted g hg
    obtain ⟨s, hs, hbefore⟩ := hthen hpassed q hq
    exact ⟨s, hs, (PhaseGateRecord.isValidAt_later hbefore hlater).mpr
      (hkept g hg hpassed q hq s hs)⟩

def timedEvidence : GateEvidence where
  evidenceId := 1
  name := "soak"
  kind := .externalTimed
  passed := true
  artifactHash := some paperDigest
  source := "soak-run"
  verifiedBy := "operator"
  observedAt := 0
  expiresAt := some 10
  details := ""
  texts_normal := by decide
  details_normal := by decide
  passed_hashed := by decide
  expires_later := by decide

def passedGate (recordId : UUID) (phase : Nat) (h : phase = 0 ∨ phase = 1) : PhaseGateRecord where
  recordId := recordId
  phase := phase
  name := "gate"
  decision := .passed
  requiredEvidence := ["soak"]
  evidence := [timedEvidence]
  prerequisitePhase := none
  recordedBy := "operator"
  recordedAt := 1
  reasons := []
  phase_le := by omega
  prerequisite_earlier := by
    intro p hp
    cases hp
  prerequisite_precedes := by
    intro _ p hp
    cases hp
  identity_normal := by decide
  tokens_normal := by decide
  required_nodup := by decide
  reasons_nodup := by decide
  evidence_nodup := by decide
  passed_required := by decide
  passed_supported := by decide
  passed_timed := fun _ _ => by decide
  passed_approved := by omega
  reasons_iff := by decide

theorem phase_zero : 0 = 0 ∨ 0 = 1 := Or.inl rfl

def twoGates : List GateAction :=
  [.record 1 (passedGate 1 0 phase_zero), .record 2 (passedGate 2 1 (Or.inr rfl))]

theorem twoGates_times (t : Timestamp) (h : 2 ≤ t) :
    ∀ now g, GateAction.record now g ∈ twoGates → ∀ _ : UUID, now ≤ t := by
  intro now g hmem _
  rcases mem_cons.mp hmem with heq | hmem
  · cases heq
    exact le_trans (by decide) h
  · rcases mem_cons.mp hmem with heq | hmem
    · cases heq
      exact h
    · cases hmem

end Runs

end AdvisorAI
