import AdvisorAI.Forward.CadenceCases
import AdvisorAI.Forward.ForwardBars
import AdvisorAI.Forward.PredictionReload

/-!
# The cases of the forward run

Every poll appends the bars it has brought, rebuilds all cases from the bars that are kept, and
appends those to the spool of cases. A case that was stored is built again as it was, because the
bars of its window are kept as they first came; so a run raises nothing as long as bars that come
again are dumped as before (`forward_run_iff`). The dump has the state of the source's health, so a
bar that comes again while that has changed is refused (`repolled_bar_refused`).
-/

namespace AdvisorAI.Cadence

open Lib Lib.Json List Option Runs
open ForwardPredictionFields (timeTree decimalTree digestTree)
open SourceHealthLedger (runtimeError)

/-- What the cases of a run take from Python and its libraries. -/
structure CaseOutside extends ForwardOutside where
  isoformat : Timestamp → String
  str : Tree → String

section Model

variable [DecimalContext] (outside : CaseOutside)

/-! ## The spool of cases -/

variable (c : V3CoreForecastCase Decimal)

/-- `case.model_dump(mode="json")`. -/
def caseDump : List (String × Tree) :=
  [("case_id", .text c.caseId), ("instrument", .text c.instrument.value),
    ("cutoff", timeTree outside.toForwardOutside c.cutoff),
    ("context_bars",
      .array (c.contextBars.map fun bar => .object (bar.dump outside.toForwardOutside))),
    ("future_bars",
      .array (c.futureBars.map fun bar => .object (bar.dump outside.toForwardOutside))),
    ("realized_at", timeTree outside.toForwardOutside c.realizedAt),
    ("realized_return_bps", decimalTree c.realizedReturnBps),
    ("spread_bps", decimalTree c.spreadBps), ("slippage_bps", decimalTree c.slippageBps),
    ("source_id", .text c.source.sourceId),
    ("provider_identity", .text c.source.providerIdentity), ("endpoint", .text c.source.endpoint),
    ("source_snapshot_hash", digestTree c.source.sourceSnapshotHash),
    ("evidence_class", .text c.source.evidenceClass.value), ("regime", .text c.regime),
    ("regime_policy_version", .text "v3-core-context-regime-v1"),
    ("phase3_admitted", .bool c.phase3Admitted),
    ("contract_version", .text "advisorai.phase4.v3-core-cadence.v3"),
    ("observation_interval_seconds", .number (integerToken 300)),
    ("decision_horizon_seconds", .number (integerToken 3600)),
    ("context_horizon_seconds", .number (integerToken 14400))]

/-- The payload of a case. A dictionary is the same in any order of its keys; it is kept in the one
it is written in. -/
def casePayload : Tree := sortKeys (.object (caseDump outside c))

/-- `payload["case_id"]`. -/
def caseIdTree : Tree → Option Tree
  | .object members => member members "case_id"
  | _ => none

/-- `str(…)` of a value of JSON. -/
def strTree : Tree → String
  | .text s => s
  | v => outside.str v

variable (payload : Tree)

/-- `str(payload["case_id"])`. -/
def caseIdOf : String := ((caseIdTree payload).map (strTree outside)).getD ""

def hashPayload : Digest := outside.sha256 (canonical payload)

/-- The record of a payload, its keys in order. -/
def caseRecord : List (String × Tree) :=
  [("case", payload), ("case_hash", digestTree (hashPayload outside payload)),
    ("schema", .text "advisorai.phase4.v3-core-forward.case.v1")]

/-- The payload of a record, if its hash fits. -/
def readCase (record : Tree) : Option Tree :=
  match record with
  | .object members =>
    (member members "case").bind fun payload => (member members "case_hash").bind fun given =>
      if caseIdTree payload ≠ none ∧ strTree outside given = (hashPayload outside payload).text then
        some payload
      else none
  | _ => none

def readCaseLine (number : ℕ) (line : List Char) : Except PyError Tree :=
  (((loads line).bind (readCase outside)).map Except.ok).getD
    (.error (runtimeError ("forward case spool is corrupt at line " ++ number.repr)))

/-- Append-only case ledger; cases appear only after their outcomes close. -/
def forwardCases : KeyedJournal String Tree PyError where
  key := caseIdOf outside
  line payload := write quotedAscii (.object (caseRecord outside payload))
  read := readCaseLine outside
  same prior payload := decide (prior = payload)
  agrees prior payload := decide (prior = payload)
  conflict := runtimeError "forward case spool contains conflicting case identity"
  changed := runtimeError "forward case reconstruction changed an existing case"

abbrev ForwardCaseSpool := KeyedFile String Tree

/-! ## The run -/

variable (snapshot : Digest)

/-- The arguments with which the forward cases are built. -/
def forwardCaseArguments : CaseArguments Decimal where
  source := forwardSource snapshot
  spreadBps := .ofNat 2
  slippageBps := .ofNat 2
  phase3Admitted := true
  costs_nonneg := by
    have hcost : NonNegative (Decimal.ofNat 2) := by
      refine ⟨rfl, decide_eq_false ?_⟩
      show ¬(Decimal.ofNat 2).value < (Decimal.ofNat 0).value
      simp
    exact ⟨hcost, hcost⟩

def buildForwardCases (bars : List (V3CoreBar Decimal)) :
    Except PyError (V3CoreCaseBuild Decimal) := do
  require (∀ bar ∈ bars, bar.provenance.evidenceClass = .forwardPitAdmission)
    (valueError "forward case builder rejects non-forward evidence")
  buildV3coreCases outside.isoformat (forwardCaseArguments snapshot) bars

structure ForwardWorld [DecimalContext] where
  bars : ForwardNormalizedBarSpool
  cases : ForwardCaseSpool

def ForwardWorld.fresh : ForwardWorld := ⟨⟨[], Dict.empty⟩, ⟨[], Dict.empty⟩⟩

/-- A poll brings bars; a restart reads both spools again. -/
inductive ForwardAction [DecimalContext] where
  | poll (bars : List (V3CoreBar Decimal))
  | restart

variable (w : ForwardWorld)

/-- `_refresh_cases`: all cases are built again and appended. -/
def refreshCases : Except PyError ForwardWorld := do
  let build ← buildForwardCases outside snapshot w.bars.read
  let cases ← (build.cases.map (casePayload outside)).foldlM (forwardCases outside).append w.cases
  return { w with cases }

def takeAction : ForwardAction → Except PyError ForwardWorld
  | .poll bars => do
    let spool ← bars.foldlM (normalizedBars outside.toForwardOutside).append w.bars
    refreshCases outside snapshot { w with bars := spool }
  | .restart => do
    let bars ← (normalizedBars outside.toForwardOutside).load w.bars.file
    let cases ← (forwardCases outside).load w.cases.file
    return ⟨bars, cases⟩

def forwardStep (a : ForwardAction) : Option ForwardWorld :=
  (takeAction outside snapshot w a).toOption

end Model

/-! ## What a run is asked -/

section Statement

variable [DecimalContext] (outside : CaseOutside) (snapshot : Digest)

/-- What Python's libraries are relied on for: what is printed is read back, and no two times are
printed alike, nor with a line break. -/
structure CaseOutside.Prints : Prop where
  readsBack : outside.toForwardOutside.ReadsBack
  distinct : outside.toForwardOutside.TimesDistinct
  unbroken : ∀ t, UnbrokenText (outside.timeText t)
  isoformat : ∀ s t, InRange s → InRange t → outside.isoformat s = outside.isoformat t → s = t

variable (prior bar : V3CoreBar Decimal)

/-- A bar comes again as it was, but for its receipt and the state of its source's health. -/
def SameMarket : Prop :=
  { bar.provenance.toProvenanceFields with
      collectedAt := prior.provenance.collectedAt
      normalizedRecordHash := prior.provenance.normalizedRecordHash
      sourceHealthState := prior.provenance.sourceHealthState }
      = prior.provenance.toProvenanceFields ∧
    { bar.toBarFields with provenance := prior.provenance } = prior.toBarFields

def SameHealth : Prop :=
  prior.provenance.sourceHealthState = bar.provenance.sourceHealthState

def ForwardAction.Polled : ForwardAction → Prop
  | .poll bars => ∀ bar ∈ bars, ForwardBar snapshot bar ∧ bar.ReadsBack outside.toForwardOutside
  | .restart => True

/-- Closed bars that come again have the same market values. -/
def RepeatsMarket (w : ForwardWorld) : ForwardAction → Prop
  | .poll bars => KeyedJournal.Repeats V3CoreBar.key SameMarket w.bars.kept bars
  | .restart => True

/-- Bars that come again come under the same state of health, and windows are regular. -/
def Steady (w : ForwardWorld) : ForwardAction → Prop
  | .poll bars => KeyedJournal.Repeats V3CoreBar.key SameHealth w.bars.kept bars ∧
      Regular (forwardCaseArguments snapshot) (w.bars.read ++ bars)
  | .restart => True

/-- A run raises nothing, and from every moment of it on the stored cases stay as they are. -/
def RunHolds (acts : List ForwardAction) : Prop :=
  ∀ before rest, acts = before ++ rest → ∃ w w',
    Runs.runFrom (forwardStep outside snapshot) .fresh before = some w ∧
      Runs.runFrom (forwardStep outside snapshot) w rest = some w' ∧
      ∀ caseId payload, w.cases.kept.get caseId = some payload →
        w'.cases.kept.get caseId = some payload

end Statement

/-! ## Windows of bars that grow -/

section Windows

variable {N : Type} [CaseArith N] {arguments : CaseArguments N} {bars bars' : List (V3CoreBar N)}
  {instrument : V3CoreSymbol} {t : Timestamp} {isoformat : Timestamp → String}

theorem present_iff : Present bars instrument t ↔ barAt bars instrument t ≠ none := by
  rw [← not_iff_not, ← barAt_eq_none_iff, not_not]

theorem barAt_eq_some_iff (hnodup : (bars.map V3CoreBar.key).Nodup) {bar : V3CoreBar N} :
    barAt bars instrument t = some bar ↔ bar ∈ bars ∧ bar.key = (instrument, t) := by
  constructor
  · exact barAt_some
  · rintro ⟨hmem, hkey⟩
    obtain ⟨other, hother⟩ := ne_none_iff_exists'.mp (present_iff.mp ⟨bar, hmem, hkey⟩)
    obtain ⟨homem, hokey⟩ := barAt_some hother
    rw [hother, inj_on_of_nodup_map hnodup homem hmem (hokey.trans hkey.symm)]

theorem barsAt_grows (hgrows : ∀ i s bar, barAt bars i s = some bar → barAt bars' i s = some bar)
    {times : List Timestamp} (h : ∀ s ∈ times, Present bars instrument s) :
    barsAt bars' instrument times = barsAt bars instrument times := by
  refine filterMap_congr ?_
  intro s hs
  obtain ⟨bar, hbar⟩ := ne_none_iff_exists'.mp (present_iff.mp (h s hs))
  rw [hbar, hgrows instrument s bar hbar]

variable {c d : V3CoreForecastCase N}

/-- **A case stays the case of its window** when more bars come. -/
theorem CaseAt.grows (hgrows : ∀ i s bar, barAt bars i s = some bar → barAt bars' i s = some bar)
    (h : CaseAt isoformat arguments bars instrument t c) :
    CaseAt isoformat arguments bars' instrument t c := by
  obtain ⟨⟨hcontext, houtcome, havailable⟩, hcase⟩ := h
  have hpresent : ∀ s, Present bars instrument s → Present bars' instrument s := by
    intro s hs
    obtain ⟨bar, hbar⟩ := ne_none_iff_exists'.mp (present_iff.mp hs)
    exact present_iff.mpr (ne_none_iff_exists'.mpr ⟨bar, hgrows _ _ _ hbar⟩)
  have hcontextBars := barsAt_grows hgrows hcontext
  have hfutureBars := barsAt_grows hgrows houtcome
  refine ⟨⟨fun s hs => hpresent s (hcontext s hs), fun s hs => hpresent s (houtcome s hs), ?_⟩, ?_⟩
  · rw [hcontextBars]
    exact havailable
  · rw [hcontextBars, hfutureBars]
    exact hcase

theorem CaseAt.unique (hc : CaseAt isoformat arguments bars instrument t c)
    (hd : CaseAt isoformat arguments bars instrument t d) : c = d :=
  Except.ok.inj (hc.2.symm.trans hd.2)

theorem regular_congr (h : ∀ i s, barAt bars i s = barAt bars' i s) :
    Regular arguments bars ↔ Regular arguments bars' := by
  have hpresent : ∀ i s, Present bars i s ↔ Present bars' i s := by
    intro i s
    rw [present_iff, present_iff, h]
  have hbarsAt : ∀ i times, barsAt bars i times = barsAt bars' i times := by
    intro i times
    exact filterMap_congr fun s _ => h i s
  have heligible : ∀ i s, Eligible arguments bars i s ↔ Eligible arguments bars' i s := by
    intro i s
    constructor
    · rintro ⟨hcontext, houtcome, havailable⟩
      exact ⟨fun u hu => (hpresent i u).mp (hcontext u hu),
        fun u hu => (hpresent i u).mp (houtcome u hu), hbarsAt i _ ▸ havailable⟩
    · rintro ⟨hcontext, houtcome, havailable⟩
      exact ⟨fun u hu => (hpresent i u).mpr (hcontext u hu),
        fun u hu => (hpresent i u).mpr (houtcome u hu), hbarsAt i _ ▸ havailable⟩
  have hcomputes : ∀ i s, Computes bars i s ↔ Computes bars' i s := by
    intro i s
    unfold Computes
    rw [hbarsAt, hbarsAt]
  unfold Regular
  simp only [hpresent, heligible, hcomputes]

end Windows

/-! ## What is stored -/

section Stored

variable [DecimalContext] {outside : CaseOutside} {snapshot : Digest}

theorem barAt_read {spool : ForwardNormalizedBarSpool} (h : Keyed V3CoreBar.key spool.kept)
    (instrument : V3CoreSymbol) (t : Timestamp) :
    barAt spool.read instrument t = spool.kept.get (instrument, t) := by
  have hnodup : (spool.read.map V3CoreBar.key).Nodup := ordered_keys_nodup h
  refine Option.ext ?_
  intro bar
  rw [barAt_eq_some_iff hnodup]
  unfold ForwardNormalizedBarSpool.read
  rw [mem_ordered, Dict.mem_values_iff]
  constructor
  · rintro ⟨⟨k, hk⟩, hkey⟩
    rw [← h k bar hk, hkey] at hk
    exact hk
  · intro hbar
    exact ⟨⟨_, hbar⟩, h _ _ hbar⟩

variable (c : V3CoreForecastCase Decimal)

theorem caseDump_names_nodup : ((caseDump outside c).map Prod.fst).Nodup := by
  show ["case_id", "instrument", "cutoff", "context_bars", "future_bars", "realized_at",
    "realized_return_bps", "spread_bps", "slippage_bps", "source_id", "provider_identity",
    "endpoint", "source_snapshot_hash", "evidence_class", "regime", "regime_policy_version",
    "phase3_admitted", "contract_version", "observation_interval_seconds",
    "decision_horizon_seconds", "context_horizon_seconds"].Nodup
  decide +kernel

theorem caseIdTree_payload : caseIdTree (casePayload outside c) = some (.text c.caseId) :=
  member_sortMembers (caseDump_names_nodup c) mem_cons_self

theorem caseIdOf_payload : caseIdOf outside (casePayload outside c) = c.caseId := by
  unfold caseIdOf
  rw [caseIdTree_payload]
  rfl

variable {payload p q : Tree}

omit [DecimalContext] in
theorem readCaseLine_record (hid : caseIdTree payload ≠ none) (number : ℕ) :
    readCaseLine outside number (write quotedAscii (.object (caseRecord outside payload)))
      = .ok payload := by
  have hcase : member (caseRecord outside payload) "case" = some payload := rfl
  have hhash : member (caseRecord outside payload) "case_hash"
      = some (digestTree (hashPayload outside payload)) := rfl
  have hread : readCase outside (.object (caseRecord outside payload)) = some payload := by
    unfold readCase
    dsimp only
    rw [hcase, hhash, bind_some, bind_some]
    exact if_pos ⟨hid, rfl⟩
  unfold readCaseLine
  rw [loads_write quotedAscii_readBack, bind_some, hread]
  rfl

omit [DecimalContext] in
theorem readsLine_payload (hid : caseIdTree payload ≠ none) :
    (forwardCases outside).reader.ReadsLine ((forwardCases outside).line payload) payload where
  visible := by
    obtain ⟨body, hbody⟩ := write_object_starts quotedAscii (caseRecord outside payload)
    show (write quotedAscii (.object (caseRecord outside payload))).all isSpace = false
    rw [hbody, all_cons]
    exact Bool.and_eq_false_iff.mpr (Or.inl (by decide))
  read := readCaseLine_record hid

omit [DecimalContext] in
theorem case_no_break (payload : Tree) :
    ∀ ch ∈ (forwardCases outside).line payload, isLineBreak ch = false :=
  fun ch hch => isLineBreak_of_plain (write_quotedAscii_plain _ ch hch)

variable {instrument instrument' : V3CoreSymbol} {t t' : Timestamp}

omit [DecimalContext] in
theorem caseId_cancel
    (hiso : ∀ s t, InRange s → InRange t → outside.isoformat s = outside.isoformat t → s = t)
    (ht : InRange t) (ht' : InRange t') {source : String}
    (h : instrument.value ++ ":" ++ outside.isoformat t ++ ":" ++ source
      = instrument'.value ++ ":" ++ outside.isoformat t' ++ ":" ++ source) :
    instrument = instrument' ∧ t = t' := by
  have hlist := congrArg String.toList h
  simp only [String.toList_append, append_assoc] at hlist
  have hlength : instrument.value.toList.length = instrument'.value.toList.length := by
    cases instrument <;> cases instrument' <;> rfl
  have hinstrument : instrument = instrument' :=
    ForwardPredictionFields.symbolValue_injective
      (String.toList_injective (append_inj_left hlist hlength))
  subst hinstrument
  have htail := append_cancel_left (append_cancel_left hlist)
  exact ⟨rfl, hiso t t' ht ht' (String.toList_injective (append_cancel_right htail))⟩

/-! ## Bars that come again -/

/-- **When two bars are dumped alike**, but for their receipt. -/
theorem identityDump_eq_iff (hdistinct : outside.toForwardOutside.TimesDistinct)
    {prior bar : V3CoreBar Decimal} :
    prior.identityDump outside.toForwardOutside = bar.identityDump outside.toForwardOutside ↔
      SameMarket prior bar ∧ SameHealth prior bar := by
  have hfilter : ∀ p : ProvenanceFields,
      ((p.dump outside.toForwardOutside).filter fun m => m.1 ∉ receiptNames)
        = [("interval_end", timeTree outside.toForwardOutside p.intervalEnd),
          ("provider_available_at", timeTree outside.toForwardOutside p.providerAvailableAt),
          ("provider_event_at", nullable (timeTree outside.toForwardOutside) p.providerEventAt),
          ("availability_basis", .text p.availabilityBasis.value),
          ("evidence_class", .text p.evidenceClass.value),
          ("source_snapshot_hash", digestTree p.sourceSnapshotHash),
          ("raw_record_hash", digestTree p.rawRecordHash),
          ("source_health_state", .text p.sourceHealthState.value),
          ("historical_availability_contract_id",
            nullable Tree.text p.historicalAvailabilityContractId),
          ("historical_availability_contract_sha256",
            nullable digestTree p.historicalAvailabilityContractSha256)] := fun _ => rfl
  have htime : ∀ s ∈ prior.provenance.times, ∀ t ∈ bar.provenance.times,
      (timeTree outside.toForwardOutside s = timeTree outside.toForwardOutside t ↔ s = t) :=
    fun s hs t ht => ⟨ForwardPredictionFields.timeTree_eq hdistinct (prior.provenance.valid.1 s hs)
      (bar.provenance.valid.1 t ht), congrArg _⟩
  have hrange : ∀ b : V3CoreBar Decimal, ∀ t ∈ b.provenance.providerEventAt, InRange t := by
    intro b t ht
    refine b.provenance.valid.1 t ?_
    unfold ProvenanceFields.times
    rw [ht]
    simp
  have hend := htime prior.provenance.intervalEnd (by simp [ProvenanceFields.times])
    bar.provenance.intervalEnd (by simp [ProvenanceFields.times])
  have havailable := htime prior.provenance.providerAvailableAt (by simp [ProvenanceFields.times])
    bar.provenance.providerAvailableAt (by simp [ProvenanceFields.times])
  have hevent : nullable (timeTree outside.toForwardOutside) prior.provenance.providerEventAt
        = nullable (timeTree outside.toForwardOutside) bar.provenance.providerEventAt ↔
      prior.provenance.providerEventAt = bar.provenance.providerEventAt :=
    ⟨ForwardPredictionFields.nullable_time_eq hdistinct (hrange prior) (hrange bar), congrArg _⟩
  unfold SameMarket SameHealth
  rw [ProvenanceFields.ext_iff, BarFields.ext_iff]
  unfold BarFields.identityDump BarFields.dumpWith
  rw [hfilter, hfilter]
  simp only [List.cons.injEq, Prod.mk.injEq, Tree.object.injEq, Tree.text.injEq, true_and, and_true,
    hend, havailable, hevent, (readsBack_injective V3CoreAvailabilityBasis.ofValue_value).eq_iff,
    (readsBack_injective V3CoreEvidenceClass.ofValue_value).eq_iff,
    (readsBack_injective SourceHealthState.ofValue_value).eq_iff,
    ForwardPredictionFields.digestTree_injective.eq_iff,
    ForwardPredictionFields.decimalTree_injective.eq_iff,
    ForwardPredictionFields.symbolValue_injective.eq_iff,
    (nullable_injective (fun _ _ => Tree.text.inj) fun _ => Tree.noConfusion).eq_iff,
    (nullable_injective ForwardPredictionFields.digestTree_injective
      fun _ => Tree.noConfusion).eq_iff]
  -- Both sides compare every field but the receipt, each in its own order.
  grind

/-! ## Cases that are stored -/

/-- A payload is that of the case of a window. -/
def StoredCase (outside : CaseOutside) (snapshot : Digest) (bars : List (V3CoreBar Decimal))
    (payload : Tree) : Prop :=
  ∃ instrument t c, payload = casePayload outside c ∧ Present bars instrument t ∧
    CaseAt outside.isoformat (forwardCaseArguments snapshot) bars instrument t c

theorem CaseAt.caseId_eq {bars : List (V3CoreBar Decimal)} {c : V3CoreForecastCase Decimal}
    (h : CaseAt outside.isoformat (forwardCaseArguments snapshot) bars instrument t c) :
    c.caseId = instrument.value ++ ":" ++ outside.isoformat t ++ ":" ++ marketDataProvider := by
  obtain ⟨last, latest, r, regime, -, -, -, -, hfields⟩ := forecastCase_ok.mp h.2
  rw [hfields]
  rfl

theorem present_inRange {bars : List (V3CoreBar Decimal)} (h : Present bars instrument t) :
    InRange t := by
  obtain ⟨bar, -, hkey⟩ := h
  rw [← show bar.intervalEnd = t from congrArg Prod.snd hkey]
  exact bar.provenance.valid.1 _ mem_cons_self

/-- **Two cases of one name are the same.** -/
theorem StoredCase.unique {bars : List (V3CoreBar Decimal)} (hprints : outside.Prints)
    (hp : StoredCase outside snapshot bars p) (hq : StoredCase outside snapshot bars q)
    (hkey : caseIdOf outside p = caseIdOf outside q) : p = q := by
  obtain ⟨instrument, t, c, rfl, hpresent, hc⟩ := hp
  obtain ⟨instrument', t', d, rfl, hpresent', hd⟩ := hq
  rw [caseIdOf_payload, caseIdOf_payload, hc.caseId_eq, hd.caseId_eq] at hkey
  obtain ⟨rfl, rfl⟩ := caseId_cancel hprints.isoformat (present_inRange hpresent)
    (present_inRange hpresent') hkey
  rw [hc.unique hd]

theorem StoredCase.grows {bars bars' : List (V3CoreBar Decimal)}
    (hgrows : ∀ i s bar, barAt bars i s = some bar → barAt bars' i s = some bar)
    (h : StoredCase outside snapshot bars p) : StoredCase outside snapshot bars' p := by
  obtain ⟨instrument, t, c, rfl, hpresent, hc⟩ := h
  obtain ⟨bar, hbar⟩ := ne_none_iff_exists'.mp (present_iff.mp hpresent)
  exact ⟨instrument, t, c, rfl,
    present_iff.mpr (ne_none_iff_exists'.mpr ⟨bar, hgrows _ _ _ hbar⟩), hc.grows hgrows⟩

/-! ## The invariant -/

/-- What a run keeps: both files have what the process has, the bars are forward bars, and the
cases are those of their windows. -/
structure ForwardWorld.Sound (outside : CaseOutside) (snapshot : Digest) (w : ForwardWorld) :
    Prop where
  bars : (normalizedBars outside.toForwardOutside).Sound w.bars
  cases : (forwardCases outside).Sound w.cases
  forward : ∀ bar ∈ w.bars.kept.values,
    ForwardBar snapshot bar ∧ bar.ReadsBack outside.toForwardOutside
  stored : ∀ payload ∈ w.cases.kept.values, StoredCase outside snapshot w.bars.read payload

theorem sound_fresh : ForwardWorld.fresh.Sound outside snapshot where
  bars := KeyedJournal.sound_empty
  cases := KeyedJournal.sound_empty
  forward := fun _ hbar => absurd hbar not_mem_nil
  stored := fun _ hpayload => absurd hpayload not_mem_nil

variable {w w' : ForwardWorld}

/-- **A restart reads what was there.** -/
theorem restart_eq (hprints : outside.Prints) (hw : w.Sound outside snapshot) :
    takeAction outside snapshot w .restart = .ok w := by
  have hbars : (normalizedBars outside.toForwardOutside).load w.bars.file = .ok w.bars := by
    refine KeyedJournal.load_of_sound hw.bars ?_ ?_
    · intro bar hbar
      exact (readsObjects_bar hprints.readsBack (hw.forward bar hbar).2).readsLine
    · intro bar hbar
      exact (write_unbroken_iff _).mpr (unbroken_forward hprints.unbroken (hw.forward bar hbar).1)
  have hcases : (forwardCases outside).load w.cases.file = .ok w.cases := by
    refine KeyedJournal.load_of_sound hw.cases ?_ (fun payload _ => case_no_break payload)
    intro payload hpayload
    obtain ⟨instrument, t, c, rfl, -, -⟩ := hw.stored payload hpayload
    refine readsLine_payload ?_
    rw [caseIdTree_payload]
    exact some_ne_none _
  show ((normalizedBars outside.toForwardOutside).load w.bars.file >>= fun bars =>
    (forwardCases outside).load w.cases.file >>= fun cases => Except.ok (ForwardWorld.mk bars cases)) = _
  rw [hbars, hcases]
  rfl

/-! ## All cases are built again -/

section Refresh

variable (hbars : Keyed V3CoreBar.key w.bars.kept)
  (hforward : ∀ bar ∈ w.bars.kept.values, ForwardBar snapshot bar)

include hforward

theorem read_source : ∀ bar ∈ w.bars.read, bar.source = (forwardCaseArguments snapshot).source := by
  intro bar hbar
  exact (hforward bar (mem_ordered.mp hbar)).source

variable {build : V3CoreCaseBuild Decimal}

theorem buildForwardCases_ok :
    buildForwardCases outside snapshot w.bars.read = .ok build ↔
      buildV3coreCases outside.isoformat (forwardCaseArguments snapshot) w.bars.read = .ok build := by
  unfold buildForwardCases
  rw [require_bind_ok]
  refine and_iff_right ?_
  intro bar hbar
  exact congrArg SourceIdentity.evidenceClass (read_source hforward bar hbar)

include hbars

theorem built_stored (h : buildForwardCases outside snapshot w.bars.read = .ok build) :
    ∀ payload ∈ build.cases.map (casePayload outside),
      StoredCase outside snapshot w.bars.read payload := by
  intro payload hpayload
  obtain ⟨c, hc, rfl⟩ := List.mem_map.mp hpayload
  obtain ⟨instrument, t, hpresent, hcase⟩ := caseAt_of_build (read_source hforward)
    (ordered_keys_nodup hbars) ((buildForwardCases_ok hforward).mp h) c hc
  exact ⟨instrument, t, c, rfl, hpresent, hcase⟩

/-- **All cases are appended again** exactly when the windows are regular. -/
theorem refreshCases_exists (hprints : outside.Prints)
    (hkeyed : Keyed (forwardCases outside).key w.cases.kept)
    (hstored : ∀ payload ∈ w.cases.kept.values, StoredCase outside snapshot w.bars.read payload) :
    (∃ w', refreshCases outside snapshot w = .ok w') ↔
      Regular (forwardCaseArguments snapshot) w.bars.read := by
  have hbuilds : (∃ build, buildV3coreCases outside.isoformat (forwardCaseArguments snapshot)
      w.bars.read = .ok build) ↔ Regular (forwardCaseArguments snapshot) w.bars.read :=
    buildV3coreCases_exists (read_source hforward) (ordered_keys_nodup hbars)
  rw [← hbuilds]
  unfold refreshCases
  constructor
  · rintro ⟨w', h⟩
    rw [bind_ok_iff] at h
    obtain ⟨build, hbuild, -⟩ := h
    exact ⟨build, (buildForwardCases_ok hforward).mp hbuild⟩
  · rintro ⟨build, hbuild⟩
    rw [← buildForwardCases_ok hforward] at hbuild
    have hbuilt := built_stored hbars hforward hbuild
    have hrepeats : KeyedJournal.Repeats (forwardCases outside).key
        (fun a b => (forwardCases outside).agrees a b = true) w.cases.kept
        (build.cases.map (casePayload outside)) := by
      constructor
      · intro payload hpayload prior hprior
        have hkey := hkeyed _ _ hprior
        exact decide_eq_true ((hstored prior (Dict.mem_values_iff.mpr ⟨_, hprior⟩)).unique hprints
          (hbuilt payload hpayload) hkey)
      · refine pairwise_of_forall_mem_list ?_
        intro a ha b hb hkey
        exact decide_eq_true ((hbuilt a ha).unique hprints (hbuilt b hb) hkey)
    have happend : ∃ cases, (build.cases.map (casePayload outside)).foldlM
        (forwardCases outside).append w.cases = .ok cases := by
      refine (KeyedJournal.appendAll_exists ?_ ?_).mpr hrepeats
      · intro a b h
        exact decide_eq_true (of_decide_eq_true h).symm
      · intro a b c hab hbc
        exact decide_eq_true ((of_decide_eq_true hab).trans (of_decide_eq_true hbc))
    obtain ⟨cases, hcases⟩ := happend
    refine ⟨{ w with cases }, ?_⟩
    rw [bind_ok_iff]
    refine ⟨build, hbuild, ?_⟩
    rw [hcases]
    rfl

theorem refreshCases_keeps (h : refreshCases outside snapshot w = .ok w') :
    w'.bars = w.bars ∧
      (∀ caseId payload, w.cases.kept.get caseId = some payload →
        w'.cases.kept.get caseId = some payload) ∧
      ((forwardCases outside).Sound w.cases → (forwardCases outside).Sound w'.cases) ∧
      ∀ payload ∈ w'.cases.kept.values,
        payload ∈ w.cases.kept.values ∨ StoredCase outside snapshot w.bars.read payload := by
  unfold refreshCases at h
  rw [bind_ok_iff] at h
  obtain ⟨build, hbuild, h⟩ := h
  rw [bind_ok_iff] at h
  obtain ⟨cases, hcases, h⟩ := h
  cases h
  refine ⟨rfl, fun _ _ hkept => KeyedJournal.appendAll_grows hcases hkept,
    fun hsound => hsound.appendAll hcases, ?_⟩
  intro payload hpayload
  rcases KeyedJournal.appendAll_mem hcases payload hpayload with hold | hnew
  · exact Or.inl hold
  · exact Or.inr (built_stored hbars hforward hbuild payload hnew)

end Refresh

/-! ## A poll -/

section Poll

variable {bars : List (V3CoreBar Decimal)} {spool : ForwardNormalizedBarSpool}

theorem polled_bars (hw : w.Sound outside snapshot)
    (hpolled : ∀ bar ∈ bars, ForwardBar snapshot bar ∧ bar.ReadsBack outside.toForwardOutside)
    (h : bars.foldlM (normalizedBars outside.toForwardOutside).append w.bars = .ok spool) :
    (normalizedBars outside.toForwardOutside).Sound spool ∧
      ∀ bar ∈ spool.kept.values, ForwardBar snapshot bar ∧ bar.ReadsBack outside.toForwardOutside := by
  refine ⟨hw.bars.appendAll h, ?_⟩
  intro bar hbar
  rcases KeyedJournal.appendAll_mem h bar hbar with hold | hnew
  · exact hw.forward bar hold
  · exact hpolled bar hnew

theorem polled_grows (hw : w.Sound outside snapshot)
    (hspool : (normalizedBars outside.toForwardOutside).Sound spool)
    (h : bars.foldlM (normalizedBars outside.toForwardOutside).append w.bars = .ok spool)
    (instrument : V3CoreSymbol) (t : Timestamp) (bar : V3CoreBar Decimal)
    (hbar : barAt w.bars.read instrument t = some bar) :
    barAt spool.read instrument t = some bar := by
  rw [barAt_read hw.bars.keyed] at hbar
  rw [barAt_read hspool.keyed]
  exact KeyedJournal.appendAll_grows h hbar

theorem polled_regular (hw : w.Sound outside snapshot)
    (hspool : (normalizedBars outside.toForwardOutside).Sound spool)
    (h : bars.foldlM (normalizedBars outside.toForwardOutside).append w.bars = .ok spool) :
    Regular (forwardCaseArguments snapshot) spool.read ↔
      Regular (forwardCaseArguments snapshot) (w.bars.read ++ bars) := by
  refine regular_congr ?_
  intro instrument t
  rw [barAt_read hspool.keyed, KeyedJournal.appendAll_get h, ← barAt_read hw.bars.keyed]
  exact List.find?_append.symm

theorem polled_stored (hw : w.Sound outside snapshot)
    (hspool : (normalizedBars outside.toForwardOutside).Sound spool)
    (h : bars.foldlM (normalizedBars outside.toForwardOutside).append w.bars = .ok spool) :
    ∀ payload ∈ w.cases.kept.values, StoredCase outside snapshot spool.read payload :=
  fun payload hpayload => (hw.stored payload hpayload).grows (polled_grows hw hspool h)

/-- **A poll goes through** exactly when what comes again is dumped as before and the windows are
regular. -/
theorem poll_exists (hprints : outside.Prints) (hw : w.Sound outside snapshot)
    (hpolled : ∀ bar ∈ bars, ForwardBar snapshot bar ∧ bar.ReadsBack outside.toForwardOutside) :
    (∃ w', takeAction outside snapshot w (.poll bars) = .ok w') ↔
      KeyedJournal.Repeats V3CoreBar.key (fun a b => SameMarket a b ∧ SameHealth a b) w.bars.kept
          bars ∧
        Regular (forwardCaseArguments snapshot) (w.bars.read ++ bars) := by
  have hagrees : ∀ a b, (normalizedBars outside.toForwardOutside).agrees a b = true ↔
      SameMarket a b ∧ SameHealth a b :=
    fun a b => decide_eq_true_iff.trans (identityDump_eq_iff hprints.distinct)
  have happend : (∃ spool, bars.foldlM (normalizedBars outside.toForwardOutside).append w.bars
      = .ok spool) ↔ KeyedJournal.Repeats V3CoreBar.key
        (fun a b => (normalizedBars outside.toForwardOutside).agrees a b = true) w.bars.kept bars := by
    refine KeyedJournal.appendAll_exists ?_ ?_
    · intro a b h
      exact decide_eq_true (of_decide_eq_true h).symm
    · intro a b c hab hbc
      exact decide_eq_true ((of_decide_eq_true hab).trans (of_decide_eq_true hbc))
  have hrefresh : ∀ spool, bars.foldlM (normalizedBars outside.toForwardOutside).append w.bars
      = .ok spool → ((∃ w', refreshCases outside snapshot { w with bars := spool } = .ok w') ↔
        Regular (forwardCaseArguments snapshot) (w.bars.read ++ bars)) := by
    intro spool h
    obtain ⟨hspool, hforward⟩ := polled_bars hw hpolled h
    have hstored := polled_stored hw hspool h
    rw [← polled_regular hw hspool h]
    exact refreshCases_exists (w := { w with bars := spool }) hspool.keyed
      (fun bar hbar => (hforward bar hbar).1) hprints hw.cases.keyed hstored
  unfold takeAction
  constructor
  · rintro ⟨w', h⟩
    rw [bind_ok_iff] at h
    obtain ⟨spool, hspool, h⟩ := h
    exact ⟨(happend.mp ⟨spool, hspool⟩).mono fun a b => (hagrees a b).mp,
      (hrefresh spool hspool).mp ⟨w', h⟩⟩
  · rintro ⟨hrepeats, hregular⟩
    obtain ⟨spool, hspool⟩ := happend.mpr (hrepeats.mono fun a b => (hagrees a b).mpr)
    obtain ⟨w', hw'⟩ := (hrefresh spool hspool).mpr hregular
    exact ⟨w', bind_ok_iff.mpr ⟨spool, hspool, hw'⟩⟩

theorem poll_keeps (hw : w.Sound outside snapshot)
    (hpolled : ∀ bar ∈ bars, ForwardBar snapshot bar ∧ bar.ReadsBack outside.toForwardOutside)
    (h : takeAction outside snapshot w (.poll bars) = .ok w') :
    w'.Sound outside snapshot ∧ ∀ caseId payload, w.cases.kept.get caseId = some payload →
      w'.cases.kept.get caseId = some payload := by
  unfold takeAction at h
  rw [bind_ok_iff] at h
  obtain ⟨spool, hspool, h⟩ := h
  obtain ⟨hsound, hforward⟩ := polled_bars hw hpolled hspool
  have hstored := polled_stored hw hsound hspool
  obtain ⟨hsame, hgrows, hcases, hvalues⟩ := refreshCases_keeps (w := { w with bars := spool })
    hsound.keyed (fun bar hbar => (hforward bar hbar).1) h
  refine ⟨⟨hsame ▸ hsound, hcases hw.cases, hsame ▸ hforward, ?_⟩, hgrows⟩
  intro payload hpayload
  rw [hsame]
  rcases hvalues payload hpayload with hold | hnew
  · exact hstored payload hold
  · exact hnew

theorem poll_bars (h : takeAction outside snapshot w (.poll bars) = .ok w') :
    bars.foldlM (normalizedBars outside.toForwardOutside).append w.bars = .ok w'.bars := by
  unfold takeAction at h
  rw [bind_ok_iff] at h
  obtain ⟨spool, hspool, h⟩ := h
  unfold refreshCases at h
  rw [bind_ok_iff] at h
  obtain ⟨build, -, h⟩ := h
  rw [bind_ok_iff] at h
  obtain ⟨cases, -, h⟩ := h
  cases h
  exact hspool

end Poll

/-! ## The run -/

def Meets (snapshot : Digest) (w : ForwardWorld) (a : ForwardAction) : Prop :=
  RepeatsMarket w a ∧ Steady snapshot w a

variable {a : ForwardAction}

theorem forwardStep_ok :
    forwardStep outside snapshot w a = some w' ↔ takeAction outside snapshot w a = .ok w' := by
  unfold forwardStep
  cases takeAction outside snapshot w a with
  | error e => simp [Except.toOption]
  | ok next => simp [Except.toOption]

theorem forwardStep_exists (hprints : outside.Prints) (hw : w.Sound outside snapshot)
    (ha : a.Polled outside snapshot) :
    (∃ w', forwardStep outside snapshot w a = some w') ↔ Meets snapshot w a := by
  simp only [forwardStep_ok]
  cases a with
  | poll bars =>
    rw [poll_exists hprints hw ha]
    constructor
    · rintro ⟨hrepeats, hregular⟩
      exact ⟨hrepeats.mono fun _ _ h => h.1, hrepeats.mono fun _ _ h => h.2, hregular⟩
    · rintro ⟨hmarket, hhealth, hregular⟩
      exact ⟨hmarket.and hhealth, hregular⟩
  | restart => exact ⟨fun _ => ⟨trivial, trivial⟩, fun _ => ⟨w, restart_eq hprints hw⟩⟩

theorem forwardStep_keeps (hprints : outside.Prints) (hw : w.Sound outside snapshot)
    (ha : a.Polled outside snapshot) (h : forwardStep outside snapshot w a = some w') :
    w'.Sound outside snapshot ∧ ∀ caseId payload, w.cases.kept.get caseId = some payload →
      w'.cases.kept.get caseId = some payload := by
  rw [forwardStep_ok] at h
  cases a with
  | poll bars => exact poll_keeps hw ha h
  | restart =>
    rw [restart_eq hprints hw] at h
    cases h
    exact ⟨hw, fun _ _ hkept => hkept⟩

theorem run_sound (hprints : outside.Prints) {acts : List ForwardAction}
    (hacts : ∀ a ∈ acts, a.Polled outside snapshot) (hw : w.Sound outside snapshot)
    (h : Runs.runFrom (forwardStep outside snapshot) w acts = some w') :
    w'.Sound outside snapshot ∧ ∀ caseId payload, w.cases.kept.get caseId = some payload →
      w'.cases.kept.get caseId = some payload := by
  induction acts generalizing w with
  | nil =>
    cases h
    exact ⟨hw, fun _ _ hkept => hkept⟩
  | cons a rest ih =>
    cases hnext : forwardStep outside snapshot w a with
    | none =>
      unfold Runs.runFrom at h
      rw [hnext] at h
      cases h
    | some next =>
      rw [runFrom_cons hnext] at h
      obtain ⟨hsound, hgrows⟩ := forwardStep_keeps hprints hw (hacts a mem_cons_self) hnext
      obtain ⟨hend, hrest⟩ := ih (fun b hb => hacts b (mem_cons_of_mem a hb)) hsound h
      exact ⟨hend, fun caseId payload hkept => hrest _ _ (hgrows _ _ hkept)⟩

end Stored

/-- **When a forward run goes on**: where closed bars that come again have the same market values,
a run raises nothing and keeps its cases if and only if they come under the same state of health
and the windows are regular. -/
theorem forward_run_iff [DecimalContext] (outside : CaseOutside) (snapshot : Digest)
    (hprints : outside.Prints) (acts : List ForwardAction)
    (hacts : ∀ a ∈ acts, a.Polled outside snapshot)
    (hmarket : Runs.Along (forwardStep outside snapshot) RepeatsMarket .fresh acts) :
    RunHolds outside snapshot acts ↔
      Runs.Along (forwardStep outside snapshot) (Steady snapshot) .fresh acts := by
  have hrun : (∃ w, Runs.runFrom (forwardStep outside snapshot) .fresh acts = some w) ↔
      Runs.Along (forwardStep outside snapshot) (Meets snapshot) .fresh acts :=
    run_iff_along (I := ForwardWorld.Sound outside snapshot)
      (A := fun a => a.Polled outside snapshot)
      (fun _ _ hw ha => forwardStep_exists hprints hw ha)
      (fun _ _ _ hw ha h => (forwardStep_keeps hprints hw ha h).1) sound_fresh hacts
  constructor
  · intro h
    obtain ⟨w, w', hfresh, hw', -⟩ := h [] acts rfl
    cases hfresh
    exact along_mono (fun _ _ => And.right) (hrun.mp ⟨w', hw'⟩)
  · intro hsteady before rest hsplit
    obtain ⟨w', hw'⟩ := hrun.mpr (along_and hmarket hsteady)
    have hall := hw'
    rw [hsplit, runFrom_append, bind_eq_some_iff] at hall
    obtain ⟨w, hw, hrest⟩ := hall
    have hbefore : ∀ a ∈ before, a.Polled outside snapshot :=
      fun a ha => hacts a (hsplit ▸ mem_append_left rest ha)
    have hafter : ∀ a ∈ rest, a.Polled outside snapshot :=
      fun a ha => hacts a (hsplit ▸ mem_append_right before ha)
    obtain ⟨hsound, -⟩ := run_sound hprints hbefore sound_fresh hw
    exact ⟨w, w', hw, hrest, (run_sound hprints hafter hsound hrest).2⟩

/-! ## A bar that comes again -/

/-- Exact arithmetic, with square roots to fourteen places. -/
instance paperContext : DecimalContext where
  add a b := .ok (.ofRat (a.value + b.value))
  sub a b := .ok (.ofRat (a.value - b.value))
  mul a b := .ok (.ofRat (a.value * b.value))
  div a b := if b.value = 0 then .error ⟨"DivisionByZero", ""⟩ else .ok (.ofRat (a.value / b.value))
  neg a := .ok (.ofRat (-a.value))
  abs a := .ok (.ofRat |a.value|)
  square a := .ok (.ofRat (a.value * a.value))
  sqrt a := .ok (.ofRat (Nat.sqrt (a.value * 10 ^ 28).floor.toNat / 10 ^ 14))

def paperOutside : CaseOutside where
  toForwardOutside := paperForward
  isoformat := paperForward.timeText
  str := fun _ => ""

theorem paperForward_distinct : paperForward.TimesDistinct := hashedBy_timesDistinct _

theorem paperOutside_prints : paperOutside.Prints where
  readsBack := LedgerWorld.paperForward_readsBack
  distinct := paperForward_distinct
  unbroken := by
    intro t
    show UnbrokenText (if t = 0 then "1970-01-01T00:00:00Z" else String.ofList (integerText t))
    by_cases ht : t = 0
    · rw [if_pos ht]
      decide +kernel
    · rw [if_neg ht]
      exact unbrokenText_integer t
  isoformat := paperForward_distinct

variable (state : SourceHealthState)

/-- The forward evidence of an interval, under a state of health. -/
def provenanceUnder : V3CoreBarProvenance where
  toProvenanceFields :=
    { forwardProvenance 0 (by decide) (by decide) with sourceHealthState := state }
  valid := (forwardProvenance 0 (by decide) (by decide)).valid

theorem paperPrice_market :
    (∀ price ∈ [paperPrice, paperPrice, paperPrice, paperPrice], Positive price) ∧
      NonNegative paperPrice ∧ Arith.lt paperPrice (Arith.max paperPrice paperPrice) = false ∧
      Arith.lt (Arith.min paperPrice paperPrice) paperPrice = false := by
  decide +kernel

def barUnder : V3CoreBar Decimal where
  instrument := .btcusdt
  provenance := provenanceUnder state
  open' := paperPrice
  high := paperPrice
  low := paperPrice
  close := paperPrice
  volume := paperPrice
  sourceId := marketDataProvider
  providerIdentity := marketDataProvider
  endpoint := marketDataRestEndpoint
  sourceSnapshotHash := paperDigest
  quality := "validated"
  market := paperPrice_market
  identity := ⟨marketSource_reviewed.1, rfl, rfl,
    ⟨fun _ => marketSource_reviewed.2.1, fun hne => absurd rfl hne⟩, marketSource_reviewed.2.2⟩

/-- A bar comes, and comes again when its source is held degraded. -/
def repolled : List ForwardAction := [.poll [barUnder .healthy], .poll [barUnder .degraded]]

theorem barUnder_polled : ForwardBar paperDigest (barUnder state) ∧
    (barUnder state).ReadsBack paperOutside.toForwardOutside := by
  refine ⟨⟨rfl, rfl⟩, ?_, ?_⟩
  · intro t ht
    have hzero : t = 0 := by
      have htimes : (barUnder state).provenance.times = [0, 0, 0] := rfl
      rw [htimes] at ht
      simpa using ht
    rw [hzero]
    show paperForward.time (.text (paperForward.timeText 0)) = _
    decide
  · intro d hd
    have hprice : d = paperPrice := by simpa [barUnder] using hd
    rw [hprice]
    exact (LedgerWorld.paperForward_decimal _).trans (find?_of_injective Decimal.text_injective mem_cons_self)

theorem repolled_polled : ∀ a ∈ repolled, a.Polled paperOutside paperDigest := by
  intro a ha
  rcases mem_cons.mp ha with rfl | ha
  · intro bar hbar
    rw [mem_singleton.mp hbar]
    exact barUnder_polled _
  · rw [mem_singleton.mp ha]
    intro bar hbar
    rw [mem_singleton.mp hbar]
    exact barUnder_polled _

theorem barUnder_market (state state' : SourceHealthState) :
    SameMarket (barUnder state) (barUnder state') := ⟨rfl, rfl⟩

theorem first_kept {w : ForwardWorld}
    (h : forwardStep paperOutside paperDigest .fresh (.poll [barUnder .healthy]) = some w) :
    w.bars.kept.get (barUnder .healthy).key = some (barUnder .healthy) := by
  rw [KeyedJournal.appendAll_get (poll_bars (forwardStep_ok.mp h))]
  have hfind : [barUnder .healthy].find? (fun r => V3CoreBar.key r = (barUnder .healthy).key)
      = some (barUnder .healthy) := List.find?_cons_of_pos (decide_eq_true rfl)
  exact hfind

theorem repolled_market :
    Runs.Along (forwardStep paperOutside paperDigest) RepeatsMarket .fresh repolled := by
  refine ⟨⟨?_, pairwise_singleton _ _⟩, ?_⟩
  · intro bar _ prior hprior
    cases hprior
  · intro w hw
    refine ⟨⟨?_, pairwise_singleton _ _⟩, fun _ _ => trivial⟩
    intro bar hbar prior hprior
    rw [mem_singleton.mp hbar] at hprior ⊢
    rw [← Option.some.inj ((first_kept hw).symm.trans hprior)]
    exact barUnder_market _ _

theorem barUnder_regular : Regular (forwardCaseArguments paperDigest) [barUnder state] := by
  have hkey : ∀ instrument t, Present [barUnder state] instrument t →
      instrument = .btcusdt ∧ t = 0 := by
    rintro instrument t ⟨bar, hbar, hkey⟩
    rw [mem_singleton.mp hbar] at hkey
    exact ⟨(congrArg Prod.fst hkey).symm, (congrArg Prod.snd hkey).symm⟩
  intro instrument t hpresent _
  obtain ⟨rfl, rfl⟩ := hkey instrument t hpresent
  refine ⟨by decide +kernel, ?_⟩
  intro heligible
  have hmem : -300 * 1000000 ∈ contextTimes 0 := by decide +kernel
  have hzero := (hkey _ _ (heligible.context _ hmem)).2
  exact absurd hzero (by decide)

theorem first_taken :
    ∃ w, forwardStep paperOutside paperDigest .fresh (.poll [barUnder .healthy]) = some w := by
  have hpolled := repolled_polled _ mem_cons_self
  have hread : ForwardWorld.fresh.bars.read = [] :=
    eq_nil_iff_forall_not_mem.mpr fun _ hbar => absurd (mem_ordered.mp hbar) not_mem_nil
  refine (forwardStep_exists paperOutside_prints sound_fresh hpolled).mpr
    ⟨repolled_market.1, ⟨?_, pairwise_singleton _ _⟩, ?_⟩
  · intro bar _ prior hprior
    cases hprior
  · rw [hread]
    exact barUnder_regular _

/-- The law for this run. -/
theorem repolled_law : RunHolds paperOutside paperDigest repolled ↔
    Runs.Along (forwardStep paperOutside paperDigest) (Steady paperDigest) .fresh repolled :=
  forward_run_iff paperOutside paperDigest paperOutside_prints repolled repolled_polled
    repolled_market

/-- **A bar that comes again is refused** when its source is held degraded. -/
theorem repolled_bar_refused : ∃ (outside : CaseOutside) (snapshot : Digest)
    (first again : ForwardAction), outside.Prints ∧
      (∀ a ∈ [first, again], a.Polled outside snapshot) ∧
      Runs.Along (forwardStep outside snapshot) RepeatsMarket .fresh [first, again] ∧
      (∃ w, forwardStep outside snapshot .fresh first = some w ∧
        forwardStep outside snapshot w again = none) ∧
      ¬RunHolds outside snapshot [first, again] := by
  obtain ⟨w, hfirst⟩ := first_taken
  obtain ⟨hsound, -⟩ := forwardStep_keeps paperOutside_prints sound_fresh
    (repolled_polled _ mem_cons_self) hfirst
  have hagain : forwardStep paperOutside paperDigest w (.poll [barUnder .degraded]) = none := by
    rw [eq_none_iff_forall_ne_some]
    intro last hlast
    have hmeets := (forwardStep_exists paperOutside_prints hsound (repolled_polled _
      (mem_cons_of_mem _ mem_cons_self))).mp ⟨last, hlast⟩
    have hhealth := hmeets.2.1.kept _ mem_cons_self _ (first_kept hfirst)
    cases hhealth
  refine ⟨paperOutside, paperDigest, _, _, paperOutside_prints, repolled_polled, repolled_market,
    ⟨w, hfirst, hagain⟩, ?_⟩
  intro h
  obtain ⟨v, v', hv, hv', -⟩ := h [] repolled rfl
  cases hv
  have hrun := runFrom_cons hfirst [.poll [barUnder .degraded]]
  have hnone : Runs.runFrom (forwardStep paperOutside paperDigest) w
      [.poll [barUnder .degraded]] = none := by
    unfold Runs.runFrom
    rw [hagain]
  rw [hnone] at hrun
  cases hrun.symm.trans hv'

end AdvisorAI.Cadence
