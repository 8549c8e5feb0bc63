import AdvisorAI.Collectors.PlainTexts
import AdvisorAI.Lib.KeyedJournal
import AdvisorAI.Forward.Cadence

/-!
# The spool of normalized bars

Bars are appended under their instrument and the end of their interval, a line of JSON for each.
A bar that is there already must come again as it was, but for the time of its receipt and the hash
that depends on it. A bar is validated back from its line (`readsObjects_bar`), and the line of a
forward bar is unbroken (`unbroken_forward`).
-/

namespace AdvisorAI.Cadence

open Lib Lib.Json List Option
open ForwardPredictionFields (timeTree decimalTree digestTree)
open SourceHealthTransition (readNullable)
open SourceHealthLedger (runtimeError)

/-! ## Decimals under a context -/

/-- What a context of `Decimal` computes: it rounds, and some of its operations raise. -/
class DecimalContext where
  add : Decimal → Decimal → Except PyError Decimal
  sub : Decimal → Decimal → Except PyError Decimal
  mul : Decimal → Decimal → Except PyError Decimal
  div : Decimal → Decimal → Except PyError Decimal
  neg : Decimal → Except PyError Decimal
  abs : Decimal → Except PyError Decimal
  square : Decimal → Except PyError Decimal
  sqrt : Decimal → Except PyError Decimal

/-- Comparisons and constants are exact under every context. -/
instance [context : DecimalContext] : CaseArith Decimal where
  zero := .ofNat 0
  one := .ofNat 1
  add := context.add
  sub := context.sub
  mul := context.mul
  div := context.div
  neg := context.neg
  abs := context.abs
  lt a b := decide (a.value < b.value)
  isZero a := decide (a.value = 0)
  isFinite _ := true
  ofRat := .ofRat
  square := context.square
  sqrt := context.sqrt
  lt_irrefl a := decide_eq_false (lt_irrefl a.value)

/-! ## The dump of a bar -/

namespace V3CoreEvidenceClass

def value : V3CoreEvidenceClass → String
  | .historicalDevelopment => "historical_development"
  | .forwardPitAdmission => "forward_pit_admission"

def ofValue (s : String) : Option V3CoreEvidenceClass :=
  [historicalDevelopment, forwardPitAdmission].find? fun evidence => evidence.value = s

theorem ofValue_value (evidence : V3CoreEvidenceClass) : ofValue evidence.value = some evidence := by
  cases evidence <;> rfl

end V3CoreEvidenceClass

namespace V3CoreAvailabilityBasis

def value : V3CoreAvailabilityBasis → String
  | .forwardObserved => "forward_observed"
  | .providerCloseSemantics => "provider_close_semantics"
  | .historicalBackfill => "historical_backfill"

def ofValue (s : String) : Option V3CoreAvailabilityBasis :=
  [forwardObserved, providerCloseSemantics, historicalBackfill].find? fun basis => basis.value = s

theorem ofValue_value (basis : V3CoreAvailabilityBasis) : ofValue basis.value = some basis := by
  cases basis <;> rfl

end V3CoreAvailabilityBasis

section Dump

variable (outside : ForwardOutside)

def ProvenanceFields.dump (p : ProvenanceFields) : List (String × Tree) :=
  [("interval_end", timeTree outside p.intervalEnd),
    ("provider_available_at", timeTree outside p.providerAvailableAt),
    ("collected_at", timeTree outside p.collectedAt),
    ("provider_event_at", nullable (timeTree outside) p.providerEventAt),
    ("availability_basis", .text p.availabilityBasis.value),
    ("evidence_class", .text p.evidenceClass.value),
    ("source_snapshot_hash", digestTree p.sourceSnapshotHash),
    ("raw_record_hash", digestTree p.rawRecordHash),
    ("normalized_record_hash", digestTree p.normalizedRecordHash),
    ("source_health_state", .text p.sourceHealthState.value),
    ("historical_availability_contract_id",
      nullable Tree.text p.historicalAvailabilityContractId),
    ("historical_availability_contract_sha256",
      nullable digestTree p.historicalAvailabilityContractSha256)]

/-- The dump of a bar around that of its provenance. -/
def BarFields.dumpWith (provenance : List (String × Tree)) (b : BarFields Decimal) :
    List (String × Tree) :=
  [("instrument", .text b.instrument.value), ("provenance", .object provenance),
    ("open", decimalTree b.open'), ("high", decimalTree b.high), ("low", decimalTree b.low),
    ("close", decimalTree b.close), ("volume", decimalTree b.volume), ("source_id", .text b.sourceId),
    ("provider_identity", .text b.providerIdentity), ("endpoint", .text b.endpoint),
    ("source_snapshot_hash", digestTree b.sourceSnapshotHash), ("quality", .text b.quality)]

/-- `bar.model_dump(mode="json")`. -/
def BarFields.dump (b : BarFields Decimal) : List (String × Tree) :=
  b.dumpWith (b.provenance.dump outside)

def receiptNames : List String := ["collected_at", "normalized_record_hash"]

/-- The dump without what depends on the receipt. -/
def BarFields.identityDump (b : BarFields Decimal) : List (String × Tree) :=
  b.dumpWith ((b.provenance.dump outside).filter fun m => m.1 ∉ receiptNames)

end Dump

/-- Two values of JSON are equal when their texts are. -/
instance : DecidableEq Tree := fun v w =>
  decidable_of_iff (write quoted v = write quoted w)
    ⟨fun h => Option.some.inj ((loads_write quoted_readBack v).symm.trans
      ((congrArg loads h).trans (loads_write quoted_readBack w))), congrArg _⟩

/-! ## Validation -/

section Validate

variable (outside : ForwardOutside)

def ProvenanceFields.names : List String :=
  ["interval_end", "provider_available_at", "collected_at", "provider_event_at",
    "availability_basis", "evidence_class", "source_snapshot_hash", "raw_record_hash",
    "normalized_record_hash", "source_health_state", "historical_availability_contract_id",
    "historical_availability_contract_sha256"]

def BarFields.names : List String :=
  ["instrument", "provenance", "open", "high", "low", "close", "volume", "source_id",
    "provider_identity", "endpoint", "source_snapshot_hash", "quality"]

/-- The times of a provenance, in the order of the class. -/
structure ProvenanceTimes where
  intervalEnd : Timestamp
  providerAvailableAt : Timestamp
  collectedAt : Timestamp
  providerEventAt : Option Timestamp

variable (members : List (String × Tree))

def readProvenanceTimes :
    Except PyError (Option ProvenanceTimes) := do
  let intervalEnd ←
    outside.readTime "interval_end must include a timezone" (member members "interval_end")
  let availableAt ← outside.readTime "provider_available_at must include a timezone"
    (member members "provider_available_at")
  let collectedAt ←
    outside.readTime "collected_at must include a timezone" (member members "collected_at")
  let eventAt ← outside.readOptionalTime "provider_event_at must include a timezone"
    (member members "provider_event_at")
  return do return ⟨← intervalEnd, ← availableAt, ← collectedAt, ← eventAt⟩

def readLiteral {α : Type} (ofValue : String → Option α) (v : Tree) : Option α :=
  (Tree.asText v).bind ofValue

def readProvenanceFields (times : ProvenanceTimes) :
    Option ProvenanceFields := do
  let basis ← (member members "availability_basis").bind
    (readLiteral V3CoreAvailabilityBasis.ofValue)
  let evidence ← (member members "evidence_class").bind (readLiteral V3CoreEvidenceClass.ofValue)
  let snapshot ← (member members "source_snapshot_hash").bind readNormalDigest
  let raw ← (member members "raw_record_hash").bind readNormalDigest
  let normalized ← (member members "normalized_record_hash").bind readNormalDigest
  let health ← (member members "source_health_state").bind (readLiteral SourceHealthState.ofValue)
  let contractId ← readNullable Tree.asText (member members "historical_availability_contract_id")
  let contractHash ←
    readNullable readNormalDigest (member members "historical_availability_contract_sha256")
  -- extra="forbid"
  if members.all (fun m => m.1 ∈ ProvenanceFields.names) then
    return ⟨times.intervalEnd, times.providerAvailableAt, times.collectedAt, times.providerEventAt,
      basis, evidence, snapshot, raw, normalized, health, contractId, contractHash⟩
  else none

def provenanceOf (p : ProvenanceFields) : Option V3CoreBarProvenance :=
  if h : p.Valid then some ⟨p, h⟩ else none

def buildProvenance (times : Option ProvenanceTimes) :
    Option V3CoreBarProvenance := do
  provenanceOf (← readProvenanceFields members (← times))

/-- `V3CoreBarProvenance.model_validate`; only a time past the calendar raises. -/
def readProvenance : Option Tree → Except PyError (Option V3CoreBarProvenance)
  | some (.object members) => (buildProvenance members ·) <$> readProvenanceTimes outside members
  | _ => .ok none

def readBarFields (provenance : V3CoreBarProvenance) :
    Option (BarFields Decimal) := do
  let instrument ← (member members "instrument").bind outside.readSymbol
  let opened ← (member members "open").bind outside.decimal
  let high ← (member members "high").bind outside.decimal
  let low ← (member members "low").bind outside.decimal
  let close ← (member members "close").bind outside.decimal
  let volume ← (member members "volume").bind outside.decimal
  let sourceId ← (member members "source_id").bind Tree.asText
  let providerIdentity ← (member members "provider_identity").bind Tree.asText
  let endpoint ← (member members "endpoint").bind Tree.asText
  let snapshot ← (member members "source_snapshot_hash").bind readNormalDigest
  let quality ← SpelledSample.readDefault Tree.asText "validated" (member members "quality")
  if members.all (fun m => m.1 ∈ BarFields.names) then
    return ⟨instrument, provenance, opened, high, low, close, volume, sourceId, providerIdentity,
      endpoint, snapshot, quality⟩
  else none

variable [DecimalContext]

def barOf (b : BarFields Decimal) : Option (V3CoreBar Decimal) :=
  if h : b.MarketValid ∧ b.IdentityValid then some ⟨b, h.1, h.2⟩ else none

def buildBar (provenance : Option V3CoreBarProvenance) :
    Option (V3CoreBar Decimal) := do
  barOf (← readBarFields outside members (← provenance))

/-- `V3CoreBar.model_validate`. -/
def validateBar : Tree → Except PyError (Option (V3CoreBar Decimal))
  | .object members =>
    (buildBar outside members ·) <$> readProvenance outside (member members "provenance")
  | _ => .ok none

end Validate

/-! ## The spool -/

section Spool

variable [DecimalContext] (outside : ForwardOutside)

/-- `prior == bar`: decimals are compared as numbers. -/
def sameBar (prior bar : V3CoreBar Decimal) : Bool :=
  decide (({ prior.toBarFields with
      open' := bar.open', high := bar.high, low := bar.low, close := bar.close
      volume := bar.volume } : BarFields Decimal) = bar.toBarFields) &&
    sameNumber prior.open' bar.open' && sameNumber prior.high bar.high &&
    sameNumber prior.low bar.low && sameNumber prior.close bar.close &&
    sameNumber prior.volume bar.volume

def barMembers (bar : V3CoreBar Decimal) : List (String × Tree) := bar.dump outside

/-- The bar of a line. A time past the calendar raises by itself, anything else as corruption. -/
def readBarLine (number : ℕ) (line : List Char) : Except PyError (V3CoreBar Decimal) :=
  let corrupt : PyError :=
    runtimeError ("forward normalized spool is corrupt at line " ++ number.repr)
  match loads line with
  | none => .error corrupt
  | some v => validateBar outside v >>= fun found => (found.map Except.ok).getD (.error corrupt)

/-- Append-only normalized bars, keyed by instrument and interval end. -/
def normalizedBars :
    KeyedJournal (V3CoreSymbol × Timestamp) (V3CoreBar Decimal) PyError where
  key := V3CoreBar.key
  line := objectLine (barMembers outside)
  read := readBarLine outside
  same := sameBar
  agrees prior bar := decide (prior.identityDump outside = bar.identityDump outside)
  conflict := runtimeError "forward normalized spool contains conflicting bar identity"
  changed := runtimeError "forward normalization changed an existing bar"

abbrev ForwardNormalizedBarSpool := KeyedFile (V3CoreSymbol × Timestamp) (V3CoreBar Decimal)

/-- `spool.read()`: the bars in the order of their keys. -/
def ForwardNormalizedBarSpool.read (spool : ForwardNormalizedBarSpool) : List (V3CoreBar Decimal) :=
  ordered (fun bar => toLex (bar.instrument.value, bar.intervalEnd)) spool.kept

end Spool

/-! ## The round trip of a bar -/

section RoundTrip

variable {outside : ForwardOutside}

/-- The times and the decimals of a bar are read from what they are printed as. -/
structure BarFields.ReadsBack (outside : ForwardOutside) (b : BarFields Decimal) : Prop where
  time : ∀ t ∈ b.provenance.times, outside.ReadsTime t
  decimal : ∀ d ∈ [b.open', b.high, b.low, b.close, b.volume], outside.decimal (.text d.text) = some d

variable (p : V3CoreBarProvenance)

theorem provenanceOf_fields :
    provenanceOf p.toProvenanceFields = some p := dif_pos p.valid

theorem readProvenance_dump (h : ∀ t ∈ p.times, outside.ReadsTime t) :
    readProvenance outside (some (.object (p.dump outside))) = .ok (some p) := by
  have hrange := p.valid.1
  have htime : ∀ t ∈ p.times, ∀ message,
      outside.readTime message (some (.text (outside.timeText t))) = .ok (some t) :=
    fun t ht => readTime_printed (h t ht) (hrange t ht)
  have hevent : ∀ message, outside.readOptionalTime message
      (member (p.dump outside) "provider_event_at") = .ok (some p.providerEventAt) := by
    refine readOptionalTime_printed ?_
    intro t ht
    have hmem : t ∈ p.times := by
      unfold ProvenanceFields.times
      rw [ht]
      simp
    exact ⟨h t hmem, hrange t hmem⟩
  have htimes : readProvenanceTimes outside (p.dump outside) = .ok (some
      ⟨p.intervalEnd, p.providerAvailableAt, p.collectedAt, p.providerEventAt⟩) := by
    refine bind_ok_iff.mpr ⟨_, htime p.intervalEnd (by simp [ProvenanceFields.times]) _, ?_⟩
    refine bind_ok_iff.mpr ⟨_, htime p.providerAvailableAt (by simp [ProvenanceFields.times]) _, ?_⟩
    refine bind_ok_iff.mpr ⟨_, htime p.collectedAt (by simp [ProvenanceFields.times]) _, ?_⟩
    exact bind_ok_iff.mpr ⟨_, hevent _, rfl⟩
  have hnames : (p.dump outside).all (fun m => m.1 ∈ ProvenanceFields.names) = true := rfl
  have hfields : readProvenanceFields (p.dump outside)
      ⟨p.intervalEnd, p.providerAvailableAt, p.collectedAt, p.providerEventAt⟩
      = some p.toProvenanceFields := by
    refine bind_of_some (V3CoreAvailabilityBasis.ofValue_value _) ?_
    refine bind_of_some (V3CoreEvidenceClass.ofValue_value _) ?_
    refine bind_of_some (normalDigest_of_member p.sourceSnapshotHash rfl) ?_
    refine bind_of_some (normalDigest_of_member p.rawRecordHash rfl) ?_
    refine bind_of_some (normalDigest_of_member p.normalizedRecordHash rfl) ?_
    refine bind_of_some (SourceHealthState.ofValue_value _) ?_
    refine bind_of_some (readNullable_text p.historicalAvailabilityContractId) ?_
    refine bind_of_some (readNullable_normalDigest p.historicalAvailabilityContractSha256) ?_
    exact if_pos hnames
  refine bind_ok_iff.mpr ⟨_, htimes, ?_⟩
  exact congrArg Except.ok (bind_of_some rfl (bind_of_some hfields (provenanceOf_fields p)))

variable [DecimalContext]

/-- **A bar is validated back** from its dump. -/
theorem validateBar_dump (houtside : outside.ReadsBack) (bar : V3CoreBar Decimal)
    (h : bar.ReadsBack outside) :
    validateBar outside (.object (bar.dump outside)) = .ok (some bar) := by
  have hdecimal := h.decimal
  simp only [forall_mem_cons, not_mem_nil, IsEmpty.forall_iff, implies_true,
    and_true] at hdecimal
  obtain ⟨hopen, hhigh, hlow, hclose, hvolume⟩ := hdecimal
  have hprovenance : readProvenance outside (member (bar.dump outside) "provenance")
      = .ok (some bar.provenance) := readProvenance_dump _ h.time
  have hnames : (bar.dump outside).all (fun m => m.1 ∈ BarFields.names) = true := rfl
  have hfields : readBarFields outside (bar.dump outside) bar.provenance
      = some bar.toBarFields := by
    refine bind_of_some (bind_of_member (v := .text bar.instrument.value) rfl
      (readSymbol_value houtside _)) ?_
    refine bind_of_some (bind_of_member (v := decimalTree bar.open') rfl hopen) ?_
    refine bind_of_some (bind_of_member (v := decimalTree bar.high) rfl hhigh) ?_
    refine bind_of_some (bind_of_member (v := decimalTree bar.low) rfl hlow) ?_
    refine bind_of_some (bind_of_member (v := decimalTree bar.close) rfl hclose) ?_
    refine bind_of_some (bind_of_member (v := decimalTree bar.volume) rfl hvolume) ?_
    refine bind_of_some (a := bar.sourceId) rfl ?_
    refine bind_of_some (a := bar.providerIdentity) rfl ?_
    refine bind_of_some (a := bar.endpoint) rfl ?_
    refine bind_of_some (normalDigest_of_member bar.sourceSnapshotHash rfl) ?_
    refine bind_of_some (a := bar.quality) rfl ?_
    exact if_pos hnames
  have hbar : barOf bar.toBarFields = some bar := dif_pos ⟨bar.market, bar.identity⟩
  refine bind_ok_iff.mpr ⟨_, hprovenance, ?_⟩
  exact congrArg Except.ok (bind_of_some rfl (bind_of_some hfields hbar))

variable {bar : V3CoreBar Decimal}

theorem readsObjects_bar (houtside : outside.ReadsBack) (h : bar.ReadsBack outside) :
    ReadsObjects (normalizedBars outside).reader (barMembers outside) bar where
  reads := by
    intro number
    have hload : loads (objectLine (barMembers outside) bar) = some (.object (bar.dump outside)) :=
      loads_write quoted_readBack _
    show readBarLine outside number _ = _
    unfold readBarLine
    rw [hload]
    dsimp only
    rw [validateBar_dump houtside bar h]
    rfl
  refuses := by
    intro number text hload
    refine ⟨runtimeError ("forward normalized spool is corrupt at line " ++ number.repr), ?_⟩
    show readBarLine outside number text = _
    unfold readBarLine
    rw [hload]

/-! ## Forward bars -/

def forwardSource (snapshot : Digest) : SourceIdentity :=
  ⟨marketDataProvider, marketDataProvider, marketDataRestEndpoint, snapshot, .forwardPitAdmission⟩

/-- What the parser makes: a bar of the source with the default quality. -/
structure ForwardBar (snapshot : Digest) (bar : V3CoreBar Decimal) : Prop where
  source : bar.source = forwardSource snapshot
  quality : bar.quality = "validated"

omit [DecimalContext] in
theorem unbroken_provenance (htimes : ∀ t, UnbrokenText (outside.timeText t))
    {p : ProvenanceFields} (hid : p.historicalAvailabilityContractId = none) :
    Unbroken (.object (p.dump outside)) := by
  have hdigest : ∀ d : Digest, Unbroken (digestTree d) :=
    fun d => (unbroken_text _).mpr (unbrokenText_digest d)
  have htime : ∀ t, Unbroken (timeTree outside t) := fun t => (unbroken_text _).mpr (htimes t)
  have hnull : Unbroken .null := fun s hs => absurd hs not_mem_nil
  have hbasis : ∀ basis : V3CoreAvailabilityBasis, UnbrokenText basis.value := by
    intro basis
    cases basis <;> decide +kernel
  have hevidence : ∀ evidence : V3CoreEvidenceClass, UnbrokenText evidence.value := by
    intro evidence
    cases evidence <;> decide +kernel
  have hhealth : ∀ state : SourceHealthState, UnbrokenText state.value := by
    intro state
    cases state <;> decide +kernel
  have hnames : ∀ name ∈ ProvenanceFields.names, UnbrokenText name := by decide +kernel
  have hevent : Unbroken (nullable (timeTree outside) p.providerEventAt) := by
    cases p.providerEventAt with
    | none => exact hnull
    | some t => exact htime t
  have hcontract : Unbroken (nullable digestTree p.historicalAvailabilityContractSha256) := by
    cases p.historicalAvailabilityContractSha256 with
    | none => exact hnull
    | some d => exact hdigest d
  refine unbroken_object.mpr ?_
  intro m hm
  refine ⟨hnames m.1 ?_, ?_⟩
  · have hmap : (p.dump outside).map Prod.fst = ProvenanceFields.names := rfl
    exact hmap ▸ List.mem_map_of_mem hm
  · simp only [ProvenanceFields.dump, mem_cons, not_mem_nil, or_false] at hm
    rcases hm with rfl | rfl | rfl | rfl | rfl | rfl | rfl | rfl | rfl | rfl | rfl | rfl
    · exact htime _
    · exact htime _
    · exact htime _
    · exact hevent
    · exact (unbroken_text _).mpr (hbasis _)
    · exact (unbroken_text _).mpr (hevidence _)
    · exact hdigest _
    · exact hdigest _
    · exact hdigest _
    · exact (unbroken_text _).mpr (hhealth _)
    · rw [hid]
      exact hnull
    · exact hcontract

/-- **The line of a forward bar is unbroken.** -/
theorem unbroken_forward (htimes : ∀ t, UnbrokenText (outside.timeText t)) {snapshot : Digest}
    (h : ForwardBar snapshot bar) : Unbroken (.object (barMembers outside bar)) := by
  obtain ⟨hsource, hquality⟩ := h
  have hid : bar.sourceId = marketDataProvider := congrArg SourceIdentity.sourceId hsource
  have hprovider : bar.providerIdentity = marketDataProvider :=
    congrArg SourceIdentity.providerIdentity hsource
  have hendpoint : bar.endpoint = marketDataRestEndpoint := congrArg SourceIdentity.endpoint hsource
  have hclass : bar.provenance.evidenceClass = .forwardPitAdmission :=
    congrArg SourceIdentity.evidenceClass hsource
  have hcontract : bar.provenance.historicalAvailabilityContractId = none := by
    have hvalid := bar.provenance.valid.2.2.2
    rw [hclass] at hvalid
    exact hvalid.2.2.1
  have hprovenance := unbroken_provenance htimes hcontract
  have hdecimal : ∀ d : Decimal, Unbroken (decimalTree d) :=
    fun d => (unbroken_text _).mpr (unbrokenText_decimal d)
  have hconstants : UnbrokenText marketDataProvider ∧ UnbrokenText marketDataRestEndpoint ∧
      UnbrokenText "validated" := by
    decide +kernel
  have hsymbol : ∀ symbol : V3CoreSymbol, UnbrokenText symbol.value := by
    intro symbol
    cases symbol <;> decide +kernel
  have hnames : ∀ name ∈ BarFields.names, UnbrokenText name := by decide +kernel
  refine unbroken_object.mpr ?_
  intro m hm
  refine ⟨hnames m.1 ?_, ?_⟩
  · have hmap : (barMembers outside bar).map Prod.fst = BarFields.names := rfl
    exact hmap ▸ List.mem_map_of_mem hm
  · simp only [barMembers, BarFields.dump, BarFields.dumpWith, mem_cons, not_mem_nil,
      or_false] at hm
    rcases hm with rfl | rfl | rfl | rfl | rfl | rfl | rfl | rfl | rfl | rfl | rfl | rfl
    · exact (unbroken_text _).mpr (hsymbol _)
    · exact hprovenance
    · exact hdecimal _
    · exact hdecimal _
    · exact hdecimal _
    · exact hdecimal _
    · exact hdecimal _
    · exact (unbroken_text _).mpr (hid ▸ hconstants.1)
    · exact (unbroken_text _).mpr (hprovider ▸ hconstants.1)
    · exact (unbroken_text _).mpr (hendpoint ▸ hconstants.2.1)
    · exact (unbroken_text _).mpr (unbrokenText_digest _)
    · exact (unbroken_text _).mpr (hquality ▸ hconstants.2.2)

end RoundTrip

end AdvisorAI.Cadence
