import AdvisorAI.Lake.PointInTime
import AdvisorAI.Lib.Checks
import AdvisorAI.Contracts.Scalars
import Mathlib.Data.List.Sort

/-!
# The quality of observations

`evaluate` looks for one defect after another and collects the findings; an identifier may stand in
a finding once. Duplicates are counted and not named, and gaps are looked for between the records
of all instruments: `problems_reported_iff` says which records are reported on in full.
-/

namespace AdvisorAI

open Lib List

structure QualityFinding where
  code : String
  severity : String
  detail : String
  observationIds : List String

/-- `require_nonblank_text`. -/
def nonblankText (value : String) : Except PyError String := do
  require (strip value ≠ "") (valueError "quality findings require code, severity, and detail")
  return if lower (strip value) ∈ ["error", "warning", "info"] then lower (strip value)
    else strip value

/-- The identities of a tuple, and what is said of them when one is blank or stands there twice. -/
def uniqueTexts (blank repeated : String) (value : List String) :
    Except PyError (List String) := do
  require ("" ∉ value.map strip) (valueError blank)
  require (value.map strip).Nodup (valueError repeated)
  return value.map strip

structure DataQualityReport where
  dataset : String
  asOf : Timestamp
  observationCount : ℕ
  origins : List String
  sourceFamilies : List String
  revisions : ℕ
  findings : List QualityFinding

/-! ## What is looked for -/

namespace DataQualityMonitor

/-- A condition on the records, and the finding that is made when it holds. -/
structure Defect where
  found : Bool
  code : String
  severity : String
  detail : String
  observationIds : List UUID

def Defect.finding (d : Defect) : Except PyError QualityFinding := do
  let code ← nonblankText d.code
  let severity ← nonblankText d.severity
  let detail ← nonblankText d.detail
  let ids ← uniqueTexts "quality finding observation IDs cannot be blank"
    "quality finding observation IDs must be unique" (d.observationIds.map uuidText)
  return ⟨code, severity, detail, ids⟩

variable (item : PointInTimeObservation)

def itemTime : Timestamp :=
  item.eventTime.getD item.firstAvailableAt

def seriesKey : String × String :=
  (item.instrument.canonicalId, item.sourceFamily)

section Records

variable (records : List PointInTimeObservation) (items : List PointInTimeObservation)

def ids : List UUID := items.map fun item => item.artifactId

/-- A finding that counts the records it names. -/
def naming (code detail : String) : Defect :=
  ⟨items ≠ [], code, "error", toString items.length ++ detail, ids items⟩

def missingData : Defect :=
  ⟨records.isEmpty, "missing_data", "error",
    "no observations were available for the quality cutoff", []⟩

variable (asOf : Timestamp)

def future : List PointInTimeObservation :=
  records.filter fun item => asOf < item.firstAvailableAt ∨ asOf < item.ingestedAt ∨
    (item.eventTime.any fun t => asOf < t) ∨ item.effectiveTime.any fun t => asOf < t

def futureData : Defect :=
  naming (future records asOf) "future_data" " records were unavailable at the quality cutoff"

/-- `latest` after one more record. -/
def keepLatest (latest : Dict (String × String) PointInTimeObservation)
    (item : PointInTimeObservation) : Dict (String × String) PointInTimeObservation :=
  if asOf < item.firstAvailableAt ∨ asOf < item.ingestedAt then latest
  else if (latest.get (seriesKey item)).all fun prior => itemTime prior < itemTime item then
    latest.set (seriesKey item) item
  else latest

def latest : Dict (String × String) PointInTimeObservation :=
  records.foldl (keepLatest asOf) Dict.empty

/-- The ages are those of `total_seconds`, without the rounding. -/
def staleRecords (maxAgeSeconds : ℤ) : List PointInTimeObservation :=
  (latest records asOf).values.filter fun item => maxAgeSeconds * 1000000 < asOf - itemTime item

def stale (asOf : Timestamp) (maxAgeSeconds : ℤ) : Defect :=
  naming (staleRecords records asOf maxAgeSeconds) "stale" " records exceed freshness budget"

def duplicates : ℕ := records.length - (ids records).dedup.length

def duplicate : Defect :=
  ⟨duplicates records ≠ 0, "duplicate", "error",
    toString (duplicates records) ++ " duplicate observation IDs", []⟩

def eventTimes : List Timestamp := records.filterMap fun item => item.eventTime

/-- The largest difference that is no gap, in microseconds. -/
def gapLimit (expectedIntervalSeconds : ℤ) : ℤ := expectedIntervalSeconds * 2 * 1000000

def hasLongStep (limit : ℤ) (ordered : List ℤ) : Bool :=
  (ordered.zip ordered.tail).any fun p => limit < p.2 - p.1

def gap (expectedIntervalSeconds : Option ℤ) : Defect :=
  ⟨1 < records.length && expectedIntervalSeconds.any fun expected =>
      hasLongStep (gapLimit expected) ((eventTimes records).mergeSort fun a b => a ≤ b),
    "gap", "warning", "observation interval exceeds twice expected cadence", []⟩

def originDisagreement : Defect :=
  ⟨1 < (records.map fun item => item.origin).dedup.length ||
      1 < (records.map fun item => item.sourceFamily).dedup.length,
    "origin_disagreement", "warning",
    "more than one origin is present; cross-source disagreement must be retained", []⟩

/-- `by_event` after one more record. -/
def addEvent (byEvent : Dict (String × Option Timestamp) (List String))
    (item : PointInTimeObservation) : Dict (String × Option Timestamp) (List String) :=
  let key := (item.instrument.canonicalId, item.eventTime)
  byEvent.set key ((byEvent.getD key []).insert item.value)

def disagreements : ℕ :=
  ((records.foldl addEvent Dict.empty).values.filter fun values => 1 < values.length).length

def crossSourceDisagreement : Defect :=
  ⟨disagreements records ≠ 0, "cross_source_disagreement", "warning",
    toString (disagreements records) ++ " instrument/event values disagree across sources", []⟩

def dangling : List PointInTimeObservation :=
  records.filter fun item => item.supersedesObservationId.any fun id => id ∉ ids records

def danglingRevision : Defect :=
  naming (dangling records) "dangling_revision" " revisions reference unavailable observations"

def revisionLinks : Dict UUID UUID :=
  records.foldl (fun links item => match item.supersedesObservationId with
    | none => links
    | some id => links.set item.artifactId id) Dict.empty

/-- The walk along the links, from `current`, with the records seen on the way. -/
def walksInCircle (links : Dict UUID UUID) (seen : List UUID) (current : UUID) : Bool :=
  match _hlink : links.get current with
  | none => false
  | some next =>
    if _hseen : current ∈ seen then true else walksInCircle links (current :: seen) next
termination_by (links.keys.filter fun id => id ∉ seen).length
decreasing_by
  have hsplit : (links.keys.filter fun id => id ∉ current :: seen)
      = (links.keys.filter fun id => id ∉ seen).filter fun id => id ≠ current := by
    rw [filter_filter]
    refine filter_congr ?_
    intro id _
    simp [not_or]
  rw [hsplit]
  exact length_filter_lt_length_iff_exists.mpr ⟨current, mem_filter.mpr
    ⟨Dict.mem_keys_iff.mpr ⟨next, _hlink⟩, decide_eq_true _hseen⟩, by simp⟩

def cyclic : List PointInTimeObservation :=
  records.filter fun item => walksInCircle (revisionLinks records) [] item.artifactId

def revisionCycle : Defect :=
  naming (cyclic records) "revision_cycle" " observations participate in a revision cycle"

def defects (maxAgeSeconds : ℤ) (expectedIntervalSeconds : Option ℤ) :
    List Defect :=
  [missingData records, futureData records asOf, stale records asOf maxAgeSeconds,
    duplicate records, gap records expectedIntervalSeconds, originDisagreement records,
    crossSourceDisagreement records, danglingRevision records, revisionCycle records]

end Records

/-- The set of some texts, sorted, where the report checks them. -/
def provenance (texts : List String) : Except PyError (List String) :=
  let message := "quality provenance identities must be unique and non-blank"
  uniqueTexts message message (texts.dedup.mergeSort fun a b => a ≤ b)

def evaluate (dataset : String) (records : List PointInTimeObservation) (asOf : Datetime)
    (maxAgeSeconds : ℤ) (expectedIntervalSeconds : Option ℤ) :
    Except PyError DataQualityReport := do
  let asOf ← asOf.aware "quality cutoff must include a timezone"
  require (0 ≤ maxAgeSeconds) (valueError "max_age_seconds cannot be negative")
  require (∀ expected ∈ expectedIntervalSeconds, 0 < expected)
    (valueError "expected_interval_seconds must be positive")
  let findings ← ((defects records asOf maxAgeSeconds expectedIntervalSeconds).filter
    Defect.found).mapM Defect.finding
  require (strip dataset ≠ "") (valueError "quality report dataset cannot be blank")
  let origins ← provenance (records.map fun item => item.origin)
  let families ← provenance (records.map fun item => item.sourceFamily)
  return ⟨strip dataset, asOf, records.length, origins, families,
    records.countP fun item => item.sourceRevision.isSome, findings⟩

/-! ## Findings are made -/

theorem isBlank_append {a b : String} (h : isBlank b = false) : isBlank (a ++ b) = false := by
  unfold isBlank at *
  rw [String.toList_append, all_append, h, Bool.and_false]

theorem nonblankText_ok {value : String} (h : isBlank value = false) :
    ∃ text, nonblankText value = .ok text :=
  ⟨_, require_bind_ok.mpr ⟨mt isBlank_iff.mpr (Bool.eq_false_iff.mp h), rfl⟩⟩

theorem uniqueTexts_ok {blank repeated : String} {value : List String} (hnodup : value.Nodup)
    (hvalue : ∀ v ∈ value, v ≠ "" ∧ strip v = v) :
    uniqueTexts blank repeated value = .ok value := by
  have hmap : value.map strip = value :=
    (map_congr_left fun v hv => (hvalue v hv).2).trans (map_id _)
  unfold uniqueTexts
  rw [hmap]
  exact require_bind_ok.mpr ⟨fun hmem => (hvalue _ hmem).1 rfl, require_bind_ok.mpr ⟨hnodup, rfl⟩⟩

theorem uuidText_normal (id : UUID) : uuidText id ≠ "" ∧ strip (uuidText id) = uuidText id := by
  refine ⟨?_, strip_of_visible (forall_mem_uuidText (by decide) (by decide) id)⟩
  intro hempty
  obtain ⟨digits, -, -, htext⟩ := uuidText_digits id
  rw [hempty] at htext
  simp at htext

/-- The texts of a defect are no blanks; its code is as it is written. -/
structure Defect.Worded (d : Defect) : Prop where
  code : nonblankText d.code = .ok d.code
  severity : isBlank d.severity = false
  detail : isBlank d.detail = false

theorem finding_ok {d : Defect} {f : QualityFinding} (h : d.finding = .ok f) (hworded : d.Worded) :
    f.code = d.code ∧ f.observationIds = (d.observationIds.map uuidText).map strip := by
  obtain ⟨code, hcode, h⟩ := bind_ok_iff.mp h
  obtain ⟨severity, -, h⟩ := bind_ok_iff.mp h
  obtain ⟨detail, -, h⟩ := bind_ok_iff.mp h
  obtain ⟨texts, htexts, h⟩ := bind_ok_iff.mp h
  obtain ⟨-, htexts⟩ := require_bind_ok.mp htexts
  obtain ⟨-, htexts⟩ := require_bind_ok.mp htexts
  rw [hworded.code] at hcode
  cases hcode
  cases htexts
  cases h
  exact ⟨rfl, rfl⟩

theorem finding_made {d : Defect} (hworded : d.Worded) (hids : d.observationIds.Nodup) :
    ∃ f, d.finding = .ok f := by
  obtain ⟨severity, hseverity⟩ := nonblankText_ok hworded.severity
  obtain ⟨detail, hdetail⟩ := nonblankText_ok hworded.detail
  refine ⟨⟨d.code, severity, detail, d.observationIds.map uuidText⟩, ?_⟩
  refine bind_ok_iff.mpr ⟨_, hworded.code, bind_ok_iff.mpr ⟨_, hseverity, bind_ok_iff.mpr
    ⟨_, hdetail, bind_ok_iff.mpr ⟨_, uniqueTexts_ok (hids.map fun _ _ => uuidText_injective) ?_,
    rfl⟩⟩⟩⟩
  intro v hv
  obtain ⟨id, -, rfl⟩ := mem_map.mp hv
  exact uuidText_normal id

section

variable {records : List PointInTimeObservation} {cutoff : Timestamp} {maxAge : ℤ}
  {expected : Option ℤ}

theorem defects_worded : ∀ d ∈ defects records cutoff maxAge expected,
    d.Worded := by
  have hcode : ∀ c ∈ ["missing_data", "future_data", "stale", "duplicate", "gap",
      "origin_disagreement", "cross_source_disagreement", "dangling_revision", "revision_cycle"],
      nonblankText c = .ok c := by
    decide +kernel
  have herror : isBlank "error" = false := by decide +kernel
  have hwarning : isBlank "warning" = false := by decide +kernel
  unfold defects
  simp only [forall_mem_cons, not_mem_nil, false_imp_iff, implies_true, and_true]
    at hcode ⊢
  obtain ⟨hmissing, hfuture, hstale, hduplicate, hgap, horigin, hcross, hdangling, hcycle⟩ := hcode
  exact ⟨⟨hmissing, herror, by dsimp only [missingData]; decide +kernel⟩,
    ⟨hfuture, herror, isBlank_append (by decide +kernel)⟩,
    ⟨hstale, herror, isBlank_append (by decide +kernel)⟩,
    ⟨hduplicate, herror, isBlank_append (by decide +kernel)⟩,
    ⟨hgap, hwarning, by dsimp only [gap]; decide +kernel⟩,
    ⟨horigin, hwarning, by dsimp only [originDisagreement]; decide +kernel⟩,
    ⟨hcross, hwarning, isBlank_append (by decide +kernel)⟩,
    ⟨hdangling, herror, isBlank_append (by decide +kernel)⟩,
    ⟨hcycle, herror, isBlank_append (by decide +kernel)⟩⟩

theorem latest_get {k : String × String} {item : PointInTimeObservation}
    (h : (latest records cutoff).get k = some item) : item ∈ records ∧ seriesKey item = k := by
  refine List.foldlRecOn (motive := fun latest => ∀ k item, latest.get k = some item →
    item ∈ records ∧ seriesKey item = k) records (keepLatest cutoff) ?_ ?_ k item h
  · intro k item hitem
    cases hitem
  · intro latest hlatest item hmem k kept hkept
    unfold keepLatest at hkept
    split at hkept
    · exact hlatest k kept hkept
    · split at hkept
      · rw [Dict.get_set] at hkept
        split at hkept
        · next hk =>
          cases hkept
          exact ⟨hmem, hk.symm⟩
        · exact hlatest k kept hkept
      · exact hlatest k kept hkept

theorem latest_ids_nodup (h : (ids records).Nodup) : (ids (latest records cutoff).values).Nodup := by
  unfold ids Dict.values
  rw [map_map]
  refine List.Nodup.map_on ?_ (latest records cutoff).nodup.of_map
  intro a ha b hb hab
  obtain ⟨hamem, hakey⟩ := latest_get (Dict.mem_entries_iff.mp ha)
  obtain ⟨hbmem, hbkey⟩ := latest_get (Dict.mem_entries_iff.mp hb)
  have hitem : a.2 = b.2 := inj_on_of_nodup_map h hamem hbmem hab
  exact Prod.ext (hakey.symm.trans ((congrArg seriesKey hitem).trans hbkey)) hitem

theorem defects_ids_nodup (h : (ids records).Nodup) :
    ∀ d ∈ defects records cutoff maxAge expected,
      d.observationIds.Nodup := by
  have hfilter : ∀ p : PointInTimeObservation → Bool, (ids (records.filter p)).Nodup :=
    fun p => (filter_sublist.map _).nodup h
  unfold defects
  simp only [forall_mem_cons, not_mem_nil, false_imp_iff, implies_true, and_true]
  exact ⟨.nil, hfilter _, (filter_sublist.map _).nodup (latest_ids_nodup h), .nil, .nil, .nil,
    .nil, hfilter _, hfilter _⟩

end

/-! ## Gaps -/

/-- Two times that follow one another are more than `limit` apart. -/
def HasGap (limit : ℤ) (times : List ℤ) : Prop :=
  ∃ left ∈ times, ∃ right ∈ times, limit < right - left ∧
    ∀ t ∈ times, ¬(left < t ∧ t < right)

theorem hasGap_cons_cons {limit : ℤ} (hlimit : 0 ≤ limit) {a b : ℤ} {rest : List ℤ} (h : (a :: b :: rest).Pairwise (· ≤ ·)) :
    HasGap limit (a :: b :: rest) ↔ limit < b - a ∨ HasGap limit (b :: rest) := by
  obtain ⟨ha, hrest⟩ := pairwise_cons.mp h
  have hb : ∀ t ∈ b :: rest, b ≤ t :=
    forall_mem_cons.mpr ⟨le_refl b, (pairwise_cons.mp hrest).1⟩
  have hab : a ≤ b := ha b mem_cons_self
  constructor
  · rintro ⟨left, hleft, right, hright, hlt, hnone⟩
    have hle : a ≤ left := by
      rcases mem_cons.mp hleft with rfl | hleft
      · exact le_refl _
      · exact ha left hleft
    -- what is later than another time is not the first
    have hright : right ∈ b :: rest := (mem_cons.mp hright).resolve_left (by omega)
    by_cases hfirst : left < b
    · have hnext := hnone b (mem_cons_of_mem _ mem_cons_self)
      have := hb right hright
      exact .inl (by omega)
    · have hleft : left ∈ b :: rest := by
        rcases mem_cons.mp hleft with heq | hleft
        · obtain rfl : left = b := by omega
          exact mem_cons_self
        · exact hleft
      exact .inr ⟨left, hleft, right, hright, hlt, fun t ht => hnone t (mem_cons_of_mem _ ht)⟩
  · rintro (hlt | ⟨left, hleft, right, hright, hlt, hnone⟩)
    · refine ⟨a, mem_cons_self, b, mem_cons_of_mem _ mem_cons_self, hlt, ?_⟩
      intro t ht
      rcases mem_cons.mp ht with rfl | ht
      · omega
      · have := hb t ht
        omega
    · refine ⟨left, mem_cons_of_mem _ hleft, right, mem_cons_of_mem _ hright, hlt, ?_⟩
      intro t ht
      rcases mem_cons.mp ht with rfl | ht
      · have := hb left hleft
        omega
      · exact hnone t ht

theorem hasLongStep_iff {limit : ℤ} (hlimit : 0 ≤ limit) {ordered : List ℤ}
    (h : ordered.Pairwise (· ≤ ·)) : hasLongStep limit ordered = true ↔ HasGap limit ordered := by
  induction ordered with
  | nil => simp [hasLongStep, HasGap]
  | cons a rest ih =>
    cases rest with
    | nil => simp [hasLongStep, HasGap, hlimit]
    | cons b rest =>
      rw [hasGap_cons_cons hlimit h, ← ih (pairwise_cons.mp h).2]
      simp [hasLongStep]

theorem HasGap.perm {limit : ℤ} {times times' : List ℤ} (hperm : times.Perm times')
    (h : HasGap limit times) : HasGap limit times' := by
  obtain ⟨left, hleft, right, hright, hlt, hnone⟩ := h
  exact ⟨left, hperm.mem_iff.mp hleft, right, hperm.mem_iff.mp hright, hlt,
    fun t ht => hnone t (hperm.mem_iff.mpr ht)⟩

/-! ## What is reported -/

/-- What the caller of `evaluate` has to see to; texts of valid records have no white space around
them. -/
structure Called (dataset : String) (records : List PointInTimeObservation) (asOf : Datetime)
    (cutoff : Timestamp) (maxAge : ℤ) (expected : Option ℤ) : Prop where
  dataset : isBlank dataset = false
  cutoff : asOf.aware "quality cutoff must include a timezone" = .ok cutoff
  maxAge : 0 ≤ maxAge
  expected : ∀ e ∈ expected, 0 < e
  normal : ∀ item ∈ records, strip item.origin = item.origin ∧
    strip item.sourceFamily = item.sourceFamily

/-- The times of one instrument have a gap. -/
def InstrumentGap (records : List PointInTimeObservation) (limit : ℤ) : Prop :=
  ∃ item ∈ records, HasGap limit (eventTimes (records.filter fun o =>
    o.instrument.canonicalId = item.instrument.canonicalId))

/-- The report is returned, with every identifier that is there twice, and with a gap exactly when
the times of one instrument have one. -/
def ProblemsReported (dataset : String) (records : List PointInTimeObservation) (asOf : Datetime)
    (maxAge : ℤ) (expected : Option ℤ) : Prop :=
  ∃ report, evaluate dataset records asOf maxAge expected = .ok report ∧
    (∀ id, 1 < (ids records).count id →
      ∃ f ∈ report.findings, f.code = "duplicate" ∧ uuidText id ∈ f.observationIds) ∧
    ((∃ f ∈ report.findings, f.code = "gap") ↔
      ∃ e ∈ expected, InstrumentGap records (gapLimit e))

/-- No identifier is there twice, and the times of all records have a gap exactly when those of one
instrument do. -/
def SeenInFull (records : List PointInTimeObservation) (expected : Option ℤ) : Prop :=
  (ids records).Nodup ∧ ((∃ e ∈ expected, HasGap (gapLimit e) (eventTimes records)) ↔
    ∃ e ∈ expected, InstrumentGap records (gapLimit e))

section Reported

variable {dataset : String} {records : List PointInTimeObservation} {asOf : Datetime}
  {cutoff : Timestamp} {maxAge : ℤ} {expected : Option ℤ} {report : DataQualityReport}

theorem gap_found (hexpected : ∀ e ∈ expected, 0 < e) : (gap records expected).found = true ↔
    ∃ e ∈ expected, HasGap (gapLimit e) (eventTimes records) := by
  cases expected with
  | none => simp [gap]
  | some e =>
    have hlimit : 0 ≤ gapLimit e := by
      have := hexpected e rfl
      unfold gapLimit
      omega
    have hperm := mergeSort_perm (eventTimes records) fun a b => decide (a ≤ b)
    have hlong := hasLongStep_iff hlimit (pairwise_mergeSort' (· ≤ ·) (eventTimes records))
    have hmany : HasGap (gapLimit e) (eventTimes records) → 1 < records.length := by
      rintro ⟨left, hleft, right, hright, hlt, -⟩
      by_contra hfew
      have hlength : (eventTimes records).length ≤ 1 :=
        (length_filterMap_le _ _).trans (not_lt.mp hfew)
      have hpositive := hlimit.trans_lt hlt
      rcases htimes : eventTimes records with _ | ⟨t, _ | ⟨t', rest⟩⟩
      · rw [htimes] at hleft
        cases hleft
      · rw [htimes, mem_singleton] at hleft hright
        omega
      · rw [htimes] at hlength
        simp at hlength
    simp only [gap, Option.any_some, Bool.and_eq_true, decide_eq_true_eq, hlong,
      Option.mem_some_iff, exists_eq_left']
    exact ⟨fun h => h.2.perm hperm, fun h => ⟨hmany h, h.perm hperm.symm⟩⟩

theorem defect_of_code {d : Defect} (h : d ∈ defects records cutoff maxAge expected) :
    (d.code = "gap" → d = gap records expected) ∧
      (d.code = "duplicate" → d = duplicate records) := by
  unfold defects at h
  simp only [mem_cons, not_mem_nil, or_false] at h
  rcases h with rfl | rfl | rfl | rfl | rfl | rfl | rfl | rfl | rfl <;> constructor <;> intro hcode
  all_goals first
    | rfl
    | simp [missingData, futureData, stale, duplicate, gap, originDisagreement, naming,
        crossSourceDisagreement, danglingRevision, revisionCycle] at hcode

variable (hcalled : Called dataset records asOf cutoff maxAge expected)
include hcalled

theorem evaluate_findings (h : evaluate dataset records asOf maxAge expected = .ok report) :
    ((defects records cutoff maxAge expected).filter Defect.found).mapM Defect.finding
      = .ok report.findings := by
  obtain ⟨t, ht, h⟩ := bind_ok_iff.mp h
  cases hcalled.cutoff.symm.trans ht
  obtain ⟨-, h⟩ := require_bind_ok.mp h
  obtain ⟨-, h⟩ := require_bind_ok.mp h
  obtain ⟨findings, hfindings, h⟩ := bind_ok_iff.mp h
  obtain ⟨-, h⟩ := require_bind_ok.mp h
  obtain ⟨origins, -, h⟩ := bind_ok_iff.mp h
  obtain ⟨families, -, h⟩ := bind_ok_iff.mp h
  cases h
  exact hfindings

theorem evaluate_returns (hnodup : (ids records).Nodup) :
    ∃ report, evaluate dataset records asOf maxAge expected = .ok report := by
  have hmade : ∀ d ∈ (defects records cutoff maxAge expected).filter Defect.found,
      ∃ f, d.finding = .ok f := fun d hd =>
    have hmem := (mem_filter.mp hd).1
    finding_made (defects_worded d hmem) (defects_ids_nodup hnodup d hmem)
  obtain ⟨findings, hfindings⟩ := mapM_returns hmade
  have hsorted : ∀ name : PointInTimeObservation → String,
      (∀ item ∈ records, name item ≠ "" ∧ strip (name item) = name item) →
      ∃ texts, provenance (records.map name) = .ok texts := by
    intro name hname
    refine ⟨_, uniqueTexts_ok ((mergeSort_perm _ _).nodup_iff.mpr (nodup_dedup _)) ?_⟩
    intro v hv
    obtain ⟨item, hitem, rfl⟩ := mem_map.mp (mem_dedup.mp (mem_mergeSort.mp hv))
    exact hname item hitem
  obtain ⟨origins, horigins⟩ := hsorted (fun item => item.origin) fun item hitem =>
    ⟨item.texts_ne _ (by simp), (hcalled.normal item hitem).1⟩
  obtain ⟨families, hfamilies⟩ := hsorted (fun item => item.sourceFamily) fun item hitem =>
    ⟨item.texts_ne _ (by simp), (hcalled.normal item hitem).2⟩
  exact ⟨_, bind_ok_iff.mpr ⟨_, hcalled.cutoff, require_bind_ok.mpr ⟨hcalled.maxAge,
    require_bind_ok.mpr ⟨hcalled.expected, bind_ok_iff.mpr ⟨_, hfindings, require_bind_ok.mpr
      ⟨mt isBlank_iff.mpr (Bool.eq_false_iff.mp hcalled.dataset), bind_ok_iff.mpr ⟨_, horigins,
        bind_ok_iff.mpr ⟨_, hfamilies, rfl⟩⟩⟩⟩⟩⟩⟩⟩

theorem gap_reported (h : evaluate dataset records asOf maxAge expected = .ok report) :
    (∃ f ∈ report.findings, f.code = "gap") ↔
      ∃ e ∈ expected, HasGap (gapLimit e) (eventTimes records) := by
  have hmade := evaluate_findings hcalled h
  rw [← gap_found hcalled.expected]
  constructor
  · rintro ⟨f, hf, hcode⟩
    obtain ⟨d, hd, hfinding⟩ := exists_of_mapM_ok hmade hf
    obtain ⟨hmem, hfound⟩ := mem_filter.mp hd
    rw [(finding_ok hfinding (defects_worded d hmem)).1] at hcode
    rwa [(defect_of_code hmem).1 hcode] at hfound
  · intro hfound
    have hmem : gap records expected ∈ defects records cutoff maxAge expected := by
      simp [defects]
    obtain ⟨f, hf, hfinding⟩ := exists_made_of_mem hmade (mem_filter.mpr ⟨hmem, hfound⟩)
    exact ⟨f, hf, (finding_ok hfinding (defects_worded _ hmem)).1⟩

theorem duplicate_ids (h : evaluate dataset records asOf maxAge expected = .ok report) :
    ∀ f ∈ report.findings, f.code = "duplicate" → f.observationIds = [] := by
  intro f hf hcode
  obtain ⟨d, hd, hfinding⟩ := exists_of_mapM_ok (evaluate_findings hcalled h) hf
  have hmem := (mem_filter.mp hd).1
  obtain ⟨hsame, hids⟩ := finding_ok hfinding (defects_worded d hmem)
  rw [hids, (defect_of_code hmem).2 (hsame.symm.trans hcode)]
  rfl

theorem problems_reported_iff : ProblemsReported dataset records asOf maxAge expected ↔ SeenInFull records expected := by
  constructor
  · rintro ⟨report, hreport, hnamed, hgaps⟩
    refine ⟨nodup_iff_count_le_one.mpr fun id => ?_,
      (gap_reported hcalled hreport).symm.trans hgaps⟩
    by_contra htwice
    obtain ⟨f, hf, hcode, hid⟩ := hnamed id (not_le.mp htwice)
    rw [duplicate_ids hcalled hreport f hf hcode] at hid
    cases hid
  · rintro ⟨hnodup, hgaps⟩
    obtain ⟨report, hreport⟩ := evaluate_returns hcalled hnodup
    refine ⟨report, hreport, fun id htwice => ?_, (gap_reported hcalled hreport).trans hgaps⟩
    exact absurd (nodup_iff_count_le_one.mp hnodup id) (not_le.mpr htwice)

end Reported

theorem one_record_reported :
    ProblemsReported "prices" [lakeObservation 1 0] (.ofTimestamp 0) 60 (some 5) ↔
      SeenInFull [lakeObservation 1 0] (some 5) :=
  problems_reported_iff ⟨by decide +kernel, Datetime.aware_ofTimestamp epoch_valid, by decide,
    by decide, by decide +kernel⟩

theorem duplicate_raises :
    ¬∀ (dataset : String) (records : List PointInTimeObservation) (asOf : Datetime)
        (cutoff : Timestamp) (maxAge : ℤ) (expected : Option ℤ),
      Called dataset records asOf cutoff maxAge expected →
      ProblemsReported dataset records asOf maxAge expected := by
  intro hall
  let records := [lakeObservation 1 5, lakeObservation 1 5]
  obtain ⟨report, hreport, -⟩ := hall "prices" records (.ofTimestamp 0) 0 60 none
    ⟨by decide +kernel, Datetime.aware_ofTimestamp epoch_valid, by decide, by decide,
      by decide +kernel⟩
  have hraised : (evaluate "prices" records (.ofTimestamp 0) 60 none).toOption.isNone = true := by
    decide +kernel
  rw [hreport] at hraised
  cases hraised

end DataQualityMonitor

end AdvisorAI
