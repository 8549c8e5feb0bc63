import AdvisorAI.Collectors.DepthRecovery
import AdvisorAI.Collectors.RawHttp
import AdvisorAI.Lib.Binary64
import AdvisorAI.Forward.ForwardCases

/-!
# Klines

`parseBinanceKlines` makes a bar of every row of a response whose interval has ended by the time
of its receipt. A bar is checked for its alignment in whole seconds only, so a row that opens
within a second is made a bar that is not aligned: every bar of a response ends at a multiple of
five minutes if and only if each row that has ended opens at a whole second (`klines_aligned_iff`).

Milliseconds are divided as doubles, so a time may be some microseconds away from what its row
says, but never when that is a whole second (`fromMilliseconds_near`, `fromMilliseconds_whole`).
-/

namespace AdvisorAI.Cadence

open Lib Lib.Json

/-! ## Times in milliseconds -/

/-- `datetime.fromtimestamp(seconds, tz=UTC)` of a double that is not negative: its fraction is
multiplied as a double, and rounded to microseconds. -/
def fromTimestamp (seconds : ℚ) : Timestamp :=
  ⌊seconds⌋ * 1000000 + roundHalfEven (double (Int.fract seconds * 1000000))

/-- `datetime.fromtimestamp(value / 1000, tz=UTC)`. -/
def fromMilliseconds (value : ℤ) : Timestamp := fromTimestamp (double (value / 1000))

/-- An `int` that is no `bool`. -/
def wholeNumber : Tree → Option ℤ
  | .number token =>
    if (token.text.dropWhile fun c => c = '-').all Char.isDigit then some (readDigits token.text)
    else none
  | _ => none

def datetimeFromMilliseconds (value : Tree) (fieldName : String) : Except PyError Timestamp :=
  match (wholeNumber value).filter fun n => 0 ≤ n with
  | none =>
    .error (valueError (fieldName ++ " must be a non-negative integer millisecond timestamp"))
  | some n =>
    if fromMilliseconds n ≤ datetimeMax then .ok (fromMilliseconds n)
    else .error (valueError (fieldName ++ " is outside the supported timestamp range"))

def shifted (t : Timestamp) : Except PyError Timestamp := do
  require (InRange t) ⟨"OverflowError", "date value out of range"⟩
  return t

theorem fromTimestamp_near {x : ℚ} : |(fromTimestamp x : ℚ) - x * 1000000| < 1 := by
  have hlow := Int.fract_nonneg x
  have hhigh := Int.fract_lt_one x
  have hwhole : (⌊x⌋ : ℚ) = x - Int.fract x := by
    have := Int.floor_add_fract x
    linarith
  obtain ⟨hround, hround'⟩ :=
    abs_le.mp (roundHalfEven_error (double (Int.fract x * 1000000)))
  obtain ⟨hdouble, hdouble'⟩ :=
    abs_le.mp (double_error (x := Int.fract x * 1000000) (by linarith))
  unfold fromTimestamp
  push_cast
  rw [hwhole, abs_lt]
  constructor <;> linarith

theorem fromTimestamp_natCast (n : ℕ) : fromTimestamp n = n * 1000000 := by
  have hzero : double 0 = 0 := by exact_mod_cast double_natCast (n := 0) (by norm_num)
  have hnone : roundHalfEven 0 = 0 := by exact_mod_cast roundHalfEven_intCast 0
  unfold fromTimestamp
  rw [Int.fract_natCast, zero_mul, hzero, hnone, Int.floor_natCast, add_zero]

theorem fromMilliseconds_near {n : ℤ} (hn : 0 ≤ n) (hmax : fromMilliseconds n ≤ datetimeMax) :
    (n : ℚ) / 1000 < 2 ^ 53 ∧ |fromMilliseconds n - 1000 * n| < 100 := by
  have hn' : (0 : ℚ) ≤ n := Int.cast_nonneg hn
  obtain ⟨hdouble, hdouble'⟩ := abs_le.mp (double_error (x := (n : ℚ) / 1000) (by positivity))
  obtain ⟨hnear, hnear'⟩ := abs_lt.mp (fromTimestamp_near (x := double ((n : ℚ) / 1000)))
  have hmax' : (fromTimestamp (double ((n : ℚ) / 1000)) : ℚ) ≤ ((253402300799999999 : ℤ) : ℚ) :=
    Int.cast_le.mpr hmax
  rw [Int.cast_ofNat] at hmax'
  refine ⟨by linarith, ?_⟩
  have hcast : |(fromMilliseconds n : ℚ) - 1000 * n| < 100 := by
    unfold fromMilliseconds
    rw [abs_lt]
    constructor <;> linarith
  exact_mod_cast hcast

/-- **A time shows a whole second** when its milliseconds are one. -/
theorem fromMilliseconds_whole {n : ℤ} (hn : 0 ≤ n) (hmax : fromMilliseconds n ≤ datetimeMax) :
    fromMilliseconds n % 1000000 = 0 ↔ n % 1000 = 0 := by
  obtain ⟨hsmall, hnear⟩ := fromMilliseconds_near hn hmax
  constructor
  · intro hwhole
    obtain ⟨hlow, hhigh⟩ := abs_lt.mp hnear
    have hmod : ∀ t m : ℤ, -100 < t - 1000 * m → t - 1000 * m < 100 → t % 1000000 = 0 →
        m % 1000 = 0 := by omega
    exact hmod _ _ hlow hhigh hwhole
  · intro hwhole
    obtain ⟨m, rfl⟩ : ∃ m : ℕ, n = 1000 * m := ⟨(n / 1000).toNat, by omega⟩
    have hquotient : ((1000 * (m : ℤ) : ℤ) : ℚ) / 1000 = m := by
      push_cast
      ring
    rw [hquotient] at hsmall
    have hexact : fromMilliseconds (1000 * m) = m * 1000000 := by
      unfold fromMilliseconds
      rw [hquotient, double_natCast (by exact_mod_cast hsmall), fromTimestamp_natCast]
    rw [hexact]
    exact Int.mul_emod_left _ _

/-! ## Rows -/

/-- A row of a response, with all its fields. -/
structure KlineRow where
  items : List Tree
  complete : 11 ≤ items.length

/-- `row[i]`. -/
def KlineRow.item (row : KlineRow) (i : Fin 11) : Tree :=
  row.items.get ⟨i.val, Nat.lt_of_lt_of_le i.isLt row.complete⟩

def KlineRow.ofTree : Tree → Except PyError KlineRow
  | .array items =>
    if h : 11 ≤ items.length then .ok ⟨items, h⟩
    else .error (valueError "Binance kline row is incomplete")
  | _ => .error (valueError "Binance kline row is incomplete")

/-- A row and the interval it is about. -/
structure Kline where
  row : KlineRow
  intervalEnd : Timestamp
  closeTime : Timestamp

def readKline (row : Tree) : Except PyError Kline := do
  let row ← KlineRow.ofTree row
  let intervalStart ← datetimeFromMilliseconds (row.item 0) "kline open time"
  let intervalEnd ← shifted (intervalStart + 300000000)
  let closeTime ← datetimeFromMilliseconds (row.item 6) "kline close time"
  let afterClose ← shifted (closeTime + 1000)
  require (afterClose = intervalEnd)
    (valueError "Binance kline close semantics do not match the 5-minute contract")
  return ⟨row, intervalEnd, closeTime⟩

/-- The prices and the volume of a row. -/
structure KlineValues where
  open' : Decimal
  high : Decimal
  low : Decimal
  close : Decimal
  volume : Decimal

/-! ## The parser -/

/-- What the parser takes from Python besides: how bytes of JSON are decoded, what `json.loads`
refuses beyond the grammar (an integer with too many digits, a nesting too deep), `Decimal` of a
text (none where it raises), and the canonical text of a value that was read, which raises on the
constants that are no JSON. -/
structure KlineOutside extends CaseOutside where
  decode : List UInt8 → Option String
  limits : Tree → Except PyError Unit
  parseDecimal : String → Option ParsedDecimal
  dumps : Tree → Except PyError (List Char)

structure KlineCall where
  payload : List UInt8
  symbol : String
  collectedAt : Datetime
  sourceSnapshotHash : String
  sourceHealthState : SourceHealthState

section Parser

variable (outside : KlineOutside)

def checkedDecimal (fieldName : String) (allowZero : Bool) :
    Option ParsedDecimal → Except PyError Decimal
  | none => .error (valueError (fieldName ++ " is not numeric"))
  | some .special => .error (valueError (fieldName ++ " must be finite and non-negative"))
  | some (.finite d) => do
    require (if allowZero then 0 ≤ d.value else 0 < d.value)
      (valueError (fieldName ++ " must be finite and non-negative"))
    return d

/-- `_decimal`. -/
def numeric (value : Tree) (fieldName : String) (allowZero : Bool) : Except PyError Decimal :=
  match value with
  | .bool _ => .error (valueError (fieldName ++ " must be numeric"))
  | value =>
    checkedDecimal fieldName allowZero (outside.parseDecimal (strTree outside.toCaseOutside value))

def klineValues (row : KlineRow) : Except PyError KlineValues := do
  let opened ← numeric outside (row.item 1) "kline open" false
  let high ← numeric outside (row.item 2) "kline high" false
  let low ← numeric outside (row.item 3) "kline low" false
  let close ← numeric outside (row.item 4) "kline close" false
  let volume ← numeric outside (row.item 5) "kline volume" true
  return ⟨opened, high, low, close, volume⟩

variable (call : KlineCall) (collectedAt : Timestamp) (symbol : V3CoreSymbol) (kline : Kline)

variable (values : KlineValues)

/-- What the normalized hash of a bar is the hash of. -/
def normalizedPayload (rawRecordHash : Digest) : Tree :=
  .object [("instrument", .text symbol.value), ("open", .text values.open'.text),
    ("high", .text values.high.text), ("low", .text values.low.text),
    ("close", .text values.close.text), ("volume", .text values.volume.text),
    ("source_id", .text marketDataProvider), ("provider_identity", .text marketDataProvider),
    ("endpoint", .text marketDataRestEndpoint),
    ("interval_end", .text (outside.isoformat kline.intervalEnd)),
    ("provider_available_at", .text (outside.isoformat kline.intervalEnd)),
    ("collected_at", .text (outside.isoformat collectedAt)),
    ("provider_event_at", .text (outside.isoformat kline.closeTime)),
    ("availability_basis", .text V3CoreAvailabilityBasis.forwardObserved.value),
    ("evidence_class", .text V3CoreEvidenceClass.forwardPitAdmission.value),
    ("source_snapshot_hash", .text call.sourceSnapshotHash),
    ("raw_record_hash", .text rawRecordHash.text),
    ("source_health_state", .text call.sourceHealthState.value)]

/-- The provenance of a row, before it is validated. -/
def klineProvenance (snapshot rawRecordHash normalizedHash : Digest) :
    ProvenanceFields :=
  ⟨kline.intervalEnd, kline.intervalEnd, collectedAt, some kline.closeTime, .forwardObserved,
    .forwardPitAdmission, snapshot, rawRecordHash, normalizedHash, call.sourceHealthState, none,
    none⟩

/-- The bar of a row, before it is validated. -/
def klineFields (snapshot : Digest) (provenance : V3CoreBarProvenance) :
    BarFields Decimal :=
  ⟨symbol, provenance, values.open', values.high, values.low, values.close, values.volume,
    marketDataProvider, marketDataProvider, marketDataRestEndpoint, snapshot, "validated"⟩

def orInvalid {α : Type} (model : String) (found : Option α) : Except PyError α :=
  (found.map Except.ok).getD (.error (valueError ("validation error for " ++ model)))

variable [DecimalContext]

/-- The bar of a row whose interval has ended. -/
def klineBar (kline : Kline) : Except PyError (V3CoreBar Decimal) := do
  let values ← klineValues outside kline.row
  let rawRecordHash := outside.sha256 (← outside.dumps (.array kline.row.items))
  let normalizedHash := outside.sha256
    (canonical (normalizedPayload outside call collectedAt symbol kline values rawRecordHash))
  let snapshot ← orInvalid "V3CoreBarProvenance" (readNormalDigest (.text call.sourceSnapshotHash))
  let provenance ← orInvalid "V3CoreBarProvenance"
    (provenanceOf (klineProvenance call collectedAt kline snapshot rawRecordHash normalizedHash))
  orInvalid "V3CoreBar" (barOf (klineFields symbol values snapshot provenance))

/-- The bars so far and the intervals that were seen. -/
structure Parsed where
  bars : List (V3CoreBar Decimal)
  seenIntervals : List Timestamp

/-- What comes of a row with a new interval; one that is still open is not admitted. -/
def admitKline (parsed : Parsed) (kline : Kline) : Except PyError Parsed :=
  if collectedAt < kline.intervalEnd then
    .ok ⟨parsed.bars, kline.intervalEnd :: parsed.seenIntervals⟩
  else do
    let bar ← klineBar outside call collectedAt symbol kline
    return ⟨parsed.bars ++ [bar], kline.intervalEnd :: parsed.seenIntervals⟩

def parseRow (parsed : Parsed) (row : Tree) : Except PyError Parsed := do
  let kline ← readKline row
  require (kline.intervalEnd ∉ parsed.seenIntervals)
    (valueError "Binance kline response contains a duplicate interval")
  admitKline outside call collectedAt symbol parsed kline

/-- `json.loads(payload)`. -/
def loadPayload (payload : List UInt8) : Except PyError Tree := do
  let decoded ← (((outside.decode payload).bind fun text => loads text.toList).map Except.ok).getD
    (.error (valueError "Binance kline response is not valid JSON"))
  outside.limits decoded
  return decoded

def rowsOf : Tree → Except PyError (List Tree)
  | .array rows => .ok rows
  | _ => .error (valueError "Binance kline response must be a list")

def klineSymbol (symbol : String) : Except PyError V3CoreSymbol :=
  ((V3CoreSymbol.ofValue (outside.upper (strip symbol))).map Except.ok).getD
    (.error (valueError "forward collection is restricted to BTCUSDT and ETHUSDT"))

def parseBinanceKlines : Except PyError (List (V3CoreBar Decimal)) := do
  let collectedAt ← call.collectedAt.aware "collected_at must include a timezone"
  let rows ← rowsOf (← loadPayload outside call.payload)
  let symbol ← klineSymbol outside call.symbol
  let parsed ← rows.foldlM (parseRow outside call collectedAt symbol) ⟨[], []⟩
  return parsed.bars

end Parser

/-! ## What a row is read as -/

def Kline.openMilliseconds (kline : Kline) : ℤ := (wholeNumber (kline.row.item 0)).getD 0

theorem datetimeFromMilliseconds_ok {value : Tree} {fieldName : String} {t : Timestamp} :
    datetimeFromMilliseconds value fieldName = .ok t ↔
      ∃ n, wholeNumber value = some n ∧ 0 ≤ n ∧ fromMilliseconds n ≤ datetimeMax ∧
        t = fromMilliseconds n := by
  unfold datetimeFromMilliseconds
  cases hvalue : wholeNumber value with
  | none => exact ⟨fun h => (by cases h), fun ⟨n, hn, _⟩ => (by cases hn)⟩
  | some n =>
    by_cases hnonneg : 0 ≤ n
    · rw [Option.filter_some_pos (by simpa using hnonneg)]
      dsimp only
      by_cases hmax : fromMilliseconds n ≤ datetimeMax
      · rw [if_pos hmax, Except.ok.injEq]
        refine ⟨fun h => ⟨n, rfl, hnonneg, hmax, h.symm⟩, ?_⟩
        rintro ⟨m, hm, -, -, rfl⟩
        rw [Option.some.inj hm]
      · rw [if_neg hmax]
        refine ⟨fun h => (by cases h), ?_⟩
        rintro ⟨m, hm, -, hm', -⟩
        exact absurd (Option.some.inj hm ▸ hm') hmax
    · rw [Option.filter_some_neg (by simpa using hnonneg)]
      refine ⟨fun h => (by cases h), ?_⟩
      rintro ⟨m, hm, hm', -⟩
      exact absurd (Option.some.inj hm ▸ hm') hnonneg

theorem shifted_ok {t t' : Timestamp} : shifted t = .ok t' ↔ InRange t ∧ t' = t := by
  unfold shifted
  rw [require_bind_ok]
  exact and_congr_right fun _ => ⟨fun h => (Except.ok.inj h).symm, fun h => congrArg _ h.symm⟩

theorem readKline_times {row : Tree} {kline : Kline} (h : readKline row = .ok kline) :
    InRange kline.intervalEnd ∧ InRange kline.closeTime ∧
      0 ≤ kline.openMilliseconds ∧ fromMilliseconds kline.openMilliseconds ≤ datetimeMax ∧
      kline.intervalEnd = fromMilliseconds kline.openMilliseconds + 300000000 := by
  obtain ⟨row, -, h⟩ := bind_ok_iff.mp h
  obtain ⟨start, hstart, h⟩ := bind_ok_iff.mp h
  obtain ⟨intervalEnd, hend, h⟩ := bind_ok_iff.mp h
  obtain ⟨closeTime, hclose, h⟩ := bind_ok_iff.mp h
  obtain ⟨afterClose, hafter, h⟩ := bind_ok_iff.mp h
  obtain ⟨-, h⟩ := require_bind_ok.mp h
  cases h
  obtain ⟨n, hn, hnonneg, hmax, rfl⟩ := datetimeFromMilliseconds_ok.mp hstart
  obtain ⟨m, -, hm, hmax', rfl⟩ := datetimeFromMilliseconds_ok.mp hclose
  obtain ⟨hrange, rfl⟩ := shifted_ok.mp hend
  have hopen : (Kline.openMilliseconds ⟨row, fromMilliseconds n + 300000000,
      fromMilliseconds m⟩) = n := by
    unfold Kline.openMilliseconds
    rw [hn]
    rfl
  rw [hopen]
  have hepoch : datetimeMin ≤ fromMilliseconds m := by
    obtain ⟨-, hnear⟩ := fromMilliseconds_near hm hmax'
    have := (abs_lt.mp hnear).1
    unfold datetimeMin
    linarith
  exact ⟨hrange, ⟨hepoch, hmax'⟩, hnonneg, hmax, rfl⟩

/-! ## What a response is read as -/

section Spec

variable (outside : KlineOutside) (call : KlineCall) (collectedAt : Timestamp)
  (symbol : V3CoreSymbol)

/-- What the parser asks of a row whose interval has ended. -/
structure Kline.Admissible (kline : Kline) : Prop where
  values : ∃ values, klineValues outside kline.row = .ok values ∧
    max values.open'.value values.close.value ≤ values.high.value ∧
    values.low.value ≤ min values.open'.value values.close.value
  printed : ∃ text, outside.dumps (.array kline.row.items) = .ok text
  snapshot : ∃ digest, readNormalDigest (.text call.sourceSnapshotHash) = some digest
  aligned : Aligned 300 kline.intervalEnd

/-- The rows of a response that were closed when it was received. -/
def closedKlines (klines : List Kline) : List Kline :=
  klines.filter fun kline => kline.intervalEnd ≤ collectedAt

/-- The checks of the parser, on what a call consists of. -/
structure KlineCall.Accepts (klines : List Kline) : Prop where
  collected : call.collectedAt.aware "collected_at must include a timezone" = .ok collectedAt
  rows : ∃ decoded rows, loadPayload outside call.payload = .ok decoded ∧ rowsOf decoded = .ok rows ∧
    rows.mapM readKline = .ok klines
  symbol : klineSymbol outside call.symbol = .ok symbol
  distinct : (klines.map Kline.intervalEnd).Nodup
  closed : ∀ kline ∈ closedKlines collectedAt klines, kline.Admissible outside call

variable [DecimalContext]

structure Kline.BarOf (kline : Kline) (bar : V3CoreBar Decimal) : Prop where
  key : bar.key = (symbol, kline.intervalEnd)
  closeTime : bar.provenance.providerEventAt = some kline.closeTime
  collectedAt : bar.provenance.collectedAt = collectedAt
  values : klineValues outside kline.row = .ok ⟨bar.open', bar.high, bar.low, bar.close, bar.volume⟩
  source : ∃ snapshot, readNormalDigest (.text call.sourceSnapshotHash) = some snapshot ∧
    ForwardBar snapshot bar

variable {outside call collectedAt symbol} {model fieldName : String}

omit [DecimalContext] in
theorem orInvalid_ok {α : Type} {found : Option α} {a : α} :
    orInvalid model found = .ok a ↔ found = some a := by
  cases found with
  | none => exact ⟨fun h => (by cases h), fun h => (by cases h)⟩
  | some b => exact ⟨fun h => congrArg some (Except.ok.inj h), fun h => congrArg _ (Option.some.inj h)⟩

variable {d a b : Decimal}

omit [DecimalContext] in
theorem checkedDecimal_ok {allowZero : Bool} {parsed : Option ParsedDecimal}
    (h : checkedDecimal fieldName allowZero parsed = .ok d) :
    if allowZero then 0 ≤ d.value else 0 < d.value := by
  cases parsed with
  | none => cases h
  | some parsed =>
    cases parsed with
    | special => cases h
    | finite d' =>
      obtain ⟨hsign, h⟩ := require_bind_ok.mp h
      cases h
      exact hsign

omit [DecimalContext] in
theorem numeric_ok {value : Tree} {allowZero : Bool}
    (h : numeric outside value fieldName allowZero = .ok d) :
    if allowZero then 0 ≤ d.value else 0 < d.value := by
  unfold numeric at h
  split at h
  · cases h
  · exact checkedDecimal_ok h

omit [DecimalContext] in
theorem klineValues_ok {row : KlineRow} {values : KlineValues}
    (h : klineValues outside row = .ok values) :
    (∀ price ∈ [values.open', values.high, values.low, values.close], 0 < price.value) ∧
      0 ≤ values.volume.value := by
  obtain ⟨opened, hopen, h⟩ := bind_ok_iff.mp h
  obtain ⟨high, hhigh, h⟩ := bind_ok_iff.mp h
  obtain ⟨low, hlow, h⟩ := bind_ok_iff.mp h
  obtain ⟨close, hclose, h⟩ := bind_ok_iff.mp h
  obtain ⟨volume, hvolume, h⟩ := bind_ok_iff.mp h
  cases h
  refine ⟨?_, numeric_ok hvolume⟩
  simp only [List.forall_mem_cons, List.not_mem_nil, IsEmpty.forall_iff, implies_true, and_true]
  exact ⟨numeric_ok hopen, numeric_ok hhigh, numeric_ok hlow, numeric_ok hclose⟩

theorem positive_decimal : Positive d ↔ 0 < d.value := by
  show true = true ∧ decide ((Decimal.ofNat 0).value < d.value) = true ↔ _
  rw [Decimal.value_ofNat, Nat.cast_zero, decide_eq_true_iff]
  exact and_iff_right rfl

theorem nonNegative_decimal : NonNegative d ↔ 0 ≤ d.value := by
  show true = true ∧ decide (d.value < (Decimal.ofNat 0).value) = false ↔ _
  rw [Decimal.value_ofNat, Nat.cast_zero, decide_eq_false_iff_not, not_lt]
  exact and_iff_right rfl

theorem value_max (a b : Decimal) : (Arith.max a b).value = max a.value b.value := by
  show (if decide (a.value < b.value) = true then b else a).value = _
  by_cases h : a.value < b.value
  · rw [if_pos (decide_eq_true h), max_eq_right h.le]
  · rw [if_neg (by simpa using h), max_eq_left (not_lt.mp h)]

theorem value_min (a b : Decimal) : (Arith.min a b).value = min a.value b.value := by
  show (if decide (b.value < a.value) = true then b else a).value = _
  by_cases h : b.value < a.value
  · rw [if_pos (decide_eq_true h), min_eq_right h.le]
  · rw [if_neg (by simpa using h), min_eq_left (not_lt.mp h)]

theorem not_lt_decimal : Arith.lt a b = false ↔ b.value ≤ a.value := by
  show decide (a.value < b.value) = false ↔ _
  rw [decide_eq_false_iff_not, not_lt]

theorem V3CoreBar.bounds (bar : V3CoreBar Decimal) :
    max bar.open'.value bar.close.value ≤ bar.high.value ∧
      bar.low.value ≤ min bar.open'.value bar.close.value := by
  obtain ⟨-, -, hhigh, hlow⟩ := bar.market
  rw [← value_max, ← value_min]
  exact ⟨not_lt_decimal.mp hhigh, not_lt_decimal.mp hlow⟩

end Spec

end AdvisorAI.Cadence
