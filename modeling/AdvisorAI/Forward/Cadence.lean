import AdvisorAI.Forward.PredictionAudit

/-!
# The cases of the forward cadence

A case is a decision at a full hour: four hours of five-minute bars that end before it, and the
hour of bars after it. `buildV3coreCases` goes through the bars that end at a full hour and makes a
case of each, or retains why it has made none.

The results are about every arithmetic of the prices (`CaseArith`), so about every context that
`Decimal` may round in. The policy of the cadence admits one set of values only, so they are
constants here. `int(value.timestamp())` is taken exactly; Python's goes through a double, which
holds every microsecond until the year 2255.
-/

namespace AdvisorAI.Cadence

open Lib

/-! ## Numbers and times -/

/-- What the cases compute with: the arithmetic of an account, its exact constants, and what the
regime needs. -/
class CaseArith (N : Type) extends Arith N where
  ofRat : ℚ → N
  square : N → Except PyError N
  sqrt : N → Except PyError N
  lt_irrefl : ∀ a : N, Arith.lt a a = false

section Numbers

variable {N : Type} [CaseArith N]

/-- `a == b` of finite numbers. -/
def sameNumber (a b : N) : Bool := !Arith.lt a b && !Arith.lt b a

theorem sameNumber_refl (a : N) : sameNumber a a = true := by
  unfold sameNumber
  rw [CaseArith.lt_irrefl]
  rfl

def Positive (a : N) : Prop := Arith.isFinite a = true ∧ Arith.lt Arith.zero a = true

/-- A number that is finite and not negative. -/
def NonNegative (a : N) : Prop := Arith.isFinite a = true ∧ Arith.lt a Arith.zero = false

instance (a : N) : Decidable (Positive a) := inferInstanceAs (Decidable (_ ∧ _))

instance (a : N) : Decidable (NonNegative a) := inferInstanceAs (Decidable (_ ∧ _))

/-- `(later / earlier - Decimal("1")) * Decimal("10000")`. -/
def returnBps (later earlier : N) : Except PyError N := do
  let ratio ← Arith.div later earlier
  let change ← Arith.sub ratio Arith.one
  Arith.mul change (CaseArith.ofRat 10000)

/-- `sum(terms) / Decimal(len(returns))`. -/
def meanOf (terms : List (Except PyError N)) : Except PyError N := do
  Arith.div (← Arith.sum terms) (CaseArith.ofRat terms.length)

/-- The regime of a mean return under a volatility. -/
def regimeOf (mean volatility : N) : Except PyError String := do
  if !Arith.lt volatility (CaseArith.ofRat 150 : N) then return "high_volatility"
  let threshold := Arith.max Arith.one (← Arith.mul volatility (CaseArith.ofRat (1 / 4)))
  if Arith.lt threshold mean then return "trend_up"
  if Arith.lt mean (← Arith.neg threshold) then return "trend_down"
  return "range_bound"

/-- `variance.sqrt() if variance > 0 else Decimal("0")`. -/
def volatilityOf (variance : N) : Except PyError N :=
  if Arith.lt Arith.zero variance then CaseArith.sqrt variance else .ok Arith.zero

def deriveRegimeFromContext (closes : List N) : Except PyError String := do
  require (2 ≤ closes.length ∧ ∀ value ∈ closes, Positive value)
    (valueError "regime context requires at least two positive finite closes")
  let returns ← (closes.zip closes.tail).mapM fun pair => returnBps pair.2 pair.1
  let mean ← meanOf (returns.map Except.ok)
  let variance ← meanOf (returns.map fun value => do CaseArith.square (← Arith.sub value mean))
  let volatility ← volatilityOf variance
  regimeOf mean volatility

end Numbers

/-- `int(value.timestamp())`, cut off towards 1970. -/
def wholeSeconds (t : Timestamp) : Int := t.tdiv 1000000

/-- `int(value.timestamp()) % seconds == 0`. -/
def Aligned (seconds : Int) (t : Timestamp) : Prop := wholeSeconds t % seconds = 0

instance (seconds : Int) (t : Timestamp) : Decidable (Aligned seconds t) :=
  inferInstanceAs (Decidable (_ = _))

/-- A moment that a `datetime` can show. -/
def InRange (t : Timestamp) : Prop := datetimeMin ≤ t ∧ t ≤ datetimeMax

instance (t : Timestamp) : Decidable (InRange t) := inferInstanceAs (Decidable (_ ∧ _))

/-- Moments that were computed from another; one that no `datetime` can show raises. -/
def moments (times : List Timestamp) : Except PyError (List Timestamp) := do
  checkAll (fun t => require (InRange t) ⟨"OverflowError", "date value out of range"⟩) times
  return times

theorem moments_ok {times times' : List Timestamp} :
    moments times = .ok times' ↔ (∀ t ∈ times, InRange t) ∧ times' = times := by
  unfold moments
  rw [bind_ok_iff]
  constructor
  · rintro ⟨u, hcheck, h⟩
    exact ⟨fun t ht => require_ok.mp (checkAll_ok.mp hcheck t ht), (Except.ok.inj h).symm⟩
  · rintro ⟨hrange, rfl⟩
    exact ⟨(), checkAll_ok.mpr fun t ht => require_ok.mpr (hrange t ht), rfl⟩

/-! ## Bars -/

inductive V3CoreEvidenceClass where
  | historicalDevelopment | forwardPitAdmission
deriving DecidableEq

inductive V3CoreAvailabilityBasis where
  | forwardObserved | providerCloseSemantics | historicalBackfill
deriving DecidableEq

/-- Where a bar or a case comes from. -/
structure SourceIdentity where
  sourceId : String
  providerIdentity : String
  endpoint : String
  sourceSnapshotHash : Digest
  evidenceClass : V3CoreEvidenceClass
deriving DecidableEq

@[ext]
structure ProvenanceFields where
  intervalEnd : Timestamp
  providerAvailableAt : Timestamp
  collectedAt : Timestamp
  providerEventAt : Option Timestamp
  availabilityBasis : V3CoreAvailabilityBasis
  evidenceClass : V3CoreEvidenceClass
  sourceSnapshotHash : Digest
  rawRecordHash : Digest
  normalizedRecordHash : Digest
  sourceHealthState : SourceHealthState
  historicalAvailabilityContractId : Option String
  historicalAvailabilityContractSha256 : Option Digest
deriving DecidableEq

namespace ProvenanceFields

variable (p : ProvenanceFields)

def times : List Timestamp :=
  p.intervalEnd :: p.providerAvailableAt :: p.collectedAt :: p.providerEventAt.toList

/-- What a class of evidence asks of a provenance. -/
def EvidenceValid : V3CoreEvidenceClass → Prop
  | .forwardPitAdmission => p.availabilityBasis = .forwardObserved ∧
      p.providerAvailableAt ≤ p.collectedAt ∧ p.historicalAvailabilityContractId = none ∧
      p.historicalAvailabilityContractSha256 = none
  | .historicalDevelopment => p.availabilityBasis = .historicalBackfill ∧
      p.historicalAvailabilityContractId.getD "" ≠ "" ∧
      p.historicalAvailabilityContractSha256 ≠ none

instance (p : ProvenanceFields) : ∀ evidence, Decidable (p.EvidenceValid evidence)
  | .forwardPitAdmission => inferInstanceAs (Decidable (_ ∧ _ ∧ _ ∧ _))
  | .historicalDevelopment => inferInstanceAs (Decidable (_ ∧ _ ∧ _))

def Valid : Prop :=
  (∀ t ∈ p.times, InRange t) ∧ Aligned 300 p.intervalEnd ∧ p.intervalEnd ≤ p.providerAvailableAt ∧
    p.EvidenceValid p.evidenceClass

instance (p : ProvenanceFields) : Decidable p.Valid := inferInstanceAs (Decidable (_ ∧ _ ∧ _ ∧ _))

end ProvenanceFields

/-- Timestamp and evidence provenance for one closed market bar. -/
structure V3CoreBarProvenance extends ProvenanceFields where
  valid : toProvenanceFields.Valid
deriving DecidableEq

def marketDataProvider : String := "binance_spot_public_market_data"

def marketDataRestEndpoint : String := "https://data-api.binance.vision/api/v3/klines"

def marketDataWsEndpoint : String := "wss://data-stream.binance.vision/ws"

@[ext]
structure BarFields (N : Type) where
  instrument : V3CoreSymbol
  provenance : V3CoreBarProvenance
  open' : N
  high : N
  low : N
  close : N
  volume : N
  sourceId : String
  providerIdentity : String
  endpoint : String
  sourceSnapshotHash : Digest
  quality : String
deriving DecidableEq

namespace BarFields

variable {N : Type} (b : BarFields N)

/-- The provider goes with its reviewed endpoints, any other with one over HTTPS. -/
def EndpointReviewed : Prop :=
  (b.providerIdentity = marketDataProvider →
      b.endpoint ∈ [marketDataRestEndpoint, marketDataWsEndpoint]) ∧
    (b.providerIdentity ≠ marketDataProvider → "https://".toList <+: b.endpoint.toList)

instance : Decidable b.EndpointReviewed := inferInstanceAs (Decidable (_ ∧ _))

def IdentityValid : Prop :=
  (b.sourceId ≠ "" ∧ b.endpoint ≠ "") ∧ b.sourceId = b.providerIdentity ∧
    b.sourceSnapshotHash = b.provenance.sourceSnapshotHash ∧ b.EndpointReviewed ∧
    lower b.quality ∈ ["validated", "gold"]

instance : Decidable b.IdentityValid := inferInstanceAs (Decidable (_ ∧ _ ∧ _ ∧ _ ∧ _))

variable [CaseArith N]

/-- The prices of a bar are positive, and their bounds consistent. -/
def MarketValid : Prop :=
  (∀ price ∈ [b.open', b.high, b.low, b.close], Positive price) ∧ NonNegative b.volume ∧
    Arith.lt b.high (Arith.max b.open' b.close) = false ∧
    Arith.lt (Arith.min b.open' b.close) b.low = false

instance : Decidable b.MarketValid := inferInstanceAs (Decidable (_ ∧ _ ∧ _ ∧ _))

end BarFields

/-- One closed, source-identified five-minute market bar. -/
structure V3CoreBar (N : Type) [CaseArith N] extends BarFields N where
  market : toBarFields.MarketValid
  identity : toBarFields.IdentityValid

namespace V3CoreBar

variable {N : Type} [CaseArith N] (bar : V3CoreBar N)

def intervalEnd : Timestamp := bar.provenance.intervalEnd

/-- The instrument of a bar and the end of its interval. -/
def key : V3CoreSymbol × Timestamp := (bar.instrument, bar.intervalEnd)

/-- The identity that a case must not substitute. -/
def source : SourceIdentity :=
  ⟨bar.sourceId, bar.providerIdentity, bar.endpoint, bar.sourceSnapshotHash,
    bar.provenance.evidenceClass⟩

/-- When a bar counts as known under a class of evidence. -/
def availableAt : V3CoreEvidenceClass → Timestamp
  | .forwardPitAdmission => bar.provenance.collectedAt
  | .historicalDevelopment => bar.provenance.providerAvailableAt

end V3CoreBar

/-! ## Cases -/

section Cases

variable (N : Type) [CaseArith N]

structure CaseFields where
  caseId : String
  instrument : V3CoreSymbol
  cutoff : Timestamp
  contextBars : List (V3CoreBar N)
  futureBars : List (V3CoreBar N)
  realizedAt : Timestamp
  realizedReturnBps : N
  spreadBps : N
  slippageBps : N
  source : SourceIdentity
  regime : String
  phase3Admitted : Bool

variable {N}

/-- `bars[-1]`. -/
def lastBar (bars : List (V3CoreBar N)) : Except PyError (V3CoreBar N) :=
  match bars.getLast? with
  | none => .error ⟨"IndexError", "tuple index out of range"⟩
  | some bar => .ok bar

/-- The checks of the fields of a case, one by one. -/
structure CaseFields.Wellformed (c : CaseFields N) : Prop where
  caseId_ne : c.caseId ≠ ""
  source_ne : c.source.sourceId ≠ "" ∧ c.source.providerIdentity ≠ "" ∧ c.source.endpoint ≠ ""
  regime_ne : c.regime ≠ ""
  return_finite : Arith.isFinite c.realizedReturnBps = true
  costs : NonNegative c.spreadBps ∧ NonNegative c.slippageBps

instance (c : CaseFields N) : Decidable c.Wellformed :=
  decidable_of_iff (c.caseId ≠ "" ∧
      (c.source.sourceId ≠ "" ∧ c.source.providerIdentity ≠ "" ∧ c.source.endpoint ≠ "") ∧
      c.regime ≠ "" ∧ Arith.isFinite c.realizedReturnBps = true ∧
      NonNegative c.spreadBps ∧ NonNegative c.slippageBps)
    ⟨fun ⟨hid, hsource, hregime, hreturn, hcosts⟩ => ⟨hid, hsource, hregime, hreturn, hcosts⟩,
      fun h => ⟨h.caseId_ne, h.source_ne, h.regime_ne, h.return_finite, h.costs⟩⟩

def checkBar (c : CaseFields N) (bar : V3CoreBar N) : Except PyError Unit := do
  require (bar.instrument = c.instrument) (valueError "case bars must remain instrument-local")
  require (bar.source = c.source)
    (valueError "case cannot silently substitute source identity or snapshot")

def unavailableMessage : V3CoreEvidenceClass → String
  | .forwardPitAdmission => "forward context was collected after the decision cutoff"
  | .historicalDevelopment => "historical context was unavailable under the provider contract"

def validateCase (c : CaseFields N) : Except PyError Unit := do
  require c.Wellformed (valueError "validation error for V3CoreForecastCase")
  require (Aligned 3600 c.cutoff) (valueError "cutoff must align to the configured cadence")
  require (c.contextBars.length = 48)
    (valueError "case must contain exactly four hours of five-minute context")
  require (c.futureBars.length = 12)
    (valueError "case must contain exactly one hour of five-minute outcome bars")
  checkAll (checkBar c) (c.contextBars ++ c.futureBars)
  let expectedContext ← moments (contextTimes c.cutoff)
  let expectedFuture ← moments (futureTimes c.cutoff)
  require (c.contextBars.map V3CoreBar.intervalEnd = expectedContext ∧
      c.futureBars.map V3CoreBar.intervalEnd = expectedFuture)
    (valueError "case bars must be contiguous around the decision cutoff")
  require (∀ bar ∈ c.contextBars, bar.availableAt c.source.evidenceClass ≤ c.cutoff)
    (valueError (unavailableMessage c.source.evidenceClass))
  let last ← lastBar c.futureBars
  require (c.realizedAt = last.intervalEnd)
    (valueError "realized_at must equal the end of the one-hour outcome")
  require (c.cutoff < c.realizedAt)
    (valueError "one-hour outcome must occur after the decision cutoff")
  let latest ← lastBar c.contextBars
  let expectedReturn ← returnBps last.close latest.close
  require (sameNumber c.realizedReturnBps expectedReturn = true)
    (valueError "realized return does not match the causal bar prices")

/-- A causal four-hour context and the later one-hour evaluation outcome. -/
structure V3CoreForecastCase (N : Type) [CaseArith N] extends CaseFields N where
  valid : validateCase toCaseFields = .ok ()

/-- The case of some fields, if they are valid. -/
def V3CoreForecastCase.ofFields (fields : CaseFields N) : Except PyError (V3CoreForecastCase N) :=
  match h : validateCase fields with
  | .ok _ => .ok ⟨fields, h⟩
  | .error e => .error e

structure V3CoreCaseRejection where
  instrument : V3CoreSymbol
  cutoff : Timestamp
  reason : String
deriving DecidableEq

/-- Deterministic build result; rejected cutoffs are retained, not hidden. -/
structure V3CoreCaseBuild (N : Type) [CaseArith N] where
  source : SourceIdentity
  barCount : ℕ
  cases : List (V3CoreForecastCase N)
  rejectedCutoffs : List V3CoreCaseRejection
  classes : ∀ c ∈ cases, c.source.evidenceClass = source.evidenceClass

end Cases

/-! ## The builder -/

/-- The keyword arguments of the builder. -/
structure CaseArguments (N : Type) [CaseArith N] where
  source : SourceIdentity
  spreadBps : N
  slippageBps : N
  phase3Admitted : Bool
  costs_nonneg : NonNegative spreadBps ∧ NonNegative slippageBps

section Builder

variable {N : Type} [CaseArith N]

/-- The bars of each instrument by the ends of their intervals. -/
abbrev Timelines (N : Type) [CaseArith N] := V3CoreSymbol → Dict Timestamp (V3CoreBar N)

/-- `{symbol: {} for symbol in V3_CORE_SYMBOLS}`. -/
def noTimelines : Timelines N := fun _ => Dict.empty

/-- One more bar; no two have one instrument and one time. -/
def addBar (byInstrument : Timelines N) (bar : V3CoreBar N) : Except PyError (Timelines N) := do
  require ((byInstrument bar.instrument).get bar.intervalEnd = none)
    (valueError "case input contains duplicate instrument/time bar identities")
  return Function.update byInstrument bar.instrument
    ((byInstrument bar.instrument).set bar.intervalEnd bar)

inductive CaseVerdict (N : Type) [CaseArith N] where
  | built (c : V3CoreForecastCase N)
  | rejected (reason : String)

structure CasesFound (N : Type) [CaseArith N] where
  cases : List (V3CoreForecastCase N)
  rejected : List V3CoreCaseRejection

def unavailableReason : V3CoreEvidenceClass → String
  | .forwardPitAdmission => "context_not_collected_at_cutoff"
  | .historicalDevelopment => "context_not_available_under_provider_contract"

variable (isoformat : Timestamp → String) (arguments : CaseArguments N)

section Cutoff

variable (instrument : V3CoreSymbol) (timeline : Dict Timestamp (V3CoreBar N)) (cutoff : Timestamp)

/-- Why a cutoff gives no case, if it gives none. -/
def rejectionReason : Option String :=
  if ∃ t ∈ contextTimes cutoff, timeline.get t = none then some "missing_context_bars"
  else if ∃ t ∈ futureTimes cutoff, timeline.get t = none then some "missing_one_hour_outcome_bars"
  else if ∃ bar ∈ (contextTimes cutoff).filterMap timeline.get,
    cutoff < bar.availableAt arguments.source.evidenceClass then
    some (unavailableReason arguments.source.evidenceClass)
  else none

def forecastCase (context future : List (V3CoreBar N)) :
    Except PyError (V3CoreForecastCase N) := do
  let last ← lastBar future
  let latest ← lastBar context
  let realizedReturnBps ← returnBps last.close latest.close
  let regime ← deriveRegimeFromContext (context.map fun bar => bar.close)
  V3CoreForecastCase.ofFields
    { caseId := instrument.value ++ ":" ++ isoformat cutoff ++ ":" ++ arguments.source.sourceId
      instrument
      cutoff
      contextBars := context
      futureBars := future
      realizedAt := last.intervalEnd
      realizedReturnBps
      spreadBps := arguments.spreadBps
      slippageBps := arguments.slippageBps
      source := arguments.source
      regime
      phase3Admitted := arguments.phase3Admitted }

/-- The verdict on a cutoff: a rejection with its reason, or a case. -/
def verdictOn : Option String → Except PyError (CaseVerdict N)
  | some reason => .ok (.rejected reason)
  | none => .built <$> forecastCase isoformat arguments instrument cutoff
      ((contextTimes cutoff).filterMap timeline.get) ((futureTimes cutoff).filterMap timeline.get)

/-- One turn of the loop over the cutoffs, for a full hour. -/
def verdictAt : Except PyError (CaseVerdict N) := do
  let _ ← moments (contextTimes cutoff)
  let _ ← moments (futureTimes cutoff)
  verdictOn isoformat arguments instrument timeline cutoff
    (rejectionReason arguments timeline cutoff)

/-- The cases and rejections after a verdict. -/
def CasesFound.note (found : CasesFound N) : CaseVerdict N → CasesFound N
  | .built c => { found with cases := found.cases ++ [c] }
  | .rejected reason => { found with rejected := found.rejected ++ [⟨instrument, cutoff, reason⟩] }

end Cutoff

/-- One turn of the loop over the bars of an instrument. -/
def consider (instrument : V3CoreSymbol) (timeline : Dict Timestamp (V3CoreBar N))
    (found : CasesFound N) (cutoff : Timestamp) : Except PyError (CasesFound N) :=
  if Aligned 3600 cutoff then
    (found.note instrument cutoff ·) <$> verdictAt isoformat arguments instrument timeline cutoff
  else .ok found

/-- `sorted(timeline)`. -/
def sortedTimes (timeline : Dict Timestamp (V3CoreBar N)) : List Timestamp :=
  timeline.keys.mergeSort fun s t => decide (s ≤ t)

def considerAll (byInstrument : Timelines N) : Except PyError (CasesFound N) :=
  V3CoreSymbol.all.foldlM (fun found instrument =>
    (sortedTimes (byInstrument instrument)).foldlM
      (consider isoformat arguments instrument (byInstrument instrument)) found) ⟨[], []⟩

/-- `V3CoreCaseBuild(…)`. -/
def caseBuild (barCount : ℕ) (found : CasesFound N) : Except PyError (V3CoreCaseBuild N) :=
  if h : ∀ c ∈ found.cases, c.source.evidenceClass = arguments.source.evidenceClass then
    .ok ⟨arguments.source, barCount, found.cases, found.rejected, h⟩
  else .error (valueError "case evidence class must match the build evidence class")

/-- `build_v3core_cases`. Without bars all loops are empty, and so is the build. -/
def buildV3coreCases (bars : List (V3CoreBar N)) : Except PyError (V3CoreCaseBuild N) := do
  require (∀ bar ∈ bars, bar.source = arguments.source)
    (valueError "case input contains a source identity or snapshot substitution")
  let byInstrument ← bars.foldlM addBar noTimelines
  let found ← considerAll isoformat arguments byInstrument
  caseBuild arguments bars.length found

end Builder

end AdvisorAI.Cadence
