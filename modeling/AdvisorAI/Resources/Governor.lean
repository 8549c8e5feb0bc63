import AdvisorAI.Ledger.Sqlite
import AdvisorAI.Lib.Dict

/-!
# The resource governor

A workload is admitted against the caps of a mission mode and against what a probe
measures, and holds a lease until it is released. A process profile such as Browser or
Train is admitted under the mode it belongs to, after checks of its own and before a
second measurement, which may take the lease back.

The lease is held before it is written down: `admit_cases` and `admitProfile_cases` say
which lease a call leaves behind, whatever it returns or raises.
-/

namespace AdvisorAI

open Lib

/-! ## Vocabulary -/

inductive MissionMode where
  | tradeFast | standard | deep | builder | recovery
deriving DecidableEq

def MissionMode.value : MissionMode → String
  | .tradeFast => "trade_fast"
  | .standard => "standard"
  | .deep => "deep"
  | .builder => "builder"
  | .recovery => "recovery"

inductive WorkloadClass where
  | archive | browser | hermesSkillFoundry | lowPriorityResearch | trainingBacktests
  | optionalModelChallengers | noncriticalCollectors | remoteLlm | heavyDuckdb | cpuBound | gpu
  | accountOrderFillState | reconciliation | risk | killSwitch | criticalRawMarketPersistence
deriving DecidableEq

/-- Measured process profiles from the laptop envelope. -/
inductive ResourceProfile where
  | tradeFast | standard | deepBuilder | browser | train | archive
deriving DecidableEq

def ResourceProfile.value : ResourceProfile → String
  | .tradeFast => "trade_fast"
  | .standard => "standard"
  | .deepBuilder => "deep_builder"
  | .browser => "browser"
  | .train => "train"
  | .archive => "archive"

def criticalWorkloads : List WorkloadClass :=
  [.accountOrderFillState, .reconciliation, .risk, .killSwitch, .criticalRawMarketPersistence]

/-- Amounts of memory: the floating-point numbers of the source, with what it does to them. -/
class Gib (F : Type) where
  zero : F
  add : F → F → F
  sub : F → F → F
  sum : List F → F
  lt : F → F → Bool
  isFinite : F → Bool
  /-- A literal, in tenths. -/
  tenths : ℕ → F
  /-- `f"{value:.2f}"`. -/
  fixed2 : F → String

/-- The limits of a mode that the governor reads. -/
structure ModeConfig (F : Type) where
  mode : MissionMode
  memoryCeilingGib : F
  minimumHeadroomGib : F
  remoteLlmLimit : ℕ
  hermesLimit : ℕ
  browserLimit : ℕ
  heavyDuckdbLimit : ℕ
  cpuWorkerLimit : ℕ
  gpuJobsLimit : ℕ
  gpuJobsLimit_le : gpuJobsLimit ≤ 1
  hermesLimit_le : hermesLimit ≤ if mode ∈ [.deep, .builder, .recovery] then 1 else 0
  /-- Browser work uses a separate bounded browser profile. -/
  browserLimit_eq : browserLimit = 0
  workers_le : heavyDuckdbLimit ≤ 2 ∧ cpuWorkerLimit ≤ 2

section Requests

variable {F : Type} [Gib F]

def measuredAmount (amount : F) : Bool := Gib.isFinite amount && !Gib.lt amount Gib.zero

/-- Only an OS/process probe creates this input. -/
structure MeasuredResources (F : Type) [Gib F] where
  memoryUsedGib : F
  memoryAvailableGib : F
  gpuFreeMib : Option ℕ
  gpuTotalMib : Option ℕ
  observedAt : Timestamp
  memory_ok : (measuredAmount memoryUsedGib && measuredAmount memoryAvailableGib) = true
  gpu_le : ∀ free ∈ gpuFreeMib, ∀ total ∈ gpuTotalMib, free ≤ total

structure ResourceRequest (F : Type) [Gib F] where
  workload : WorkloadClass
  memoryReservationGib : F
  requiresGpu : Bool
  profile : Option ResourceProfile
  approvedFrozenInference : Bool
  headroomReviewed : Bool
  memory_ok : measuredAmount memoryReservationGib = true
  critical : workload ∈ criticalWorkloads → requiresGpu = false
  gpu : workload = .gpu → requiresGpu = true
  frozen : approvedFrozenInference = true → requiresGpu = true

structure ResourceLease (F : Type) [Gib F] where
  leaseId : UUID
  mode : MissionMode
  request : ResourceRequest F
  grantedAt : Timestamp
  profile : Option ResourceProfile

structure LeaseDecision (F : Type) [Gib F] where
  granted : Bool
  reason : String
  lease : Option (ResourceLease F)

def LeaseDecision.denied (reason : String) : LeaseDecision F := ⟨false, reason, none⟩

/-- `request.requires_gpu or request.workload is WorkloadClass.GPU`. -/
def ResourceRequest.usesGpu (request : ResourceRequest F) : Bool :=
  request.requiresGpu || request.workload = .gpu

/-! ## Admission checks -/

variable (active : List (ResourceLease F))

/-- How many of the active leases have the workload. -/
def workloadCount (workload : WorkloadClass) : ℕ :=
  (active.map fun lease => lease.request.workload).count workload

variable (config : ModeConfig F)

def concurrencyRejection (request : ResourceRequest F) (active : List (ResourceLease F)) :
    Option String :=
  let count := workloadCount active request.workload
  if request.workload = .remoteLlm ∧ config.remoteLlmLimit ≤ count then
    some (config.mode.value ++ " remote LLM cap reached")
  else if request.workload = .hermesSkillFoundry ∧ config.hermesLimit ≤ count then
    some (config.mode.value ++ " Hermes cap reached")
  else if request.workload = .browser ∧ request.profile ≠ some .browser
      ∧ config.browserLimit ≤ count then
    some (config.mode.value ++ " browser cap reached")
  else if request.workload = .heavyDuckdb ∧ config.heavyDuckdbLimit ≤ count then
    some (config.mode.value ++ " heavy DuckDB cap reached")
  else if request.workload = .cpuBound ∧ config.cpuWorkerLimit ≤ count then
    some (config.mode.value ++ " CPU worker cap reached")
  else if request.usesGpu
      ∧ config.gpuJobsLimit ≤ active.countP fun lease => lease.request.usesGpu then
    some "global GPU lease cap reached"
  else if request.workload = .trainingBacktests ∧ 1 ≤ count then
    some "one heavy backtest/trainer may run at a time"
  else none

def reservedMemory : F :=
  Gib.sum (active.map fun lease => lease.request.memoryReservationGib)

/-- The checks of `_admit` against the measurement. -/
def measuredRejection (mode : MissionMode) (measured : MeasuredResources F)
    (request : ResourceRequest F) (active : List (ResourceLease F)) : Option String :=
  let reserved := reservedMemory active
  let usage := Gib.add (Gib.add measured.memoryUsedGib reserved) request.memoryReservationGib
  let available :=
    Gib.sub (Gib.sub measured.memoryAvailableGib reserved) request.memoryReservationGib
  if Gib.lt config.memoryCeilingGib usage then
    some ("measured/projected memory " ++ Gib.fixed2 usage ++ " GiB exceeds " ++ mode.value
      ++ " ceiling " ++ Gib.fixed2 config.memoryCeilingGib ++ " GiB")
  else if Gib.lt available config.minimumHeadroomGib then
    some ("projected available memory " ++ Gib.fixed2 available ++ " GiB is below "
      ++ "required headroom " ++ Gib.fixed2 config.minimumHeadroomGib ++ " GiB")
  else if request.usesGpu ∧ measured.gpuFreeMib = none then
    some "GPU measurement unavailable; refusing GPU admission"
  else if mode = .tradeFast ∧ request.requiresGpu ∧ ¬request.approvedFrozenInference then
    some "Trade/Fast GPU work requires an explicitly approved frozen inference model"
  else none

variable (deep : ModeConfig F) (measure : Except PyError (MeasuredResources F))

/-- The browser/GPU overlap of `_admit_profile`. The probe is only asked once the headroom is
said to be reviewed. -/
def overlapRejection (profile : ResourceProfile) (request : ResourceRequest F)
    (active : List (ResourceLease F)) :
    Except PyError (Option String) :=
  if ¬(profile = .browser ∧ active.any fun lease => lease.request.usesGpu) then .ok none
  else if request.headroomReviewed = false then
    .ok (some "browser profile pauses GPU work unless measured headroom is reviewed")
  else do
    let measured ← measure
    let headroom := Gib.sub (Gib.sub measured.memoryAvailableGib (reservedMemory active))
      request.memoryReservationGib
    if Gib.lt headroom deep.minimumHeadroomGib then
      return some ("browser/GPU overlap requires " ++ Gib.fixed2 deep.minimumHeadroomGib
        ++ " GiB measured headroom; projected " ++ Gib.fixed2 headroom ++ " GiB")
    else if measured.gpuFreeMib.all fun free => free = 0 then
      return some "browser/GPU overlap requires a measured positive GPU headroom"
    else return none

/-- The checks of `_admit_profile`, before it asks for a lease under a mode. -/
def profileRejection (profile : ResourceProfile) (request : ResourceRequest F)
    (active : List (ResourceLease F)) :
    Except PyError (Option String) := do
  let profiles := active.map fun lease => lease.profile
  if request.profile ≠ none ∧ request.profile ≠ some profile then
    return some "resource request profile mismatch"
  else if profile = .browser ∧ some .browser ∈ profiles then
    return some "global browser profile cap reached"
  else
    let overlap ← overlapRejection deep measure profile request active
    match overlap with
    | some reason => return some reason
    | none =>
      if profile = .train ∧ (some .browser ∈ profiles ∨ some .train ∈ profiles) then
        return some "training requires an exclusive GPU/build profile"
      else if profile = .train
          ∧ .hermesSkillFoundry ∈ active.map fun lease => lease.request.workload then
        return some "training requires Hermes to be stopped"
      else if profile = .browser ∧ (request.workload ≠ .browser ∨ request.requiresGpu) then
        return some "Browser profile requires a non-GPU browser workload"
      else if profile = .train
          ∧ (request.workload ≠ .trainingBacktests ∨ request.requiresGpu = false) then
        return some "Train profile requires one GPU-backed training/backtest workload"
      else if profile = .archive ∧ request.requiresGpu then
        return some "Archive profile cannot use the GPU"
      else return none

/-- `mode_by_profile`. -/
def ResourceProfile.missionMode : ResourceProfile → MissionMode
  | .tradeFast => .tradeFast
  | .standard => .standard
  | .deepBuilder => .deep
  | .browser => .deep
  | .train => .deep
  | .archive => .tradeFast

/-- `upper_bounds`. -/
def ResourceProfile.upperBound : ResourceProfile → F
  | .tradeFast => Gib.tenths 65
  | .standard => Gib.tenths 85
  | .deepBuilder => Gib.tenths 90
  | .browser => Gib.tenths 80
  | .train => Gib.tenths 90
  | .archive => Gib.tenths 65

/-! ## The ledger -/

/-- What the governor writes into the CAPABILITY ledger, and what others do. -/
inductive ResourcePayload (F : Type) where
  | measurement (mode : MissionMode) (workload : WorkloadClass) (memoryUsedGib memoryAvailableGib : F)
      (gpuFreeMib gpuTotalMib : Option ℕ) (observedAt : Timestamp)
  | lease (leaseId : UUID) (mode : MissionMode) (workload : WorkloadClass)
      (memoryReservationGib : F) (requiresGpu : Bool) (profile : Option ResourceProfile)
  | other (json : String)
deriving DecidableEq

abbrev ResourceRow (F : Type) := LedgerEvent String (ResourcePayload F)

structure ResourceAppend where
  eventId : UUID
  fault : Option PyError

structure GovernorWorld (F : Type) [Gib F] where
  leases : Dict UUID (ResourceLease F)
  rows : List (ResourceRow F)

structure ResourceGovernor (F : Type) where
  configs : MissionMode → ModeConfig F
  /-- Whether it has ledgers. -/
  ledgers : Bool
  /-- The digest of a measurement. -/
  digest : ResourcePayload F → String

/-- What a call of `admit` draws and meets. -/
structure AdmitSurroundings (F : Type) [Gib F] where
  measured : Except PyError (MeasuredResources F)
  measurement : ResourceAppend
  leaseId : UUID
  grantedAt : Timestamp
  admitted : ResourceAppend

/-- What a call of `admit_profile` draws and meets. -/
structure ProfileSurroundings (F : Type) [Gib F] where
  overlap : Except PyError (MeasuredResources F)
  admission : AdmitSurroundings F
  remeasured : Except PyError (MeasuredResources F)
  released : ResourceAppend

end Requests

namespace ResourceGovernor

variable {F : Type} [Gib F] [DecidableEq F] (g : ResourceGovernor F) (a : ResourceAppend)

/-- An append of the governor; without ledgers there is none. -/
def append (row : ResourceRow F) (w : GovernorWorld F) :
    Except PyError Unit × GovernorWorld F :=
  if g.ledgers = false then (.ok (), w)
  else
    let (result, rows) := SqliteLedgers.appendUnder a.fault w.rows row
    (result.map fun _ => (), { w with rows := rows })

def recordMeasurement (mode : MissionMode) (request : ResourceRequest F) (m : MeasuredResources F)
    (w : GovernorWorld F) : Except PyError Unit × GovernorWorld F :=
  let payload : ResourcePayload F := .measurement mode request.workload m.memoryUsedGib
    m.memoryAvailableGib m.gpuFreeMib m.gpuTotalMib m.observedAt
  g.append a ⟨a.eventId, "resource_measurement_recorded",
    "resource-measurement:" ++ g.digest payload, m.observedAt, payload⟩ w

def recordLease (eventType : String) (lease : ResourceLease F) (w : GovernorWorld F) :
    Except PyError Unit × GovernorWorld F :=
  g.append a ⟨a.eventId, eventType,
    "resource-lease:" ++ uuidText lease.leaseId ++ ":" ++ eventType, lease.grantedAt,
    .lease lease.leaseId lease.mode lease.request.workload lease.request.memoryReservationGib
      lease.request.requiresGpu lease.profile⟩ w

/-- `admit`. -/
def admitRequest (mode : MissionMode) (request : ResourceRequest F) (s : AdmitSurroundings F)
    (w : GovernorWorld F) : Except PyError (LeaseDecision F) × GovernorWorld F :=
  match s.measured with
  | .error e => (.error e, w)
  | .ok measured =>
    match g.recordMeasurement s.measurement mode request measured w with
    | (.error e, w) => (.error e, w)
    | (.ok (), w) =>
      match concurrencyRejection (g.configs mode) request w.leases.values with
      | some reason => (.ok (.denied reason), w)
      | none =>
        match measuredRejection (g.configs mode) mode measured request w.leases.values with
        | some reason => (.ok (.denied reason), w)
        | none =>
          let lease : ResourceLease F := ⟨s.leaseId, mode, request, s.grantedAt, request.profile⟩
          match g.recordLease s.admitted "resource_lease_admitted" lease
              { w with leases := w.leases.set s.leaseId lease } with
          | (.error e, w) => (.error e, w)
          | (.ok (), w) => (.ok ⟨true, "admitted from measured resource state", some lease⟩, w)

def release (leaseId : UUID) (a : ResourceAppend) (w : GovernorWorld F) :
    Except PyError Unit × GovernorWorld F :=
  match w.leases.get leaseId with
  | none => (.ok (), w)
  | some lease =>
    g.recordLease a "resource_lease_released" lease { w with leases := w.leases.erase leaseId }

def admitProfile (profile : ResourceProfile) (request : ResourceRequest F)
    (s : ProfileSurroundings F) (w : GovernorWorld F) :
    Except PyError (LeaseDecision F) × GovernorWorld F :=
  match profileRejection (g.configs .deep) s.overlap profile request w.leases.values with
  | .error e => (.error e, w)
  | .ok (some reason) => (.ok (.denied reason), w)
  | .ok none =>
    match g.admitRequest profile.missionMode { request with profile := some profile } s.admission w with
    | (.error e, w) => (.error e, w)
    | (.ok decision, w) =>
      match decision.lease with
      | none => (.ok decision, w)
      | some lease =>
        match s.remeasured with
        | .error e => (.error e, w)
        | .ok measured =>
          let usage := Gib.add measured.memoryUsedGib request.memoryReservationGib
          if Gib.lt profile.upperBound usage then
            match g.release lease.leaseId s.released w with
            | (.error e, w) => (.error e, w)
            | (.ok (), w) =>
              (.ok (.denied ("measured/profile memory " ++ Gib.fixed2 usage ++ " GiB is outside "
                ++ profile.value ++ " envelope")), w)
          else (.ok decision, w)

end ResourceGovernor

end AdvisorAI
