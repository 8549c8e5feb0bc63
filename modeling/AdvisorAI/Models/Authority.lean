import AdvisorAI.Gates
import AdvisorAI.Lib.Dict
import AdvisorAI.Lib.Prog

/-!
# The model inventory

`ModelInventory` keeps one record per model version: its card and, once it was
disabled, the reason. Registration, disablement and promotion append their event
to the MODEL ledger first and change the memory afterwards; the constructor
replays the events. A record is authoritative when it is not disabled and its
card stands at `champion` or `active_read`.

The inventory has no operation that re-enables a model. `promote` moves a card
one step along challenger, shadow, paper, champion and stores a new record for
it; that record carries no reason.
-/

namespace AdvisorAI

open Lib

/-! ## Cards, evidence and records -/

@[ext]
structure ModelCard where
  artifactId : UUID
  createdAt : Timestamp
  modelName : String
  modelVersion : String
  role : String
  dataHash : Digest
  codeHash : Digest
  trainingCutoff : Timestamp
  calibrationVersion : Option String := none
  supportLimits : List String := []
  failureRegimes : List String := []
  lifecycleState : String
  modelFamily : Option String := none
  independentOf : List String := []
  evaluationHash : Option Digest := none
  netUtilityAfterCosts : Option Decimal := none
  calibrationScore : Option Decimal := none
  resourceEnvelope : Option String := none
  texts_normal : ∀ t ∈ [modelName, modelVersion, role], isBlank t = false ∧ strip t = t
  options_ne : ∀ t ∈ modelFamily.toList ++ resourceEnvelope.toList, isBlank t = false
  independentOf_normal : (∀ t ∈ independentOf, isBlank t = false) ∧ independentOf.Nodup
  calibrationScore_range : ∀ s ∈ calibrationScore, 0 ≤ s.value ∧ s.value ≤ 1

instance : DecidableEq ModelCard := fun _ _ =>
  decidable_of_iff' _ ModelCard.ext_iff

variable (card : ModelCard)

def ModelCard.key : String × String := (card.modelName, card.modelVersion)

/-- Reproducible evidence required before a model leaves challenger state. -/
@[ext]
structure ModelAdmissionEvidence where
  modelName : String
  modelVersion : String
  evaluationHash : Digest
  baselineNetUtility : Decimal
  candidateNetUtility : Decimal
  pastOnly : Bool
  calibrated : Bool
  resourceLimitPassed : Bool
  usefulRiskInformation : Bool
  independentReview : Bool
  reviewer : String
  benchmarkHash : Option Digest
  maxErrorCorrelation : Option Decimal
  regimeFailures : List String
  latencyMs : Option Nat
  peakRamMib : Option Nat
  peakVramMib : Option Nat
  identity_normal : ∀ t ∈ [modelName, modelVersion, reviewer], isBlank t = false ∧ strip t = t
  maxErrorCorrelation_range : ∀ c ∈ maxErrorCorrelation, -1 ≤ c.value ∧ c.value ≤ 1
  regimeFailures_normal : (∀ t ∈ regimeFailures, isBlank t = false) ∧ regimeFailures.Nodup

instance : DecidableEq ModelAdmissionEvidence := fun _ _ =>
  decidable_of_iff' _ ModelAdmissionEvidence.ext_iff

structure ModelAuthority where
  card : ModelCard
  disabledReason : Option String
deriving DecidableEq

/-- The lifecycle states that carry authority. -/
def authoritativeStates : List String := ["champion", "active_read"]

def ModelAuthority.authoritative (a : ModelAuthority) : Bool :=
  decide (a.disabledReason = none) && decide (a.card.lifecycleState ∈ authoritativeStates)

/-! ## Promotion -/

def lifecycleOrder : List String := ["challenger", "shadow", "paper", "champion"]

def lifecycleStates : List String :=
  ["challenger", "shadow", "paper", "active_read", "champion", "retired"]

/-- `_LIFECYCLE_ORDER.index(state)`. -/
def lifecycleIndex (state : String) : Except PyError Nat :=
  if state ∈ lifecycleOrder then .ok (lifecycleOrder.idxOf state)
  else .error (valueError "tuple.index(x): x not in tuple")

variable (target : String) (evidence : ModelAdmissionEvidence)

/-- `prior.card.model_copy(update={...})`: the card after its promotion. -/
def ModelCard.promoted :
    ModelCard :=
  { card with
    lifecycleState := target
    evaluationHash := some evidence.evaluationHash
    netUtilityAfterCosts := some evidence.candidateNetUtility }

@[simp] theorem ModelCard.promoted_key :
    (card.promoted target evidence).key = card.key := rfl

@[simp] theorem ModelCard.promoted_lifecycleState :
    (card.promoted target evidence).lifecycleState = target := rfl

variable (prior updated : String)

/-- The new state is the one after the old one. -/
def nextInLifecycle : Bool :=
  decide (lifecycleOrder.idxOf updated = lifecycleOrder.idxOf prior + 1)

def invalidTransition : PyError :=
  valueError ("invalid model lifecycle transition " ++ prior ++ "->" ++ updated)

/-- The candidate is worth more than the baseline. -/
def ModelAdmissionEvidence.improves : Bool :=
  decide (evidence.baselineNetUtility.value < evidence.candidateNetUtility.value)

def validatePromotion (prior updated : ModelCard) (evidence : ModelAdmissionEvidence) :
    Except PyError Unit :=
  if (evidence.modelName, evidence.modelVersion) ≠ updated.key then
    .error (valueError "model admission evidence identity does not match the model")
  else if updated.evaluationHash ≠ some evidence.evaluationHash then
    .error (valueError "model card evaluation hash does not match admission evidence")
  else if prior.lifecycleState ∉ lifecycleOrder ∨ updated.lifecycleState ∉ lifecycleOrder then
    .error (valueError "model promotion lifecycle state is not promotable")
  else if nextInLifecycle prior.lifecycleState updated.lifecycleState = false then
    .error (invalidTransition prior.lifecycleState updated.lifecycleState)
  else if (evidence.pastOnly && evidence.calibrated && evidence.resourceLimitPassed) = false then
    .error (valueError "model promotion requires past-only calibrated resource evidence")
  else if updated.lifecycleState ∈ ["paper", "champion"] ∧
      (evidence.improves || evidence.usefulRiskInformation) = false then
    .error (valueError
      "paper/champion promotion requires positive marginal utility or useful risk information")
  else if updated.lifecycleState = "champion" ∧
      (evidence.independentReview && evidence.improves) = false then
    .error (valueError "champion promotion requires independent positive marginal utility")
  else .ok ()

/-! ## The ledger -/

inductive ModelEventType where
  | modelRegistered | modelPromoted | modelDisabled
  | other (name : String)
deriving DecidableEq

def ModelEventType.name : ModelEventType → String
  | .modelRegistered => "model_registered"
  | .modelPromoted => "model_promoted"
  | .modelDisabled => "model_disabled"
  | .other name => name

inductive ModelPayload where
  | card (card : ModelCard) (actor : String) (reason : Option String)
      (evidence : Option ModelAdmissionEvidence)
  /-- The payload of another writer, as its JSON text. -/
  | other (json : String)
deriving DecidableEq

abbrev ModelEvent := LedgerEvent ModelEventType ModelPayload

abbrev ModelRecords := Dict (String × String) ModelAuthority

def hydrateModel (models : ModelRecords) (event : ModelEvent) : Except PyError ModelRecords :=
  match event.eventType, event.payload with
  | .other _, _ => .ok models
  | _, .other _ => .error (valueError "model ledger contains an invalid model card payload")
  | .modelRegistered, .card card _ _ _ =>
    if card.lifecycleState ∉ lifecycleStates then
      .error (valueError "model ledger contains an unknown lifecycle state")
    else if (models.get card.key).any fun prior => prior.card ≠ card then
      .error (valueError "model ledger registration is not immutable")
    else .ok (models.set card.key ⟨card, none⟩)
  | .modelPromoted, .card card _ _ evidence =>
    match models.get card.key with
    | none => .error (valueError "model promotion precedes registration")
    | some prior =>
      match evidence with
      | none => .error (valueError "model promotion requires admission evidence")
      | some evidence =>
        match validatePromotion prior.card card evidence with
        | .error e => .error e
        | .ok () => .ok (models.set card.key ⟨card, none⟩)
  | .modelDisabled, .card card _ reason _ =>
    if models.get card.key = none then
      .error (valueError "model ledger disablement precedes registration")
    else match reason with
      | none => .error (valueError "model ledger disablement requires a reason")
      | some reason =>
        if strip reason = "" then
          .error (valueError "model ledger disablement requires a reason")
        else .ok (models.set card.key ⟨card, some reason⟩)

/-- `_hydrate`. -/
def hydrateModels (events : List ModelEvent) : Except PyError ModelRecords :=
  Journal.replay hydrateModel Dict.empty events

/-- The ledger, the records of the running process and the next unused event id. -/
structure ModelWorld where
  modelEvents : List ModelEvent
  models : ModelRecords
  nextEventId : UUID

/-- A new ledger and the inventory constructed on it. -/
def ModelWorld.init : ModelWorld := ⟨[], Dict.empty, 0⟩

abbrev ModelOps := Prog ModelWorld PyError

/-- The clock and the gate registry during one operation. -/
structure InventorySurroundings where
  now : Timestamp
  gateRegistry : Option PhaseGateRegistry

/-! ## The operations -/

section Operations

variable (canonicalHash : ModelCard → Digest) (env : InventorySurroundings)

/-- `f"model:{model_name}:{model_version}:{event_type}:{canonical_hash}"`. -/
def modelKey (card : ModelCard) (eventType : ModelEventType) : String :=
  "model:" ++ card.modelName ++ ":" ++ card.modelVersion ++ ":" ++ eventType.name ++ ":"
    ++ (canonicalHash card).text

/-- `_record`. -/
def recordModel (card : ModelCard) (eventType : ModelEventType) (actor : String)
    (reason : Option String) (evidence : Option ModelAdmissionEvidence) : ModelOps Unit :=
  Prog.atomic fun w =>
    let event : ModelEvent := ⟨w.nextEventId, eventType, modelKey canonicalHash card eventType,
      env.now, .card card actor reason evidence⟩
    match SqliteLedgers.append w.modelEvents event with
    | (.ok _, events) => (.ok (), { w with modelEvents := events, nextEventId := w.nextEventId + 1 })
    | (.error e, events) =>
      (.error e, { w with modelEvents := events, nextEventId := w.nextEventId + 1 })

variable (key : String × String)

/-- `self._models[key] = authority`. -/
def setModel (authority : ModelAuthority) : ModelOps Unit :=
  Prog.atomic fun w => (.ok (), { w with models := w.models.set key authority })

/-- `self._models[key]`. -/
def getModel : ModelOps ModelAuthority := do
  match ← Prog.read fun w => w.models.get key with
  | some prior => pure prior
  | none => Prog.raise ⟨"KeyError", "(" ++ pyRepr key.1 ++ ", " ++ pyRepr key.2 ++ ")"⟩

/-- `register`. -/
def registerModel (card : ModelCard) : ModelOps ModelAuthority :=
  if card.lifecycleState ∉ lifecycleStates then
    Prog.raise (valueError ("unknown model lifecycle state: " ++ card.lifecycleState))
  else do
    match ← Prog.read fun w => w.models.get card.key with
    | some prior =>
      if prior.card ≠ card then Prog.raise (valueError "model version is immutable")
      else pure prior
    | none => do
      recordModel canonicalHash env card .modelRegistered "inventory" none none
      setModel card.key ⟨card, none⟩
      pure ⟨card, none⟩

/-- `disable`. -/
def disableModel (modelName modelVersion reason : String) : ModelOps ModelAuthority :=
  let key := (strip modelName, strip modelVersion)
  let reason := strip reason
  if key.1 = "" ∨ key.2 = "" ∨ reason = "" then
    Prog.raise (valueError "model disablement requires a reason")
  else do
    let prior ← getModel key
    recordModel canonicalHash env prior.card .modelDisabled "operator" (some reason) none
    setModel key ⟨prior.card, some reason⟩
    pure ⟨prior.card, some reason⟩

/-- The gate in front of paper and champion states. -/
def gateCheck (target : String) : Except PyError Unit :=
  if target ∈ ["paper", "champion"] then
    match env.gateRegistry with
    | none => .ok ()
    | some gates =>
      match gates.requireAdmitted env.now 4 "paper/champion model" with
      | .ok () => .ok ()
      | .error e => .error (if e.typeName = "PermissionError" then valueError e.message else e)
  else .ok ()

/-- The checks of `promote` before the card is updated. -/
def promotionAllowed (prior target : String) : Except PyError Unit :=
  match lifecycleIndex prior, lifecycleIndex target with
  | .ok current, .ok next =>
    if next ≠ current + 1 then .error (invalidTransition prior target) else .ok ()
  | .error e, _ => .error e
  | .ok _, .error e => .error e

/-- `promote`: move a model through challenger/shadow/paper/champion with evidence. -/
def promoteModel (modelName modelVersion target : String) (evidence : ModelAdmissionEvidence) :
    ModelOps ModelAuthority :=
  let key := (strip modelName, strip modelVersion)
  if key.1 = "" ∨ key.2 = "" then
    Prog.raise (valueError "model promotion requires model identity")
  else do
    let prior ← getModel key
    let target := lower (strip target)
    if target ∉ lifecycleOrder then
      Prog.raise (valueError ("unknown model promotion state: " ++ target))
    else do
      Prog.lift (gateCheck env target)
      Prog.lift (promotionAllowed prior.card.lifecycleState target)
      let updated := prior.card.promoted target evidence
      Prog.lift (validatePromotion prior.card updated evidence)
      recordModel canonicalHash env updated .modelPromoted evidence.reviewer none (some evidence)
      setModel key ⟨updated, none⟩
      pure ⟨updated, none⟩

end Operations

end AdvisorAI
