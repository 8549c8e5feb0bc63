import AdvisorAI.Contracts.AuthorityActions
import AdvisorAI.Gates
import AdvisorAI.Lib.Dict
import AdvisorAI.Lib.Prog

/-!
# The capability registry and its broker

A capability enters the registry at the `gap` stage and is promoted one stage at a
time; every registration and promotion is appended to the CAPABILITY ledger before the
memory changes, and the constructor replays the events. A card is kept under the text
`name:version`. The broker hands an executor out for a card that is active and an action
the card declares.
-/

namespace AdvisorAI

open Lib

/-! ## Cards -/

inductive CapabilityLifecycle where
  | gap | scout | pin | inspect | sandbox | wrapBuild | contractTested | securityTested
  | performanceBenchmarked | shadow | activeRead | activeWriteLimited | deprecated
deriving DecidableEq, Repr

def CapabilityLifecycle.value : CapabilityLifecycle → String
  | .gap => "gap"
  | .scout => "scout"
  | .pin => "pin"
  | .inspect => "inspect"
  | .sandbox => "sandbox"
  | .wrapBuild => "wrap_build"
  | .contractTested => "contract_tested"
  | .securityTested => "security_tested"
  | .performanceBenchmarked => "performance_benchmarked"
  | .shadow => "shadow"
  | .activeRead => "active_read"
  | .activeWriteLimited => "active_write_limited"
  | .deprecated => "deprecated"

/-- `LIFECYCLE_ORDER`. -/
def capabilityLifecycleOrder : List CapabilityLifecycle :=
  [.gap, .scout, .pin, .inspect, .sandbox, .wrapBuild, .contractTested, .securityTested,
    .performanceBenchmarked, .shadow, .activeRead, .activeWriteLimited, .deprecated]

/-- `LIFECYCLE_ORDER.index(stage)`. -/
def CapabilityLifecycle.index (stage : CapabilityLifecycle) : Nat :=
  capabilityLifecycleOrder.idxOf stage

def activeStages : List CapabilityLifecycle := [.activeRead, .activeWriteLimited]

inductive CapabilitySourceGrade where
  | execution | research | context
deriving DecidableEq, Repr

/-- `SourceGrade(text)`. -/
def CapabilitySourceGrade.parse (text : String) : Option CapabilitySourceGrade :=
  if text = "execution_grade" then some .execution
  else if text = "research_grade" then some .research
  else if text = "context_only" then some .context
  else none

@[ext]
structure CapabilityCard where
  artifactId : UUID
  createdAt : Timestamp
  name : String
  capabilityVersion : String
  lifecycle : CapabilityLifecycle
  inputs : List String
  outputs : List String
  allowedActions : List String
  secretsRequired : List String := []
  networkRequired : Bool := false
  resourceEnvelope : String
  latencyClass : String
  deterministic : Bool
  sourceGrade : Option CapabilitySourceGrade := none
  failureModes : List String := []
  testReferences : List String
  score : Option Decimal := none
  allowedActions_normal : ∃ given : List String,
    allowedActions = given.map normalizeAuthorityAction ∧ ∀ action ∈ given, isBlank action = false
  allowedActions_allowed : ∀ action ∈ allowedActions, isForbiddenAuthorityAction action = false
  allowedActions_nodup : allowedActions.Nodup
  texts_ne : ∀ text ∈ [name, capabilityVersion, resourceEnvelope, latencyClass],
    isBlank text = false
  inputs_ne : inputs ≠ []
  outputs_ne : outputs ≠ []

instance : DecidableEq CapabilityCard := fun _ _ =>
  decidable_of_iff' _ CapabilityCard.ext_iff

namespace CapabilityCard

/-- `f"{name}:{version}"`. -/
def keyOf (name version : String) : String := name ++ ":" ++ version

variable (card : CapabilityCard)

def key : String := keyOf card.name card.capabilityVersion

variable (stage : CapabilityLifecycle)

/-- `card.model_copy(update={"lifecycle": stage})`. -/
def atStage : CapabilityCard :=
  { card with lifecycle := stage }

@[simp] theorem atStage_key :
    (card.atStage stage).key = card.key := rfl

@[simp] theorem atStage_lifecycle :
    (card.atStage stage).lifecycle = stage := rfl

@[simp] theorem atStage_self : card.atStage card.lifecycle = card := rfl

/-- Equal cards: scores are compared as numbers. -/
def same (a b : CapabilityCard) : Bool :=
  decide (a.score.map Decimal.value = b.score.map Decimal.value ∧
    { a with score := none } = { b with score := none })

end CapabilityCard

/-! ## Collector candidates -/

structure CollectorCandidate where
  name : String
  interfaceVersion : String
  sourceGrade : String
  contractTests : List String
  securityTests : List String
  performanceBenchmark : String
  texts_ne : ∀ text ∈ [name, interfaceVersion, sourceGrade, performanceBenchmark], text ≠ ""
  contractTests_ne : contractTests ≠ []
  securityTests_ne : securityTests ≠ []
  tests_ne : ∀ test ∈ contractTests ++ securityTests, isBlank test = false

theorem oneItem_ne (item : String) : [item] ≠ [] := List.cons_ne_nil item []

/-- `collector_capability_card`, with the defaults of its keyword arguments. -/
def collectorCapabilityCard (artifactId : UUID) (createdAt : Timestamp)
    (candidate : CollectorCandidate) : Except PyError CapabilityCard :=
  match CapabilitySourceGrade.parse (lower (strip candidate.sourceGrade)) with
  | none => .error (valueError "collector candidate has an unsupported source grade")
  | some sourceGrade =>
    if h : isBlank candidate.name = true ∨ isBlank candidate.interfaceVersion = true then
      .error (valueError "capability name and version are required")
    else .ok {
      artifactId
      createdAt
      name := strip candidate.name
      capabilityVersion := strip candidate.interfaceVersion
      lifecycle := .gap
      inputs := ["snapshot"]
      outputs := ["observations"]
      allowedActions := ["read_source"]
      secretsRequired := []
      networkRequired := false
      resourceEnvelope := "small"
      latencyClass := "bounded"
      deterministic := true
      sourceGrade := some sourceGrade
      failureModes := ["source_unavailable", "parse_error", "quality_rejected"]
      testReferences :=
        candidate.contractTests.map (fun reference => strip ("contract:" ++ reference))
          ++ candidate.securityTests.map (fun reference => strip ("security:" ++ reference))
          ++ [strip ("performance:" ++ candidate.performanceBenchmark)]
      score := none
      allowedActions_normal := ⟨["read_source"], by decide +kernel, by decide +kernel⟩
      allowedActions_allowed := by decide +kernel
      allowedActions_nodup := List.nodup_singleton _
      texts_ne := by
        rw [not_or, Bool.not_eq_true, Bool.not_eq_true] at h
        intro text htext
        simp only [List.mem_cons, List.not_mem_nil, or_false] at htext
        rcases htext with rfl | rfl | rfl | rfl
        · rw [isBlank_strip, h.1]
        · rw [isBlank_strip, h.2]
        · decide
        · decide
      inputs_ne := oneItem_ne "snapshot"
      outputs_ne := oneItem_ne "observations" }

/-! ## The ledger -/

inductive CapabilityEventType where
  | capabilityRegistered | capabilityTransitioned
  | other (name : String)
deriving DecidableEq

inductive CapabilityPayload where
  | card (card : CapabilityCard) (actor : String) (humanApproval : Bool)
  /-- The payload of another writer, as its JSON text. -/
  | other (json : String)
deriving DecidableEq

abbrev CapabilityEvent := LedgerEvent CapabilityEventType CapabilityPayload

abbrev CapabilityCards := Dict String CapabilityCard

def capabilityPermissionError (message : String) : PyError :=
  ⟨"CapabilityPermissionError", message⟩

def validateTransition (card : CapabilityCard) (target : CapabilityLifecycle) :
    Except PyError Unit :=
  if target.index ≠ card.lifecycle.index + 1 ∧ target ≠ .deprecated then
    .error (valueError ("invalid capability lifecycle transition " ++ card.lifecycle.value ++ "->"
      ++ target.value))
  else .ok ()

def hydrateCapability (cards : CapabilityCards) (event : CapabilityEvent) :
    Except PyError CapabilityCards :=
  match event.eventType, event.payload with
  | .other _, _ => .ok cards
  | _, .other _ => .error (valueError "capability ledger contains an invalid card payload")
  | .capabilityRegistered, .card card actor _ =>
    if card.lifecycle ≠ .gap then
      .error (valueError "capability ledger registration must begin at gap")
    else if isBlank actor then
      .error (valueError "capability ledger registration requires an actor")
    else if (cards.get card.key).any fun prior => !prior.same card then
      .error (valueError "capability ledger registration is not immutable")
    else .ok (cards.set card.key card)
  | .capabilityTransitioned, .card card actor humanApproval =>
    match cards.get card.key with
    | none => .error (valueError "capability ledger transition precedes registration")
    | some prior =>
      if isBlank actor then
        .error (valueError "capability ledger transition requires an actor")
      else if card.lifecycle = .activeWriteLimited ∧ humanApproval = false then
        .error (valueError "active-write capability ledger transition requires human approval")
      else match validateTransition prior card.lifecycle with
        | .error e => .error e
        | .ok () => .ok (cards.set card.key card)

/-- `_hydrate`. -/
def hydrateCapabilities (events : List CapabilityEvent) : Except PyError CapabilityCards :=
  Journal.replay hydrateCapability Dict.empty events

/-- The ledger, the cards of the running process and the next unused event id. -/
structure CapabilityWorld where
  capabilityEvents : List CapabilityEvent
  cards : CapabilityCards
  nextEventId : UUID

/-- A new ledger and the registry constructed on it. -/
def CapabilityWorld.init : CapabilityWorld := ⟨[], Dict.empty, 0⟩

abbrev CapabilityOps := Prog CapabilityWorld PyError

/-- The clock, the gates and the failures of the database during one operation, and the
id of the artifact it makes. -/
structure CapabilitySurroundings where
  now : Timestamp
  artifactId : UUID
  gateRegistry : Option PhaseGateRegistry
  faults : UUID → Option PyError

/-! ## The operations -/

section Operations

variable (canonicalHash : CapabilityCard → Digest) (env : CapabilitySurroundings)

variable (card : CapabilityCard)

def capabilityKey : String :=
  "capability:" ++ card.name ++ ":" ++ card.capabilityVersion ++ ":" ++ card.lifecycle.value ++ ":"
    ++ (canonicalHash card).text

/-- `_record`. -/
def recordCapability (eventType : CapabilityEventType) (actor : String) (humanApproval : Bool) :
    CapabilityOps Unit :=
  Prog.atomic fun w =>
    let event : CapabilityEvent := ⟨w.nextEventId, eventType, capabilityKey canonicalHash card,
      env.now, .card card actor humanApproval⟩
    match SqliteLedgers.appendUnder (env.faults w.nextEventId) w.capabilityEvents event with
    | (.ok _, events) =>
      (.ok (), { w with capabilityEvents := events, nextEventId := w.nextEventId + 1 })
    | (.error e, events) =>
      (.error e, { w with capabilityEvents := events, nextEventId := w.nextEventId + 1 })

/-- `self._cards[key] = card`. -/
def setCard (key : String) (card : CapabilityCard) : CapabilityOps Unit :=
  Prog.atomic fun w => (.ok (), { w with cards := w.cards.set key card })

/-- `register`. -/
def registerCapability : CapabilityOps CapabilityCard :=
  if card.lifecycle ≠ .gap then
    Prog.raise (valueError "capabilities must enter the registry at the gap lifecycle")
  else do
    match ← Prog.read fun w => w.cards.get card.key with
    | some prior =>
      if prior.same card = false then Prog.raise (valueError "capability version is immutable")
      else pure card
    | none => do
      recordCapability canonicalHash env card .capabilityRegistered "registry" false
      setCard card.key card
      pure card

/-- `get`. -/
def getCard (cards : CapabilityCards) (name version : String) : Except PyError CapabilityCard :=
  match cards.get (CapabilityCard.keyOf name version) with
  | some card => .ok card
  | none => .error ⟨"KeyError", "unknown capability " ++ name ++ ":" ++ version⟩

variable (target : CapabilityLifecycle)

def activeGate : Except PyError Unit :=
  match env.gateRegistry with
  | none => .ok ()
  | some gates =>
    if target ∈ activeStages then
      match gates.requireAdmitted env.now 8 "active capability" with
      | .ok () => .ok ()
      | .error e =>
        .error (if e.typeName = "PermissionError" then capabilityPermissionError e.message else e)
    else .ok ()

def requiredReference : CapabilityLifecycle → Option String
  | .contractTested => some "contract"
  | .securityTested => some "security"
  | .performanceBenchmarked => some "performance"
  | _ => none

/-- The references of a card let it enter a stage. -/
def checkReferences : Except PyError Unit :=
  match requiredReference target with
  | none => .ok ()
  | some required =>
    if card.testReferences = [] then
      .error (valueError (target.value ++ " requires recorded test references"))
    else if card.testReferences.any (fun reference => containsText required (lower reference)) =
        false then
      .error (valueError (target.value ++ " requires a " ++ required ++ " test reference"))
    else .ok ()

/-- `promote`. -/
def promoteCapability (name version : String) (target : CapabilityLifecycle) (actor : String)
    (humanApproval : Bool) : CapabilityOps CapabilityCard := do
  let cards ← Prog.read fun w => w.cards
  let card ← Prog.lift (getCard cards name version)
  if target = .activeWriteLimited ∧ humanApproval = false then
    Prog.raise (capabilityPermissionError "active-write-limited requires explicit human approval")
  else do
    Prog.lift (activeGate env target)
    if isBlank actor then
      Prog.raise (capabilityPermissionError
        "every capability transition requires a named actor")
    else do
      Prog.lift (validateTransition card target)
      Prog.lift (checkReferences card target)
      let updated := card.atStage target
      recordCapability canonicalHash env updated .capabilityTransitioned actor humanApproval
      setCard (CapabilityCard.keyOf name version) updated
      pure updated

variable (candidate : CollectorCandidate)

def registerCollectorCandidate : CapabilityOps CapabilityCard := do
  let card ← Prog.lift (collectorCapabilityCard env.artifactId env.now candidate)
  registerCapability canonicalHash env card

/-- The stages between registration and `active_read`. -/
def readOnlyStages : List CapabilityLifecycle :=
  [.scout, .pin, .inspect, .sandbox, .wrapBuild, .contractTested, .securityTested,
    .performanceBenchmarked, .shadow, .activeRead]

/-- The loop of `promote_collector_to_active_read`. -/
def promoteThrough (actor : String) (card : CapabilityCard) :
    List CapabilityLifecycle → CapabilityOps CapabilityCard
  | [] => pure card
  | target :: rest => do
    let card ← promoteCapability canonicalHash env card.name card.capabilityVersion target actor
      false
    promoteThrough actor card rest

def promoteCollectorToActiveRead (actor : String) :
    CapabilityOps CapabilityCard := do
  let card ← registerCollectorCandidate canonicalHash env candidate
  promoteThrough canonicalHash env actor card readOnlyStages

end Operations

/-! ## The broker -/

/-- The arguments of `expose` but for the executor. -/
structure ExposeRequest where
  capabilityName : String
  capabilityVersion : String
  requestedAction : String
  mode : String
  availableResourceEnvelopes : Option (List String)

def expose {ε : Type} (cards : CapabilityCards) (request : ExposeRequest) (executor : ε) :
    Except PyError ε := do
  let card ← getCard cards request.capabilityName request.capabilityVersion
  let normalizedAction := normalizeAuthorityAction request.requestedAction
  if card.lifecycle ∉ activeStages then
    .error (capabilityPermissionError "capability is not active")
  else if normalizedAction ∉ card.allowedActions then
    .error (capabilityPermissionError "requested action is not declared by capability card")
  else if isForbiddenAuthorityAction normalizedAction then
    .error (capabilityPermissionError "trading authority is never exposed by capability broker")
  else if lower request.mode ∉ ["deep", "builder", "recovery"] then
    .error (capabilityPermissionError
      "capabilities are unavailable in Trade/Fast and Standard modes")
  else match request.availableResourceEnvelopes with
    | none => .ok executor
    | some available =>
      let envelopes := available.map strip
      if envelopes.any (fun item => decide (item = "")) then
        .error (capabilityPermissionError "resource envelopes cannot be blank")
      else if card.resourceEnvelope ∉ envelopes then
        .error (capabilityPermissionError
          "capability resource envelope is not admitted for this worker")
      else .ok executor

end AdvisorAI
