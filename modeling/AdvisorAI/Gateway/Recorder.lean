import AdvisorAI.Gateway.Ports
import AdvisorAI.Ledger.Sqlite

/-!
# The gateway recorder

Every attempt to call a provider leaves a record: route, cost and latency, but neither
prompt nor credential. With a ledger the record is also appended to the MODEL namespace,
under a key made of the request, the profile, the numbers of the attempt, the gateway and
the outcome. The measured latency is in the record and not in the key.
-/

namespace AdvisorAI

open Lib

/-! ## Records -/

structure GatewayAttempt where
  adapter : String
  route : GatewayRoute
  succeeded : Bool
  latencyMs : Nat
  error : Option String := none
  profileId : Option String := none
  attemptNumber : Nat := 0
  providerAttemptNumber : Nat := 1
  failureMetadata : Metadata := []

/-- Credential-free durable metadata for one pinned gateway attempt. -/
structure GatewayCallRecord where
  requestId : UUID
  requestHash : Digest
  adapter : String
  provider : String
  model : String
  gateway : String
  promptVersion : String
  toolVersion : Option String
  succeeded : Bool
  latencyMs : Nat
  inputTokens : Nat
  outputTokens : Nat
  estimatedCostUsd : ℚ
  expectedCostUsd : Option ℚ
  costDifferenceUsd : Option ℚ
  providerRequestId : Option String
  errorClass : Option String
  recordedAt : Timestamp
  promptHash : Digest
  evidenceHash : Option Digest
  tier : Option GatewayTier
  dataClass : Option GatewayDataClass
  outputKind : GatewayOutputKind
  invocationMode : GatewayInvocationMode
  toolUsed : Bool
  toolCalled : Bool
  toolExecutionStatus : ToolExecutionStatus
  policyVersion : Option String
  redactionPolicyVersion : Option String
  escalationReason : Option String
  retentionPolicy : Option String
  trainingPolicy : Option String
  termsVerified : Option Bool
  termsReference : Option String
  requestedProvider : String
  requestedModel : String
  requestedGateway : String
  requestedEndpointVariant : Option String
  requestedProviderSelector : Option String
  requestedGatewaySelector : Option String
  requestedEndpointSelector : Option String
  observedProviderName : Option String
  topLevelResponseModel : Option String
  resolvedModel : Option String
  resolvedEndpointModel : Option String
  endpointSelectorProof : Option String
  endpointSelected : Option Bool
  routingStrategy : Option String
  routingAttempt : Option Nat
  isByok : Option Bool
  actualProvider : Option String
  actualModel : Option String
  actualGateway : Option String
  actualEndpointVariant : Option String
  profileId : Option String
  attemptNumber : Nat
  routeTier : Option RouteTier
  decisionImpact : Option DecisionImpact
  redactionPolicyHash : Option Digest
  routePolicyHash : Option Digest
  inputPricePerMillion : Option ℚ
  outputPricePerMillion : Option ℚ
  requestPriceUsd : Option ℚ
  billedCostUsd : Option ℚ
  costMetadata : Metadata
  routingMetadata : Metadata
  failureMetadata : Metadata
  providerAttemptNumber : Nat
deriving DecidableEq

def ledgerForbiddenMetadataTokens : List String :=
  ["message", "user", "prompt", "content", "body", "response_body"]

/-- A key that may carry raw provider or user content. -/
def ledgerForbidden (key : String) : Bool :=
  ledgerForbiddenMetadataTokens.any (containsText · (lower key))

mutual

/-- Drop raw provider/user content before durable model-attempt recording. -/
def ledgerSafeMetadata : PyValue → PyValue
  | .map entries => .map (ledgerSafeEntries entries)
  | .seq items => .seq (ledgerSafeItems items)
  | .set _ => .str "set"
  | .object typeName _ => .str typeName
  | value => value

def ledgerSafeItems : List PyValue → List PyValue
  | [] => []
  | item :: rest => ledgerSafeMetadata item :: ledgerSafeItems rest

def ledgerSafeEntries : Metadata → Metadata
  | [] => []
  | (key, child) :: rest =>
    if ledgerForbidden key then ledgerSafeEntries rest
    else (key, ledgerSafeMetadata child) :: ledgerSafeEntries rest

end

/-- The SHA-256 digests of a request. -/
structure RequestHashing where
  contentHash : GatewayRequest → Digest
  promptHash : GatewayRequest → Digest
  evidenceHash : List String → Digest

/-- `request.evidence_hash()`. -/
def RequestHashing.evidence (hashing : RequestHashing) (request : GatewayRequest) :
    Option Digest :=
  if request.evidenceIds = [] then none else some (hashing.evidenceHash request.evidenceIds)

structure GatewayEntry where
  request : GatewayRequest
  attempt : GatewayAttempt
  response : Option GatewayResponse

namespace GatewayEntry

/-- The route of the response, or else of the attempt. -/
def route (e : GatewayEntry) : GatewayRoute := (e.response.map (·.route)).getD e.attempt.route

def requestedRoute (e : GatewayEntry) : GatewayRoute :=
  (e.response.bind (·.requestedRoute)).getD e.request.route

def toolCalled (e : GatewayEntry) : Bool :=
  match e.response with
  | none => false
  | some response => response.toolCalled.getD (decide (response.toolCalls ≠ []))

/-- `attempt.error.split(":", 1)[0]`. -/
def errorClass (e : GatewayEntry) : Option String :=
  e.attempt.error.map fun text => String.ofList (text.toList.takeWhile (· ≠ ':'))

variable (hashing : RequestHashing) (e : GatewayEntry)

def callFields : GatewayCallRecord where
  requestId := e.request.requestId
  requestHash := hashing.contentHash e.request
  adapter := strip e.attempt.adapter
  provider := e.route.provider
  model := e.route.model
  gateway := e.route.gateway
  promptVersion := e.request.promptVersion
  toolVersion := e.request.toolVersion
  succeeded := e.attempt.succeeded
  latencyMs := e.attempt.latencyMs
  inputTokens := (e.response.map (·.inputTokens)).getD 0
  outputTokens := (e.response.map (·.outputTokens)).getD 0
  estimatedCostUsd := (e.response.map (·.estimatedCostUsd)).getD 0
  expectedCostUsd := e.response.bind (·.expectedCostUsd)
  costDifferenceUsd := e.response.bind (·.costDifferenceUsd)
  providerRequestId := e.response.bind (·.providerRequestId)
  errorClass := e.errorClass
  recordedAt := e.request.createdAt
  promptHash := hashing.promptHash e.request
  evidenceHash := hashing.evidence e.request
  tier := e.response.bind (·.tier)
  dataClass := (e.response.map (·.dataClass)).getD (some e.request.dataClass)
  outputKind := (e.response.map (·.outputKind)).getD e.request.outputKind
  invocationMode := (e.response.bind (·.invocationMode)).getD e.request.invocationMode
  toolUsed := e.toolCalled
  toolCalled := e.toolCalled
  toolExecutionStatus := (e.response.map (·.toolExecutionStatus)).getD .notExecuted
  policyVersion := e.response.bind (·.policyVersion)
  redactionPolicyVersion := (e.response.map (·.redactionPolicyVersion)).getD
    (some e.request.redactionPolicyVersion)
  escalationReason := e.response.bind (·.escalationReason)
  retentionPolicy := (e.response.map (·.retentionPolicy)).getD (some e.route.retentionPolicy)
  trainingPolicy := (e.response.map (·.trainingPolicy)).getD (some e.route.trainingPolicy)
  termsVerified := (e.response.map (·.termsVerified)).getD (some e.route.termsVerified)
  termsReference := (e.response.map (·.termsReference)).getD e.route.termsReference
  requestedProvider := e.requestedRoute.provider
  requestedModel := e.requestedRoute.model
  requestedGateway := e.requestedRoute.gateway
  requestedEndpointVariant := e.requestedRoute.endpointVariant
  requestedProviderSelector := (e.response.map (·.requestedProviderSelector)).getD
    (some e.requestedRoute.provider)
  requestedGatewaySelector := (e.response.map (·.requestedGateway)).getD
    (some e.requestedRoute.gateway)
  requestedEndpointSelector := (e.response.map (·.requestedEndpointSelector)).getD
    e.requestedRoute.endpointVariant
  observedProviderName := e.response.bind (·.observedProviderName)
  topLevelResponseModel := e.response.bind (·.topLevelResponseModel)
  resolvedModel := e.response.bind (·.resolvedModel)
  resolvedEndpointModel := e.response.bind (·.resolvedEndpointModel)
  endpointSelectorProof := e.response.bind (·.endpointSelectorProof)
  endpointSelected := e.response.bind (·.endpointSelected)
  routingStrategy := e.response.bind (·.routingStrategy)
  routingAttempt := e.response.bind (·.routingAttempt)
  isByok := e.response.bind (·.isByok)
  actualProvider := e.response.bind (·.actualProvider)
  actualModel := e.response.bind (·.actualModel)
  actualGateway := e.response.bind (·.actualGateway)
  actualEndpointVariant := e.response.bind (·.actualEndpointVariant)
  profileId := e.attempt.profileId
  attemptNumber := e.attempt.attemptNumber
  routeTier := e.response.bind (·.routeTier)
  decisionImpact := (e.response.map (·.decisionImpact)).getD (some e.request.decisionImpact)
  redactionPolicyHash := (e.response.bind (·.redactionPolicyHash)).orElse fun _ =>
    e.request.redactionPolicyHash
  routePolicyHash := (e.response.bind (·.routePolicyHash)).orElse fun _ =>
    e.request.routePolicyHash
  inputPricePerMillion := e.response.bind (·.inputPricePerMillion)
  outputPricePerMillion := e.response.bind (·.outputPricePerMillion)
  requestPriceUsd := e.response.bind (·.requestPriceUsd)
  billedCostUsd := e.response.bind (·.billedCostUsd)
  costMetadata := ledgerSafeEntries ((e.response.map (·.costMetadata)).getD [])
  routingMetadata := ledgerSafeEntries ((e.response.map (·.routingMetadata)).getD [])
  failureMetadata := ledgerSafeEntries
    ((e.response.map (·.failureMetadata)).getD e.attempt.failureMetadata)
  providerAttemptNumber := e.attempt.providerAttemptNumber

/-- The record of an attempt. Its validators accept what comes from a valid request and
response; the name of the adapter has not been checked by anything else. -/
def callRecord : Except PyError GatewayCallRecord :=
  if isBlank e.attempt.adapter then
    .error ⟨"ValidationError", "gateway call identity fields cannot be blank"⟩
  else .ok (e.callFields hashing)

/-- `str(flag)`. -/
def boolText (flag : Bool) : String := if flag then "True" else "False"

/-- `attempt.profile_id or attempt.adapter`. -/
def profileOrAdapter (attempt : GatewayAttempt) : String :=
  match attempt.profileId with
  | some profileId => if profileId = "" then attempt.adapter else profileId
  | none => attempt.adapter

def key : String :=
  "gateway-call:" ++ uuidText e.request.requestId ++ ":" ++ profileOrAdapter e.attempt ++ ":"
    ++ e.attempt.attemptNumber.repr ++ ":" ++ e.attempt.providerAttemptNumber.repr ++ ":"
    ++ e.route.gateway ++ ":" ++ boolText e.attempt.succeeded

end GatewayEntry

/-! ## Recording -/

/-- The payload of an event of the MODEL namespace: a call, or what others record there. -/
inductive GatewayEventPayload where
  | call (record : GatewayCallRecord)
  | other (text : String)
deriving DecidableEq

abbrev GatewayEvent := LedgerEvent String GatewayEventPayload

/-- What the recorder keeps, with the MODEL namespace of its ledger if it has one. -/
structure GatewayRecorder where
  attempts : List GatewayAttempt
  calls : List GatewayCallRecord
  ledgers : Option (List GatewayEvent)

/-- What the n-th append meets: the id `uuid4` draws, and what it raises apart from a
conflict with the table. -/
structure AppendWeather where
  eventId : Nat → UUID
  fault : Nat → Option PyError

namespace GatewayRecorder

variable (hashing : RequestHashing) (weather : AppendWeather)

def callEvent (eventId : UUID) (e : GatewayEntry) (record : GatewayCallRecord) : GatewayEvent where
  eventId := eventId
  eventType := "gateway_call_recorded"
  idempotencyKey := e.key
  occurredAt := e.request.createdAt
  payload := .call record

/-- `record(attempt)` and then `record_call(request, attempt, response)`. The record is
kept in memory before it is appended. -/
def note (e : GatewayEntry) (r : GatewayRecorder) : Except PyError Unit × GatewayRecorder :=
  let attempted := { r with attempts := r.attempts ++ [e.attempt] }
  match e.callRecord hashing with
  | .error error => (.error error, attempted)
  | .ok record =>
    let called := { attempted with calls := r.calls ++ [record] }
    match r.ledgers with
    | none => (.ok (), called)
    | some events =>
      let appended := SqliteLedgers.appendUnder (weather.fault r.calls.length) events
        (callEvent (weather.eventId r.calls.length) e record)
      (appended.1.map fun _ => (), { called with ledgers := some appended.2 })

/-- One record after another, until one of them raises. -/
def noteAll : List GatewayEntry → GatewayRecorder → Except PyError Unit × GatewayRecorder
  | [], r => (.ok (), r)
  | e :: rest, r =>
    match note hashing weather e r with
    | (.ok _, r') => noteAll rest r'
    | raised => raised

/-! ### When a record is taken -/

/-- An `IdempotencyConflict` leaves the call. -/
def RaisesConflict {α : Type} (outcome : Except PyError α) : Prop :=
  ∃ e, outcome = .error e ∧ e.typeName = "IdempotencyConflict"

/-- The record can be built, the append does not fail and the ledger stores nothing else
under its key. -/
def Takes (e : GatewayEntry) (r : GatewayRecorder) : Prop :=
  ∃ record, e.callRecord hashing = .ok record ∧ ∀ events ∈ r.ledgers,
    weather.fault r.calls.length = none ∧
      SqliteLedgers.Agrees events (callEvent (weather.eventId r.calls.length) e record)

/-- The record can be built, and the ledger stores something else under its key. -/
def Clashes (e : GatewayEntry) (r : GatewayRecorder) : Prop :=
  ∃ record, e.callRecord hashing = .ok record ∧ ∃ events ∈ r.ledgers,
    match weather.fault r.calls.length with
    | some fault => fault.typeName = "IdempotencyConflict"
    | none => ¬SqliteLedgers.Agrees events (callEvent (weather.eventId r.calls.length) e record)

/-- Each record is taken after those before it. -/
def TakesAll : List GatewayEntry → GatewayRecorder → Prop
  | [], _ => True
  | e :: rest, r => Takes hashing weather e r ∧ TakesAll rest (note hashing weather e r).2

/-- A record clashes after those before it were taken. -/
def ClashesIn : List GatewayEntry → GatewayRecorder → Prop
  | [], _ => False
  | e :: rest, r => Clashes hashing weather e r ∨
    Takes hashing weather e r ∧ ClashesIn rest (note hashing weather e r).2

variable {hashing weather} {e : GatewayEntry} {es : List GatewayEntry} {r : GatewayRecorder}

theorem appendUnder_cases (fault : Option PyError) (events : List GatewayEvent)
    (event : GatewayEvent) :
    (fault = none ∧ SqliteLedgers.Agrees events event ∧
      ∃ stored, (SqliteLedgers.appendUnder fault events event).1 = .ok stored) ∨
    ∃ error, (SqliteLedgers.appendUnder fault events event).1 = .error error ∧
      ((∃ f, fault = some f ∧ error = f) ∨ fault = none ∧ ¬SqliteLedgers.Agrees events event ∧
        error.typeName = "IdempotencyConflict") := by
  cases fault with
  | some f => exact Or.inr ⟨f, rfl, Or.inl ⟨f, rfl, rfl⟩⟩
  | none =>
    by_cases hagrees : SqliteLedgers.Agrees events event
    · exact Or.inl ⟨rfl, hagrees, SqliteLedgers.append_of_agrees hagrees⟩
    · obtain ⟨error, htype, herror⟩ := SqliteLedgers.append_of_not_agrees hagrees
      exact Or.inr ⟨error, herror, Or.inr ⟨rfl, hagrees, htype⟩⟩

theorem note_of_invalid {error : PyError} (h : e.callRecord hashing = .error error) :
    (note hashing weather e r).1 = .error error := by
  unfold note
  rw [h]

variable {record : GatewayCallRecord}

theorem note_of_memory (h : e.callRecord hashing = .ok record) (hledgers : r.ledgers = none) :
    (note hashing weather e r).1 = .ok () := by
  unfold note
  rw [h, hledgers]

theorem note_of_ledger {events : List GatewayEvent} (h : e.callRecord hashing = .ok record)
    (hledgers : r.ledgers = some events) :
    (note hashing weather e r).1 = (SqliteLedgers.appendUnder (weather.fault r.calls.length)
      events (callEvent (weather.eventId r.calls.length) e record)).1.map fun _ => () := by
  unfold note
  rw [h, hledgers]

/-- **When recording succeeds.** -/
theorem note_ok_iff : (note hashing weather e r).1 = .ok () ↔ Takes hashing weather e r := by
  unfold Takes
  cases hrecord : e.callRecord hashing with
  | error error =>
    rw [note_of_invalid hrecord]
    constructor
    · intro h
      cases h
    · intro ⟨_, h, _⟩
      cases h
  | ok record =>
    cases hledgers : r.ledgers with
    | none =>
      refine ⟨fun _ => ⟨record, rfl, fun _ h => ?_⟩, fun _ => note_of_memory hrecord hledgers⟩
      cases h
    | some events =>
      rw [note_of_ledger hrecord hledgers]
      constructor
      · intro h
        refine ⟨record, rfl, ?_⟩
        rintro _ ⟨⟩
        rcases appendUnder_cases (weather.fault r.calls.length) events
          (callEvent (weather.eventId r.calls.length) e record) with
          ⟨hfault, hagrees, _⟩ | ⟨error, herror, _⟩
        · exact ⟨hfault, hagrees⟩
        · rw [herror] at h
          cases h
      · intro ⟨_, heq, htakes⟩
        cases heq
        obtain ⟨hfault, hagrees⟩ := htakes events rfl
        obtain ⟨stored, hstored⟩ := SqliteLedgers.append_of_agrees hagrees
        rw [hfault]
        show Except.map _ (SqliteLedgers.append events _).1 = .ok ()
        rw [hstored]
        rfl

/-- **When recording raises an `IdempotencyConflict`.** -/
theorem note_conflict_iff :
    RaisesConflict (note hashing weather e r).1 ↔ Clashes hashing weather e r := by
  unfold Clashes RaisesConflict
  cases hrecord : e.callRecord hashing with
  | error error =>
    rw [note_of_invalid hrecord]
    constructor
    · rintro ⟨_, ⟨⟩, htype⟩
      unfold GatewayEntry.callRecord at hrecord
      split at hrecord
      · cases hrecord
        exact absurd htype (by decide)
      · cases hrecord
    · intro ⟨_, h, _⟩
      cases h
  | ok record =>
    cases hledgers : r.ledgers with
    | none =>
      rw [note_of_memory hrecord hledgers]
      constructor
      · intro ⟨_, h, _⟩
        cases h
      · intro ⟨_, _, _, h, _⟩
        cases h
    | some events =>
      rw [note_of_ledger hrecord hledgers]
      rcases appendUnder_cases (weather.fault r.calls.length) events
        (callEvent (weather.eventId r.calls.length) e record) with
        ⟨hfault, hagrees, stored, hstored⟩ | ⟨error, herror, hwhy⟩
      · rw [hstored]
        constructor
        · intro ⟨_, h, _⟩
          cases h
        · rintro ⟨_, ⟨⟩, _, ⟨⟩, hclash⟩
          rw [hfault] at hclash
          exact absurd hagrees hclash
      · rw [herror]
        rcases hwhy with ⟨f, hfault, rfl⟩ | ⟨hfault, hagrees, htype⟩
        · constructor
          · rintro ⟨_, ⟨⟩, htype⟩
            refine ⟨record, rfl, events, rfl, ?_⟩
            rw [hfault]
            exact htype
          · rintro ⟨_, ⟨⟩, _, ⟨⟩, hclash⟩
            rw [hfault] at hclash
            exact ⟨error, rfl, hclash⟩
        · constructor
          · intro _
            refine ⟨record, rfl, events, rfl, ?_⟩
            rw [hfault]
            exact hagrees
          · intro _
            exact ⟨error, rfl, htype⟩

theorem noteAll_of_ok (h : (note hashing weather e r).1 = .ok ()) :
    noteAll hashing weather (e :: es) r = noteAll hashing weather es (note hashing weather e r).2 := by
  have hnote : note hashing weather e r = (.ok (), (note hashing weather e r).2) := by
    rw [← h]
  show (match note hashing weather e r with
    | (.ok _, r') => noteAll hashing weather es r'
    | raised => raised) = _
  rw [hnote]

theorem noteAll_of_error {error : PyError} (h : (note hashing weather e r).1 = .error error) :
    noteAll hashing weather (e :: es) r = note hashing weather e r := by
  have hnote : note hashing weather e r = (.error error, (note hashing weather e r).2) := by
    rw [← h]
  show (match note hashing weather e r with
    | (.ok _, r') => noteAll hashing weather es r'
    | raised => raised) = _
  rw [hnote]

theorem noteAll_ok_iff :
    (noteAll hashing weather es r).1 = .ok () ↔ TakesAll hashing weather es r := by
  induction es generalizing r with
  | nil => exact ⟨fun _ => trivial, fun _ => rfl⟩
  | cons e es ih =>
    unfold TakesAll
    rw [← note_ok_iff, ← ih]
    cases hnote : (note hashing weather e r).1 with
    | ok u =>
      rw [noteAll_of_ok hnote]
      exact ⟨fun h => ⟨rfl, h⟩, fun h => h.2⟩
    | error error =>
      rw [noteAll_of_error hnote, hnote]
      constructor
      · intro h
        cases h
      · intro ⟨h, _⟩
        cases h

theorem noteAll_conflict_iff :
    RaisesConflict (noteAll hashing weather es r).1 ↔ ClashesIn hashing weather es r := by
  induction es generalizing r with
  | nil =>
    constructor
    · intro ⟨_, h, _⟩
      cases h
    · intro h
      exact h.elim
  | cons e es ih =>
    unfold ClashesIn
    rw [← note_ok_iff, ← note_conflict_iff, ← ih]
    cases hnote : (note hashing weather e r).1 with
    | ok u =>
      rw [noteAll_of_ok hnote]
      constructor
      · intro h
        exact Or.inr ⟨rfl, h⟩
      · rintro (⟨_, h, _⟩ | ⟨_, h⟩)
        · cases h
        · exact h
    | error error =>
      rw [noteAll_of_error hnote, hnote]
      constructor
      · intro h
        exact Or.inl h
      · rintro (h | ⟨h, _⟩)
        · exact h
        · cases h

/-! ### The same attempt, measured again -/

end GatewayRecorder

end AdvisorAI
