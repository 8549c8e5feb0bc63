import AdvisorAI.Contracts.Core
import AdvisorAI.Lib.Local
import AdvisorAI.Lib.PyValue

/-!
# The model gateway port

A request to a model and the response it comes back with, as the gateway passes them on.
A request is never patched in place: `GatewayRequest.modelCopy` runs the validators over
what the update made of it, so that an update may be refused.
-/

namespace AdvisorAI

open Lib

/-! ## Vocabulary -/

/-- The maximum sensitivity a model request is allowed to carry. -/
inductive GatewayDataClass where
  | unclassified | «public» | internalSanitized | confidential | secretExecution
deriving DecidableEq, Repr

def GatewayDataClass.value : GatewayDataClass → String
  | .unclassified => "unclassified"
  | .public => "public"
  | .internalSanitized => "internal_sanitized"
  | .confidential => "confidential"
  | .secretExecution => "secret_execution"

/-- Policy route selected before a provider request is made. -/
inductive GatewayTier where
  | contributor | «private» | blocked
deriving DecidableEq, Repr

def GatewayTier.value : GatewayTier → String
  | .contributor => "contributor"
  | .private => "private"
  | .blocked => "blocked"

/-- Security/quality route classes selected by policy, never by the caller. -/
inductive RouteTier where
  | contributorPublic | privateWorker | privateReviewer | blocked
deriving DecidableEq, Repr

/-- How close a research request is to portfolio or execution authority. -/
inductive DecisionImpact where
  | nonCritical | research | portfolioInfluencing | execution
deriving DecidableEq, Repr

inductive GatewayOutputKind where
  | generic | newsExtraction | claimList | codePatchProposal | researchQuestion | counterargument
deriving DecidableEq, Repr

/-- The one admitted interaction shape for a model generation. -/
inductive GatewayInvocationMode where
  | structuredOutput | toolOptional | toolRequired
deriving DecidableEq, Repr

inductive ToolExecutionStatus where
  | notExecuted | succeeded | failed
deriving DecidableEq, Repr

abbrev Metadata := List (String × PyValue)

/-! ## Routes -/

/-- The pinned identity of one provider route. -/
structure GatewayRoute where
  provider : String
  model : String
  gateway : String
  fallbackChain : List String
  schemaMode : String
  retentionPolicy : String
  trainingPolicy : String
  termsVerified : Bool
  termsReference : Option String
  endpointVariant : Option String
  identified : ∀ t ∈ [provider, model, gateway, schemaMode, retentionPolicy, trainingPolicy],
    isBlank t = false
  fallbacks_nodup : (fallbackChain.map lower).Nodup
  primary_not_fallback : lower gateway ∉ fallbackChain.map lower
deriving DecidableEq

/-! ## Requests -/

structure GatewayMessage where
  role : String
  content : String

structure GatewayTool where
  name : String
  inputSchemaVersion : String
  outputSchemaVersion : String
  inputSchema : Metadata

/-- Caller-visible limits for one model generation. -/
structure GenerationBudget where
  maxOutputTokens : Nat
  maxExpectedCostUsd : ℚ
  maxBilledCostUsd : ℚ
  timeoutSeconds : ℚ
  maximumAttempts : Nat
  maxInputTokens : Option Nat

/-- A request; a `generationBudget` of `none` is one the caller left out. -/
structure GatewayRequest where
  requestId : UUID
  route : GatewayRoute
  messages : List GatewayMessage
  tools : List GatewayTool := []
  invocationMode : GatewayInvocationMode
  promptVersion : String
  toolVersion : Option String := none
  privacyClass : String
  dataClass : GatewayDataClass
  taskKind : String
  portfolioInfluence : Bool := false
  confidence : Option ℚ := none
  conflictingEvidence : Bool := false
  decisionImpact : DecisionImpact
  outputKind : GatewayOutputKind
  redactionPolicyVersion : String
  redactionPolicyHash : Option Digest := none
  routePolicyHash : Option Digest := none
  providerOptions : Metadata := []
  generationBudget : Option GenerationBudget
  responseFormatWithToolsAdmitted : Bool := false
  admissionCapabilitiesEnforced : Bool := false
  admissionSupportsTools : Option Bool := none
  admissionSupportsToolChoiceRequired : Option Bool := none
  admissionSupportsStructuredOutput : Option Bool := none
  requestedProviderSelector : Option String := none
  requestedModel : Option String := none
  requestedGateway : Option String := none
  requestedEndpointSelector : Option String := none
  evidenceIds : List String := []
  createdAt : Timestamp

namespace GatewayRequest

/-- What pydantic raises for a request that fails a validator. -/
def invalidRequest (message : String) : PyError := ⟨"ValidationError", message⟩

/-- `str(key).strip().lower()`. -/
def optionKey (key : String) : String := lower (strip key)

def forbiddenProviderOptions : List String :=
  ["model", "messages", "tools", "api_key", "authorization", "endpoint_variants", "tool_choice"]

def credentialTokens : List String :=
  ["api_key", "authorization", "credential", "password", "secret", "token"]

/-- `has_forbidden_provider_option(value)`. -/
def hasForbiddenProviderOption (options : Metadata) : Bool :=
  PyValue.anyKeyAt (fun key => optionKey key ∈ forbiddenProviderOptions) options

/-- `has_credential_key(value)`; the two token limits are not credentials. -/
def hasCredentialKey (options : Metadata) : Bool :=
  PyValue.anyKeyAt (fun key => optionKey key ∉ ["max_tokens", "max_completion_tokens"] ∧
    credentialTokens.any (containsText · (optionKey key))) options

/-- A requested selector is left out or is the one of the route. -/
def selectorMatches (requested : Option String) (actual : Option String) : Bool :=
  requested = none ∨ requested = actual

variable (r : GatewayRequest)

def requireTypedRequest : Except PyError Unit :=
  if r.messages = [] then .error (invalidRequest "gateway requests require at least one message")
  else if isBlank r.promptVersion then
    .error (invalidRequest "gateway requests require a prompt version")
  else if r.toolVersion.any isBlank then
    .error (invalidRequest "gateway tool version cannot be blank")
  else if r.invocationMode = .structuredOutput ∧ r.tools ≠ [] then
    .error (invalidRequest "structured-output gateway requests cannot expose tools")
  else if r.invocationMode ≠ .structuredOutput ∧ r.tools = [] then
    .error (invalidRequest "tool invocation modes require at least one reviewed tool")
  else if hasForbiddenProviderOption r.providerOptions then
    .error (invalidRequest ("gateway provider options cannot override model content, credentials, "
      ++ "or endpoint routing"))
  else if hasCredentialKey r.providerOptions then
    .error (invalidRequest "gateway provider options cannot contain credentials")
  else if selectorMatches r.requestedProviderSelector (some r.route.provider) = false then
    .error (invalidRequest "requested provider selector must match the route")
  else if selectorMatches r.requestedModel (some r.route.model) = false then
    .error (invalidRequest "requested model must match the route")
  else if selectorMatches r.requestedGateway (some r.route.gateway) = false then
    .error (invalidRequest "requested gateway must match the route")
  else if selectorMatches r.requestedEndpointSelector r.route.endpointVariant = false then
    .error (invalidRequest "requested endpoint selector must match the route")
  else .ok ()

/-- A message with its content stripped, which must leave something of it. -/
def validateMessage (m : GatewayMessage) : Except PyError GatewayMessage :=
  if strip m.content = "" then
    .error (invalidRequest "String should have at least 1 character")
  else .ok { m with content := strip m.content }

/-- `request.model_copy(update=...)` for an update of other fields than the messages: these
are dumped and validated again, and the validators run over the updated request. -/
def modelCopy (update : GatewayRequest → GatewayRequest) (r : GatewayRequest) :
    Except PyError GatewayRequest := do
  let messages ← (update r).messages.mapM validateMessage
  let copied := { update r with messages }
  copied.requireTypedRequest
  return copied

variable {e : PyError}

theorem validateMessage_error {m : GatewayMessage} (h : validateMessage m = .error e) :
    e.typeName = "ValidationError" := by
  unfold validateMessage at h
  split at h
  · cases h
    rfl
  · cases h

theorem validateMessages_error {messages : List GatewayMessage}
    (h : messages.mapM validateMessage = .error e) : e.typeName = "ValidationError" := by
  induction messages with
  | nil => cases h
  | cons m rest ih =>
    rw [List.mapM_cons] at h
    rcases error_of_bind_error h with hm | ⟨m', _, htail⟩
    · exact validateMessage_error hm
    · rcases error_of_bind_error htail with hrest | ⟨rest', _, hpure⟩
      · exact ih hrest
      · cases hpure

theorem requireTypedRequest_error {r : GatewayRequest} (h : r.requireTypedRequest = .error e) :
    e.typeName = "ValidationError" := by
  unfold requireTypedRequest at h
  repeat' split at h
  all_goals
    cases h
    try rfl

theorem modelCopy_error {update : GatewayRequest → GatewayRequest} {r : GatewayRequest}
    (h : r.modelCopy update = .error e) : e.typeName = "ValidationError" := by
  rcases error_of_bind_error h with hmessages | ⟨messages, _, hchecked⟩
  · exact validateMessages_error hmessages
  · rcases error_of_bind_error hchecked with htyped | ⟨_, _, hpure⟩
    · exact requireTypedRequest_error htyped
    · cases hpure

/-! ### Texts -/

def toolTexts (t : GatewayTool) : List String :=
  [t.name, t.inputSchemaVersion, t.outputSchemaVersion] ++ PyValue.textsAt t.inputSchema

def routeTexts (route : GatewayRoute) : List String :=
  [route.provider, route.model, route.gateway] ++ route.fallbackChain
    ++ [route.schemaMode, route.retentionPolicy, route.trainingPolicy]
    ++ route.termsReference.toList ++ route.endpointVariant.toList

/-- The strings of a request that are not the content of a message. -/
def textsAround : List String :=
  routeTexts r.route ++ r.messages.map (·.role) ++ r.tools.flatMap toolTexts
    ++ [r.promptVersion] ++ r.toolVersion.toList ++ [r.privacyClass, r.taskKind,
      r.redactionPolicyVersion] ++ (r.redactionPolicyHash.toList ++ r.routePolicyHash.toList).map
        Digest.text
    ++ PyValue.textsAt r.providerOptions ++ r.requestedProviderSelector.toList
    ++ r.requestedModel.toList ++ r.requestedGateway.toList ++ r.requestedEndpointSelector.toList
    ++ r.evidenceIds

def texts : List String := r.messages.map (·.content) ++ r.textsAround

end GatewayRequest

/-! ## Responses -/

/-- A response, as the adapter built it and its validators passed it. -/
structure GatewayResponse where
  requestId : UUID
  route : GatewayRoute
  content : String
  typedPayload : Option Metadata := none
  toolCalls : List Metadata := []
  invocationMode : Option GatewayInvocationMode := none
  toolUsed : Option Bool := none
  toolCalled : Option Bool := none
  toolExecutionStatus : ToolExecutionStatus := .notExecuted
  latencyMs : Nat
  inputTokens : Nat
  outputTokens : Nat
  estimatedCostUsd : ℚ
  providerRequestId : Option String := none
  tier : Option GatewayTier := none
  routeTier : Option RouteTier := none
  dataClass : Option GatewayDataClass := none
  decisionImpact : Option DecisionImpact := none
  outputKind : GatewayOutputKind
  policyVersion : Option String := none
  redactionPolicyVersion : Option String := none
  escalationReason : Option String := none
  retentionPolicy : Option String := none
  trainingPolicy : Option String := none
  termsVerified : Option Bool := none
  termsReference : Option String := none
  actualEndpointVariant : Option String := none
  requestedRoute : Option GatewayRoute := none
  actualProvider : Option String := none
  actualModel : Option String := none
  actualGateway : Option String := none
  requestedProviderSelector : Option String := none
  requestedGateway : Option String := none
  observedProviderName : Option String := none
  requestedModel : Option String := none
  topLevelResponseModel : Option String := none
  resolvedModel : Option String := none
  resolvedEndpointModel : Option String := none
  requestedEndpointSelector : Option String := none
  endpointSelectorProof : Option String := none
  endpointSelected : Option Bool := none
  routingStrategy : Option String := none
  routingAttempt : Option Nat := none
  isByok : Option Bool := none
  inputPricePerMillion : Option ℚ := none
  outputPricePerMillion : Option ℚ := none
  requestPriceUsd : Option ℚ := none
  expectedCostUsd : Option ℚ := none
  billedCostUsd : Option ℚ := none
  costDifferenceUsd : Option ℚ := none
  costMetadata : Metadata := []
  routingMetadata : Metadata := []
  failureMetadata : Metadata := []
  attemptMetadata : List Metadata := []
  promptHash : Option Digest := none
  evidenceHash : Option Digest := none
  redactionPolicyHash : Option Digest := none
  routePolicyHash : Option Digest := none
deriving DecidableEq

end AdvisorAI
