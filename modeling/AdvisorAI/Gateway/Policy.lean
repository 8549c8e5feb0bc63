import AdvisorAI.Contracts.AuthorityActions
import AdvisorAI.Gateway.Chain
import AdvisorAI.Gateway.Classification

/-!
# The policy gateway

The policy gateway classifies a request before every call, decides which tier may see it,
and calls a provider of that tier: the one configured for it, or with route profiles the
first admitted profile and then its admitted fallbacks. The provider call, the checks of the
response and the records of the success stand in one `try` block.

The checks of a response are a parameter, `ResponseChecks`; what is called valid below is a
response that passes them.
-/

namespace AdvisorAI

open Lib Lib.Failover

def gatewayPolicyError (message : String) : PyError := ⟨"GatewayPolicyError", message⟩

/-! ## Provider contracts -/

/-- The part of a reviewed endpoint admission that requests are aligned with. -/
structure ProviderEndpointAdmission where
  providerSelectorSlug : String
  requestedModel : String
  inputPricePerMillion : ℚ
  outputPricePerMillion : ℚ
  requestPrice : ℚ
  supportsTools : Bool
  supportsToolChoiceRequired : Bool
  supportsStructuredOutput : Bool
  allowResponseFormatWithTools : Bool

/-- Provider-selection and privacy constraints for one route class. -/
structure ProviderRoutePolicy where
  routeTier : RouteTier
  providerOnly : List String
  providerOrder : List String
  modelOnly : List String
  dataCollection : String
  zdr : Bool
  allowFallbacks : Bool
  requireParameters : Bool
  maxPromptPrice : ℚ
  maxCompletionPrice : ℚ
  maxRequestPrice : ℚ
  endpointAdmission : Option ProviderEndpointAdmission
  not_blocked : routeTier ≠ .blocked
  deny : dataCollection = "deny"
  private_zdr : routeTier ≠ .contributorPublic → zdr = true ∧ allowFallbacks = false

namespace ProviderRoutePolicy

variable (p : ProviderRoutePolicy)

/-- Provider-native routing constraints for OpenAI-compatible APIs, of a pinned route. -/
def requestOptions : Metadata :=
  let promptPrice := (p.endpointAdmission.map (·.inputPricePerMillion)).getD p.maxPromptPrice
  let completionPrice :=
    (p.endpointAdmission.map (·.outputPricePerMillion)).getD p.maxCompletionPrice
  let requestPrice := (p.endpointAdmission.map (·.requestPrice)).getD p.maxRequestPrice
  let selectors := (p.endpointAdmission.map fun a => [a.providerSelectorSlug]).getD p.providerOnly
  let allowFallbacks := p.allowFallbacks && p.endpointAdmission.isNone
  let provider : Metadata :=
    [("data_collection", .str p.dataCollection), ("allow_fallbacks", .bool allowFallbacks),
      ("require_parameters", .bool p.requireParameters),
      ("max_price", .map [("prompt", .number promptPrice),
        ("completion", .number completionPrice), ("request", .number requestPrice)])]
    ++ (if p.zdr then [("zdr", .bool true)] else [])
    ++ (if selectors = [] then [] else [("only", .seq (selectors.map .str))])
    ++ (if p.providerOrder = [] then [] else [("order", .seq (p.providerOrder.map .str))])
  [("provider", .map provider)]

def admitsRoute (route : GatewayRoute) : Bool :=
  let selectors := (p.endpointAdmission.map fun a => [a.providerSelectorSlug]).getD p.providerOnly
  let models := (p.endpointAdmission.map fun a => [a.requestedModel]).getD p.modelOnly
  (selectors = [] ∨ route.provider ∈ selectors) ∧ (models = [] ∨ route.model ∈ models)

end ProviderRoutePolicy

/-- Explicit provider contract admission for one gateway tier. -/
structure ProviderTerms where
  name : String
  tier : GatewayTier
  allowedDataClasses : List GatewayDataClass
  retentionPolicy : String
  trainingPolicy : String
  termsVerified : Bool
  termsReference : Option String
  not_blocked : tier ≠ .blocked
  allowed_ne : allowedDataClasses ≠ []
  no_secrets : .secretExecution ∉ allowedDataClasses
  verified_reference : termsVerified = true → termsReference ≠ none

def ProviderTerms.permits (t : ProviderTerms) (dataClass : GatewayDataClass) : Bool :=
  t.termsVerified && decide (dataClass ∈ t.allowedDataClasses)

/-- One admitted route identity and its provider contract. -/
structure RouteProfile where
  profileId : String
  routeTier : RouteTier
  adapter : GatewayAdapter
  providerPolicy : ProviderRoutePolicy
  terms : ProviderTerms
  fallbackProfileIds : List String
  profileId_ne : isBlank profileId = false
  policy_tier : providerPolicy.routeTier = routeTier
  terms_tier : terms.tier = if routeTier = .contributorPublic then .contributor else .private
  fallbacks_nodup : fallbackProfileIds.Nodup

def isNoTrainingPolicy (value : String) : Bool :=
  String.ofList (stripUnderscores (squeeze isLowerOrDigit false (lower (strip value)).toList)) ∈
    ["no_training", "no_train", "zdr", "zero_data_retention", "zero_data_retention_no_training",
      "no_training_zdr", "zdr_no_training", "no_training_zero_data_retention",
      "opt_out_no_training"]

/-- Configuration for the contributor/private policy router. -/
structure GatewayPolicyConfig where
  contributorTerms : ProviderTerms
  privateTerms : ProviderTerms
  routeOrder : List String
  allowContributorWorkerFallback : Bool
  allowWorkerReviewerFallback : Bool
  abstainOnProviderFailure : Bool
  policyVersion : String
  redactionPolicyVersion : String
  lowConfidenceThreshold : ℚ
  privateToolAllowlist : List String
  contributor_tier : contributorTerms.tier = .contributor
  private_tier : privateTerms.tier = .private
  no_confidential : .confidential ∉ contributorTerms.allowedDataClasses
  no_training : isNoTrainingPolicy privateTerms.trainingPolicy = true
  routeOrder_nodup : routeOrder.Nodup

/-- A gateway that enforces classification before every call. -/
structure PolicyGateway where
  contributor : Option GatewayAdapter
  «private» : Option GatewayAdapter
  config : GatewayPolicyConfig
  profiles : List RouteProfile
  local_only : profiles = [] → ∀ a ∈ contributor.toList ++ «private».toList, a.isRemote = false
  fallbacks_known : ∀ p ∈ profiles, ∀ f ∈ p.fallbackProfileIds, f ∈ profiles.map (·.profileId)
  order_complete : profiles ≠ [] → config.routeOrder ≠ [] →
    ∀ i, i ∈ config.routeOrder ↔ i ∈ profiles.map (·.profileId)

/-- The checks a response has to pass: those of a route profile's provider policy, for the
pinned route and the request, and those of the gateway. -/
structure ResponseChecks where
  provider : ProviderRoutePolicy → GatewayResponse → GatewayRoute → GatewayRequest →
    Except PyError Unit
  gateway : GatewayResponse → GatewayTier → GatewayRequest → Except PyError Unit

/-- What the gateway takes from outside its own methods. -/
structure GatewayOutside extends RequestHashing, TextPatterns where
  checks : ResponseChecks
  redactionPolicyHash : GatewayPolicyConfig → Digest
  routePolicyHash : PolicyGateway → Digest

/-- The routing decision of a request. -/
structure GatewayDecision where
  tier : GatewayTier
  dataClass : GatewayDataClass
  reason : String
  redacted : Bool
  routeTier : RouteTier
  decisionImpact : DecisionImpact

namespace PolicyGateway

/-! ## The decision -/

section Decision

variable (patterns : TextPatterns)

def classify (request : GatewayRequest) (payload : Option PyValue) : GatewayDataClass :=
  if request.dataClass = .unclassified then .unclassified
  else
    let declared := if lower request.privacyClass ∈ ["secret", "credential"] then
      request.dataClass.maxClass .secretExecution else request.dataClass
    match payload with
    | some payload => classifyPayload patterns payload declared
    | none => declared

def routedImpact (request : GatewayRequest) : DecisionImpact :=
  let task := lower (strip request.taskKind)
  let impact := if request.portfolioInfluence then .portfolioInfluencing
    else request.decisionImpact
  if patterns.taskBlock task then .execution
  else if patterns.taskPrivate task ∧ impact = .nonCritical then .portfolioInfluencing
  else impact

def lowConfidence (g : PolicyGateway) (request : GatewayRequest) : Bool :=
  request.confidence.any fun confidence => decide (confidence < g.config.lowConfidenceThreshold)

def decisionReasons (g : PolicyGateway) (request : GatewayRequest)
    (dataClass : GatewayDataClass) (impact : DecisionImpact) : List String :=
  (if dataClass = .confidential then ["confidential data"] else [])
    ++ (if impact = .portfolioInfluencing then ["portfolio-influencing request"]
      else if impact = .research then ["research request"] else [])
    ++ (if request.conflictingEvidence then ["conflicting evidence"] else [])
    ++ (if g.lowConfidence request then ["low confidence"] else [])

def requiredTier (dataClass : GatewayDataClass) (critical : Bool) : RouteTier :=
  if dataClass = .internalSanitized ∨ dataClass = .confidential then
    if critical then .privateReviewer else .privateWorker
  else if critical then .privateReviewer
  else .contributorPublic

def decide (g : PolicyGateway) (request : GatewayRequest) (payload : Option PyValue)
    (redacted : Bool) : GatewayDecision :=
  let dataClass := classify patterns request payload
  let impact := routedImpact patterns request
  if dataClass = .unclassified then
    ⟨.blocked, dataClass, "explicit data classification is required before model routing",
      redacted, .blocked, impact⟩
  else if dataClass = .secretExecution ∨ impact = .execution then
    ⟨.blocked, .secretExecution,
      "secret/execution data and execution tasks are deterministic-only", redacted, .blocked,
      impact⟩
  else
    let reasons := g.decisionReasons request dataClass impact
    let critical := impact = .portfolioInfluencing || request.conflictingEvidence
      || g.lowConfidence request
    let routeTier := requiredTier dataClass critical
    ⟨if routeTier = .contributorPublic then .contributor else .private, dataClass,
      if reasons = [] then "public/sanitized worker task" else "; ".intercalate reasons,
      redacted, routeTier, impact⟩

end Decision

/-! ## Tools -/

/-- `name.startswith(prefix)`. -/
def startsWith (start name : String) : Bool := start.toList <+: name.toList

def isReadOnlyTool (name : String) : Bool :=
  ((["read_", "fetch_", "get_", "search_", "lookup_", "inspect_"].any (startsWith · name))
    && !(["order", "broker", "account", "balance", "position"].any (containsText · name)))
    || name == "read_orderbook"

def checkPrivateTools (g : PolicyGateway) : List GatewayTool → Except PyError Unit
  | [] => .ok ()
  | tool :: rest =>
    let normalized := lower (strip tool.name)
    if normalized ∉ g.config.privateToolAllowlist ∨ isReadOnlyTool normalized = false then
      .error (gatewayPolicyError
        ("private route tool is not an approved read-only evidence tool: " ++ tool.name))
    else checkPrivateTools g rest

def validateToolsForRoute (g : PolicyGateway) (tools : List GatewayTool) (routeTier : RouteTier) :
    Except PyError Unit :=
  match routeTier with
  | .contributorPublic =>
    if tools = [] then .ok ()
    else .error (gatewayPolicyError "contributor routes cannot receive tools")
  | .privateWorker => g.checkPrivateTools tools
  | .privateReviewer => g.checkPrivateTools tools
  | .blocked => .ok ()

def validateTools (g : PolicyGateway) (tools : List GatewayTool) (tier : GatewayTier) :
    Except PyError Unit :=
  g.validateToolsForRoute tools (if tier = .contributor then .contributorPublic
    else .privateReviewer)

/-! ## Aligning a request with a route -/

def validateInvocationAdmission (request : GatewayRequest)
    (admission : ProviderEndpointAdmission) : Except PyError Unit :=
  if request.invocationMode = .structuredOutput then
    if admission.supportsStructuredOutput then .ok ()
    else .error (gatewayPolicyError "endpoint admission does not support structured output")
  else if admission.supportsTools = false then
    .error (gatewayPolicyError "endpoint admission does not support tools")
  else if request.invocationMode = .toolRequired ∧ admission.supportsToolChoiceRequired = false then
    .error (gatewayPolicyError "endpoint admission does not support required tool choice")
  else .ok ()

def phase0RemoteGenerationBudget : GenerationBudget where
  maxOutputTokens := 256
  maxExpectedCostUsd := 1 / 1000
  maxBilledCostUsd := 1 / 1000
  timeoutSeconds := 30
  maximumAttempts := 2
  maxInputTokens := none

def governed (policy : ProviderRoutePolicy) (r : GatewayRequest) : GatewayRequest :=
  { r with
    providerOptions := policy.requestOptions
    responseFormatWithToolsAdmitted :=
      (policy.endpointAdmission.map (·.allowResponseFormatWithTools)).getD false
    admissionCapabilitiesEnforced := policy.endpointAdmission.isSome
    admissionSupportsTools := policy.endpointAdmission.map (·.supportsTools)
    admissionSupportsToolChoiceRequired :=
      policy.endpointAdmission.map (·.supportsToolChoiceRequired)
    admissionSupportsStructuredOutput :=
      policy.endpointAdmission.map (·.supportsStructuredOutput)
    generationBudget := some (r.generationBudget.getD phase0RemoteGenerationBudget) }

/-- The request on the route of an adapter, if it has one. -/
def onRoute (adapter : GatewayAdapter) (r : GatewayRequest) : GatewayRequest :=
  { r with route := adapter.route.getD r.route }

/-- `_align_route(request, adapter)`. -/
def alignRoute (request : GatewayRequest) (adapter : GatewayAdapter) : Except PyError GatewayRequest :=
  if adapter.route = none ∨ adapter.route = some request.route then .ok request
  else request.modelCopy (onRoute adapter)

/-- `_align_route(request, adapter, provider_policy=...)`. -/
def alignGovernedRoute (request : GatewayRequest) (adapter : GatewayAdapter)
    (policy : ProviderRoutePolicy) : Except PyError GatewayRequest :=
  match policy.endpointAdmission.elim (.ok ()) (validateInvocationAdmission request) with
  | .error error => .error error
  | .ok _ => request.modelCopy fun r => governed policy (onRoute adapter r)

/-! ## Calls -/

/-- A provider call with the tier and the terms it was made under. -/
structure RoutedCall extends ProviderCall where
  routeTier : RouteTier
  terms : ProviderTerms

def RoutedCall.answer (c : RoutedCall) : Option GatewayResponse := c.valid

variable (outside : GatewayOutside) (weather : GatewayWeather) (g : PolicyGateway)

def enrich (candidate attempted : GatewayRequest) (decision : GatewayDecision)
    (tier : GatewayTier) (routeTier : RouteTier) (terms : ProviderTerms) (elapsed : Nat)
    (response : GatewayResponse) : GatewayResponse :=
  { response with
    tier := some tier
    routeTier := some routeTier
    dataClass := some decision.dataClass
    decisionImpact := some decision.decisionImpact
    outputKind := candidate.outputKind
    policyVersion := some g.config.policyVersion
    redactionPolicyVersion := some g.config.redactionPolicyVersion
    escalationReason := if tier = .private then some decision.reason else none
    retentionPolicy := some terms.retentionPolicy
    trainingPolicy := some terms.trainingPolicy
    termsVerified := some terms.termsVerified
    termsReference := terms.termsReference
    requestedRoute := some attempted.route
    invocationMode := some candidate.invocationMode
    toolUsed := some (Decidable.decide (response.toolCalls ≠ []))
    toolCalled := some (Decidable.decide (response.toolCalls ≠ []))
    toolExecutionStatus := .notExecuted
    actualGateway := some (response.actualGateway.getD response.route.gateway)
    promptHash := some (outside.promptHash candidate)
    evidenceHash := outside.evidence candidate
    redactionPolicyHash := candidate.redactionPolicyHash
    routePolicyHash := candidate.routePolicyHash
    latencyMs := max response.latencyMs elapsed }

/-- Record into the recorder, if there is one. -/
def noteIn (entries : List GatewayEntry) :
    Option GatewayRecorder → Except PyError Unit × Option GatewayRecorder
  | none => (.ok (), none)
  | some r =>
    let noted := GatewayRecorder.noteAll outside.toRequestHashing weather.toAppendWeather entries r
    (noted.1, some noted.2)

/-- What is raised by the gateway itself carries no transport attributes. -/
def raisedHere (error : PyError) : ProviderFailure := { error }

variable (attempted : GatewayRequest)

/-- The gateway of a response is not that of the request or of a declared fallback. -/
def unpinned (response : GatewayResponse) : Prop :=
  response.route.gateway ∉ attempted.route.gateway :: attempted.route.fallbackChain

instance (attempted : GatewayRequest) (response : GatewayResponse) :
    Decidable (unpinned attempted response) :=
  inferInstanceAs (Decidable (_ ∉ _))

/-! ### Without profiles -/

def ofTier (tier : GatewayTier) : Option GatewayAdapter × ProviderTerms :=
  if tier = .contributor then (g.contributor, g.config.contributorTerms)
  else (g.private, g.config.privateTerms)

variable (decision : GatewayDecision)

/-- The adapter of the decided tier with its terms, which permit the data class. -/
def select : Except PyError (GatewayAdapter × ProviderTerms) :=
  match g.ofTier decision.tier with
  | (none, _) => .error (gatewayPolicyError (decision.tier.value ++ " tier is not configured"))
  | (some adapter, terms) =>
    if terms.permits decision.dataClass = false then
      .error (gatewayPolicyError ("provider terms " ++ pyRepr terms.name ++ " do not permit "
        ++ decision.dataClass.value ++ " data"))
    else .ok (adapter, terms)

/-- The tier a call of the configured adapter counts as. -/
def selectedRouteTier : RouteTier :=
  if decision.tier = .contributor then .contributorPublic else .privateReviewer

/-- The answer of the configured adapter, checked. -/
def askSelected (candidate attempted : GatewayRequest) (decision : GatewayDecision)
    (terms : ProviderTerms) : Except ProviderFailure GatewayResponse :=
  match weather.reply 0 attempted with
  | .error failure => .error failure
  | .ok response =>
    if response.requestId ≠ candidate.requestId then
      .error (raisedHere
        (gatewayFailure "policy gateway received a response for another request"))
    else if unpinned attempted response then
      .error (raisedHere (gatewayFailure "policy gateway received an unpinned route response"))
    else
      match outside.checks.gateway response decision.tier attempted with
      | .error error => .error (raisedHere error)
      | .ok _ => .ok (enrich outside g candidate attempted decision decision.tier
          decision.routeTier terms (weather.elapsed 0) response)

variable (adapter : GatewayAdapter)

/-- The records of a failure of the configured adapter, one for each transport attempt. -/
def selectedFailures (latencyMs : Nat) (failure : ProviderFailure) :
    List GatewayEntry :=
  let entry (number : Nat) (metadata : Metadata) : GatewayEntry := {
    request := attempted
    attempt := {
      adapter := adapter.name
      route := attempted.route
      succeeded := false
      latencyMs := latencyMs
      error := some (failure.error.typeName ++ ": provider failure")
      providerAttemptNumber := number
      failureMetadata := metadata }
    response := none }
  if failure.attemptMetadata = [] then [entry 1 failure.failureMetadata]
  else failure.attemptMetadata.zipIdx.map fun (metadata, i) => entry (i + 1) metadata

/-- The record of a success of the configured adapter. -/
def selectedSuccess (latencyMs : Nat) (enriched : GatewayResponse) :
    GatewayEntry where
  request := attempted
  attempt := {
    adapter := adapter.name
    route := enriched.route
    succeeded := true
    latencyMs := latencyMs }
  response := some enriched

/-- The `except` branch: record and raise again. -/
def raiseAgain (failure : ProviderFailure) (call : RoutedCall) (r : Option GatewayRecorder) :
    Completion RoutedCall :=
  let noted := noteIn outside weather
    (selectedFailures attempted adapter (weather.elapsedAfter 0) failure) r
  { calls := [call]
    outcome := match noted.1 with
      | .ok _ => .error failure.error
      | .error error => .error error
    recorder := noted.2 }

/-- The `try` block of the configured adapter. -/
def trySelected (candidate attempted : GatewayRequest) (decision : GatewayDecision)
    (adapter : GatewayAdapter) (terms : ProviderTerms) (r : Option GatewayRecorder) :
    Completion RoutedCall :=
  let call (valid : Option GatewayResponse) : RoutedCall :=
    ⟨⟨adapter.name, attempted, valid⟩, selectedRouteTier decision, terms⟩
  match askSelected outside weather g candidate attempted decision terms with
  | .error failure => raiseAgain outside weather attempted adapter failure (call none) r
  | .ok enriched =>
    let noted := noteIn outside weather
      [selectedSuccess attempted adapter (weather.elapsed 0) enriched] r
    match noted.1 with
    | .ok _ => ⟨[call (some enriched)], .ok enriched, noted.2⟩
    | .error error => raiseAgain outside weather attempted adapter (raisedHere error)
        (call (some enriched)) noted.2

/-- A completion that raised before any provider was called. -/
def refused (error : PyError) (r : Option GatewayRecorder) : Completion RoutedCall :=
  ⟨[], .error error, r⟩

variable (candidate : GatewayRequest)

/-- The adapter, its terms and the aligned request, if the gateway gets that far. -/
def selectRoute (decision : GatewayDecision) :
    Except PyError (GatewayAdapter × ProviderTerms × GatewayRequest) := do
  let selected ← g.select decision
  g.validateTools candidate.tools decision.tier
  let attempted ← alignRoute candidate selected.1
  return (selected.1, selected.2, attempted)

def completeSelected (decision : GatewayDecision) (r : Option GatewayRecorder) :
    Completion RoutedCall :=
  match g.selectRoute candidate decision with
  | .error error => refused error r
  | .ok (adapter, terms, attempted) =>
    trySelected outside weather g candidate attempted decision adapter terms r

/-! ### With profiles -/

/-- `profiles_by_id[profile_id]`: the last profile of that id. -/
def profileById (profileId : String) : Option RouteProfile :=
  g.profiles.reverse.find? fun p => p.profileId = profileId

def allowedTiers (routeTier : RouteTier) : List RouteTier :=
  routeTier ::
    ((if routeTier = .contributorPublic ∧ g.config.allowContributorWorkerFallback then
      [.privateWorker] else [])
    ++ if routeTier = .privateWorker ∧ g.config.allowWorkerReviewerFallback then
      [.privateReviewer] else [])

/-- The first profile of the decided tier, then its fallbacks in the allowed tiers. -/
def profileCandidates : List RouteProfile :=
  let ordered := if g.config.routeOrder = [] then g.profiles
    else g.config.routeOrder.filterMap g.profileById
  match ordered.find? fun p => p.routeTier = decision.routeTier with
  | none => []
  | some primary => primary :: (primary.fallbackProfileIds.filterMap g.profileById).filter
      fun p => p.routeTier ∈ g.allowedTiers decision.routeTier

/-- Why a profile is passed over, or the request aligned with its route. -/
inductive ProfileAdmission where
  | passed (reason : String)
  | raised (error : PyError)
  | aligned (attempted : GatewayRequest)

variable (request : GatewayRequest)

def admitProfile (decision : GatewayDecision) (p : RouteProfile) :
    ProfileAdmission :=
  if p.terms.permits decision.dataClass = false then
    .passed (p.profileId ++ ":provider_terms_denied")
  else
    match p.adapter.route with
    | none => .passed (p.profileId ++ ":missing_pinned_route")
    | some pinned =>
      if pinned.endpointVariant.all (· = "") then
        .passed (p.profileId ++ ":missing_pinned_endpoint_identity")
      else if p.providerPolicy.admitsRoute pinned = false then
        .passed (p.profileId ++ ":route_not_admitted")
      else
        match g.validateToolsForRoute request.tools p.routeTier with
        | .error error => .passed (p.profileId ++ ":tool_policy:" ++ error.message)
        | .ok _ =>
          match alignGovernedRoute request p.adapter p.providerPolicy with
          | .error error => .raised error
          | .ok attempted => .aligned attempted

variable (p : RouteProfile)

def profileTier : GatewayTier :=
  if p.routeTier = .contributorPublic then .contributor else .private

/-- The response of the adapter as it came, or what was raised. -/
def checkedReply (request attempted : GatewayRequest) (p : RouteProfile) (number : Nat) :
    Except ProviderFailure GatewayResponse :=
  match weather.reply number attempted with
  | .error failure => .error failure
  | .ok response =>
    if response.requestId ≠ request.requestId then
      .error (raisedHere
        (gatewayFailure "policy gateway received a response for another request"))
    else if response.route.gateway ≠ attempted.route.gateway then
      .error (raisedHere (gatewayFailure "provider returned an unpinned gateway route"))
    else
      match outside.checks.provider p.providerPolicy response attempted.route attempted with
      | .error error => .error (raisedHere error)
      | .ok _ =>
        match outside.checks.gateway response (profileTier p) attempted with
        | .error error => .error (raisedHere error)
        | .ok _ => .ok response

def profileEntry (number : Nat) (latencyMs : Nat) (error : Option String)
    (providerAttemptNumber : Nat) (failureMetadata : Metadata) (response : Option GatewayResponse) :
    GatewayEntry where
  request := attempted
  attempt := {
    adapter := p.adapter.name
    route := (response.map (·.route)).getD attempted.route
    succeeded := response.isSome
    latencyMs := latencyMs
    error := error
    profileId := some p.profileId
    attemptNumber := number
    providerAttemptNumber := providerAttemptNumber
    failureMetadata := failureMetadata }
  response := response

variable (number latencyMs : Nat)

/-- The records of a success: the retries before it, and the success. -/
def profileSuccesses (preceding : List Metadata) (enriched : GatewayResponse) : List GatewayEntry :=
  (preceding.zipIdx.map fun (metadata, i) => profileEntry attempted p number latencyMs
    (some "GatewayTransportError: provider retry") (i + 1) metadata none)
  ++ [profileEntry attempted p number latencyMs none (preceding.length + 1) [] (some enriched)]

/-- The records of a failure, one for each transport attempt. -/
def profileFailures (failure : ProviderFailure) :
    List GatewayEntry :=
  let error := some (failure.error.typeName ++ ": provider failure")
  if failure.attemptMetadata = [] then
    [profileEntry attempted p number latencyMs error 1 failure.failureMetadata none]
  else failure.attemptMetadata.zipIdx.map fun (metadata, i) =>
    profileEntry attempted p number latencyMs error (i + 1) metadata none

variable (failure : ProviderFailure)

/-- What a failure adds to the metadata of an abstention. -/
def failureRecords : List Metadata :=
  if failure.attemptMetadata ≠ [] then failure.attemptMetadata
  else if failure.failureMetadata ≠ [] then [failure.failureMetadata]
  else []

/-- What the loop over the profiles carries along. -/
structure RoutingState where
  recorder : Option GatewayRecorder
  failures : List String
  failureRecords : List Metadata

/-- No other provider is tried after a failure on this profile. -/
def stopsAfter : Bool :=
  failure.noCrossProviderFallback
    || (p.providerPolicy.endpointAdmission.isSome && p.routeTier != .contributorPublic)

/-- The `except` branch: record the failure, and go on or stop. -/
def giveUpProfile (number : Nat) (failure : ProviderFailure) (call : RoutedCall)
    (s : RoutingState) :
    Visit RoutingState RoutedCall PyError GatewayResponse :=
  let noted := noteIn outside weather
    (profileFailures attempted p number (weather.elapsedAfter number) failure) s.recorder
  let world : RoutingState :=
    ⟨noted.2, s.failures ++ [p.profileId ++ ":" ++ failure.error.typeName],
      s.failureRecords ++ failureRecords failure⟩
  match noted.1 with
  | .error error => ⟨some call, .raise error, world⟩
  | .ok _ => ⟨some call, if stopsAfter p failure then .stop else .goOn, world⟩

/-- The `try` block of a profile. -/
def tryProfile (request attempted : GatewayRequest) (decision : GatewayDecision)
    (p : RouteProfile) (number : Nat) (s : RoutingState) :
    Visit RoutingState RoutedCall PyError GatewayResponse :=
  let call (valid : Option GatewayResponse) : RoutedCall :=
    ⟨⟨p.adapter.name, attempted, valid⟩, p.routeTier, p.terms⟩
  match checkedReply outside weather request attempted p number with
  | .error failure =>
    giveUpProfile outside weather attempted p number failure (call none) s
  | .ok response =>
    let enriched := enrich outside g request attempted decision (profileTier p) p.routeTier p.terms
      (weather.elapsed number) response
    let noted := noteIn outside weather (profileSuccesses attempted p number
      (weather.elapsed number) response.attemptMetadata enriched) s.recorder
    match noted.1 with
    | .ok _ => ⟨some (call (some enriched)), .give enriched, { s with recorder := noted.2 }⟩
    | .error error => giveUpProfile outside weather attempted p number (raisedHere error)
        (call (some enriched)) { s with recorder := noted.2 }

/-- One turn of the loop over the candidates. -/
def visitProfile (decision : GatewayDecision) :
    RouteProfile × Nat → RoutingState → Visit RoutingState RoutedCall PyError GatewayResponse
  | (p, number), s =>
    match g.admitProfile request decision p with
    | .passed reason => ⟨none, .goOn, { s with failures := s.failures ++ [reason] }⟩
    | .raised error => ⟨none, .raise error, s⟩
    | .aligned attempted => tryProfile outside weather g request attempted decision p number s

def abstainResponse (decision : GatewayDecision) (reason : String) (failureMetadata : Metadata) :
    GatewayResponse where
  requestId := request.requestId
  route := request.route
  content := "abstain"
  typedPayload := some [("decision", .str "abstain"), ("reason", .str reason)]
  invocationMode := some request.invocationMode
  toolUsed := some false
  toolCalled := some false
  latencyMs := 0
  inputTokens := 0
  outputTokens := 0
  estimatedCostUsd := 0
  tier := some .blocked
  routeTier := some .blocked
  dataClass := some decision.dataClass
  decisionImpact := some decision.decisionImpact
  outputKind := request.outputKind
  policyVersion := some g.config.policyVersion
  redactionPolicyVersion := some g.config.redactionPolicyVersion
  requestedRoute := some request.route
  failureMetadata := failureMetadata
  promptHash := some (outside.promptHash request)
  evidenceHash := outside.evidence request
  redactionPolicyHash := request.redactionPolicyHash
  routePolicyHash := request.routePolicyHash

def profileAttempts (decision : GatewayDecision) (r : Option GatewayRecorder) :
    Trail RoutingState RoutedCall PyError GatewayResponse :=
  run (visitProfile outside weather g request decision) (g.profileCandidates decision).zipIdx
    ⟨r, [], []⟩

/-- What the caller gets when no candidate gave a response. -/
def withoutResponse (decision : GatewayDecision) (s : RoutingState) :
    Except PyError GatewayResponse :=
  if g.config.abstainOnProviderFailure then
    .ok (abstainResponse outside g request decision
      ("all admitted routes failed or were unavailable: " ++ " | ".intercalate s.failures)
      [("attempts", .seq (s.failureRecords.map .map))])
  else .error (gatewayFailure ("all admitted gateway routes failed: "
    ++ " | ".intercalate s.failures))

def completeProfiles (decision : GatewayDecision) (r : Option GatewayRecorder) :
    Completion RoutedCall :=
  let trail := profileAttempts outside weather g request decision r
  { calls := trail.calls
    outcome := match trail.ended with
      | .give response => .ok response
      | .raise error => .error error
      | _ => withoutResponse outside g request decision trail.world
    recorder := trail.world.recorder }

/-! ### Routing -/

/-- A request with its payload and the values the caller knows to be sensitive. -/
structure Submission where
  request : GatewayRequest
  payload : Option PyValue
  sensitiveValues : List String

/-- The hashes of the policies a request is routed under. -/
def withPolicyHashes (r : GatewayRequest) : GatewayRequest :=
  { r with
    redactionPolicyHash := some (outside.redactionPolicyHash g.config)
    routePolicyHash := some (outside.routePolicyHash g) }

/-- Everything before a provider is chosen: the redacted request and the decision, or why
the request is blocked. -/
def prepare (s : Submission) : Except PyError (GatewayRequest × GatewayDecision) := do
  let values := normaliseSensitiveValues s.sensitiveValues
  let rawHasSecret := s.request.messages.any fun m =>
    containsSecretMaterial outside.toTextPatterns m.content values
  if rawHasSecret ∧ values = [] then
    .error (gatewayPolicyError ("gateway request blocked: credential-like text requires explicit "
      ++ "redaction (" ++ (g.decide outside.toTextPatterns s.request s.payload false).reason ++ ")"))
  else
    let redacted ← redactRequest outside.toTextPatterns s.request values
      g.config.redactionPolicyVersion
    let candidate ← redacted.1.modelCopy (g.withPolicyHashes outside)
    let decision := g.decide outside.toTextPatterns candidate s.payload redacted.2
    if candidate.messages.any fun m =>
        containsSecretMaterial outside.toTextPatterns m.content [] then
      .error (gatewayPolicyError ("gateway request blocked: " ++ decision.reason))
    else if decision.tier = .blocked then
      .error (gatewayPolicyError ("gateway request blocked: " ++ decision.reason))
    else return (candidate, decision)

/-- Route one request after redaction, classification, and tool checks. -/
def complete (s : Submission) (r : Option GatewayRecorder) : Completion RoutedCall :=
  match g.prepare outside s with
  | .error error => refused error r
  | .ok (candidate, decision) =>
    if g.profiles = [] then completeSelected outside weather g candidate decision r
    else completeProfiles outside weather g candidate decision r

end PolicyGateway

end AdvisorAI
