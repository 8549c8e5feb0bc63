import AdvisorAI.Gateway.Recorder
import AdvisorAI.Lib.Failover

/-!
# The gateway chain

A chain tries its adapters in order, each on its own pinned route and only if that route's
gateway is the requested one or a declared fallback. Calling the adapter, checking its
response and recording the success stand in one `try` block: whatever is raised there, also
by the recorder, is recorded as a failure of the provider and the next adapter is tried.

`chain_stands_iff` says for which calls the chain hands the first valid response to the
caller and raises no conflict of its ledger: those where the records of the adapters it
comes to are taken.
-/

namespace AdvisorAI

open Lib Lib.Failover

/-! ## Providers -/

/-- What the gateway knows of an adapter: its name, the route it is pinned to, and whether
it leaves the machine. -/
structure GatewayAdapter where
  name : String
  route : Option GatewayRoute
  isRemote : Bool := false

/-- What an adapter raised, with the attributes a transport may put on it. -/
structure ProviderFailure where
  error : PyError
  failureMetadata : Metadata := []
  attemptMetadata : List Metadata := []
  noCrossProviderFallback : Bool := false

/-- What one call of `complete` meets: the answer of the n-th adapter it tries, the
milliseconds measured until the success was recorded and until the failure was, and what
the appends meet. -/
structure GatewayWeather extends AppendWeather where
  reply : Nat → GatewayRequest → Except ProviderFailure GatewayResponse
  elapsed : Nat → Nat
  elapsedAfter : Nat → Nat

/-- A call of a provider, with its response if there was one and it passed every check. -/
structure ProviderCall where
  adapter : String
  request : GatewayRequest
  valid : Option GatewayResponse

/-- One call of `complete`: the provider calls it made in order, what the caller got, and
what the recorder was left with. -/
structure Completion (χ : Type) where
  calls : List χ
  outcome : Except PyError GatewayResponse
  recorder : Option GatewayRecorder

/-- The first valid response is what the caller gets and the last provider call made, and no
`IdempotencyConflict` is raised. -/
def Completion.Stands {χ : Type} (valid : χ → Option GatewayResponse) (c : Completion χ) : Prop :=
  (∀ earlier call later response, c.calls = earlier ++ call :: later →
    valid call = some response → later = [] ∧ c.outcome = .ok response) ∧
  ¬GatewayRecorder.RaisesConflict c.outcome

/-- Go on when a record was taken, and raise what it raised. -/
def nextAfter {ρ : Type} : Except PyError Unit → Next PyError ρ
  | .ok _ => .goOn
  | .error e => .raise e

section Loops

variable {κ ω χ : Type} (valid : χ → Option GatewayResponse)

/-- A visit hands a valid response on as the result, and raises no conflict. -/
def VisitStands (v : Visit ω χ PyError GatewayResponse) : Prop :=
  Hands valid v ∧ ∀ e, v.next = .raise e → e.typeName ≠ "IdempotencyConflict"

variable {valid}

/-- **A loop over providers stands exactly when the visits it reaches do.** -/
theorem stands_iff_visits {visit : κ → ω → Visit ω χ PyError GatewayResponse} {ks : List κ} {w : ω}
    {c : Completion χ} (hgives : ∀ k w r, (visit k w).next = .give r →
      ∃ call ∈ (visit k w).call, valid call = some r)
    (hcalls : c.calls = (run visit ks w).calls) (hok : ∀ call ∈ c.calls, ∀ r, valid call = some r →
      (c.outcome = .ok r ↔ (run visit ks w).ended = .give r))
    (hconflict : GatewayRecorder.RaisesConflict c.outcome ↔
      ∃ e, (run visit ks w).ended = .raise e ∧ e.typeName = "IdempotencyConflict") :
    c.Stands valid ↔ ∀ k w', Reached visit ks w k w' → VisitStands valid (visit k w') := by
  have hkeeps : (∀ earlier call later r, c.calls = earlier ++ call :: later →
      valid call = some r → later = [] ∧ c.outcome = .ok r) ↔
      KeepsAnswer valid (run visit ks w).calls (run visit ks w).ended := by
    rw [← hcalls]
    have hmem : ∀ earlier call later, c.calls = earlier ++ call :: later → call ∈ c.calls := by
      intro earlier call later hsplit
      rw [hsplit]
      exact List.mem_append_right _ List.mem_cons_self
    constructor
    · intro h earlier call later r hsplit hr
      obtain ⟨hlast, houtcome⟩ := h earlier call later r hsplit hr
      exact ⟨hlast, (hok call (hmem _ _ _ hsplit) r hr).mp houtcome⟩
    · intro h earlier call later r hsplit hr
      obtain ⟨hlast, hended⟩ := h earlier call later r hsplit hr
      exact ⟨hlast, (hok call (hmem _ _ _ hsplit) r hr).mpr hended⟩
  unfold Completion.Stands VisitStands
  rw [hkeeps, keepsAnswer_iff hgives, hconflict]
  constructor
  · intro ⟨hhands, hquiet⟩ k w' hreached
    refine ⟨hhands k w' hreached, ?_⟩
    intro e hraise htype
    exact hquiet ⟨e, (ended_iff (by simp) (by simp)).mpr ⟨k, w', hreached, hraise⟩, htype⟩
  · intro h
    refine ⟨fun k w' hreached => (h k w' hreached).1, ?_⟩
    intro ⟨e, hended, htype⟩
    obtain ⟨k, w', hreached, hraise⟩ := (ended_iff (by simp) (by simp)).mp hended
    exact (h k w' hreached).2 e hraise htype

theorem visitStands_nextAfter {call : Option χ} {noted : Except PyError Unit} {w : ω}
    (hcall : ∀ c ∈ call, valid c = none) :
    VisitStands valid ⟨call, nextAfter noted, w⟩ ↔ ¬GatewayRecorder.RaisesConflict noted := by
  have hhands : Hands valid (⟨call, nextAfter noted, w⟩ : Visit ω χ PyError GatewayResponse) :=
    hands_of_silent hcall
  cases noted with
  | ok u =>
    constructor
    · intro _ ⟨_, h, _⟩
      cases h
    · intro _
      refine ⟨hhands, ?_⟩
      intro _ h
      cases h
  | error error =>
    constructor
    · intro ⟨_, hquiet⟩
      rintro ⟨_, ⟨⟩, htype⟩
      exact hquiet error rfl htype
    · intro hquiet
      refine ⟨hhands, ?_⟩
      rintro _ ⟨⟩ htype
      exact hquiet ⟨error, rfl, htype⟩

theorem nextAfter_ne_give {ρ : Type} (noted : Except PyError Unit) (r : ρ) :
    nextAfter noted ≠ .give r := by
  intro h
  cases noted <;> cases h

end Loops

def gatewayFailure (message : String) : PyError := ⟨"GatewayFailure", message⟩

/-! ## The recovery gateway -/

/-- `LocalDeterministicGateway.complete`, for what its responder returned and the time it
took. -/
def localDeterministicGateway (payload : Metadata) (latencyMs : Nat) (request : GatewayRequest) :
    Except ProviderFailure GatewayResponse :=
  if lower request.privacyClass ∈ ["secret", "credential"] then
    .error { error :=
      gatewayFailure "recovery gateway refuses secret or credential-class requests" }
  else .ok {
    requestId := request.requestId
    route := request.route
    content := "typed local recovery response"
    typedPayload := some payload
    latencyMs := latencyMs
    inputTokens := 0
    outputTokens := 0
    estimatedCostUsd := 0
    providerRequestId := some ("local-" ++ uuidText request.requestId)
    outputKind := request.outputKind
    requestedRoute := some request.route
    actualProvider := some request.route.provider
    actualModel := some request.route.model
    actualGateway := some request.route.gateway }

/-! ## The chain -/

/-- Pinned ordered routes; fallback is explicit and recorded, never opaque. -/
structure GatewayChain where
  adapters : List GatewayAdapter
  adapters_ne : adapters ≠ []

/-- What the loop of a chain carries along. -/
structure ChainState where
  recorder : GatewayRecorder
  failures : List String

namespace GatewayChain

/-- `{request.route.gateway, *request.route.fallback_chain}`. -/
def permittedGateways (request : GatewayRequest) : List String :=
  request.route.gateway :: request.route.fallbackChain

/-- The route of an adapter, if its gateway is not permitted. -/
def refusedRoute (request : GatewayRequest) (adapter : GatewayAdapter) : Option GatewayRoute :=
  adapter.route.filter fun route => route.gateway ∉ permittedGateways request

/-- The record of an adapter whose route is not permitted. -/
def refusal (request : GatewayRequest) (adapter : GatewayAdapter) (number : Nat)
    (route : GatewayRoute) : GatewayEntry where
  request := request
  attempt := {
    adapter := adapter.name
    route := route
    succeeded := false
    latencyMs := 0
    error := some "RouteNotPermitted: route not in fallback chain"
    profileId := some adapter.name
    attemptNumber := number }
  response := none

def success (attempted : GatewayRequest) (adapter : GatewayAdapter) (number latencyMs : Nat)
    (response : GatewayResponse) : GatewayEntry where
  request := attempted
  attempt := {
    adapter := adapter.name
    route := response.route
    succeeded := true
    latencyMs := latencyMs
    profileId := some adapter.name
    attemptNumber := number }
  response := some response

/-- The record of what was raised in the `try` block. -/
def failure (request attempted : GatewayRequest) (adapter : GatewayAdapter) (number latencyMs : Nat)
    (error : PyError) : GatewayEntry where
  request := attempted
  attempt := {
    adapter := adapter.name
    route := adapter.route.getD request.route
    succeeded := false
    latencyMs := latencyMs
    error := some (error.typeName ++ ": provider failure")
    profileId := some adapter.name
    attemptNumber := number }
  response := none

/-- The checks of a response that an adapter returned. -/
def checkResponse (request attempted : GatewayRequest) (adapter : GatewayAdapter)
    (response : GatewayResponse) : Except PyError GatewayResponse :=
  if response.requestId ≠ request.requestId then
    .error (gatewayFailure (adapter.name ++ " returned a response for a different request"))
  else if response.route ≠ attempted.route then
    .error (gatewayFailure (adapter.name
      ++ " returned a route identity different from its pinned request"))
  else if response.route.gateway ∉ permittedGateways request then
    .error (gatewayFailure (adapter.name ++ " returned an unpinned route "
      ++ pyRepr response.route.gateway))
  else .ok response

def ask (weather : GatewayWeather) (request attempted : GatewayRequest) (adapter : GatewayAdapter)
    (number : Nat) : Except PyError GatewayResponse :=
  match weather.reply number attempted with
  | .error failure => .error failure.error
  | .ok response => checkResponse request attempted adapter response

/-- `model_copy(update={"route": adapter_route})`, for an adapter with a route. -/
def attemptRequest (request : GatewayRequest) (adapter : GatewayAdapter) :
    Except PyError GatewayRequest :=
  match adapter.route with
  | none => .ok request
  | some route => request.modelCopy fun r => { r with route }

variable (hashing : RequestHashing) (weather : GatewayWeather)

/-- The `except` branch: record a failure and go on. -/
def giveUp (request attempted : GatewayRequest) (adapter : GatewayAdapter) (number : Nat)
    (error : PyError) (call : ProviderCall) (s : ChainState) :
    Visit ChainState ProviderCall PyError GatewayResponse :=
  let noted := GatewayRecorder.note hashing weather.toAppendWeather
    (failure request attempted adapter number (weather.elapsedAfter number) error) s.recorder
  let failures := s.failures ++ [adapter.name ++ ":" ++ error.typeName ++ ":" ++ error.message]
  ⟨some call, nextAfter noted.1, ⟨noted.2, failures⟩⟩

/-- The `try` block of an adapter. -/
def tryAdapter (request attempted : GatewayRequest) (adapter : GatewayAdapter) (number : Nat)
    (s : ChainState) : Visit ChainState ProviderCall PyError GatewayResponse :=
  match ask weather request attempted adapter number with
  | .error error =>
    giveUp hashing weather request attempted adapter number error ⟨adapter.name, attempted, none⟩ s
  | .ok response =>
    let noted := GatewayRecorder.note hashing weather.toAppendWeather
      (success attempted adapter number (weather.elapsed number) response) s.recorder
    let call : ProviderCall := ⟨adapter.name, attempted, some response⟩
    match noted.1 with
    | .ok _ => ⟨some call, .give response, { s with recorder := noted.2 }⟩
    | .error error =>
      giveUp hashing weather request attempted adapter number error call
        { s with recorder := noted.2 }

/-- An adapter whose route is not permitted is passed over, and that is recorded. -/
def refuse (request : GatewayRequest) (adapter : GatewayAdapter) (number : Nat) (route : GatewayRoute)
    (s : ChainState) : Visit ChainState ProviderCall PyError GatewayResponse :=
  let noted := GatewayRecorder.note hashing weather.toAppendWeather
    (refusal request adapter number route) s.recorder
  let failures := s.failures
    ++ [adapter.name ++ ":route_not_in_fallback_chain:" ++ route.gateway]
  ⟨none, nextAfter noted.1, ⟨noted.2, failures⟩⟩

def visit (request : GatewayRequest) :
    GatewayAdapter × Nat → ChainState → Visit ChainState ProviderCall PyError GatewayResponse
  | (adapter, number), s =>
    match refusedRoute request adapter with
    | some route => refuse hashing weather request adapter number route s
    | none =>
      match attemptRequest request adapter with
      | .error error => ⟨none, .raise error, s⟩
      | .ok attempted => tryAdapter hashing weather request attempted adapter number s

variable (g : GatewayChain)

def attempts (request : GatewayRequest) (r : GatewayRecorder) :
    Trail ChainState ProviderCall PyError GatewayResponse :=
  run (visit hashing weather request) g.adapters.zipIdx ⟨r, []⟩

/-- `" | ".join(failures)`. -/
def joinFailures (failures : List String) : String := " | ".intercalate failures

/-- `complete(request)`. -/
def complete (request : GatewayRequest) (r : GatewayRecorder) :
    Completion ProviderCall :=
  let trail := attempts hashing weather g request r
  { calls := trail.calls
    outcome := match trail.ended with
      | .give response => .ok response
      | .raise error => .error error
      | _ => .error (gatewayFailure ("all pinned gateway routes failed: "
          ++ joinFailures trail.world.failures))
    recorder := some trail.world.recorder }

/-! ## When a chain stands -/

/-- The recorder takes what a turn of the loop records: the success of a valid response is
taken, and a failure does not clash with the ledger. -/
def Recordable (request : GatewayRequest) : GatewayAdapter × Nat → GatewayRecorder → Prop
  | (adapter, number), r =>
    match refusedRoute request adapter with
    | some route => ¬GatewayRecorder.Clashes hashing weather.toAppendWeather
        (refusal request adapter number route) r
    | none =>
      match attemptRequest request adapter with
      | .error _ => True
      | .ok attempted =>
        match ask weather request attempted adapter number with
        | .ok response => GatewayRecorder.Takes hashing weather.toAppendWeather
            (success attempted adapter number (weather.elapsed number) response) r
        | .error error => ¬GatewayRecorder.Clashes hashing weather.toAppendWeather
            (failure request attempted adapter number (weather.elapsedAfter number) error) r

/-- The recorder takes what each turn records that the loop comes to. -/
def RecordableTurns (request : GatewayRequest) (r : GatewayRecorder) : Prop :=
  ∀ numbered s, Reached (visit hashing weather request) g.adapters.zipIdx ⟨r, []⟩ numbered s →
    Recordable hashing weather request numbered s.recorder

variable {hashing weather} {request attempted : GatewayRequest} {adapter : GatewayAdapter}
  {number : Nat} {s : ChainState}

theorem tryAdapter_stands_iff :
    VisitStands ProviderCall.valid (tryAdapter hashing weather request attempted adapter number s) ↔
      match ask weather request attempted adapter number with
      | .ok response => GatewayRecorder.Takes hashing weather.toAppendWeather
          (success attempted adapter number (weather.elapsed number) response) s.recorder
      | .error error => ¬GatewayRecorder.Clashes hashing weather.toAppendWeather
          (failure request attempted adapter number (weather.elapsedAfter number) error)
          s.recorder := by
  unfold tryAdapter
  cases ask weather request attempted adapter number with
  | error error =>
    dsimp only
    rw [← GatewayRecorder.note_conflict_iff]
    apply visitStands_nextAfter
    rintro _ ⟨⟩
    rfl
  | ok response =>
    dsimp only
    rw [← GatewayRecorder.note_ok_iff]
    cases hnoted : (GatewayRecorder.note hashing weather.toAppendWeather
      (success attempted adapter number (weather.elapsed number) response) s.recorder).1 with
    | ok u =>
      constructor
      · intro _
        rfl
      · intro _
        refine ⟨?_, ?_⟩
        · rintro _ ⟨⟩ _ ⟨⟩
          rfl
        · intro _ h
          cases h
    | error error =>
      constructor
      · intro ⟨hhands, _⟩
        -- the response was valid, and the loop goes on or raises
        have hgive := hhands _ rfl response rfl
        unfold giveUp nextAfter at hgive
        dsimp only at hgive
        split at hgive <;> cases hgive
      · intro h
        cases h

variable {numbered : GatewayAdapter × Nat}

theorem visit_stands_iff :
    VisitStands ProviderCall.valid (visit hashing weather request numbered s) ↔
      Recordable hashing weather request numbered s.recorder := by
  obtain ⟨adapter, number⟩ := numbered
  cases hrefused : refusedRoute request adapter with
  | some route =>
    simp only [visit, Recordable, hrefused]
    rw [← GatewayRecorder.note_conflict_iff]
    apply visitStands_nextAfter
    intro _ h
    cases h
  | none =>
    cases hattempt : attemptRequest request adapter with
    | error error =>
      simp only [visit, Recordable, hrefused, hattempt, iff_true]
      refine ⟨?_, ?_⟩
      · intro _ h
        cases h
      · rintro _ ⟨⟩ htype
        unfold attemptRequest at hattempt
        split at hattempt
        · cases hattempt
        · rw [GatewayRequest.modelCopy_error hattempt] at htype
          exact absurd htype (by decide)
    | ok attempted =>
      simp only [visit, Recordable, hrefused, hattempt]
      exact tryAdapter_stands_iff

variable {response : GatewayResponse}

theorem tryAdapter_gives
    (h : (tryAdapter hashing weather request attempted adapter number s).next = .give response) :
    ∃ call ∈ (tryAdapter hashing weather request attempted adapter number s).call,
      call.valid = some response := by
  unfold tryAdapter at h ⊢
  split at h
  · exact absurd h (nextAfter_ne_give _ _)
  · dsimp only at h ⊢
    split at h
    · cases h
      exact ⟨_, rfl, rfl⟩
    · exact absurd h (nextAfter_ne_give _ _)

theorem visit_gives (h : (visit hashing weather request numbered s).next = .give response) :
    ∃ call ∈ (visit hashing weather request numbered s).call, call.valid = some response := by
  obtain ⟨adapter, number⟩ := numbered
  cases hrefused : refusedRoute request adapter with
  | some route =>
    simp only [visit, hrefused] at h
    exact absurd h (nextAfter_ne_give _ _)
  | none =>
    cases hattempt : attemptRequest request adapter with
    | error error =>
      simp only [visit, hrefused, hattempt] at h
      cases h
    | ok attempted =>
      simp only [visit, hrefused, hattempt] at h ⊢
      exact tryAdapter_gives h

/-- **A chain stands exactly when the recorder takes what the turns of its loop record.** -/
theorem complete_stands_iff {g : GatewayChain} {r : GatewayRecorder} :
    (complete hashing weather g request r).Stands ProviderCall.valid ↔
      RecordableTurns hashing weather g request r := by
  have hended : ∀ response, (complete hashing weather g request r).outcome = .ok response ↔
      (attempts hashing weather g request r).ended = .give response := by
    intro response
    unfold complete
    dsimp only
    cases (attempts hashing weather g request r).ended <;> simp
  have hconflict : GatewayRecorder.RaisesConflict (complete hashing weather g request r).outcome ↔
      ∃ e, (attempts hashing weather g request r).ended = .raise e ∧
        e.typeName = "IdempotencyConflict" := by
    unfold complete GatewayRecorder.RaisesConflict
    dsimp only
    cases (attempts hashing weather g request r).ended <;> simp [gatewayFailure]
  have hvisits := stands_iff_visits (w := ⟨r, []⟩) (fun _ _ _ h => visit_gives h) rfl
    (fun _ _ response _ => hended response) hconflict
  rw [hvisits]
  constructor
  · intro h numbered s hreached
    exact visit_stands_iff.mp (h numbered s hreached)
  · intro h numbered s hreached
    exact visit_stands_iff.mpr (h numbered s hreached)

end GatewayChain

end AdvisorAI
