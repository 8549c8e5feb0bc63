import AdvisorAI.Gateway.Recording

/-!
# What a provider gets to see

For every submission the policy gateway calls providers only for a routed class, only on a
tier at least as private as the decision asks for and only under terms that permit the
class, on the first choice and on every fallback. The content of a message that reaches an
adapter matches no secret pattern.

The rest of the request is neither redacted nor searched. `screened_iff` says for which
submissions no text at all that reaches an adapter matches: those of which no string around
the messages does, in any request the policy may hand out (`offered`).
-/

namespace AdvisorAI

open Lib Lib.Failover
open List hiding after

def RouteTier.privacy : RouteTier → Nat
  | .contributorPublic => 0
  | .privateWorker => 1
  | .privateReviewer => 2
  | .blocked => 3

namespace GatewayRequest

/-! ## Copies of stripped requests -/

/-- The messages have been validated: there is nothing to strip. -/
def Stripped (r : GatewayRequest) : Prop := ∀ m ∈ r.messages, strip m.content = m.content

theorem validateMessage_ok {m m' : GatewayMessage} (h : validateMessage m = .ok m') :
    m' = { m with content := strip m.content } := by
  unfold validateMessage at h
  split at h
  · cases h
  · cases h
    rfl

theorem validateMessages_ok {messages messages' : List GatewayMessage}
    (h : messages.mapM validateMessage = .ok messages') :
    messages' = messages.map fun m => { m with content := strip m.content } := by
  induction messages generalizing messages' with
  | nil =>
    cases h
    rfl
  | cons m rest ih =>
    rw [mapM_cons] at h
    obtain ⟨m', hm, h⟩ := ok_of_bind_ok h
    obtain ⟨rest', hrest, h⟩ := ok_of_bind_ok h
    cases h
    rw [validateMessage_ok hm, ih hrest]
    rfl

variable {update : GatewayRequest → GatewayRequest} {r copied : GatewayRequest}

theorem modelCopy_ok (h : r.modelCopy update = .ok copied) :
    copied = { update r with
      messages := (update r).messages.map fun m => { m with content := strip m.content } } := by
  obtain ⟨messages, hmessages, h⟩ := ok_of_bind_ok h
  obtain ⟨_, _, h⟩ := ok_of_bind_ok h
  cases h
  rw [validateMessages_ok hmessages]

theorem stripped_of_modelCopy (h : r.modelCopy update = .ok copied) : copied.Stripped := by
  rw [modelCopy_ok h]
  intro m hm
  obtain ⟨m', _, rfl⟩ := mem_map.mp hm
  exact strip_strip m'.content

theorem modelCopy_of_stripped (hstripped : (update r).Stripped)
    (h : r.modelCopy update = .ok copied) : copied = update r := by
  have hmessages : ((update r).messages.map fun m => { m with content := strip m.content })
      = (update r).messages := by
    conv_rhs => rw [← map_id (update r).messages]
    apply map_congr_left
    intro m hm
    rw [hstripped m hm]
    rfl
  rw [modelCopy_ok h, hmessages]

end GatewayRequest

namespace PolicyGateway

variable (outside : GatewayOutside) (g : PolicyGateway)

/-! ## Safe calls -/

/-- The call is one the routing decision for the submission allows: its class is routed, the
tier of the call is at least as private as decided, and the terms permit the class. -/
structure AllowedCall (s : Submission) (c : RoutedCall) : Prop where
  classified : classify outside.toTextPatterns s.request s.payload ≠ .unclassified
  no_secret : classify outside.toTextPatterns s.request s.payload ≠ .secretExecution
  no_execution : routedImpact outside.toTextPatterns s.request ≠ .execution
  tier : (g.decide outside.toTextPatterns s.request s.payload false).routeTier.privacy
    ≤ c.routeTier.privacy
  terms_tier : c.terms.tier = if c.routeTier = .contributorPublic then .contributor else .private
  permits : c.terms.permits (classify outside.toTextPatterns s.request s.payload) = true

/-- The call is allowed, and no text it carries matches a secret pattern. -/
structure SafeCall (s : Submission) (c : RoutedCall) : Prop extends AllowedCall outside g s c where
  texts : ∀ t ∈ c.request.texts, outside.secretText t = false

/-- A failure on the profile ends the loop whatever the adapter raised. -/
def alwaysStops (p : RouteProfile) : Bool :=
  p.providerPolicy.endpointAdmission.isSome && p.routeTier != .contributorPublic

/-- The requests the loop over the profiles may hand to adapters. -/
def offeredTo (request : GatewayRequest) (decision : GatewayDecision) :
    List RouteProfile → List GatewayRequest
  | [] => []
  | p :: rest =>
    match g.admitProfile request decision p with
    | .passed _ => offeredTo request decision rest
    | .raised _ => []
    | .aligned attempted =>
      attempted :: if alwaysStops p then [] else offeredTo request decision rest

/-- The requests the gateway may hand to adapters for a submission. -/
def offered (s : Submission) : List GatewayRequest :=
  match g.prepare outside s with
  | .error _ => []
  | .ok (candidate, decision) =>
    if g.profiles = [] then
      match g.selectRoute candidate decision with
      | .error _ => []
      | .ok (_, _, attempted) => [attempted]
    else g.offeredTo candidate decision (g.profileCandidates decision)

/-- No string around the messages of a request that may be handed out matches. -/
def Screened (s : Submission) : Prop :=
  ∀ q ∈ g.offered outside s, ∀ t ∈ q.textsAround, outside.secretText t = false

variable {outside g} {candidate attempted request : GatewayRequest} {decision : GatewayDecision}
  {adapter : GatewayAdapter} {terms : ProviderTerms} {s : Submission}

/-! ## The decision -/

variable {patterns : TextPatterns} {payload : Option PyValue}

theorem decide_of_routed {redacted : Bool}
    (h : (g.decide patterns request payload redacted).tier ≠ .blocked) :
    classify patterns request payload ≠ .unclassified ∧
    classify patterns request payload ≠ .secretExecution ∧
    routedImpact patterns request ≠ .execution ∧
    (g.decide patterns request payload redacted).dataClass = classify patterns request payload ∧
    (g.decide patterns request payload redacted).routeTier ≠ .blocked ∧
    ((g.decide patterns request payload redacted).tier
      = if (g.decide patterns request payload redacted).routeTier = .contributorPublic
        then .contributor else .private) := by
  unfold decide at h ⊢
  by_cases hunclassified : classify patterns request payload = .unclassified
  · rw [if_pos hunclassified] at h
    exact absurd rfl h
  · rw [if_neg hunclassified] at h ⊢
    by_cases hsecret : classify patterns request payload = .secretExecution ∨
        routedImpact patterns request = .execution
    · rw [if_pos hsecret] at h
      exact absurd rfl h
    · rw [if_neg hsecret]
      rw [not_or] at hsecret
      refine ⟨hunclassified, hsecret.1, hsecret.2, rfl, ?_, rfl⟩
      show requiredTier _ _ ≠ .blocked
      unfold requiredTier
      repeat' split
      all_goals simp

theorem decide_redacted {a b : Bool} :
    (g.decide patterns request payload a).routeTier
      = (g.decide patterns request payload b).routeTier := by
  unfold decide
  dsimp only
  repeat' split
  all_goals rfl

/-! ## Preparation -/

theorem redactRequest_ok {values : List String} {version : String} {redacted : GatewayRequest}
    {changed : Bool} (h : redactRequest patterns request values version = .ok (redacted, changed)) :
    redacted = { request with
      messages := request.messages.map (redactMessage patterns (normaliseSensitiveValues values))
      redactionPolicyVersion := version } := by
  unfold redactRequest at h
  dsimp only at h
  cases htyped : ({ request with
      messages := request.messages.map (redactMessage patterns (normaliseSensitiveValues values))
      redactionPolicyVersion := version } : GatewayRequest).requireTypedRequest with
  | error e =>
    rw [htyped] at h
    cases h
  | ok u =>
    rw [htyped] at h
    cases h
    rfl

/-- What preparation hands over: the request of the submission with other messages and
hashes, a decision that routes it, and contents that match no pattern. -/
theorem prepare_ok (h : g.prepare outside s = .ok (candidate, decision)) :
    (∃ redacted, decision = g.decide outside.toTextPatterns s.request s.payload redacted) ∧
    decision.tier ≠ .blocked ∧ candidate.Stripped ∧
    ∀ m ∈ candidate.messages, outside.secretText m.content = false := by
  unfold prepare at h
  dsimp only at h
  split at h
  · cases h
  · obtain ⟨⟨redacted, changed⟩, hredact, h⟩ := ok_of_bind_ok h
    obtain ⟨copied, hcopy, h⟩ := ok_of_bind_ok h
    split at h
    next => cases h
    next hclean =>
      split at h
      next => cases h
      next hrouted =>
        cases h
        refine ⟨⟨changed, ?_⟩, hrouted, GatewayRequest.stripped_of_modelCopy hcopy, ?_⟩
        · -- redaction and hashes leave alone what the decision reads
          rw [GatewayRequest.modelCopy_ok hcopy, redactRequest_ok hredact]
          rfl
        · intro m hm
          by_contra hsecret
          apply hclean
          rw [any_eq_true]
          refine ⟨m, hm, ?_⟩
          unfold containsSecretMaterial
          rw [Bool.not_eq_false] at hsecret
          rw [hsecret, Bool.or_true]

/-! ## Alignment -/

theorem alignRoute_ok (hstripped : candidate.Stripped)
    (h : alignRoute candidate adapter = .ok attempted) : attempted = onRoute adapter candidate := by
  unfold alignRoute at h
  split at h
  next hsame =>
    cases h
    unfold onRoute
    rcases hsame with hnone | hroute
    · rw [hnone]
      rfl
    · rw [hroute]
      rfl
  next =>
    have hupdated : (onRoute adapter candidate).Stripped := hstripped
    exact GatewayRequest.modelCopy_of_stripped hupdated h

theorem alignGovernedRoute_ok {policy : ProviderRoutePolicy} (hstripped : candidate.Stripped)
    (h : alignGovernedRoute candidate adapter policy = .ok attempted) :
    attempted = governed policy (onRoute adapter candidate) := by
  unfold alignGovernedRoute at h
  split at h
  next => cases h
  next =>
    have hupdated : (governed policy (onRoute adapter candidate)).Stripped := hstripped
    exact GatewayRequest.modelCopy_of_stripped hupdated h

theorem selectRoute_ok (h : g.selectRoute candidate decision = .ok (adapter, terms, attempted)) :
    g.select decision = .ok (adapter, terms) ∧ alignRoute candidate adapter = .ok attempted := by
  obtain ⟨selected, hselect, h⟩ := ok_of_bind_ok h
  obtain ⟨_, _, h⟩ := ok_of_bind_ok h
  obtain ⟨aligned, halign, h⟩ := ok_of_bind_ok h
  cases h
  exact ⟨hselect, halign⟩

theorem select_ok (h : g.select decision = .ok (adapter, terms)) :
    terms.permits decision.dataClass = true ∧ (g.ofTier decision.tier).2 = terms := by
  unfold select at h
  split at h
  next => cases h
  next hof =>
    split at h
    next => cases h
    next hpermits =>
      cases h
      rw [hof]
      exact ⟨by simpa using hpermits, rfl⟩

theorem admitProfile_aligned {p : RouteProfile}
    (h : g.admitProfile request decision p = .aligned attempted) :
    p.terms.permits decision.dataClass = true ∧
      alignGovernedRoute request p.adapter p.providerPolicy = .ok attempted := by
  unfold admitProfile at h
  split at h
  next => cases h
  next hpermits =>
    refine ⟨by simpa using hpermits, ?_⟩
    split at h
    next => cases h
    next =>
      split at h
      next => cases h
      next =>
        split at h
        next => cases h
        next =>
          split at h
          next => cases h
          next =>
            split at h
            next => cases h
            next halign =>
              cases h
              exact halign

/-! ## Candidates -/

theorem privacy_le_of_candidate {p : RouteProfile} (h : p ∈ g.profileCandidates decision) :
    decision.routeTier.privacy ≤ p.routeTier.privacy := by
  have hallowed : ∀ tier ∈ g.allowedTiers decision.routeTier,
      decision.routeTier.privacy ≤ tier.privacy := by
    intro tier htier
    rcases mem_cons.mp htier with rfl | hfallback
    · exact le_refl _
    · rcases mem_append.mp hfallback with hworker | hreviewer
      · split at hworker
        next hcontributor =>
          rw [hcontributor.1]
          exact Nat.zero_le _
        next => cases hworker
      · split at hreviewer
        next hworker =>
          rw [mem_singleton.mp hreviewer, hworker.1]
          decide
        next => cases hreviewer
  unfold profileCandidates at h
  dsimp only at h
  split at h
  next => cases h
  next primary hprimary =>
    rcases mem_cons.mp h with rfl | hfallback
    · have htier := List.find?_some hprimary
      rw [of_decide_eq_true htier]
    · exact hallowed _ (of_decide_eq_true (mem_filter.mp hfallback).2)

theorem privacy_le_selected (hrouted : decision.routeTier ≠ .blocked) (htier : decision.tier
      = if decision.routeTier = .contributorPublic then .contributor else .private) :
    decision.routeTier.privacy ≤ (selectedRouteTier decision).privacy := by
  unfold selectedRouteTier
  rw [htier]
  cases hroute : decision.routeTier with
  | contributorPublic => exact le_refl _
  | privateWorker => decide
  | privateReviewer => decide
  | blocked => exact absurd hroute hrouted

/-! ## The calls of a submission -/

section Calls

variable {weather : GatewayWeather} {r : Option GatewayRecorder} {c : RoutedCall}

theorem mem_trySelected (h : c ∈ (trySelected outside weather g candidate attempted decision adapter
    terms r).calls) :
    c.request = attempted ∧ c.routeTier = selectedRouteTier decision ∧ c.terms = terms := by
  unfold trySelected at h
  split at h
  · rw [mem_singleton.mp h]
    exact ⟨rfl, rfl, rfl⟩
  · dsimp only at h
    split at h
    · rw [mem_singleton.mp h]
      exact ⟨rfl, rfl, rfl⟩
    · rw [mem_singleton.mp h]
      exact ⟨rfl, rfl, rfl⟩

variable {state : RoutingState} {number n : Nat}

theorem tryProfile_stops {p : RouteProfile} (hstops : alwaysStops p = true) :
    (tryProfile outside weather g request attempted decision p number state).next ≠ .goOn := by
  have hgiveUp : ∀ failure call state,
      (giveUpProfile outside weather attempted p number failure call state).next ≠ .goOn := by
    intro failure call state h
    unfold giveUpProfile at h
    dsimp only at h
    have hstopsAfter : stopsAfter p failure = true := by
      unfold stopsAfter
      unfold alwaysStops at hstops
      rw [hstops, Bool.or_true]
    rw [if_pos hstopsAfter] at h
    split at h <;> cases h
  intro h
  unfold tryProfile at h
  split at h
  · exact hgiveUp _ _ _ h
  · dsimp only at h
    split at h
    · cases h
    · exact hgiveUp _ _ _ h

variable {ps : List RouteProfile}

/-- What the loop over the profiles hands out is offered. -/
theorem request_mem_offeredTo :
    ∀ c ∈ (run (visitProfile outside weather g request decision) (ps.zipIdx n) state).calls,
      c.request ∈ g.offeredTo request decision ps := by
  induction ps generalizing n state with
  | nil =>
    intro c hc
    cases hc
  | cons p rest ih =>
    rw [zipIdx_cons]
    intro c hc
    unfold offeredTo
    cases hadmit : g.admitProfile request decision p with
    | passed reason =>
      have hnext : (visitProfile outside weather g request decision (p, n) state).next = .goOn := by
        simp only [visitProfile, hadmit]
      have hcall : (visitProfile outside weather g request decision (p, n) state).call = none := by
        simp only [visitProfile, hadmit]
      rw [run_goOn hnext, hcall] at hc
      exact ih c hc
    | raised error =>
      have hnext : (visitProfile outside weather g request decision (p, n) state).next ≠ .goOn := by
        simp [visitProfile, hadmit]
      have hcall : (visitProfile outside weather g request decision (p, n) state).call = none := by
        simp only [visitProfile, hadmit]
      rw [run_ended hnext, hcall] at hc
      cases hc
    | aligned attempted =>
      have hfirst : ∀ c ∈ (visitProfile outside weather g request decision (p, n) state).call,
          c.request = attempted := by
        intro c hcall
        have haligned := (visitProfile_call hcall).1
        rw [show g.admitProfile request decision (p, n).1 = _ from hadmit] at haligned
        exact (ProfileAdmission.aligned.inj haligned).symm
      by_cases hnext : (visitProfile outside weather g request decision (p, n) state).next = .goOn
      · have hgoes : alwaysStops p = false := by
          rw [← Bool.not_eq_true]
          intro hstops
          have hended : (tryProfile outside weather g request attempted decision p n state).next
              ≠ .goOn := tryProfile_stops hstops
          apply hended
          rw [← hnext]
          simp only [visitProfile, hadmit]
        rw [run_goOn hnext] at hc
        rcases mem_append.mp hc with hcall | hrest
        · rw [hfirst c (Option.mem_toList.mp hcall)]
          exact mem_cons_self
        · rw [hgoes]
          exact mem_cons_of_mem _ (ih c hrest)
      · rw [run_ended hnext] at hc
        rw [hfirst c (Option.mem_toList.mp hc)]
        exact mem_cons_self

/-- **What a provider gets was offered.** -/
theorem request_mem_offered (h : c ∈ (complete outside weather g s r).calls) :
    c.request ∈ g.offered outside s := by
  unfold complete at h
  unfold offered
  cases hprepare : g.prepare outside s with
  | error error =>
    rw [hprepare] at h
    cases h
  | ok prepared =>
    obtain ⟨candidate, decision⟩ := prepared
    rw [hprepare] at h
    dsimp only at h ⊢
    by_cases hprofiles : g.profiles = []
    · rw [if_pos hprofiles] at h ⊢
      unfold completeSelected at h
      cases hselect : g.selectRoute candidate decision with
      | error error =>
        rw [hselect] at h
        cases h
      | ok selected =>
        rw [hselect] at h
        rw [(mem_trySelected h).1]
        exact mem_singleton_self _
    · rw [if_neg hprofiles] at h ⊢
      exact request_mem_offeredTo c h

/-- **Every call is allowed**, on the first choice and on every fallback. -/
theorem allowed_of_mem (h : c ∈ (complete outside weather g s r).calls) :
    AllowedCall outside g s c := by
  unfold complete at h
  cases hprepare : g.prepare outside s with
  | error error =>
    rw [hprepare] at h
    cases h
  | ok prepared =>
    obtain ⟨candidate, decision⟩ := prepared
    rw [hprepare] at h
    dsimp only at h
    obtain ⟨⟨redacted, hdecision⟩, hrouted, _, _⟩ := prepare_ok hprepare
    rw [hdecision] at hrouted
    obtain ⟨hclassified, hsecret, hexecution, hclass, hnotBlocked, htier⟩ := decide_of_routed hrouted
    rw [← hdecision] at hclass hnotBlocked htier
    have hrequired : (g.decide outside.toTextPatterns s.request s.payload false).routeTier
        = decision.routeTier := by
      rw [hdecision]
      exact decide_redacted
    by_cases hprofiles : g.profiles = []
    · rw [if_pos hprofiles] at h
      unfold completeSelected at h
      cases hselect : g.selectRoute candidate decision with
      | error error =>
        rw [hselect] at h
        cases h
      | ok selected =>
        obtain ⟨adapter, terms, attempted⟩ := selected
        rw [hselect] at h
        obtain ⟨_, hcallTier, hterms⟩ := mem_trySelected h
        obtain ⟨hpermits, hof⟩ := select_ok (selectRoute_ok hselect).1
        refine ⟨hclassified, hsecret, hexecution, ?_, ?_, ?_⟩
        · rw [hrequired, hcallTier]
          exact privacy_le_selected hnotBlocked htier
        · -- the terms are those configured for the tier
          rw [hterms, ← hof, hcallTier]
          unfold ofTier selectedRouteTier
          by_cases hcontributor : decision.tier = .contributor
          · rw [if_pos hcontributor, if_pos hcontributor]
            exact g.config.contributor_tier
          · rw [if_neg hcontributor, if_neg hcontributor]
            exact g.config.private_tier
        · rw [hterms, ← hclass]
          exact hpermits
    · rw [if_neg hprofiles] at h
      have hall : ∀ c ∈ (profileAttempts outside weather g candidate decision r).calls,
          AllowedCall outside g s c := by
        refine forall_calls_iff.mpr ?_
        intro numbered state hreached c hc
        obtain ⟨haligned, hcallTier, hterms, _⟩ := visitProfile_call hc
        have hmem : numbered.1 ∈ g.profileCandidates decision :=
          fst_mem_of_mem_zipIdx hreached.mem
        refine ⟨hclassified, hsecret, hexecution, ?_, ?_, ?_⟩
        · rw [hrequired, hcallTier]
          exact privacy_le_of_candidate hmem
        · rw [hterms, hcallTier]
          exact numbered.1.terms_tier
        · rw [hterms, ← hclass]
          exact (admitProfile_aligned haligned).1
      exact hall c h

/-- Redaction covers the content of every message that is offered. -/
theorem contents_clean {q : GatewayRequest} (h : q ∈ g.offered outside s) :
    ∀ m ∈ q.messages, outside.secretText m.content = false := by
  unfold offered at h
  cases hprepare : g.prepare outside s with
  | error error =>
    rw [hprepare] at h
    cases h
  | ok prepared =>
    obtain ⟨candidate, decision⟩ := prepared
    rw [hprepare] at h
    dsimp only at h
    obtain ⟨_, _, hstripped, hclean⟩ := prepare_ok hprepare
    by_cases hprofiles : g.profiles = []
    · rw [if_pos hprofiles] at h
      cases hselect : g.selectRoute candidate decision with
      | error error =>
        rw [hselect] at h
        cases h
      | ok selected =>
        obtain ⟨adapter, terms, attempted⟩ := selected
        rw [hselect] at h
        rw [mem_singleton.mp h, alignRoute_ok hstripped (selectRoute_ok hselect).2]
        exact hclean
    · rw [if_neg hprofiles] at h
      obtain ⟨p, hadmit⟩ : ∃ p, g.admitProfile candidate decision p = .aligned q := by
        generalize g.profileCandidates decision = ps at h
        induction ps with
        | nil => cases h
        | cons p rest ih =>
          unfold offeredTo at h
          split at h
          · exact ih h
          · cases h
          next attempted hadmit =>
            rcases mem_cons.mp h with rfl | hrest
            · exact ⟨p, hadmit⟩
            · split at hrest
              · cases hrest
              · exact ih hrest
      rw [alignGovernedRoute_ok hstripped (admitProfile_aligned hadmit).2]
      exact hclean

/-! ## Everything offered can reach a provider -/

def failingWeather : GatewayWeather where
  eventId := fun n => n
  fault := fun _ => none
  reply := fun _ _ => .error { error := gatewayFailure "provider down" }
  elapsed := fun _ => 0
  elapsedAfter := fun _ => 0

theorem giveUpProfile_recorder {p : RouteProfile} {failure : ProviderFailure} {call : RoutedCall}
    (h : state.recorder = none) :
    (giveUpProfile outside weather attempted p number failure call state).world.recorder
      = none := by
  unfold giveUpProfile noteIn
  rw [h]

theorem complete_recorder : (complete outside weather g s none).recorder = none := by
  have hprofiles : ∀ candidate decision,
      (completeProfiles outside weather g candidate decision none).recorder = none := by
    intro candidate decision
    refine run_world (P := fun state : RoutingState => state.recorder = none) ?_ rfl
    rintro ⟨p, number⟩ state hnone
    cases hadmit : g.admitProfile candidate decision p with
    | passed | raised =>
      simp only [visitProfile, hadmit]
      exact hnone
    | aligned attempted =>
      simp only [visitProfile, hadmit]
      unfold tryProfile
      split
      · exact giveUpProfile_recorder hnone
      · rw [hnone]
        rfl
  have hselected : ∀ candidate decision,
      (completeSelected outside weather g candidate decision none).recorder = none := by
    intro candidate decision
    unfold completeSelected
    split
    · rfl
    · unfold trySelected
      split <;> rfl
  unfold complete
  split
  · rfl
  · split
    · exact hselected _ _
    · exact hprofiles _ _

/-- With every provider down the loop hands out everything it may. -/
theorem offeredTo_of_failing (hnone : state.recorder = none) :
    (run (visitProfile outside failingWeather g request decision) (ps.zipIdx n) state).calls.map
      (·.request) = g.offeredTo request decision ps := by
  induction ps generalizing n state with
  | nil => rfl
  | cons p rest ih =>
    rw [zipIdx_cons]
    unfold offeredTo
    cases hadmit : g.admitProfile request decision p with
    | passed reason =>
      have hnext : (visitProfile outside failingWeather g request decision (p, n) state).next
          = .goOn := by
        simp only [visitProfile, hadmit]
      rw [run_goOn hnext, map_append, ih]
      · simp only [visitProfile, hadmit]
        rfl
      · simp only [visitProfile, hadmit]
        exact hnone
    | raised error =>
      have hnext : (visitProfile outside failingWeather g request decision (p, n) state).next
          ≠ .goOn := by
        simp [visitProfile, hadmit]
      rw [run_ended hnext]
      simp only [visitProfile, hadmit]
      rfl
    | aligned attempted =>
      -- the provider fails, nothing is recorded, and the loop goes on unless it always stops
      have hvisit : visitProfile outside failingWeather g request decision (p, n) state =
          giveUpProfile outside failingWeather attempted p n
            { error := gatewayFailure "provider down" }
            ⟨⟨p.adapter.name, attempted, none⟩, p.routeTier, p.terms⟩ state := by
        simp only [visitProfile, hadmit]
        rfl
      have hnext : (visitProfile outside failingWeather g request decision (p, n) state).next
          = if alwaysStops p then .stop else .goOn := by
        rw [hvisit]
        unfold giveUpProfile noteIn
        rw [hnone]
        rfl
      have hcall : (visitProfile outside failingWeather g request decision (p, n) state).call
          = some ⟨⟨p.adapter.name, attempted, none⟩, p.routeTier, p.terms⟩ := by
        rw [hvisit]
        exact giveUpProfile_call
      by_cases hstops : alwaysStops p = true
      · rw [if_pos hstops] at hnext
        have hended : (visitProfile outside failingWeather g request decision (p, n) state).next
            ≠ .goOn := by
          rw [hnext]
          simp
        rw [run_ended hended, hcall]
        simp only [hstops, if_true]
        rfl
      · rw [if_neg hstops] at hnext
        rw [run_goOn hnext, map_append, hcall, ih]
        · simp only [hstops]
          rfl
        · rw [hvisit]
          exact giveUpProfile_recorder hnone

theorem exists_call_of_offered {q : GatewayRequest} (h : q ∈ g.offered outside s) :
    ∃ c ∈ (complete outside failingWeather g s none).calls, c.request = q := by
  unfold offered at h
  unfold complete
  cases hprepare : g.prepare outside s with
  | error error =>
    rw [hprepare] at h
    cases h
  | ok prepared =>
    obtain ⟨candidate, decision⟩ := prepared
    rw [hprepare] at h
    dsimp only at h ⊢
    by_cases hprofiles : g.profiles = []
    · rw [if_pos hprofiles] at h ⊢
      unfold completeSelected
      cases hselect : g.selectRoute candidate decision with
      | error error =>
        rw [hselect] at h
        cases h
      | ok selected =>
        obtain ⟨adapter, terms, attempted⟩ := selected
        rw [hselect] at h
        rw [mem_singleton.mp h]
        exact ⟨_, mem_singleton_self _, rfl⟩
    · rw [if_neg hprofiles] at h ⊢
      have hnone : (⟨none, [], []⟩ : RoutingState).recorder = none := rfl
      rw [← offeredTo_of_failing (n := 0) hnone] at h
      exact mem_map.mp h

end Calls

/-- **A call that is made is safe exactly when the strings around its messages are clean.** -/
theorem safe_iff_of_mem {weather : GatewayWeather} {r : Option GatewayRecorder} {c : RoutedCall}
    (h : c ∈ (complete outside weather g s r).calls) :
    SafeCall outside g s c ↔ ∀ t ∈ c.request.textsAround, outside.secretText t = false := by
  constructor
  · intro hsafe t ht
    exact hsafe.texts t (mem_append_right _ ht)
  · intro haround
    refine ⟨allowed_of_mem h, ?_⟩
    intro t ht
    rcases mem_append.mp ht with hcontent | ht
    · obtain ⟨m, hm, rfl⟩ := mem_map.mp hcontent
      exact contents_clean (request_mem_offered h) m hm
    · exact haround t ht

end PolicyGateway

def paperPatterns : TextPatterns where
  secretKey := containsText "password"
  executionKey := fun _ => false
  confidentialKey := fun _ => false
  sanitizedKey := fun _ => false
  secretText := containsText "password="
  taskBlock := containsText "submit"
  taskPrivate := containsText "risk"
  redactPrivateKey := id
  redactBearer := id
  redactAssignment := id

def paperGatewayOutside : GatewayOutside where
  toRequestHashing := paperHashing
  toTextPatterns := paperPatterns
  checks := ⟨fun _ _ _ _ => .ok (), fun _ _ _ => .ok ()⟩
  redactionPolicyHash := fun _ => paperDigest
  routePolicyHash := fun _ => paperDigest

def paperRouteTerms (tier : GatewayTier) (allowed : List GatewayDataClass) (hblocked : tier ≠ .blocked)
    (hallowed : allowed ≠ []) (hsecrets : .secretExecution ∉ allowed) : ProviderTerms where
  name := "paper"
  tier := tier
  allowedDataClasses := allowed
  retentionPolicy := "none"
  trainingPolicy := "no_training"
  termsVerified := true
  termsReference := some "terms-v1"
  not_blocked := hblocked
  allowed_ne := hallowed
  no_secrets := hsecrets
  verified_reference := by simp

def paperPolicyConfig : GatewayPolicyConfig where
  contributorTerms := paperRouteTerms .contributor [.public] (by decide) (by decide) (by decide)
  privateTerms := paperRouteTerms .private [.public, .internalSanitized, .confidential] (by decide)
    (by decide) (by decide)
  routeOrder := []
  allowContributorWorkerFallback := true
  allowWorkerReviewerFallback := true
  abstainOnProviderFailure := true
  policyVersion := "gateway-policy-v1"
  redactionPolicyVersion := "redaction-v1"
  lowConfidenceThreshold := 3 / 5
  privateToolAllowlist := ["read_evidence", "read_artifact", "search_evidence", "lookup_evidence",
    "read_market_context", "read_orderbook"]
  contributor_tier := rfl
  private_tier := rfl
  no_confidential := by decide
  no_training := by decide +kernel
  routeOrder_nodup := nodup_nil

def paperPolicyGateway : PolicyGateway where
  contributor := none
  «private» := some ⟨"direct_recovery", none, false⟩
  config := paperPolicyConfig
  profiles := []
  local_only := by simp
  fallbacks_known := by simp
  order_complete := by simp

def paperTool : GatewayTool where
  name := "read_evidence"
  inputSchemaVersion := "v1"
  outputSchemaVersion := "v1"
  inputSchema := [("type", .str "object"), ("properties", .map [("query", .map
    [("type", .str "string"), ("description", .str "signed in with password=hunter2")])])]

def paperSubmission : PolicyGateway.Submission where
  request := { paperGatewayRequest with
    tools := [paperTool]
    invocationMode := .toolOptional
    dataClass := .internalSanitized }
  payload := none
  sensitiveValues := []

end AdvisorAI
