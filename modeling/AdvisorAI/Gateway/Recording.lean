import AdvisorAI.Gateway.Policy

/-!
# When a valid response reaches the caller

Recording a success stands in the `try` block of the provider call, and what is recorded
holds the measured latency under a key that does not. So a record that is not taken turns a
valid response into a failure of its provider, and a request that is issued again conflicts
with its own records as soon as another latency is measured.

`first_answers_stand_iff` is the exact condition for runs of the chain and of the policy
gateway: at each adapter the loop comes to, the recorder takes the records of a valid
response, and those of a failure do not clash with the ledger.
-/

namespace AdvisorAI

open Lib Lib.Failover

namespace PolicyGateway

variable (outside : GatewayOutside) (weather : GatewayWeather) (g : PolicyGateway)

/-! ## What the recorder has to take -/

/-- Each record is taken after those before it; without a recorder there is nothing to take. -/
def TakesIn (entries : List GatewayEntry) : Option GatewayRecorder → Prop
  | none => True
  | some r =>
    GatewayRecorder.TakesAll outside.toRequestHashing weather.toAppendWeather entries r

/-- One of the records clashes with the ledger. -/
def ClashesIn (entries : List GatewayEntry) : Option GatewayRecorder → Prop
  | none => False
  | some r =>
    GatewayRecorder.ClashesIn outside.toRequestHashing weather.toAppendWeather entries r

/-- The recorder takes what the call of the configured adapter records. -/
def SelectedRecordable (candidate : GatewayRequest) (decision : GatewayDecision)
    (r : Option GatewayRecorder) : Prop :=
  match g.selectRoute candidate decision with
  | .error _ => True
  | .ok (adapter, terms, attempted) =>
    match askSelected outside weather g candidate attempted decision terms with
    | .ok enriched =>
      TakesIn outside weather [selectedSuccess attempted adapter (weather.elapsed 0) enriched] r
    | .error failure =>
      let entries := selectedFailures attempted adapter (weather.elapsedAfter 0) failure
      ¬ClashesIn outside weather entries r ∧
        (TakesIn outside weather entries r → failure.error.typeName ≠ "IdempotencyConflict")

/-- The recorder takes what a turn of the loop over the profiles records. -/
def ProfileRecordable (request : GatewayRequest) (decision : GatewayDecision) :
    RouteProfile × Nat → Option GatewayRecorder → Prop
  | (p, number), r =>
    match g.admitProfile request decision p with
    | .passed _ => True
    | .raised _ => True
    | .aligned attempted =>
      match checkedReply outside weather request attempted p number with
      | .ok response => TakesIn outside weather (profileSuccesses attempted p number
          (weather.elapsed number) response.attemptMetadata
          (enrich outside g request attempted decision (profileTier p) p.routeTier p.terms
            (weather.elapsed number) response)) r
      | .error failure => ¬ClashesIn outside weather
          (profileFailures attempted p number (weather.elapsedAfter number) failure) r

/-- The recorder takes what the provider calls of a submission record. -/
def Recordable (s : Submission) (r : Option GatewayRecorder) : Prop :=
  match g.prepare outside s with
  | .error _ => True
  | .ok (candidate, decision) =>
    if g.profiles = [] then SelectedRecordable outside weather g candidate decision r
    else ∀ numbered state, Reached (visitProfile outside weather g candidate decision)
      (g.profileCandidates decision).zipIdx ⟨r, [], []⟩ numbered state →
        ProfileRecordable outside weather g candidate decision numbered state.recorder

variable {outside weather g} {candidate attempted request : GatewayRequest}
  {decision : GatewayDecision} {adapter : GatewayAdapter} {terms : ProviderTerms}
  {r : Option GatewayRecorder} {entries : List GatewayEntry}

theorem noteIn_ok_iff :
    (noteIn outside weather entries r).1 = .ok () ↔ TakesIn outside weather entries r := by
  cases r with
  | none => exact ⟨fun _ => trivial, fun _ => rfl⟩
  | some r => exact GatewayRecorder.noteAll_ok_iff

theorem noteIn_conflict_iff : GatewayRecorder.RaisesConflict (noteIn outside weather entries r).1
    ↔ ClashesIn outside weather entries r := by
  cases r with
  | none =>
    constructor
    · intro ⟨_, h, _⟩
      cases h
    · intro h
      exact h.elim
  | some r => exact GatewayRecorder.noteAll_conflict_iff

/-! ## The configured adapter -/

theorem stands_of_silent {call : RoutedCall} {outcome : Except PyError GatewayResponse}
    (hcall : call.answer = none) :
    (⟨[call], outcome, r⟩ : Completion RoutedCall).Stands RoutedCall.answer ↔
      ¬GatewayRecorder.RaisesConflict outcome := by
  constructor
  · intro h
    exact h.2
  · intro h
    refine ⟨?_, h⟩
    intro earlier c later response hcalls hvalid
    have hc : c ∈ [call] := by
      rw [show [call] = earlier ++ c :: later from hcalls]
      exact List.mem_append_right _ List.mem_cons_self
    rw [List.mem_singleton.mp hc] at hvalid
    rw [hcall] at hvalid
    cases hvalid

theorem raiseAgain_stands_iff {failure : ProviderFailure} {call : RoutedCall}
    (hcall : call.answer = none) :
    (raiseAgain outside weather attempted adapter failure call r).Stands RoutedCall.answer ↔
      ¬ClashesIn outside weather
        (selectedFailures attempted adapter (weather.elapsedAfter 0) failure) r ∧
      (TakesIn outside weather
        (selectedFailures attempted adapter (weather.elapsedAfter 0) failure) r →
        failure.error.typeName ≠ "IdempotencyConflict") := by
  unfold raiseAgain
  rw [stands_of_silent hcall, ← noteIn_conflict_iff, ← noteIn_ok_iff]
  cases (noteIn outside weather
    (selectedFailures attempted adapter (weather.elapsedAfter 0) failure) r).1 with
  | ok u =>
    constructor
    · intro h
      refine ⟨?_, ?_⟩
      · intro ⟨_, herror, _⟩
        cases herror
      · intro _ htype
        exact h ⟨_, rfl, htype⟩
    · intro ⟨_, h⟩
      rintro ⟨_, ⟨⟩, htype⟩
      exact h rfl htype
  | error error =>
    constructor
    · intro h
      refine ⟨?_, ?_⟩
      · rintro ⟨_, ⟨⟩, htype⟩
        exact h ⟨error, rfl, htype⟩
      · intro herror
        cases herror
    · intro ⟨h, _⟩
      rintro ⟨_, ⟨⟩, htype⟩
      exact h ⟨error, rfl, htype⟩

theorem not_stands_raiseAgain {failure : ProviderFailure} {call : RoutedCall}
    {response : GatewayResponse} (hcall : call.answer = some response) :
    ¬(raiseAgain outside weather attempted adapter failure call r).Stands RoutedCall.answer := by
  intro ⟨hfirst, _⟩
  have houtcome := (hfirst [] call [] response rfl hcall).2
  unfold raiseAgain at houtcome
  dsimp only at houtcome
  split at houtcome <;> cases houtcome

theorem trySelected_stands_iff :
    (trySelected outside weather g candidate attempted decision adapter terms r).Stands RoutedCall.answer ↔
      match askSelected outside weather g candidate attempted decision terms with
      | .ok enriched => TakesIn outside weather
          [selectedSuccess attempted adapter (weather.elapsed 0) enriched] r
      | .error failure =>
        ¬ClashesIn outside weather
          (selectedFailures attempted adapter (weather.elapsedAfter 0) failure) r ∧
        (TakesIn outside weather
          (selectedFailures attempted adapter (weather.elapsedAfter 0) failure) r →
          failure.error.typeName ≠ "IdempotencyConflict") := by
  unfold trySelected
  cases askSelected outside weather g candidate attempted decision terms with
  | error failure => exact raiseAgain_stands_iff rfl
  | ok enriched =>
    dsimp only
    rw [← noteIn_ok_iff]
    cases hnoted : (noteIn outside weather
      [selectedSuccess attempted adapter (weather.elapsed 0) enriched] r).1 with
    | error error =>
      constructor
      · intro h
        exact absurd h (not_stands_raiseAgain rfl)
      · intro h
        cases h
    | ok u =>
      refine ⟨fun _ => rfl, fun _ => ⟨?_, ?_⟩⟩
      · intro earlier call later response hcalls hvalid
        cases earlier with
        | nil =>
          cases hcalls
          cases hvalid
          exact ⟨rfl, rfl⟩
        | cons first earlier => cases earlier <;> cases hcalls
      · intro ⟨_, h, _⟩
        cases h

/-! ## What is raised before a provider is called -/

variable {e : PyError} {tools : List GatewayTool}

theorem checkPrivateTools_error (h : g.checkPrivateTools tools = .error e) :
    e.typeName = "GatewayPolicyError" := by
  induction tools with
  | nil => cases h
  | cons tool rest ih =>
    unfold checkPrivateTools at h
    dsimp only at h
    split at h
    · cases h
      rfl
    · exact ih h

theorem validateToolsForRoute_error {tier : RouteTier}
    (h : g.validateToolsForRoute tools tier = .error e) : e.typeName = "GatewayPolicyError" := by
  unfold validateToolsForRoute at h
  split at h
  · split at h
    · cases h
    · cases h
      rfl
  · exact checkPrivateTools_error h
  · exact checkPrivateTools_error h
  · cases h

theorem select_error (h : g.select decision = .error e) : e.typeName = "GatewayPolicyError" := by
  unfold select at h
  split at h
  · cases h
    rfl
  · split at h
    · cases h
      rfl
    · cases h

theorem alignRoute_error (h : alignRoute request adapter = .error e) :
    e.typeName = "ValidationError" := by
  unfold alignRoute at h
  split at h
  · cases h
  · exact GatewayRequest.modelCopy_error h

theorem alignGovernedRoute_error {policy : ProviderRoutePolicy}
    (h : alignGovernedRoute request adapter policy = .error e) :
    e.typeName = "GatewayPolicyError" ∨ e.typeName = "ValidationError" := by
  unfold alignGovernedRoute at h
  cases hcheck : policy.endpointAdmission.elim (.ok ()) (validateInvocationAdmission request) with
  | ok u =>
    rw [hcheck] at h
    exact Or.inr (GatewayRequest.modelCopy_error h)
  | error e' =>
    rw [hcheck] at h
    cases h
    left
    cases hadmission : policy.endpointAdmission with
    | none =>
      rw [hadmission] at hcheck
      cases hcheck
    | some admission =>
      rw [hadmission] at hcheck
      unfold Option.elim validateInvocationAdmission at hcheck
      dsimp only at hcheck
      repeat' split at hcheck
      all_goals
        cases hcheck
        try rfl

theorem not_conflict_of_refusal
    (h : e.typeName = "GatewayPolicyError" ∨ e.typeName = "ValidationError") :
    e.typeName ≠ "IdempotencyConflict" := by
  rcases h with h | h
  · rw [h]
    decide
  · rw [h]
    decide

theorem selectRoute_error (h : g.selectRoute candidate decision = .error e) :
    e.typeName = "GatewayPolicyError" ∨ e.typeName = "ValidationError" := by
  rcases error_of_bind_error h with hselect | ⟨selected, _, h⟩
  · exact Or.inl (select_error hselect)
  · rcases error_of_bind_error h with htools | ⟨_, _, h⟩
    · exact Or.inl (validateToolsForRoute_error htools)
    · rcases error_of_bind_error h with halign | ⟨_, _, h⟩
      · exact Or.inr (alignRoute_error halign)
      · cases h

theorem redactRequest_error {patterns : TextPatterns} {values : List String} {version : String}
    (h : redactRequest patterns request values version = .error e) :
    e.typeName = "ValidationError" := by
  unfold redactRequest at h
  dsimp only at h
  cases htyped : ({ request with
      messages := request.messages.map (redactMessage patterns (normaliseSensitiveValues values))
      redactionPolicyVersion := version } : GatewayRequest).requireTypedRequest with
  | ok u =>
    rw [htyped] at h
    cases h
  | error e' =>
    rw [htyped] at h
    cases h
    exact GatewayRequest.requireTypedRequest_error htyped

theorem prepare_error {s : Submission} (h : g.prepare outside s = .error e) :
    e.typeName = "GatewayPolicyError" ∨ e.typeName = "ValidationError" := by
  unfold prepare at h
  dsimp only at h
  split at h
  · cases h
    exact Or.inl rfl
  · rcases error_of_bind_error h with hredact | ⟨redacted, _, h⟩
    · exact Or.inr (redactRequest_error hredact)
    · rcases error_of_bind_error h with hcopy | ⟨candidate, _, h⟩
      · exact Or.inr (GatewayRequest.modelCopy_error hcopy)
      · split at h
        · cases h
          exact Or.inl rfl
        · split at h
          · cases h
            exact Or.inl rfl
          · cases h

theorem refused_stands (h : e.typeName ≠ "IdempotencyConflict") :
    (refused e r).Stands RoutedCall.answer := by
  refine ⟨?_, ?_⟩
  · intro earlier call later response hcalls
    cases earlier <;> cases hcalls
  · rintro ⟨_, ⟨⟩, htype⟩
    exact h htype

theorem completeSelected_stands_iff :
    (completeSelected outside weather g candidate decision r).Stands RoutedCall.answer ↔
      SelectedRecordable outside weather g candidate decision r := by
  unfold completeSelected SelectedRecordable
  cases hselect : g.selectRoute candidate decision with
  | error error =>
    exact ⟨fun _ => trivial,
      fun _ => refused_stands (not_conflict_of_refusal (selectRoute_error hselect))⟩
  | ok selected => exact trySelected_stands_iff

/-! ## The route profiles -/

section Profiles

variable {p : RouteProfile} {number : Nat} {s : RoutingState}

variable {call : RoutedCall} {failure : ProviderFailure}

theorem giveUpProfile_stands_iff (hcall : call.answer = none) :
    VisitStands RoutedCall.answer
        (giveUpProfile outside weather attempted p number failure call s) ↔
      ¬ClashesIn outside weather
        (profileFailures attempted p number (weather.elapsedAfter number) failure) s.recorder := by
  rw [← noteIn_conflict_iff]
  unfold giveUpProfile GatewayRecorder.RaisesConflict VisitStands
  dsimp only
  have hsilent : ∀ next world, Hands RoutedCall.answer
      (⟨some call, next, world⟩ : Visit RoutingState RoutedCall PyError GatewayResponse) := by
    intro next world
    apply hands_of_silent
    rintro _ ⟨⟩
    exact hcall
  cases (noteIn outside weather
    (profileFailures attempted p number (weather.elapsedAfter number) failure) s.recorder).1 with
  | ok u =>
    constructor
    · intro _ ⟨_, h, _⟩
      cases h
    · intro _
      refine ⟨hsilent _ _, ?_⟩
      intro e h
      by_cases hstops : stopsAfter p failure = true
      · rw [if_pos hstops] at h
        cases h
      · rw [if_neg hstops] at h
        cases h
  | error error =>
    constructor
    · intro ⟨_, hquiet⟩
      rintro ⟨_, ⟨⟩, htype⟩
      exact hquiet error rfl htype
    · intro hquiet
      refine ⟨hsilent _ _, ?_⟩
      rintro _ ⟨⟩ htype
      exact hquiet ⟨error, rfl, htype⟩

theorem giveUpProfile_call :
    (giveUpProfile outside weather attempted p number failure call s).call = some call := by
  unfold giveUpProfile
  dsimp only
  split <;> rfl

variable {response : GatewayResponse}

theorem giveUpProfile_ne_give :
    (giveUpProfile outside weather attempted p number failure call s).next ≠ .give response := by
  intro h
  unfold giveUpProfile at h
  dsimp only at h
  split at h
  · cases h
  · split at h <;> cases h

theorem tryProfile_stands_iff :
    VisitStands RoutedCall.answer
        (tryProfile outside weather g request attempted decision p number s) ↔
      match checkedReply outside weather request attempted p number with
      | .ok response => TakesIn outside weather (profileSuccesses attempted p number
          (weather.elapsed number) response.attemptMetadata
          (enrich outside g request attempted decision (profileTier p) p.routeTier p.terms
            (weather.elapsed number) response)) s.recorder
      | .error failure => ¬ClashesIn outside weather
          (profileFailures attempted p number (weather.elapsedAfter number) failure)
          s.recorder := by
  unfold tryProfile
  cases checkedReply outside weather request attempted p number with
  | error failure => exact giveUpProfile_stands_iff rfl
  | ok response =>
    dsimp only
    rw [← noteIn_ok_iff]
    split
    next u hnoted =>
      refine ⟨fun _ => hnoted, fun _ => ⟨?_, ?_⟩⟩
      · rintro _ ⟨⟩ _ ⟨⟩
        rfl
      · intro _ h
        cases h
    next error hnoted =>
      rw [hnoted]
      constructor
      · intro ⟨hhands, _⟩
        -- the response was valid, and the loop goes on, stops or raises
        exact absurd (hhands _ giveUpProfile_call _ rfl) giveUpProfile_ne_give
      · intro h
        cases h

theorem admitProfile_error {e : PyError} (h : g.admitProfile request decision p = .raised e) :
    e.typeName = "GatewayPolicyError" ∨ e.typeName = "ValidationError" := by
  unfold admitProfile at h
  split at h
  · cases h
  · split at h
    · cases h
    · split at h
      · cases h
      · split at h
        · cases h
        · split at h
          · cases h
          · split at h
            next halign =>
              cases h
              exact alignGovernedRoute_error halign
            next => cases h

variable {numbered : RouteProfile × Nat}

theorem visitProfile_stands_iff :
    VisitStands RoutedCall.answer (visitProfile outside weather g request decision numbered s) ↔
      ProfileRecordable outside weather g request decision numbered s.recorder := by
  obtain ⟨p, number⟩ := numbered
  have hquiet : ∀ next world, (∀ e, next = .raise e → e.typeName ≠ "IdempotencyConflict") →
      VisitStands RoutedCall.answer
        (⟨none, next, world⟩ : Visit RoutingState RoutedCall PyError GatewayResponse) := by
    intro next world hraise
    refine ⟨?_, hraise⟩
    intro _ h
    cases h
  cases hadmit : g.admitProfile request decision p with
  | passed reason =>
    simp only [visitProfile, ProfileRecordable, hadmit, iff_true]
    apply hquiet
    intro _ h
    cases h
  | raised error =>
    simp only [visitProfile, ProfileRecordable, hadmit, iff_true]
    apply hquiet
    rintro _ ⟨⟩
    exact not_conflict_of_refusal (admitProfile_error hadmit)
  | aligned attempted =>
    simp only [visitProfile, ProfileRecordable, hadmit]
    exact tryProfile_stands_iff

theorem tryProfile_gives
    (h : (tryProfile outside weather g request attempted decision p number s).next
      = .give response) :
    ∃ call ∈ (tryProfile outside weather g request attempted decision p number s).call,
      call.answer = some response := by
  unfold tryProfile at h ⊢
  split at h
  · exact absurd h giveUpProfile_ne_give
  · dsimp only at h ⊢
    split at h
    · cases h
      exact ⟨_, rfl, rfl⟩
    · exact absurd h giveUpProfile_ne_give

theorem visitProfile_gives
    (h : (visitProfile outside weather g request decision numbered s).next = .give response) :
    ∃ call ∈ (visitProfile outside weather g request decision numbered s).call,
      call.answer = some response := by
  obtain ⟨p, number⟩ := numbered
  cases hadmit : g.admitProfile request decision p with
  | passed | raised =>
    simp only [visitProfile, hadmit] at h
    cases h
  | aligned attempted =>
    simp only [visitProfile, hadmit] at h ⊢
    exact tryProfile_gives h

/-- What a call of a turn is: made for an admitted profile, under its tier and terms, with
the aligned request, and its valid response carries the tier of the profile. -/
theorem visitProfile_call
    (h : call ∈ (visitProfile outside weather g request decision numbered s).call) :
    g.admitProfile request decision numbered.1 = .aligned call.request ∧
      call.routeTier = numbered.1.routeTier ∧ call.terms = numbered.1.terms ∧
      ∀ response, call.answer = some response → response.tier = some (profileTier numbered.1) := by
  obtain ⟨p, number⟩ := numbered
  cases hadmit : g.admitProfile request decision p with
  | passed | raised =>
    simp only [visitProfile, hadmit] at h
    cases h
  | aligned attempted =>
    simp only [visitProfile, hadmit] at h ⊢
    unfold tryProfile at h
    split at h
    · rw [giveUpProfile_call] at h
      cases h
      refine ⟨rfl, rfl, rfl, ?_⟩
      intro response hanswer
      cases hanswer
    · dsimp only at h
      split at h
      · cases h
        refine ⟨rfl, rfl, rfl, ?_⟩
        rintro _ ⟨⟩
        rfl
      · rw [giveUpProfile_call] at h
        cases h
        refine ⟨rfl, rfl, rfl, ?_⟩
        rintro _ ⟨⟩
        rfl

theorem completeProfiles_stands_iff :
    (completeProfiles outside weather g request decision r).Stands RoutedCall.answer ↔
      ∀ numbered state, Reached (visitProfile outside weather g request decision)
        (g.profileCandidates decision).zipIdx ⟨r, [], []⟩ numbered state →
          ProfileRecordable outside weather g request decision numbered state.recorder := by
  have hok : ∀ call ∈ (completeProfiles outside weather g request decision r).calls,
      ∀ response, call.answer = some response →
        ((completeProfiles outside weather g request decision r).outcome = .ok response ↔
          (profileAttempts outside weather g request decision r).ended = .give response) := by
    intro call hcall response hanswer
    -- an abstention is not a valid response: its tier is blocked
    have htier : response.tier ≠ some .blocked := by
      have hall : ∀ c ∈ (profileAttempts outside weather g request decision r).calls,
          ∀ response, c.answer = some response → response.tier ≠ some .blocked := by
        refine (forall_calls_iff (P := fun c : RoutedCall =>
          ∀ response, c.answer = some response → response.tier ≠ some .blocked)).mpr ?_
        intro numbered state _ c hc response hanswer hblocked
        rw [(visitProfile_call hc).2.2.2 response hanswer] at hblocked
        unfold profileTier at hblocked
        split at hblocked <;> cases hblocked
      exact hall call hcall response hanswer
    unfold completeProfiles
    dsimp only
    have hwithout : ∀ state, withoutResponse outside g request decision state ≠ .ok response := by
      intro state hsame
      unfold withoutResponse at hsame
      split at hsame
      · cases hsame
        exact htier rfl
      · cases hsame
    cases (profileAttempts outside weather g request decision r).ended <;>
      simp [hwithout]
  have hconflict : GatewayRecorder.RaisesConflict
      (completeProfiles outside weather g request decision r).outcome ↔
      ∃ e, (profileAttempts outside weather g request decision r).ended = .raise e ∧
        e.typeName = "IdempotencyConflict" := by
    have hwithout : ∀ state e, withoutResponse outside g request decision state = .error e →
        e.typeName ≠ "IdempotencyConflict" := by
      intro state e hsame
      unfold withoutResponse at hsame
      split at hsame
      · cases hsame
      · cases hsame
        show "GatewayFailure" ≠ "IdempotencyConflict"
        decide
    unfold completeProfiles GatewayRecorder.RaisesConflict
    dsimp only
    cases (profileAttempts outside weather g request decision r).ended <;>
      simp
    all_goals exact hwithout _
  have hvisits := stands_iff_visits (w := ⟨r, [], []⟩) (fun _ _ _ h => visitProfile_gives h) rfl
    hok hconflict
  rw [hvisits]
  constructor
  · intro h numbered state hreached
    exact visitProfile_stands_iff.mp (h numbered state hreached)
  · intro h numbered state hreached
    exact visitProfile_stands_iff.mpr (h numbered state hreached)

end Profiles

/-- **A submission stands exactly when the recorder takes what its provider calls record.** -/
theorem complete_stands_iff {s : Submission} :
    (complete outside weather g s r).Stands RoutedCall.answer ↔
      Recordable outside weather g s r := by
  unfold complete Recordable
  cases hprepare : g.prepare outside s with
  | error error =>
    exact ⟨fun _ => trivial,
      fun _ => refused_stands (not_conflict_of_refusal (prepare_error hprepare))⟩
  | ok prepared =>
    obtain ⟨candidate, decision⟩ := prepared
    by_cases hprofiles : g.profiles = []
    · simp only [if_pos hprofiles]
      exact completeSelected_stands_iff
    · simp only [if_neg hprofiles]
      exact completeProfiles_stands_iff

end PolicyGateway

/-! ## Runs -/

section Runs

variable {ι χ : Type} (serve : ι → Option GatewayRecorder → Completion χ)

variable (r : Option GatewayRecorder)

def recorderAfter (calls : List ι) : Option GatewayRecorder :=
  calls.foldl (fun r i => (serve i r).recorder) r

/-- Something holds of every call of a run and the recorder it finds. -/
def EachCall (calls : List ι) (P : ι → Option GatewayRecorder → Prop) : Prop :=
  ∀ earlier i later, calls = earlier ++ i :: later → P i (recorderAfter serve r earlier)

variable {serve}

theorem EachCall.congr {r : Option GatewayRecorder} {calls : List ι}
    {P Q : ι → Option GatewayRecorder → Prop} (h : ∀ i r, P i r ↔ Q i r) :
    EachCall serve r calls P ↔ EachCall serve r calls Q := by
  constructor
  · intro hP earlier i later hcalls
    exact (h _ _).mp (hP earlier i later hcalls)
  · intro hQ earlier i later hcalls
    exact (h _ _).mpr (hQ earlier i later hcalls)

end Runs

/-- A call of a chain, with a recorder of its own where it is given none. -/
def GatewayChain.serve (hashing : RequestHashing) (g : GatewayChain)
    (call : GatewayRequest × GatewayWeather) (r : Option GatewayRecorder) :
    Completion ProviderCall :=
  g.complete hashing call.2 call.1 (r.getD ⟨[], [], none⟩)

def PolicyGateway.serve (outside : GatewayOutside) (g : PolicyGateway)
    (call : PolicyGateway.Submission × GatewayWeather) (r : Option GatewayRecorder) :
    Completion PolicyGateway.RoutedCall :=
  g.complete outside call.2 call.1 r

/-- **Runs of the gateways.** In every run, whichever requests are issued or issued again,
every call hands its first valid response to the caller, calls no further provider and
raises no `IdempotencyConflict`, exactly when the recorder takes what each call records. -/
theorem first_answers_stand_iff (hashing : RequestHashing) (chain : GatewayChain)
    (outside : GatewayOutside) (policy : PolicyGateway) (r : Option GatewayRecorder)
    (asked : List (GatewayRequest × GatewayWeather))
    (submitted : List (PolicyGateway.Submission × GatewayWeather)) :
    (EachCall (chain.serve hashing) r asked
        (fun i r => (chain.serve hashing i r).Stands ProviderCall.valid) ↔
      EachCall (chain.serve hashing) r asked
        (fun i r => chain.RecordableTurns hashing i.2 i.1 (r.getD ⟨[], [], none⟩))) ∧
    (EachCall (policy.serve outside) r submitted
        (fun i r => (policy.serve outside i r).Stands PolicyGateway.RoutedCall.answer) ↔
      EachCall (policy.serve outside) r submitted
        (fun i r => policy.Recordable outside i.2 i.1 r)) := by
  constructor
  · apply EachCall.congr
    intro i r
    exact GatewayChain.complete_stands_iff
  · apply EachCall.congr
    intro i r
    exact PolicyGateway.complete_stands_iff

/-! ## The same request again -/

def paperHashing : RequestHashing := ⟨fun _ => paperDigest, fun _ => paperDigest, fun _ => paperDigest⟩

def paperGatewayRoute : GatewayRoute where
  provider := "test"
  model := "test"
  gateway := "direct"
  fallbackChain := []
  schemaMode := "typed_json"
  retentionPolicy := "unspecified"
  trainingPolicy := "unspecified"
  termsVerified := false
  termsReference := none
  endpointVariant := none
  identified := by decide
  fallbacks_nodup := List.nodup_nil
  primary_not_fallback := List.not_mem_nil

def paperGatewayRequest : GatewayRequest where
  requestId := 1
  route := paperGatewayRoute
  messages := [⟨"user", "ping"⟩]
  invocationMode := .structuredOutput
  promptVersion := "p1"
  privacyClass := "non_secret"
  dataClass := .public
  taskKind := "research"
  decisionImpact := .nonCritical
  outputKind := .generic
  redactionPolicyVersion := "redaction-v1"
  generationBudget := none
  createdAt := 0

def paperChain : GatewayChain where
  adapters := [⟨"direct_recovery", none, false⟩, ⟨"spare_recovery", none, false⟩]
  adapters_ne := by simp

def paperWeather (ms : Nat) : GatewayWeather where
  eventId := fun n => n
  fault := fun _ => none
  reply := fun _ => localDeterministicGateway [("ok", .bool true)] ms
  elapsed := fun _ => ms
  elapsedAfter := fun _ => ms

def paperIssues : List (GatewayRequest × GatewayWeather) :=
  [(paperGatewayRequest, paperWeather 1), (paperGatewayRequest, paperWeather 2),
    (paperGatewayRequest, paperWeather 3)]

def paperCompletion (n : Nat) : Completion ProviderCall :=
  paperChain.serve paperHashing (paperGatewayRequest, paperWeather n)
    (recorderAfter (paperChain.serve paperHashing) (some ⟨[], [], some []⟩)
      (paperIssues.take (n - 1)))

/-- The second call goes on to the spare gateway although the first one answered; the third
call raises. -/
theorem slower_retry : ¬EachCall (paperChain.serve paperHashing) (some ⟨[], [], some []⟩)
      paperIssues (fun i r => (paperChain.serve paperHashing i r).Stands ProviderCall.valid) ∧
    (paperCompletion 2).calls.map (fun c => (c.adapter, c.valid.isSome))
      = [("direct_recovery", true), ("spare_recovery", true)] ∧
    GatewayRecorder.RaisesConflict (paperCompletion 3).outcome := by
  have hthird : GatewayRecorder.RaisesConflict (paperCompletion 3).outcome := by
    have hraises : raises (fun e => decide (e.typeName = "IdempotencyConflict"))
        (paperCompletion 3).outcome = true := by
      decide +kernel
    obtain ⟨e, he, hconflict⟩ := error_of_raises hraises
    exact ⟨e, he, of_decide_eq_true hconflict⟩
  refine ⟨?_, by decide +kernel, hthird⟩
  intro hstands
  exact (hstands (paperIssues.take 2) (paperGatewayRequest, paperWeather 3) [] rfl).2 hthird

end AdvisorAI
