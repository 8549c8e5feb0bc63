import AdvisorAI.Forward.LongRunEvents

/-!
# What the events of a long run leave

`apply` is what an event does to a projection, and `load` what all events of a file leave. An
event is checked once more when it is applied, with the state that it brings: an event that is
written can so be refused, by its writer and by every reader after it. What is loaded has only
taken events that `Applied` describes, and each fact about runs is an induction over these.
-/

namespace AdvisorAI

open Lib Lib.Json

namespace Projection

/-! ## Applying an event -/

section Apply

variable {outside : LongRunOutside} (prereg : LongRunPreregistration)

/-- A recorded identity equals the value of a payload: it is the text, or both are missing. -/
def sameIdentity : Option String → Option Tree → Bool
  | none, none => true
  | none, some .null => true
  | some s, some (.text t) => s = t
  | _, _ => false

def hasIdentity (payload : List (String × Tree)) (name : String) : Bool :=
  match member payload name with
  | none => false
  | some .null => false
  | some _ => true

variable (kind : LongRunEventType)

/-- `is_pending_to_clean` or `is_pending_to_excluded`, with the values of the payload. -/
def Completes (status : LongRunCaseState) (payload : List (String × Tree)) (prior : LongRunCase) :
    Prop :=
  prior.state = .pendingOutcome ∧ sameIdentity prior.predictionId (member payload "prediction_id") ∧
    ((kind = .caseClean ∧ status = .clean) ∨
      (kind = .caseExcluded ∧ status = .excluded ∧ ¬ hasIdentity payload "outcome_case_id"))

instance (kind : LongRunEventType) (status : LongRunCaseState) (payload : List (String × Tree))
    (prior : LongRunCase) : Decidable (Completes kind status payload prior) :=
  inferInstanceAs (Decidable (_ ∧ _ ∧ (_ ∨ _)))

def applyCase (caseState : LongRunCaseState) (payload : List (String × Tree))
    (p : Projection outside) :
    Except PyError (Projection outside) := do
  require (p.state ∈ LongRunState.caseAccounting) (runtimeError'
    "long-run event ledger contains case accounting outside an active or terminalizing run")
  let identity ← ((caseIdentity outside prereg payload).map Except.ok).getD
    (.error (valueError "long-run case event has invalid identity"))
  let key := identity.1
  let status := identity.2
  require (cutoffMatches outside prereg payload key)
    ( runtimeError' "long-run event ledger contains a non-preregistered case cutoff")
  require (status = caseState) ( runtimeError' "long-run case event type and state disagree")
  require (∀ prior ∈ p.cases.get key,
      (prior.state = status ∧ sameIdentity prior.predictionId (member payload "prediction_id") ∧
        sameIdentity prior.outcomeCaseId (member payload "outcome_case_id")) ∨
      Completes kind status payload prior)
    ( runtimeError' "long-run event ledger contains a contradictory case state")
  checkAll (fun entry : CaseKey × LongRunCase => do
    require (entry.1 = key ∨ ¬ (hasIdentity payload "prediction_id" ∧
        sameIdentity entry.2.predictionId (member payload "prediction_id")))
      ( runtimeError' "long-run event ledger reuses a prediction identity")
    require (entry.1 = key ∨ ¬ (hasIdentity payload "outcome_case_id" ∧
        sameIdentity entry.2.outcomeCaseId (member payload "outcome_case_id")))
      ( runtimeError' "long-run event ledger reuses an outcome identity")) p.cases.entries
  require (∀ prior ∈ p.cases.get key, Completes kind status payload prior)
    ( runtimeError' "duplicate case accounting event")
  return { p with cases := p.cases.set key (desiredCase outside status payload) }

def applyRecovery (payload : List (String × Tree)) (p : Projection outside) :
    Except PyError (Projection outside) := do
  require (p.state ∈ LongRunState.recovery)
    ( runtimeError' "long-run event ledger contains recovery outside an active run")
  let key ← validateRecoveryPayload prereg p payload
  let count := p.recoveryCounts.getD key 0 + 1
  require (count ≤ 1)
    ( runtimeError' "long-run recovery exceeded one attempt per component incident")
  let componentCount := p.recoveryComponentCounts.getD key.1 0 + 1
  require (componentCount ≤ prereg.componentLimit key.1)
    ( runtimeError' "long-run recovery exceeded the component-wide cap")
  return { p with
    recoveryCounts := p.recoveryCounts.set key count
    recoveryComponentCounts := p.recoveryComponentCounts.set key.1 componentCount }

/-- The latch. A watchdog's look at a failed run is no second failure. -/
def applyFatal (event : LongRunEvent outside) (p : Projection outside) :
    Except PyError (Projection outside) :=
  if event.state = .generationFatal then
    if kind = .generationFatal then
      .ok { p with fatalLatched := true, fatalEvents := p.fatalEvents ++ [event] }
    else if p.fatalEvents.isEmpty then
      .error ( runtimeError' "fatal state has no append-only fatal incident")
    else .ok { p with fatalLatched := true }
  else .ok p

def applyKind (event : LongRunEvent outside) (p : Projection outside) :
    Except PyError (Projection outside) := do
  let latched ← applyFatal kind event { p with state := event.state }
  match kind, kind.caseState with
  | .recoveryAttempt, _ => applyRecovery prereg event.payload latched
  | _, some caseState => applyCase prereg kind caseState event.payload latched
  | _, none => .ok latched

variable (p : Projection outside) (event : LongRunEvent outside)

def apply :
    Except PyError (Projection outside) := do
  validateAppend prereg p event.eventType event.state event.payload
  match LongRunEventType.ofValue event.eventType with
  | none => .error (runtimeError' ("unknown long-run event type: " ++ event.eventType))
  | some kind => applyKind prereg kind event p

def advance :
    Except PyError (Projection outside) := do
  let q ← apply prereg p event
  return { q with events := q.events ++ [event] }

/-- One turn of `_load`. -/
def take :
    Except PyError (Projection outside) := do
  require event.Legible (runtimeError' ("long-run event ledger is corrupt at line " ++
    String.ofList (integerText (p.events.length + 1 : ℕ))))
  require (event.sequence = p.events.length + 1 ∧ event.previousRecordHash = p.lastRecordHash)
    ( runtimeError' "long-run event hash chain is not continuous")
  require (event.generationId = prereg.generationId)
    ( runtimeError' "long-run event generation identity mismatch")
  advance prereg p event

def load (events : List (LongRunEvent outside)) : Except PyError (Projection outside) :=
  events.foldlM (take prereg) (initial outside)

end Apply

/-! ## What is checked -/

section Checks

variable {outside : LongRunOutside} {prereg : LongRunPreregistration} {p q : Projection outside}
  {kind : LongRunEventType} {state : LongRunState} {payload : List (String × Tree)}

/-- What a case event was checked for. -/
structure CaseChecked (prereg : LongRunPreregistration) (p : Projection outside)
    (kind : LongRunEventType) (payload : List (String × Tree)) (key : CaseKey)
    (desired : LongRunCase) : Prop where
  unlatched : p.fatalLatched = false
  accounting : p.state ∈ LongRunState.caseAccounting
  identity : caseIdentity outside prereg payload = some (key, desired.state)
  described : desired = desiredCase outside desired.state payload
  cutoff : cutoffMatches outside prereg payload key
  status : kind.caseState = some desired.state
  pending : kind = .casePending → Truthy desired.predictionId
  clean : kind = .caseClean → Truthy desired.predictionId ∧ Truthy desired.outcomeCaseId
  unbound : ∀ entry ∈ p.cases.entries, entry.1 ≠ key →
    (desired.predictionId ≠ none → entry.2.predictionId ≠ desired.predictionId) ∧
      (desired.outcomeCaseId ≠ none → entry.2.outcomeCaseId ≠ desired.outcomeCaseId)
  completes : ∀ prior ∈ p.cases.get key,
    PendingToExcluded kind prior desired ∨ PendingToClean kind prior desired

variable {desired : LongRunCase}

theorem checkBound_ok {key : CaseKey} {u : Unit} (h : checkBound p key desired = .ok u) :
    ∀ entry ∈ p.cases.entries, entry.1 ≠ key →
      (desired.predictionId ≠ none → entry.2.predictionId ≠ desired.predictionId) ∧
        (desired.outcomeCaseId ≠ none → entry.2.outcomeCaseId ≠ desired.outcomeCaseId) := by
  intro entry hentry hkey
  have hchecked := checkAll_ok.mp h entry hentry
  rw [require_bind_ok, require_ok] at hchecked
  obtain ⟨hprediction, houtcome⟩ := hchecked
  exact ⟨fun hsome => (hprediction.resolve_left hkey).resolve_left hsome,
    fun hsome => (houtcome.resolve_left hkey).resolve_left hsome⟩

theorem getD_error_ok {α : Type} {found : Option α} {e : PyError} {a : α}
    (h : (found.map Except.ok).getD (.error e) = (.ok a : Except PyError α)) : found = some a := by
  cases found with
  | none => cases h
  | some b =>
    cases h
    rfl

theorem validateCase_ok {caseState : LongRunCaseState} {key : CaseKey}
    (hstate : kind.caseState = some caseState)
    (h : validateCase prereg p kind caseState payload = .ok (key, desired)) :
    CaseChecked prereg p kind payload key desired := by
  unfold validateCase at h
  rw [require_bind_ok, require_bind_ok, bind_ok_iff] at h
  obtain ⟨hlatch, haccounting, ⟨key', status⟩, hidentity, h⟩ := h
  rw [require_bind_ok, require_bind_ok, require_bind_ok, require_bind_ok, require_bind_ok,
    bind_ok_iff] at h
  obtain ⟨hcutoff, hstatus, -, hpending, hclean, u, hbound, h⟩ := h
  rw [require_bind_ok, require_bind_ok] at h
  obtain ⟨-, hcompletes, h⟩ := h
  cases h
  exact {
    unlatched := hlatch
    accounting := haccounting
    identity := getD_error_ok hidentity
    described := rfl
    cutoff := hcutoff
    status := by rw [hstate, hstatus]
    pending := hpending
    clean := hclean
    unbound := checkBound_ok hbound
    completes := hcompletes }

structure StateChecked (p : Projection outside) (kind : LongRunEventType) (state : LongRunState) :
    Prop where
  fixed : ∀ fixed ∈ kind.fixedState, state = fixed
  moves : state = p.state ∨ state ∈ p.state.transitions
  absorbing : p.fatalLatched = true → state ∉ LongRunState.active
  first : state = .generationFatal → kind = .generationFatal ∨ p.fatalLatched = true
  fatal : kind = .generationFatal → state = .generationFatal

theorem validateState_ok {u : Unit} (h : validateState p kind state = .ok u) :
    StateChecked p kind state := by
  unfold validateState at h
  rw [require_bind_ok, require_bind_ok, require_bind_ok, require_bind_ok, require_ok] at h
  obtain ⟨hfixed, hmoves, habsorbing, hfirst, hfatal⟩ := h
  refine ⟨hfixed, hmoves, fun hl hs => habsorbing ⟨hl, hs⟩, ?_, ?_⟩
  · intro hs
    by_cases hk : kind = .generationFatal
    · exact Or.inl hk
    · refine Or.inr (Bool.not_eq_false _ ▸ fun hl => hfirst ⟨hs, hk, hl⟩)
  · intro hk
    by_contra hs
    exact hfatal ⟨hk, hs⟩

/-- The component and the incident that a recovery names. -/
def recoveryKey (payload : List (String × Tree)) : String × String :=
  (((member payload "component").bind Tree.asText).getD "",
    ((member payload "incident_id").bind Tree.asText).getD "")

theorem validateRecoveryPayload_ok {key : String × String}
    (h : validateRecoveryPayload prereg p payload = .ok key) : key = recoveryKey payload := by
  unfold validateRecoveryPayload at h
  simp only [bind_ok_iff, require_ok, exists_and_left, exists_const] at h
  obtain ⟨-, -, -, _, -, _, -, -, -, -, -, -, -, -, -, -, -, h⟩ := h
  cases h
  rfl

end Checks

/-! ## What an event does -/

section Applied

variable {outside : LongRunOutside} {prereg : LongRunPreregistration} {p q : Projection outside}
  {event : LongRunEvent outside} {kind : LongRunEventType}

/-- What an event does to the cases: nothing, or it records the case that it describes. -/
def CasesMove (prereg : LongRunPreregistration) (p : Projection outside)
    (event : LongRunEvent outside) (kind : LongRunEventType) (cases : Dict CaseKey LongRunCase) :
    Prop :=
  (kind.caseState = none ∧ cases = p.cases) ∨
    ∃ key desired, CaseChecked prereg p kind event.payload key desired ∧
      event.state ∈ LongRunState.caseAccounting ∧ cases = p.cases.set key desired

structure RecoveryChecked (prereg : LongRunPreregistration) (p : Projection outside)
    (event : LongRunEvent outside) (key : String × String) : Prop where
  named : key = recoveryKey event.payload
  before : p.state ∈ LongRunState.recovery
  after : event.state ∈ LongRunState.recovery
  first : p.recoveryCounts.getD key 0 + 1 ≤ 1
  limited : p.recoveryComponentCounts.getD key.1 0 + 1 ≤ prereg.componentLimit key.1

/-- What an event does to the counts of recoveries. -/
def RecoveriesMove (prereg : LongRunPreregistration) (p : Projection outside)
    (event : LongRunEvent outside) (kind : LongRunEventType) (counts : Dict (String × String) ℕ)
    (componentCounts : Dict String ℕ) : Prop :=
  (kind ≠ .recoveryAttempt ∧ counts = p.recoveryCounts ∧
      componentCounts = p.recoveryComponentCounts) ∨
    (kind = .recoveryAttempt ∧ ∃ key, RecoveryChecked prereg p event key ∧
      counts = p.recoveryCounts.set key (p.recoveryCounts.getD key 0 + 1) ∧
      componentCounts = p.recoveryComponentCounts.set key.1
        (p.recoveryComponentCounts.getD key.1 0 + 1))

/-- **What an event does**, with all that it was checked for. -/
structure Applied (prereg : LongRunPreregistration) (p : Projection outside)
    (event : LongRunEvent outside) (kind : LongRunEventType) (q : Projection outside) : Prop where
  kind_eq : LongRunEventType.ofValue event.eventType = some kind
  checked : StateChecked p kind event.state
  watched : kind = .watchdogCheck → event.state = p.state
  events_eq : q.events = p.events ++ [event]
  state_eq : q.state = event.state
  latch_iff : q.fatalLatched = true ↔ p.fatalLatched = true ∨ kind = .generationFatal
  fatalEvents_eq : q.fatalEvents
    = if kind = .generationFatal then p.fatalEvents ++ [event] else p.fatalEvents
  cases_move : CasesMove prereg p event kind q.cases
  recoveries_move : RecoveriesMove prereg p event kind q.recoveryCounts q.recoveryComponentCounts

/-- The state and the latch after an event, before its payload is applied. -/
def entered (kind : LongRunEventType) (event : LongRunEvent outside) (p : Projection outside) :
    Projection outside :=
  { p with
    state := event.state
    fatalLatched := p.fatalLatched || decide (event.state = .generationFatal)
    fatalEvents := if kind = .generationFatal then p.fatalEvents ++ [event] else p.fatalEvents }

theorem applyFatal_ok (hchecked : StateChecked p kind event.state)
    (h : applyFatal kind event { p with state := event.state } = .ok q) :
    q = entered kind event p := by
  unfold applyFatal at h
  unfold entered
  by_cases hstate : event.state = .generationFatal
  · rw [if_pos hstate] at h
    by_cases hkind : kind = .generationFatal
    · rw [if_pos hkind] at h
      cases h
      simp [hstate, hkind]
    · rw [if_neg hkind] at h
      split at h
      · cases h
      · cases h
        simp [hstate, hkind]
  · rw [if_neg hstate] at h
    cases h
    simp [hstate, mt hchecked.fatal hstate]

variable {payload : List (String × Tree)} {caseState : LongRunCaseState}

theorem applyCase_ok (h : applyCase prereg kind caseState payload p = .ok q) :
    p.state ∈ LongRunState.caseAccounting ∧ ∃ key status,
      caseIdentity outside prereg payload = some (key, status) ∧
        q = { p with cases := p.cases.set key (desiredCase outside status payload) } := by
  unfold applyCase at h
  simp only [bind_ok_iff, require_ok, exists_and_left, exists_const] at h
  obtain ⟨hstate, ⟨key, status⟩, hidentity, -, -, -, _, -, -, h⟩ := h
  cases h
  exact ⟨hstate, key, status, getD_error_ok hidentity, rfl⟩

theorem applyRecovery_ok (h : applyRecovery prereg payload p = .ok q) :
    p.state ∈ LongRunState.recovery ∧ ∃ key, key = recoveryKey payload ∧
      p.recoveryCounts.getD key 0 + 1 ≤ 1 ∧
      p.recoveryComponentCounts.getD key.1 0 + 1 ≤ prereg.componentLimit key.1 ∧
      q = { p with
        recoveryCounts := p.recoveryCounts.set key (p.recoveryCounts.getD key 0 + 1)
        recoveryComponentCounts := p.recoveryComponentCounts.set key.1
          (p.recoveryComponentCounts.getD key.1 0 + 1) } := by
  unfold applyRecovery at h
  simp only [bind_ok_iff, require_ok, exists_and_left, exists_const] at h
  obtain ⟨hstate, key, hkey, hfirst, hlimited, h⟩ := h
  cases h
  exact ⟨hstate, key, validateRecoveryPayload_ok hkey, hfirst, hlimited, rfl⟩

variable {state : LongRunState} {u : Unit}

theorem validateAppend_ok {eventType : String}
    (h : validateAppend prereg p eventType state payload = .ok u) :
    ∃ kind, LongRunEventType.ofValue eventType = some kind ∧ StateChecked p kind state ∧
      validatePayload prereg p kind state payload = .ok u := by
  unfold validateAppend at h
  rw [bind_ok_iff] at h
  obtain ⟨_, -, h⟩ := h
  cases hkind : LongRunEventType.ofValue eventType with
  | none =>
    rw [hkind] at h
    cases h
  | some kind =>
    rw [hkind] at h
    rw [bind_ok_iff] at h
    obtain ⟨_, hstate, h⟩ := h
    exact ⟨kind, rfl, validateState_ok hstate, h⟩

theorem validatePayload_case (hcase : kind.caseState = some caseState)
    (h : validatePayload prereg p kind state payload = .ok u) :
    ∃ key desired, CaseChecked prereg p kind payload key desired := by
  have hcheck : (validateCase prereg p kind caseState payload).map (fun _ => ()) = .ok u := by
    cases kind <;> cases hcase <;> exact h
  cases hvalidate : validateCase prereg p kind caseState payload with
  | error e =>
    rw [hvalidate] at hcheck
    cases hcheck
  | ok checked => exact ⟨checked.1, checked.2, validateCase_ok hcase hvalidate⟩

theorem validatePayload_watchdog
    (h : validatePayload prereg p .watchdogCheck state payload = .ok u) : state = p.state := by
  unfold validatePayload validateWatchdogPayload at h
  rw [require_bind_ok] at h
  exact h.1

theorem validatePayload_recovery
    (h : validatePayload prereg p .recoveryAttempt state payload = .ok u) :
    p.state ∈ LongRunState.recovery := by
  unfold validatePayload validateRecovery at h
  rw [require_bind_ok] at h
  exact h.1

theorem StateChecked.latch (h : StateChecked p kind state) :
    (p.fatalLatched || decide (state = .generationFatal)) = true ↔
      p.fatalLatched = true ∨ kind = .generationFatal := by
  rw [Bool.or_eq_true, decide_eq_true_eq]
  refine ⟨?_, Or.imp_right h.fatal⟩
  rintro (hlatch | hstate)
  · exact Or.inl hlatch
  · exact (h.first hstate).symm

theorem applied_of_advance (h : advance prereg p event = .ok q) :
    ∃ kind, Applied prereg p event kind q := by
  unfold advance apply at h
  rw [bind_ok_iff] at h
  obtain ⟨left, h, hleft⟩ := h
  rw [bind_ok_iff] at h
  obtain ⟨_, hvalidate, h⟩ := h
  cases hleft
  obtain ⟨kind, hkind, hchecked, hpayload⟩ := validateAppend_ok hvalidate
  rw [hkind] at h
  unfold applyKind at h
  rw [bind_ok_iff] at h
  obtain ⟨latched, hlatched, h⟩ := h
  rw [applyFatal_ok hchecked hlatched] at h
  by_cases hrecovery : kind = .recoveryAttempt
  · subst hrecovery
    obtain ⟨hafter, key, hkey, hfirst, hlimited, hq⟩ := applyRecovery_ok h
    subst hq
    exact ⟨_, {
      kind_eq := hkind
      checked := hchecked
      watched := fun hk => absurd hk (by decide)
      events_eq := rfl
      state_eq := rfl
      latch_iff := hchecked.latch
      fatalEvents_eq := rfl
      cases_move := Or.inl ⟨rfl, rfl⟩
      recoveries_move := Or.inr ⟨rfl, key, ⟨hkey, validatePayload_recovery hpayload, hafter, hfirst,
        hlimited⟩, rfl, rfl⟩ }⟩
  · cases hcase : kind.caseState with
    | some caseState =>
      obtain ⟨key, desired, hcaseChecked⟩ := validatePayload_case hcase hpayload
      have hcaseApplied : applyCase prereg kind caseState event.payload (entered kind event p)
          = .ok left := by
        cases kind <;> cases hcase <;> exact h
      obtain ⟨hafter, key', status, hidentity, hq⟩ := applyCase_ok hcaseApplied
      subst hq
      rw [hcaseChecked.identity] at hidentity
      cases hidentity
      refine ⟨kind, {
        kind_eq := hkind
        checked := hchecked
        watched := fun hk => ?_
        events_eq := rfl
        state_eq := rfl
        latch_iff := hchecked.latch
        fatalEvents_eq := rfl
        cases_move := ?_
        recoveries_move := Or.inl ⟨hrecovery, rfl, rfl⟩ }⟩
      · rw [hk] at hcase
        cases hcase
      · rw [← hcaseChecked.described]
        exact Or.inr ⟨key, desired, hcaseChecked, hafter, rfl⟩
    | none =>
      have hleft : (Except.ok (entered kind event p) : Except PyError (Projection outside))
          = .ok left := by
        cases kind <;> first | exact absurd rfl hrecovery | cases hcase <;> exact h
      cases hleft
      refine ⟨kind, {
        kind_eq := hkind
        checked := hchecked
        watched := fun hk => ?_
        events_eq := rfl
        state_eq := rfl
        latch_iff := hchecked.latch
        fatalEvents_eq := rfl
        cases_move := Or.inl ⟨hcase, rfl⟩
        recoveries_move := Or.inl ⟨hrecovery, rfl, rfl⟩ }⟩
      rw [hk] at hpayload
      exact validatePayload_watchdog hpayload

end Applied

/-! ## Loading -/

section Load

variable {outside : LongRunOutside} {prereg : LongRunPreregistration} {p q : Projection outside}
  {event : LongRunEvent outside} {events more : List (LongRunEvent outside)}

/-- An event is the next one after a projection. -/
def Follows (prereg : LongRunPreregistration) (p : Projection outside)
    (event : LongRunEvent outside) : Prop :=
  (event.sequence = p.events.length + 1 ∧ event.previousRecordHash = p.lastRecordHash) ∧
    event.generationId = prereg.generationId

theorem take_ok : take prereg p event = .ok q ↔
    event.Legible ∧ Follows prereg p event ∧ advance prereg p event = .ok q := by
  unfold take Follows
  rw [require_bind_ok, require_bind_ok, require_bind_ok]
  simp only [and_assoc]

theorem load_concat : load prereg (events ++ [event]) = .ok q ↔
    ∃ p, load prereg events = .ok p ∧ take prereg p event = .ok q := foldlM_concat_ok

theorem load_append (h : load prereg (events ++ more) = .ok q) :
    ∃ p, load prereg events = .ok p ∧ more.foldlM (take prereg) p = .ok q := by
  unfold load at h
  rw [List.foldlM_append, bind_ok_iff] at h
  exact h

/-- **The induction over what is loaded**, an event at a time. -/
theorem load_induction {I : List (LongRunEvent outside) → Projection outside → Prop}
    (hnil : I [] (initial outside))
    (hstep : ∀ events p event q kind, load prereg events = .ok p → I events p → event.Legible →
      Follows prereg p event → Applied prereg p event kind q → I (events ++ [event]) q)
    (h : load prereg events = .ok p) : I events p := by
  induction events using List.reverseRecOn generalizing p with
  | nil =>
    cases h
    exact hnil
  | append_singleton events event ih =>
    obtain ⟨before, hbefore, htake⟩ := load_concat.mp h
    obtain ⟨hlegible, hfollows, hadvance⟩ := take_ok.mp htake
    obtain ⟨kind, happlied⟩ := applied_of_advance hadvance
    exact hstep events before event p kind hbefore (ih hbefore) hlegible hfollows happlied

theorem load_events (h : load prereg events = .ok p) : p.events = events := by
  refine load_induction (I := fun events p => p.events = events) rfl ?_ h
  intro events p event q kind _ ih _ _ happlied
  rw [happlied.events_eq, ih]

end Load

end Projection

end AdvisorAI
