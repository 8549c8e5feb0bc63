import AdvisorAI.Forward.LongRunSteady

/-!
# What a call records

A call of a coordinator records a case or a failure. Whether it has something to record is decided
on what is read before the lock (`begin_of_recorded`), and under the lock no case is recorded twice
(`nextEvent_of_recorded`). `legible_of_call` says which texts break the line of its event.
-/

namespace AdvisorAI

open Lib Lib.Json Projection

/-! ## Calls that record -/

namespace CoordinatorCall

/-- What a call records: a case, or a failure. -/
def recordedKind : CoordinatorCall → Option LongRunEventType
  | .fail _ _ _ => some .generationFatal
  | .recordCasePending _ _ => some .casePending
  | .recordCaseExcluded _ _ _ => some .caseExcluded
  | .recordCaseClean _ _ _ => some .caseClean
  | _ => none

/-- The texts that an event takes from its call. -/
def texts : CoordinatorCall → List String
  | .fail incident detail _ => [incident, detail]
  | .recordCasePending _ predictionId => [predictionId]
  | .recordCaseExcluded _ reason predictionId => reason :: predictionId.toList
  | .recordCaseClean _ predictionId outcomeCaseId => [predictionId, outcomeCaseId]
  | _ => []

/-- No text of the event of a call breaks its line. -/
def Plain (prereg : LongRunPreregistration) (call : CoordinatorCall) : Prop :=
  UnbrokenText prereg.generationId ∧ ∀ s ∈ call.texts, UnbrokenText s

/-- The call excludes a case that has a prediction. -/
def ExcludesPrediction : CoordinatorCall → Prop
  | .recordCaseExcluded _ _ predictionId => predictionId ≠ none
  | _ => False

end CoordinatorCall

section Recorded

variable {outside : LongRunOutside} {prereg : LongRunPreregistration} {p q : Projection outside}
  {call : CoordinatorCall}

def IsRecorded (prereg : LongRunPreregistration) (p : Projection outside) : CoordinatorCall → Prop
  | .fail _ _ _ => p.fatalLatched = true
  | .recordCasePending case predictionId => ∃ key,
    Projection.validateCutoff outside prereg case = .ok key ∧
      p.cases.get key = some ⟨.pendingOutcome, some predictionId, none⟩
  | .recordCaseExcluded case _ predictionId => ∃ key,
    Projection.validateCutoff outside prereg case = .ok key ∧
      p.cases.get key = some ⟨.excluded, predictionId, none⟩
  | .recordCaseClean case predictionId outcomeCaseId => ∃ key,
    Projection.validateCutoff outside prereg case = .ok key ∧
      p.cases.get key = some ⟨.clean, some predictionId, some outcomeCaseId⟩
  | _ => False

/-- **A call whose record is there returns**, or it raises: an excluded case is taken for one that
gets a prediction, before it is compared with what the call asks for. -/
theorem begin_of_recorded (h : IsRecorded prereg p call) :
    (¬ call.ExcludesPrediction → p.begin prereg call = .ok none) ∧
      (call.ExcludesPrediction → ∃ e, p.begin prereg call = .error e) := by
  cases call with
  | fail incident detail observedAt =>
    refine ⟨fun _ => ?_, fun hnone => absurd hnone id⟩
    change p.fatalLatched = true at h
    show Except.ok (p.fail incident detail observedAt) = _
    unfold Projection.fail
    rw [if_pos h]
  | recordCasePending case predictionId =>
    obtain ⟨key, hkey, hcase⟩ := h
    refine ⟨fun _ => ?_, fun hnone => absurd hnone id⟩
    show p.recordCasePending prereg case predictionId = _
    unfold Projection.recordCasePending
    rw [hkey]
    exact if_pos hcase
  | recordCaseExcluded case reason predictionId =>
    obtain ⟨key, hkey, hcase⟩ := h
    refine ⟨?_, ?_⟩
    · intro hno
      have hnone : predictionId = none := not_not.mp hno
      show p.recordCaseExcluded prereg case reason predictionId = _
      unfold Projection.recordCaseExcluded
      rw [bind_ok_iff]
      refine ⟨key, hkey, ?_⟩
      rw [hcase, require_bind_ok, require_bind_ok]
      refine ⟨?_, ?_, if_pos rfl⟩
      · intro c hc hpending
        cases hc
        cases hpending
      · exact fun _ _ _ => hnone
    · intro hsome
      have hne : predictionId ≠ none := hsome
      cases hbegin : p.begin prereg (.recordCaseExcluded case reason predictionId) with
      | error e => exact ⟨e, rfl⟩
      | ok found =>
        change p.recordCaseExcluded prereg case reason predictionId = _ at hbegin
        unfold Projection.recordCaseExcluded at hbegin
        rw [hkey, bind_ok_iff] at hbegin
        obtain ⟨key', hkey', hbegin⟩ := hbegin
        cases hkey'
        rw [hcase, require_bind_ok, require_bind_ok] at hbegin
        obtain ⟨-, hnone, -⟩ := hbegin
        exact absurd (hnone _ rfl fun hpending => by cases hpending) hne
  | recordCaseClean case predictionId outcomeCaseId =>
    obtain ⟨key, hkey, hcase⟩ := h
    refine ⟨fun _ => ?_, fun hnone => absurd hnone id⟩
    show p.recordCaseClean prereg case predictionId outcomeCaseId = _
    unfold Projection.recordCaseClean
    rw [hkey]
    exact if_pos hcase
  | transition | recordRecovery | recordWatchdogCheck => exact absurd h id

variable {kind : LongRunEventType}

theorem begun_records {next : Stage} (h : Begun prereg p call next)
    (hkind : call.recordedKind = some kind) : ∃ draft after, next = .append draft after ∧
      draft.eventType = kind.value ∧ (after = .finish ∨ kind = .caseExcluded ∧ after = .checkFeasible)
        ∧ (kind ≠ .generationFatal → draft.state = p.state) := by
  cases h <;> cases hkind
  · exact ⟨_, _, rfl, rfl, Or.inl rfl, fun hne => absurd rfl hne⟩
  · exact ⟨_, _, rfl, rfl, Or.inl rfl, fun _ => rfl⟩
  · exact ⟨_, _, rfl, rfl, Or.inr ⟨rfl, rfl⟩, fun _ => rfl⟩
  · exact ⟨_, _, rfl, rfl, Or.inl rfl, fun _ => rfl⟩

variable {event : LongRunEvent outside} {after : AfterAppend} {draft : Draft}

/-- **An event has the line breaks of its call**, when times have none. -/
theorem legible_of_call (htimes : ∀ t, UnbrokenText (outside.timeText t))
    (h : Begun prereg p call (.append draft after)) (hkind : call.recordedKind = some kind)
    (hevent : q.nextEvent prereg draft = .ok event) : event.Legible ↔ call.Plain prereg := by
  have hnames : ∀ name ∈ ["incident", "detail", "symbol", "ordinal", "cutoff", "case_state",
      "prediction_id", "reason", "outcome_case_id"], UnbrokenText name := by decide
  have hkinds : ∀ kind : LongRunEventType, UnbrokenText kind.value := by
    intro kind
    cases kind <;> decide +kernel
  have hsymbols : ∀ symbol : V3CoreSymbol, UnbrokenText symbol.value := by
    intro symbol
    cases symbol <;> decide +kernel
  have hstates : ∀ state : LongRunCaseState, UnbrokenText state.value := by
    intro state
    cases state <;> decide +kernel
  obtain ⟨t, -, hfields, -⟩ := nextEvent_ok hevent
  have hgeneration : event.generationId = prereg.generationId :=
    congrArg LongRunEventFields.generationId hfields
  have htype : event.eventType = draft.eventType := congrArg LongRunEventFields.eventType hfields
  have hpayload : event.payload = draft.payload := congrArg LongRunEventFields.payload hfields
  have hnull : Unbroken .null := fun s hs => absurd hs List.not_mem_nil
  obtain ⟨_, _, hdraft, hdraftType, -⟩ := begun_records h hkind
  cases hdraft
  have hcall : Unbroken (.object draft.payload) ↔ ∀ s ∈ call.texts, UnbrokenText s := by
    simp only [List.forall_mem_cons, List.not_mem_nil, IsEmpty.forall_iff, implies_true, and_true]
      at hnames
    cases h with
    | transition _ => cases hkind
    | recovery _ => cases hkind
    | caseExcluded _ =>
      rename_i reason predictionId key _
      cases predictionId <;>
        simp [unbroken_object, Projection.casePayload, CoordinatorCall.texts, unbroken_text,
          unbroken_number, hnames, hsymbols, hstates, htimes, nullable, hnull]
    | _ =>
      simp [unbroken_object, Projection.casePayload, CoordinatorCall.texts, unbroken_text,
        unbroken_number, hnames, hsymbols, hstates, htimes]
  rw [LongRunEvent.legible_iff, hgeneration, htype, hdraftType, hpayload, hcall]
  exact ⟨fun hlegible => ⟨hlegible.1, hlegible.2.2.2⟩,
    fun hplain => ⟨hplain.1, hkinds kind, htimes _, hplain.2⟩⟩

theorem case_of_applied (houtside : outside.KeepsKeys) {case : CaseArguments} {key : CaseKey}
    (hkey : Projection.validateCutoff outside prereg case = .ok key) {state : LongRunCaseState}
    {more : List (String × Tree)} (hmore : ∀ m ∈ more, m.1 ∉ ["symbol", "ordinal", "case_state"])
    (hcase : kind.caseState = some state)
    (hpayload : event.payload = Projection.casePayload outside prereg key state ++ more)
    (happlied : Projection.Applied prereg p event kind q) :
    q.cases.get key = some (Projection.desiredCase outside state event.payload) := by
  rcases happlied.cases_move with ⟨hnone, -⟩ | ⟨named, desired, hchecked, -, hcases⟩
  · rw [hcase] at hnone
    cases hnone
  · have hidentity := hchecked.identity
    rw [hpayload, caseIdentity_payload houtside (validateCutoff_range hkey) state hmore,
      Option.some.injEq, Prod.mk.injEq] at hidentity
    obtain ⟨rfl, hstate⟩ := hidentity
    rw [hcases, Dict.get_set_self, hchecked.described, ← hstate]

variable {r : Projection outside}

/-- **The event of a call is its record.** -/
theorem recorded_of_applied (houtside : outside.KeepsKeys)
    (h : Begun prereg r call (.append draft after)) (hrecords : call.recordedKind = some kind)
    (hpayload : event.payload = draft.payload)
    (happlied : Projection.Applied prereg p event kind q) : IsRecorded prereg q call := by
  cases h with
  | transition _ => cases hrecords
  | recovery _ => cases hrecords
  | fail _ =>
    cases hrecords
    exact happlied.latch_iff.mpr (Or.inr rfl)
  | casePending hkey =>
    cases hrecords
    refine ⟨_, hkey, ?_⟩
    rw [case_of_applied houtside hkey (by simp) rfl hpayload happlied, hpayload]
    rfl
  | caseExcluded hkey =>
    rename_i reason predictionId key
    cases hrecords
    refine ⟨_, hkey, ?_⟩
    rw [case_of_applied houtside hkey (by simp) rfl hpayload happlied, hpayload]
    cases predictionId <;> rfl
  | caseClean hkey _ =>
    cases hrecords
    refine ⟨_, hkey, ?_⟩
    rw [case_of_applied houtside hkey (by simp) rfl hpayload happlied, hpayload]
    rfl

/-- **No case is recorded twice**: under the lock it is there already. -/
theorem nextEvent_of_recorded (houtside : outside.KeepsKeys)
    (h : Begun prereg r call (.append draft after)) (hkind : call.recordedKind = some kind)
    (hfail : kind ≠ .generationFatal) (hrecorded : IsRecorded prereg p call) :
    p.nextEvent prereg draft ≠ .ok event := by
  intro hevent
  obtain ⟨_, _, hdraft, htype, -⟩ := begun_records h hkind
  cases hdraft
  obtain ⟨t, -, -, hvalidate⟩ := nextEvent_ok hevent
  obtain ⟨kind', hkind', -, hchecked⟩ := validateAppend_ok hvalidate
  rw [htype, LongRunEventType.ofValue_value, Option.some.injEq] at hkind'
  subst hkind'
  -- the case that the draft describes is the one that is there, and it is not pending any more
  have hagain : ∀ {case : CaseArguments} {key : CaseKey} {state : LongRunCaseState}
      {more : List (String × Tree)} {recorded : LongRunCase},
      Projection.validateCutoff outside prereg case = .ok key → kind.caseState = some state →
      (∀ m ∈ more, m.1 ∉ ["symbol", "ordinal", "case_state"]) →
      draft.payload = Projection.casePayload outside prereg key state ++ more →
      p.cases.get key = some recorded → recorded.state = state → False := by
    intro case key state more recorded hkey hcase hmore hpayload hget hstate
    obtain ⟨named, desired, hcaseChecked⟩ := validatePayload_case hcase hchecked
    have hidentity := hcaseChecked.identity
    rw [hpayload, caseIdentity_payload houtside (validateCutoff_range hkey) state hmore,
      Option.some.injEq, Prod.mk.injEq] at hidentity
    obtain ⟨rfl, hdesired⟩ := hidentity
    rcases hcaseChecked.completes recorded hget with ⟨-, hpending, hexcluded, -⟩ |
      ⟨-, hpending, hclean, -⟩
    · rw [← hdesired, ← hstate, hpending] at hexcluded
      cases hexcluded
    · rw [← hdesired, ← hstate, hpending] at hclean
      cases hclean
  cases h with
  | transition _ => cases hkind
  | recovery _ => cases hkind
  | fail _ =>
    cases hkind
    exact hfail rfl
  | casePending hkey =>
    cases hkind
    obtain ⟨key', hkey', hget⟩ := hrecorded
    rw [hkey] at hkey'
    cases hkey'
    exact hagain hkey rfl (by simp) rfl hget rfl
  | caseExcluded hkey =>
    cases hkind
    obtain ⟨key', hkey', hget⟩ := hrecorded
    rw [hkey] at hkey'
    cases hkey'
    exact hagain hkey rfl (by simp) rfl hget rfl
  | caseClean hkey _ =>
    cases hkind
    obtain ⟨key', hkey', hget⟩ := hrecorded
    rw [hkey] at hkey'
    cases hkey'
    exact hagain hkey rfl (by simp) rfl hget rfl

theorem recorded_stays (happlied : Projection.Applied prereg p event kind q)
    (hkind : kind.caseState = none) (h : IsRecorded prereg p call) : IsRecorded prereg q call := by
  have hcases : q.cases = p.cases := by
    rcases happlied.cases_move with ⟨-, hsame⟩ | ⟨_, _, hchecked, -⟩
    · exact hsame
    · have hstatus := hchecked.status
      rw [hkind] at hstatus
      cases hstatus
  cases call with
  | fail _ _ _ => exact happlied.latch_iff.mpr (Or.inl h)
  | recordCasePending | recordCaseExcluded | recordCaseClean =>
    obtain ⟨key, hkey, hget⟩ := h
    exact ⟨key, hkey, by rw [hcases, hget]⟩
  | transition | recordRecovery | recordWatchdogCheck => exact absurd h id

end Recorded

end AdvisorAI
