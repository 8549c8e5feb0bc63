import AdvisorAI.Forward.LongRunCases

/-!
# Steady runs

A coordinator appends a case or a recovery with the state that it has read before. In a run where
these events come from their own methods, and each line can be read, such a state is never behind
the file: it was the state of the file, the states only go forward, and one that is left is no
state to go to. So each event that is written is also applied, the file loads in every state, and
a case or a recovery does not change the state. `Steady` is the invariant, `steady_step` its step.
-/

namespace AdvisorAI

open Lib Lib.Json Projection LongRunWorld
open List hiding after

/-! ## The order of the states -/

def LongRunState.rank : LongRunState → ℕ
  | .preregistered => 0
  | .preflightReady => 1
  | .runningWarmup => 2
  | .running => 3
  | .recoveringComponent => 4
  | .terminalizing => 5
  | .deadlineReached => 6
  | .generationFatal => 7
  | .completedPendingAudit => 8
  | .audited => 9

def LongRunState.steady : List LongRunState :=
  [.preregistered, .preflightReady, .runningWarmup, .running, .terminalizing, .deadlineReached,
    .generationFatal]

theorem LongRunState.rank_lt {s t : LongRunState} (hs : s ∈ steady) (hfatal : s ≠ .generationFatal)
    (ht : t ∈ s.transitions) : s.rank < t.rank := by
  have hall : ∀ s ∈ steady, s ≠ .generationFatal → ∀ t ∈ s.transitions, s.rank < t.rank := by decide
  exact hall s hs hfatal t ht

def LongRunEventType.recorded : List LongRunEventType :=
  [.casePending, .caseExcluded, .caseClean, .recoveryAttempt]

theorem LongRunEventType.mem_recorded {kind : LongRunEventType} :
    kind ∈ recorded ↔ kind.caseState ≠ none ∨ kind = .recoveryAttempt := by
  cases kind <;> decide

/-! ## Drafts -/

section Drafts

variable {outside : LongRunOutside} {prereg : LongRunPreregistration} {p q : Projection outside}
  {draft : Draft} {event : LongRunEvent outside}

/-- The identities of a payload are texts, where they are there. -/
def TextIdentities (payload : List (String × Tree)) : Prop :=
  ∀ name ∈ ["prediction_id", "outcome_case_id"], ∀ v ∈ member payload name,
    v = .null ∨ ∃ s, v = .text s

/-- A draft of a case or a recovery that is not behind a projection. -/
def DraftSound (p : Projection outside) (draft : Draft) : Prop :=
  ∀ kind ∈ LongRunEventType.recorded, draft.eventType = kind.value →
    TextIdentities draft.payload ∧ (p.fatalLatched = false → draft.state.rank ≤ p.state.rank)

variable {kind : LongRunEventType}

/-- **A state that a case or a recovery brings** is the state that there is. -/
theorem state_of_rank {state : LongRunState}
    (hload : ∃ events, Projection.load prereg events = .ok p)
    (hsteady : p.state ∈ LongRunState.steady) (hlatch : p.fatalLatched = false)
    (hrank : state.rank ≤ p.state.rank) (hchecked : Projection.StateChecked p kind state) :
    state = p.state := by
  obtain ⟨events, hload⟩ := hload
  rcases hchecked.moves with hsame | hmoves
  · exact hsame
  · have hfatal : p.state ≠ .generationFatal := by
      intro hstate
      rw [(load_failed hload).2 hstate] at hlatch
      cases hlatch
    exact absurd (LongRunState.rank_lt hsteady hfatal hmoves) (Nat.not_lt.mpr hrank)

variable {payload : List (String × Tree)}

theorem sameIdentity_iff (outside : LongRunOutside) (htexts : TextIdentities payload)
    {name : String} (hname : name ∈ ["prediction_id", "outcome_case_id"])
    (recorded : Option String) :
    Projection.sameIdentity recorded (member payload name) = true ↔
      recorded = outside.optionalStr payload name := by
  unfold LongRunOutside.optionalStr
  cases hv : member payload name with
  | none =>
    cases recorded <;> simp [Projection.sameIdentity]
  | some v =>
    rcases htexts name hname v hv with rfl | ⟨s, rfl⟩
    · cases recorded <;> simp [Projection.sameIdentity]
    · cases recorded <;> simp [Projection.sameIdentity, LongRunOutside.str]

theorem hasIdentity_iff (outside : LongRunOutside) (htexts : TextIdentities payload)
    {name : String} (hname : name ∈ ["prediction_id", "outcome_case_id"]) :
    Projection.hasIdentity payload name = true ↔ outside.optionalStr payload name ≠ none := by
  unfold LongRunOutside.optionalStr Projection.hasIdentity
  cases hv : member payload name with
  | none => simp
  | some v =>
    rcases htexts name hname v hv with rfl | ⟨s, rfl⟩ <;> simp

/-- **A case that was checked is applied**, in the state that there is. -/
theorem applyCase_of_checked {key : CaseKey} {desired : LongRunCase}
    (hchecked : Projection.CaseChecked prereg p kind payload key desired)
    (htexts : TextIdentities payload) {started : Projection outside}
    (hstate : started.state = p.state) (hcases : started.cases = p.cases) :
    ∃ q, Projection.applyCase prereg kind desired.state payload started = .ok q := by
  have hprediction : desired.predictionId = outside.optionalStr payload "prediction_id" := by
    rw [hchecked.described]
    rfl
  have houtcome : desired.outcomeCaseId = outside.optionalStr payload "outcome_case_id" := by
    rw [hchecked.described]
    rfl
  have hcompletes : ∀ prior ∈ p.cases.get key,
      Projection.Completes kind desired.state payload prior := by
    intro prior hprior
    rcases hchecked.completes prior hprior with ⟨hk, hpending, hs, hp, ho⟩ | ⟨hk, hpending, hs, hp⟩
    · refine ⟨hpending, ?_, Or.inr ⟨hk, hs, ?_⟩⟩
      · rw [sameIdentity_iff outside htexts (by decide), ← hprediction, hp]
      · rw [hasIdentity_iff outside htexts (by decide), ← houtcome, ho]
        exact fun h => h rfl
    · refine ⟨hpending, ?_, Or.inl ⟨hk, hs⟩⟩
      rw [sameIdentity_iff outside htexts (by decide), ← hprediction, hp]
  refine ⟨{ started with
    cases := started.cases.set key (Projection.desiredCase outside desired.state payload) }, ?_⟩
  unfold Projection.applyCase
  rw [hchecked.identity]
  simp only [bind_ok_iff, require_ok, exists_and_left, exists_const]
  rw [hstate, hcases]
  refine ⟨hchecked.accounting, (key, desired.state), rfl, hchecked.cutoff, rfl, ?_, (), ?_,
    hcompletes, rfl⟩
  · exact fun prior hprior => Or.inr (hcompletes prior hprior)
  · refine checkAll_ok.mpr ?_
    intro entry hentry
    rw [require_bind_ok, require_ok]
    by_cases hkey : entry.1 = key
    · exact ⟨Or.inl hkey, Or.inl hkey⟩
    · obtain ⟨hfree, hfree'⟩ := hchecked.unbound entry hentry hkey
      refine ⟨Or.inr ?_, Or.inr ?_⟩
      · rintro ⟨hhas, hsame⟩
        rw [hasIdentity_iff outside htexts (by decide), ← hprediction] at hhas
        rw [sameIdentity_iff outside htexts (by decide), ← hprediction] at hsame
        exact hfree hhas hsame
      · rintro ⟨hhas, hsame⟩
        rw [hasIdentity_iff outside htexts (by decide), ← houtcome] at hhas
        rw [sameIdentity_iff outside htexts (by decide), ← houtcome] at hsame
        exact hfree' hhas hsame

theorem validateRecovery_ok {u : Unit} (h : Projection.validateRecovery prereg p payload = .ok u) :
    p.state ∈ LongRunState.recovery ∧ ∃ key,
      Projection.validateRecoveryPayload prereg p payload = .ok key ∧
        p.recoveryCounts.getD key 0 < 1 ∧
          p.recoveryComponentCounts.getD key.1 0 < prereg.componentLimit key.1 := by
  unfold Projection.validateRecovery at h
  rw [require_bind_ok, bind_ok_iff] at h
  obtain ⟨hstate, key, hkey, h⟩ := h
  have hlimit : p.recoveryComponentCounts.getD key.1 0 < prereg.componentLimit key.1 := by
    have hpayload := hkey
    unfold Projection.validateRecoveryPayload at hpayload
    simp only [bind_ok_iff, require_ok, exists_and_left, exists_const] at hpayload
    obtain ⟨-, -, -, _, -, _, -, -, -, hlimit, -, -, -, -, -, -, -, hpayload⟩ := hpayload
    cases hpayload
    exact hlimit
  exact ⟨hstate, key, hkey, require_ok.mp h, hlimit⟩

theorem validateRecoveryPayload_entered (kind : LongRunEventType) (event : LongRunEvent outside)
    (payload : List (String × Tree)) :
    Projection.validateRecoveryPayload prereg (Projection.entered kind event p) payload
      = Projection.validateRecoveryPayload prereg p payload := rfl

theorem applyRecovery_of_checked {u : Unit}
    (h : Projection.validateRecovery prereg p payload = .ok u) (hstate : event.state = p.state) :
    ∃ q, Projection.applyRecovery prereg payload (Projection.entered kind event p) = .ok q := by
  obtain ⟨hrecovery, key, hkey, hfirst, hlimit⟩ := validateRecovery_ok h
  refine ⟨{ Projection.entered kind event p with
    recoveryCounts := p.recoveryCounts.set key (p.recoveryCounts.getD key 0 + 1)
    recoveryComponentCounts := p.recoveryComponentCounts.set key.1
      (p.recoveryComponentCounts.getD key.1 0 + 1) }, ?_⟩
  unfold Projection.applyRecovery
  rw [validateRecoveryPayload_entered, hkey]
  simp only [bind_ok_iff, require_ok, exists_and_left, exists_const]
  refine ⟨?_, key, rfl, ?_, ?_, rfl⟩
  · show event.state ∈ LongRunState.recovery
    rw [hstate]
    exact hrecovery
  · show p.recoveryCounts.getD key 0 + 1 ≤ 1
    omega
  · show p.recoveryComponentCounts.getD key.1 0 + 1 ≤ _
    omega

variable {events : List (LongRunEvent outside)}

/-- **An event that is written is applied**, if a case or a recovery brings the state that there
is. -/
theorem nextEvent_advances_of_still (hload : Projection.load prereg events = .ok p)
    (hdraftStill : p.fatalLatched = false → ∀ kind ∈ LongRunEventType.recorded,
      draft.eventType = kind.value → Projection.StateChecked p kind draft.state →
        draft.state = p.state ∧ TextIdentities draft.payload)
    (hevent : p.nextEvent prereg draft = .ok event) :
    ∃ q kind, p.advance prereg event = .ok q ∧ Projection.Applied prereg p event kind q ∧
      (kind ∈ LongRunEventType.recorded → event.state = p.state) := by
  obtain ⟨t, -, hfields, hvalidate⟩ := nextEvent_ok hevent
  have htype : event.eventType = draft.eventType := congrArg LongRunEventFields.eventType hfields
  have hdraft : event.state = draft.state := congrArg LongRunEventFields.state hfields
  have hpayload : event.payload = draft.payload := congrArg LongRunEventFields.payload hfields
  rw [← htype, ← hdraft, ← hpayload] at hvalidate
  obtain ⟨kind, hkind, hchecked, hcheckedPayload⟩ := validateAppend_ok hvalidate
  have hfailed := load_failed hload
  have hstill : p.fatalLatched = false → kind ∈ LongRunEventType.recorded →
      event.state = p.state ∧ TextIdentities event.payload := by
    intro hlatch hrecorded
    rw [hpayload, hdraft]
    exact hdraftStill hlatch kind hrecorded (htype ▸ LongRunEventType.ofValue_eq.mp hkind)
      (hdraft ▸ hchecked)
  have hfatal : ∃ latched,
      Projection.applyFatal kind event { p with state := event.state } = .ok latched := by
    unfold Projection.applyFatal
    by_cases hstate : event.state = .generationFatal
    · rw [if_pos hstate]
      by_cases hk : kind = .generationFatal
      · rw [if_pos hk]
        exact ⟨_, rfl⟩
      · have hsome : p.fatalEvents ≠ [] :=
          (hfailed.1 ((hchecked.first hstate).resolve_left hk)).1
        rw [if_neg hk, if_neg (by simpa using hsome)]
        exact ⟨_, rfl⟩
    · rw [if_neg hstate]
      exact ⟨_, rfl⟩
  obtain ⟨latched, hlatched⟩ := hfatal
  have hentered := applyFatal_ok hchecked hlatched
  have hkindApplied : ∃ left, Projection.applyKind prereg kind event p = .ok left := by
    unfold Projection.applyKind
    rw [hlatched, hentered]
    by_cases hrecovery : kind = .recoveryAttempt
    · subst hrecovery
      have hbefore : p.state ∈ LongRunState.recovery := validatePayload_recovery hcheckedPayload
      have hlatch : p.fatalLatched = false := by
        have hactive : ∀ state ∈ LongRunState.recovery, state ∈ LongRunState.active := by decide
        rw [← Bool.not_eq_true]
        exact fun hl => (hfailed.1 hl).2 (hactive _ hbefore)
      exact applyRecovery_of_checked hcheckedPayload
        (hstill hlatch (LongRunEventType.mem_recorded.mpr (Or.inr rfl))).1
    · cases hcase : kind.caseState with
      | none =>
        refine ⟨Projection.entered kind event p, ?_⟩
        cases kind <;> first | exact absurd rfl hrecovery | cases hcase <;> rfl
      | some caseState =>
        obtain ⟨key, desired, hcaseChecked⟩ := validatePayload_case hcase hcheckedPayload
        have hrecorded : kind ∈ LongRunEventType.recorded :=
          LongRunEventType.mem_recorded.mpr (Or.inl (by rw [hcase]; exact Option.some_ne_none _))
        obtain ⟨hstate, htexts⟩ := hstill hcaseChecked.unlatched hrecorded
        obtain ⟨q, hq⟩ := applyCase_of_checked hcaseChecked htexts hstate
          (show (Projection.entered kind event p).cases = p.cases from rfl)
        have hsame : desired.state = caseState :=
          Option.some.inj (hcaseChecked.status.symm.trans hcase)
        rw [hsame] at hq
        refine ⟨q, ?_⟩
        cases kind <;> cases hcase <;> exact hq
  obtain ⟨left, hleft⟩ := hkindApplied
  have hadvance : p.advance prereg event = .ok { left with events := left.events ++ [event] } := by
    unfold Projection.advance Projection.apply
    rw [hvalidate, hkind]
    show (Projection.applyKind prereg kind event p >>= _) = _
    rw [hleft]
    rfl
  obtain ⟨kind', happlied⟩ := applied_of_advance hadvance
  have hsame : kind' = kind := Option.some.inj (happlied.kind_eq.symm.trans hkind)
  subst hsame
  refine ⟨_, kind', hadvance, happlied, ?_⟩
  intro hrecorded
  refine (hstill ?_ hrecorded).1
  rw [← Bool.not_eq_true]
  intro hlatch
  obtain ⟨hinert, -⟩ := inert_of_latched hload happlied hlatch
  obtain ⟨hnone, hnot⟩ := hinert kind' hkind
  exact (LongRunEventType.mem_recorded.mp hrecorded).elim (fun h => h hnone) hnot

theorem nextEvent_advances (hload : Projection.load prereg events = .ok p)
    (hsteady : p.state ∈ LongRunState.steady) (hsound : DraftSound p draft)
    (hevent : p.nextEvent prereg draft = .ok event) :
    ∃ q kind, p.advance prereg event = .ok q ∧ Projection.Applied prereg p event kind q ∧
      (kind ∈ LongRunEventType.recorded → event.state = p.state) := by
  refine nextEvent_advances_of_still hload ?_ hevent
  intro hlatch kind hrecorded htype hchecked
  obtain ⟨htexts, hrank⟩ := hsound kind hrecorded htype
  exact ⟨state_of_rank ⟨events, hload⟩ hsteady hlatch (hrank hlatch) hchecked, htexts⟩

end Drafts

/-! ## Steady worlds -/

section Worlds

variable {outside : LongRunOutside} {prereg : LongRunPreregistration}

/-- What is asked of a step: cases and recoveries come from their own methods, and the line of an
event that is written can be read. -/
def Ordinary (prereg : LongRunPreregistration) (w : LongRunWorld (eventList outside prereg)) :
    LongRunAction → Prop
  | .call call => ¬ call.Raw LongRunEventType.recorded
  | .proceed index => ∀ c ∈ w.calls[index]?,
      ∀ event ∈ (c.stage.run prereg (Projection.load prereg w.file)).1, event.Legible
  | .crash _ => True

instance (w : LongRunWorld (eventList outside prereg)) : (action : LongRunAction) →
    Decidable (Ordinary prereg w action)
  | .call call => inferInstanceAs (Decidable (¬ call.Raw LongRunEventType.recorded))
  | .proceed index => inferInstanceAs (Decidable (∀ c ∈ w.calls[index]?,
      ∀ event ∈ (c.stage.run prereg (Projection.load prereg w.file)).1, event.Legible))
  | .crash _ => .isTrue trivial

/-- The file loads, no draft is behind it, and no case and no recovery changed the state. -/
structure Steady (prereg : LongRunPreregistration) (w : LongRunWorld (eventList outside prereg)) :
    Prop where
  loads : ∃ p, Projection.load prereg w.file = .ok p ∧ p.state ∈ LongRunState.steady
  starts : ∀ c ∈ w.calls, ∀ call, c.stage = .start call → ¬ call.Raw LongRunEventType.recorded
  drafts : ∀ c ∈ w.calls, ∀ draft after, c.stage = .append draft after →
    ∀ p, Projection.load prereg w.file = .ok p → DraftSound p draft
  still : ∀ before event after, w.file = before ++ event :: after →
    ∀ kind ∈ LongRunEventType.recorded, event.kind = some kind →
      ∀ p, Projection.load prereg before = .ok p → event.state = p.state

theorem fresh_steady : Steady prereg (LongRunWorld.fresh (eventList outside prereg)) where
  loads := ⟨Projection.initial outside, rfl, mem_cons_self⟩
  starts := fun c hc => absurd hc not_mem_nil
  drafts := fun c hc => absurd hc not_mem_nil
  still := by
    intro before event after h
    have hlength := congrArg List.length h
    rw [length_append, length_cons] at hlength
    change 0 = _ at hlength
    omega

variable {p q : Projection outside} {draft : Draft}

/-- The draft of a call is not behind the projection that it was made of. -/
theorem begun_sound {call : CoordinatorCall} {after : AfterAppend}
    (h : Begun prereg p call (.append draft after)) (hraw : ¬ call.Raw LongRunEventType.recorded) :
    DraftSound p draft := by
  have hfatal : ∀ kind ∈ LongRunEventType.recorded, "GENERATION_FATAL" ≠ kind.value := by decide
  intro kind hkind htype
  cases h with
  | transition _ => exact absurd ⟨kind, hkind, htype⟩ hraw
  | fail _ => exact absurd htype (hfatal kind hkind)
  | casePending _ =>
    refine ⟨?_, fun _ => le_refl _⟩
    intro name hname v hv
    simp only [mem_cons, not_mem_nil, or_false] at hname
    rcases hname with rfl | rfl
    · exact Or.inr ⟨_, (Option.some.inj hv).symm⟩
    · cases hv
  | caseExcluded _ =>
    rename_i reason predictionId key _
    refine ⟨?_, fun _ => le_refl _⟩
    intro name hname v hv
    simp only [mem_cons, not_mem_nil, or_false] at hname
    rcases hname with rfl | rfl
    · have hnullable : nullable Tree.text predictionId = v := Option.some.inj hv
      cases predictionId with
      | none => exact Or.inl hnullable.symm
      | some s => exact Or.inr ⟨s, hnullable.symm⟩
    · cases hv
  | caseClean _ _ =>
    refine ⟨?_, fun _ => le_refl _⟩
    intro name hname v hv
    simp only [mem_cons, not_mem_nil, or_false] at hname
    rcases hname with rfl | rfl
    · exact Or.inr ⟨_, (Option.some.inj hv).symm⟩
    · exact Or.inr ⟨_, (Option.some.inj hv).symm⟩
  | recovery _ =>
    refine ⟨?_, fun _ => le_refl _⟩
    intro name hname v hv
    simp only [mem_cons, not_mem_nil, or_false] at hname
    rcases hname with rfl | rfl <;> cases hv

variable {event : LongRunEvent outside} {events file : List (LongRunEvent outside)}

variable {kind : LongRunEventType}

theorem DraftSound.advance (h : DraftSound p draft)
    (hload : Projection.load prereg events = .ok p) (hsteady : p.state ∈ LongRunState.steady)
    (happlied : Projection.Applied prereg p event kind q) : DraftSound q draft := by
  intro other hother htype
  obtain ⟨htexts, hrank⟩ := h other hother htype
  refine ⟨htexts, ?_⟩
  intro hlatch
  have hbefore : p.fatalLatched = false := by
    rw [← Bool.not_eq_true] at hlatch ⊢
    exact fun hl => hlatch (happlied.latch_iff.mpr (Or.inl hl))
  have hfatal : p.state ≠ .generationFatal := by
    intro hstate
    rw [(load_failed hload).2 hstate] at hbefore
    cases hbefore
  rw [happlied.state_eq]
  rcases happlied.checked.moves with hsame | hmoves
  · rw [hsame]
    exact hrank hbefore
  · exact (hrank hbefore).trans (LongRunState.rank_lt hsteady hfatal hmoves).le

theorem steady_state (hsteady : p.state ∈ LongRunState.steady)
    (happlied : Projection.Applied prereg p event kind q)
    (hstill : kind ∈ LongRunEventType.recorded → event.state = p.state) :
    q.state ∈ LongRunState.steady := by
  have hfixed : ∀ kind : LongRunEventType, ∀ state ∈ kind.fixedState,
      state ∈ LongRunState.steady := by
    intro kind
    cases kind <;> decide
  have hkinds : ∀ kind : LongRunEventType, kind.fixedState = none →
      kind ∉ LongRunEventType.recorded → kind ≠ .watchdogCheck → kind = .generationFatal := by
    intro kind
    cases kind <;> decide
  rw [happlied.state_eq]
  cases hkind : kind.fixedState with
  | some state =>
    rw [happlied.checked.fixed state hkind]
    exact hfixed kind state hkind
  | none =>
    by_cases hrecorded : kind ∈ LongRunEventType.recorded
    · rw [hstill hrecorded]
      exact hsteady
    · by_cases hwatch : kind = .watchdogCheck
      · rw [happlied.watched hwatch]
        exact hsteady
      · rw [happlied.checked.fatal (hkinds kind hkind hrecorded hwatch)]
        decide

theorem take_of_nextEvent (hevent : p.nextEvent prereg draft = .ok event)
    (hlegible : event.Legible) (hadvance : p.advance prereg event = .ok q) :
    Projection.take prereg p event = .ok q := by
  obtain ⟨t, -, hfields, -⟩ := nextEvent_ok hevent
  refine take_ok.mpr ⟨hlegible, ⟨⟨?_, ?_⟩, ?_⟩, hadvance⟩
  · exact congrArg LongRunEventFields.sequence hfields
  · exact congrArg LongRunEventFields.previousRecordHash hfields
  · exact congrArg LongRunEventFields.generationId hfields

variable {w w' : LongRunWorld (eventList outside prereg)}

/-- **What an append does** in a steady world: its event is applied, and the file loads. -/
theorem Steady.append (hw : Steady prereg w) {c : CallInProgress} (hc : c ∈ w.calls)
    (hwritten : (c.stage.run prereg (Projection.load prereg w.file)).1 = some event)
    (hlegible : event.Legible) :
    ∃ draft after p q kind, c.stage = .append draft after ∧
      Projection.load prereg w.file = .ok p ∧ p.state ∈ LongRunState.steady ∧
      p.nextEvent prereg draft = .ok event ∧
      Projection.Applied prereg p event kind q ∧
      (kind ∈ LongRunEventType.recorded → event.state = p.state) ∧
      Projection.load prereg (w.file ++ [event]) = .ok q ∧
      (c.stage.run prereg (Projection.load prereg w.file)).2
        = .ok (after.next q draft.observedAt) := by
  obtain ⟨draft, after, p, hstage, hprepare⟩ := Stage.run_some hwritten
  obtain ⟨-, hload, hevent⟩ := prepare_ok.mp hprepare
  obtain ⟨p', hp', hsteady⟩ := hw.loads
  rw [hload] at hp'
  cases hp'
  obtain ⟨q, kind, hadvance, happlied, hstill⟩ :=
    nextEvent_advances hload hsteady (hw.drafts c hc draft after hstage p hload) hevent
  refine ⟨draft, after, p, q, kind, hstage, hload, hsteady, hevent, happlied, hstill, ?_, ?_⟩
  · exact load_concat.mpr ⟨p, hload, take_of_nextEvent hevent hlegible hadvance⟩
  · rw [hstage, Stage.run_append hprepare]
    show (p.advance prereg event).map _ = _
    rw [hadvance]
    rfl

theorem still_append (hload : Projection.load prereg file = .ok p)
    (hstill : ∀ before event after, file = before ++ event :: after →
      ∀ kind ∈ LongRunEventType.recorded, event.kind = some kind →
        ∀ p, Projection.load prereg before = .ok p → event.state = p.state)
    (hlast : ∀ kind ∈ LongRunEventType.recorded, event.kind = some kind → event.state = p.state) :
    ∀ before other after, file ++ [event] = before ++ other :: after →
      ∀ kind ∈ LongRunEventType.recorded, other.kind = some kind →
        ∀ p, Projection.load prereg before = .ok p → other.state = p.state := by
  intro before other after hsplit kind hrecorded hkind earlier hearlier
  rcases eq_nil_or_concat after with rfl | ⟨front, last, rfl⟩
  · obtain ⟨rfl, hother⟩ := append_inj' hsplit rfl
    cases hother
    rw [hload] at hearlier
    cases hearlier
    exact hlast kind hrecorded hkind
  · rw [concat_eq_append, ← cons_append, ← append_assoc] at hsplit
    obtain ⟨hfront, -⟩ := append_inj' hsplit rfl
    exact hstill before other front hfront kind hrecorded hkind earlier hearlier

/-- **An ordinary step keeps a world steady.** -/
theorem steady_step {action : LongRunAction} (hw : Steady prereg w)
    (hordinary : Ordinary prereg w action) (hstep : w.step prereg action = some w') :
    Steady prereg w' := by
  have hcalls : CallsKeep prereg LongRunEventType.recorded DraftSound w' := by
    have hwatch : ∀ kind ∈ LongRunEventType.recorded, "WATCHDOG_CHECK" ≠ kind.value := by decide
    refine CallsKeep.step begun_sound
      (fun _ _ htype kind hkind hraw => absurd (htype.symm.trans hraw) (hwatch kind hkind))
      ⟨hw.starts, hw.drafts⟩ ?_ ?_ hstep
    · rintro call rfl
      exact hordinary
    · rintro index c rfl hc event hwritten q' hq'
      obtain ⟨-, -, p, q, kind, -, hload, hsteady, -, happlied, -, hnext, -⟩ :=
        hw.append (mem_of_getElem? hc) hwritten (hordinary c hc event hwritten)
      rw [hnext] at hq'
      cases hq'
      exact ⟨p, hload, fun draft hsound => hsound.advance hload hsteady happlied⟩
  rcases step_cases hstep with ⟨call, rfl, rfl⟩ | ⟨index, c, rfl, hc, rfl⟩ |
    ⟨index, c, rfl, -, rfl⟩
  · exact ⟨hw.loads, hcalls.starts, hcalls.drafts, hw.still⟩
  · have hmem : c ∈ w.calls := mem_of_getElem? hc
    cases hwritten : (c.stage.run prereg (Projection.load prereg w.file)).1 with
    | none =>
      have hsame : (w.proceedWith prereg index c).file = w.file :=
        proceedWith_quiet hwritten
      exact ⟨by rw [hsame]; exact hw.loads, hcalls.starts, hcalls.drafts,
        by rw [hsame]; exact hw.still⟩
    | some event =>
      obtain ⟨-, -, p, q, kind, -, hload, hsteady, -, happlied, hstill, hnext, -⟩ :=
        hw.append hmem hwritten (hordinary c hc event hwritten)
      have hgrown : (w.proceedWith prereg index c).file = w.file ++ [event] :=
        proceedWith_written hwritten
      refine ⟨⟨q, by rw [hgrown]; exact hnext, steady_state hsteady happlied hstill⟩,
        hcalls.starts, hcalls.drafts, ?_⟩
      rw [hgrown]
      refine still_append hload hw.still ?_
      intro other hother hkind
      have hsame : kind = other := Option.some.inj (happlied.kind_eq.symm.trans hkind)
      exact hstill (hsame ▸ hother)
  · exact ⟨hw.loads, hcalls.starts, hcalls.drafts, hw.still⟩

end Worlds

end AdvisorAI
