import AdvisorAI.Forward.LongRunSteady

/-!
# The failure that an exclusion or a recovery brings

An exclusion after which the clean minimum cannot be reached, and a recovery that did not resume,
append their own event and then the event of the failure. Between the two the process may stop. The
call that is made again finds the first event, and does not append the second
(`interrupted_recovery_unlatched`). `Owing` is what holds as long as no process stops there: what
demands the failure has latched it, or a call that appends it is in progress.
-/

namespace AdvisorAI

open Lib Lib.Json Option LongRunWorld Runs
open List hiding after

/-! ## What can be reached -/

namespace Projection

section Feasibility

variable {outside : LongRunOutside} {prereg : LongRunPreregistration} {p q : Projection outside}

/-- The number of excluded cases of a symbol. -/
def excludedCount (p : Projection outside) (symbol : V3CoreSymbol) : ℕ :=
  p.cases.entries.countP fun entry => entry.2.state = .excluded ∧ entry.1.1 = symbol

theorem excludedCount_eq (symbol : V3CoreSymbol) :
    (p.symbolStates symbol).countP (fun state => state = .excluded) = p.excludedCount symbol := by
  unfold symbolStates excludedCount
  rw [countP_map, countP_filter]
  refine countP_congr ?_
  intro entry _
  simp

theorem countP_provisional (states : List LongRunCaseState) :
    states.countP (fun state => state = .pendingOutcome ∨ state = .clean)
      + states.countP (fun state => state = .excluded) = states.length := by
  induction states with
  | nil => rfl
  | cons state states ih =>
    cases state <;> simp [← ih] <;> omega

theorem feasible_iff : p.Feasible prereg ↔ ∀ symbol,
    prereg.minimumCleanCasesPerSymbol + p.excludedCount symbol
      ≤ prereg.targetOpportunitiesPerSymbol := by
  have hsymbol : ∀ symbol, (p.accounting prereg symbol).feasible = true ↔
      prereg.minimumCleanCasesPerSymbol + p.excludedCount symbol
        ≤ prereg.targetOpportunitiesPerSymbol := by
    intro symbol
    have hcount := countP_provisional (p.symbolStates symbol)
    rw [excludedCount_eq] at hcount
    unfold accounting
    rw [decide_eq_true_eq]
    omega
  refine ⟨fun h symbol => (hsymbol symbol).mp (h symbol (by cases symbol <;> decide)), ?_⟩
  exact fun h symbol _ => (hsymbol symbol).mpr (h symbol)

theorem countP_setEntry_le {κ ν : Type} [DecidableEq κ] {k : κ} {v : ν} {counts : κ × ν → Bool}
    (h : counts (k, v) = false) (l : List (κ × ν)) :
    (setEntry k v l).countP counts ≤ l.countP counts := by
  induction l with
  | nil => simp [setEntry, h]
  | cons entry l ih =>
    obtain ⟨k', v'⟩ := entry
    unfold setEntry
    by_cases hkey : k' = k
    · rw [if_pos hkey, countP_cons, countP_cons, h]
      simp
    · rw [if_neg hkey, countP_cons, countP_cons]
      omega

theorem feasible_of_applied {event : LongRunEvent outside} {kind : LongRunEventType}
    (happlied : Applied prereg p event kind q) (hkind : kind ≠ .caseExcluded)
    (h : p.Feasible prereg) : q.Feasible prereg := by
  have hcount : ∀ symbol, q.excludedCount symbol ≤ p.excludedCount symbol := by
    intro symbol
    rcases happlied.cases_move with ⟨-, hsame⟩ | ⟨key, desired, hchecked, -, hset⟩
    · unfold excludedCount
      rw [hsame]
    · have hstate : desired.state ≠ .excluded := by
        intro hexcluded
        have hstatus := hchecked.status
        rw [hexcluded] at hstatus
        cases kind <;> first | cases hstatus; done | exact hkind rfl
      unfold excludedCount
      rw [hset]
      exact countP_setEntry_le (by simp [hstate]) p.cases.entries
  rw [feasible_iff] at h ⊢
  intro symbol
  exact (Nat.add_le_add_left (hcount symbol) _).trans (h symbol)

end Feasibility

end Projection

/-! ## The event of the failure -/

section Failing

variable {outside : LongRunOutside} {prereg : LongRunPreregistration} {p q : Projection outside}

variable (incident detail : String)

/-- The draft that `fail` appends. -/
def fatalDraft (observedAt : Datetime) : Draft :=
  ⟨"GENERATION_FATAL", .generationFatal, [("incident", .text incident), ("detail", .text detail)],
    observedAt⟩

/-- The incidents that coordinators report themselves. -/
def ownIncidents : List String := ["GENERATION_CANNOT_SATISFY_PHASE4_ADMISSION", "IDENTITY_MISMATCH"]

theorem validateFatalPayload_own {incident : String} (hincident : incident ∈ ownIncidents)
    (detail : String) : Projection.validateFatalPayload
      [("incident", .text incident), ("detail", .text detail)] = .ok () := by
  have hknown : ∀ incident ∈ ownIncidents, isBlank incident = false ∧ incident ∈ longRunIncidents := by
    decide +kernel
  have hmember : (member [("incident", .text incident), ("detail", .text detail)] "incident").bind
      Tree.asText = some incident := rfl
  have hdetail : ((member [("incident", .text incident), ("detail", .text detail)] "detail").bind
      Tree.asText).isSome = true := rfl
  unfold Projection.validateFatalPayload
  rw [hmember, require_bind_ok, require_bind_ok, require_ok]
  exact ⟨⟨incident, rfl, (hknown incident hincident).1⟩, ⟨incident, rfl, (hknown incident hincident).2⟩,
    hdetail⟩

theorem safe_fatal : Safe [("incident", .text incident), ("detail", .text detail)] := by
  have hnames : ∀ name ∈ ["incident", "detail"], namesCredential name = false := by
    decide +kernel
  exact hnames

/-- **A failure can be appended** in every steady state. -/
theorem nextEvent_fatal (hsteady : p.state ∈ LongRunState.steady) {incident : String}
    (hincident : incident ∈ ownIncidents) (detail : String) {observedAt : Datetime}
    (htime : ∃ t, awareUtc "event_observed_at" observedAt = .ok t)
    (hshort : ShortInteger (p.events.length + 1)) :
    ∃ event, p.nextEvent prereg (fatalDraft incident detail observedAt) = .ok event := by
  obtain ⟨t, ht⟩ := htime
  have hrange : datetimeMin ≤ t ∧ t ≤ datetimeMax := by
    unfold awareUtc at ht
    split at ht
    · cases ht
    · exact Datetime.aware_valid ht
  have hprintable : (p.nextFields prereg (fatalDraft incident detail observedAt) t).Printable :=
    ⟨hshort, fun token htoken => absurd htoken not_mem_nil, rfl⟩
  have hvalid : (p.nextFields prereg (fatalDraft incident detail observedAt) t).Valid :=
    ⟨Nat.succ_le_succ (Nat.zero_le _), prereg.generationId_ne,
      (by decide : "GENERATION_FATAL" ≠ ""), safe_fatal _ _, hprintable, hrange⟩
  have hkind : LongRunEventType.ofValue "GENERATION_FATAL" = some .generationFatal := rfl
  have hmoves : ∀ state ∈ LongRunState.steady,
      LongRunState.generationFatal = state ∨ .generationFatal ∈ state.transitions := by decide
  have hvalidate : Projection.validateAppend prereg p "GENERATION_FATAL" .generationFatal
      [("incident", .text incident), ("detail", .text detail)] = .ok () := by
    unfold Projection.validateAppend
    rw [bind_ok_iff]
    refine ⟨(), require_ok.mpr (safe_fatal _ _), ?_⟩
    rw [hkind]
    rw [bind_ok_iff]
    refine ⟨(), ?_, validateFatalPayload_own hincident detail⟩
    unfold Projection.validateState
    rw [require_bind_ok, require_bind_ok, require_bind_ok, require_bind_ok, require_ok]
    exact ⟨fun fixed hfixed => (by cases hfixed), hmoves _ hsteady,
      fun h => absurd h.2 (by decide), fun h => h.2.1 rfl, fun h => h.2 rfl⟩
  exact ⟨_, Projection.nextEvent_of_valid ht hvalid hvalidate⟩

end Failing

/-! ## Where calls are -/

/-- What a call demands of a run, where its event is recorded. -/
def DemandsFatal {outside : LongRunOutside} (prereg : LongRunPreregistration)
    (p : Projection outside) : CoordinatorCall → Prop
  | .recordCaseExcluded _ _ _ => ¬ p.Feasible prereg
  | .recordRecovery recovery => recovery.resumeValid = false
  | _ => False

instance {outside : LongRunOutside} (prereg : LongRunPreregistration) (p : Projection outside) :
    (call : CoordinatorCall) → Decidable (DemandsFatal prereg p call)
  | .transition _ _ _ _ => isFalse fun h => h
  | .fail _ _ _ => isFalse fun h => h
  | .recordCasePending _ _ => isFalse fun h => h
  | .recordCaseExcluded _ _ _ => inferInstanceAs (Decidable (¬ _))
  | .recordCaseClean _ _ _ => isFalse fun h => h
  | .recordRecovery _ => inferInstanceAs (Decidable (_ = _))
  | .recordWatchdogCheck _ _ _ => isFalse fun h => h

def CoordinatorCall.Excludes : CoordinatorCall → Prop
  | .recordCaseExcluded _ _ _ => True
  | _ => False

def CoordinatorCall.Unresumed : CoordinatorCall → Prop
  | .recordRecovery recovery => recovery.resumeValid = false
  | _ => False

section Places

variable {outside : LongRunOutside} {prereg : LongRunPreregistration} {p q : Projection outside}

/-- Where a call in progress can be: before its own event is appended, or after it, on the way to
the event of a failure. -/
inductive Place (outside : LongRunOutside) (prereg : LongRunPreregistration) :
    CallInProgress → Prop where
  | started {call : CoordinatorCall} : Place outside prereg ⟨call, .start call, false⟩
  | observing {call : CoordinatorCall} {decision : String} {reasons : List String}
      {observedAt : Datetime} (plain : ¬ call.Excludes ∧ ¬ call.Unresumed) :
      Place outside prereg ⟨call, .scientificState decision reasons observedAt, false⟩
  | appending {call : CoordinatorCall} {draft : Draft} {after : AfterAppend} {p : Projection outside}
      (begun : Begun prereg p call (.append draft after)) :
      Place outside prereg ⟨call, .append draft after, false⟩
  | watching {call : CoordinatorCall} {draft : Draft} (plain : ¬ call.Excludes ∧ ¬ call.Unresumed)
      (watch : draft.eventType = "WATCHDOG_CHECK") :
      Place outside prereg ⟨call, .append draft .finish, false⟩
  | accounting {call : CoordinatorCall} {observedAt : Datetime} (excludes : call.Excludes)
      (time : ∃ t, awareUtc "event_observed_at" observedAt = .ok t) :
      Place outside prereg ⟨call, .accounting observedAt, true⟩
  | failing {call : CoordinatorCall} {incident detail : String} {observedAt : Datetime}
      (demands : call.Excludes ∨ call.Unresumed) (own : incident ∈ ownIncidents)
      (time : ∃ t, awareUtc "event_observed_at" observedAt = .ok t) :
      Place outside prereg ⟨call, .start (.fail incident detail observedAt), true⟩
  | latching {call : CoordinatorCall} {incident detail : String} {observedAt : Datetime}
      (demands : call.Excludes ∨ call.Unresumed) (own : incident ∈ ownIncidents)
      (time : ∃ t, awareUtc "event_observed_at" observedAt = .ok t) :
      Place outside prereg ⟨call, .append (fatalDraft incident detail observedAt) .finish, true⟩

theorem Begun.place {call : CoordinatorCall} {next : Stage} (h : Begun prereg p call next) :
    Place outside prereg ⟨call, next, false⟩ := by
  cases h with
  | transition hmoves => exact .appending (p := p) (.transition hmoves)
  | fail hlatch => exact .appending (p := p) (.fail hlatch)
  | casePending hvalid => exact .appending (p := p) (.casePending hvalid)
  | caseExcluded hvalid => exact .appending (p := p) (.caseExcluded hvalid)
  | caseClean hvalid hpending => exact .appending (.caseClean hvalid hpending)
  | recovery hlatch => exact .appending (.recovery hlatch)
  | watchdogCheck => exact .observing ⟨fun h => h, fun h => h⟩

variable {read : Except PyError (Projection outside)}

/-- **A call goes from place to place.** -/
theorem Place.next {c : CallInProgress} (hc : Place outside prereg c) {next : Stage}
    (h : (c.stage.run prereg read).2 = .ok (.more next)) :
    Place outside prereg ⟨c.call, next, c.appended || (c.stage.run prereg read).1.isSome⟩ := by
  cases hc with
  | started =>
    obtain ⟨p, -, hbegun⟩ := Stage.run_more h
    exact hbegun.place
  | observing hplain =>
    obtain ⟨p, -, rfl⟩ := Stage.run_more h
    exact .watching hplain rfl
  | appending hbegun =>
    obtain ⟨prepared, memory, hprepare, -, hnext⟩ := Stage.run_more h
    obtain ⟨t, htime, -⟩ := Projection.nextEvent_ok (prepare_ok.mp hprepare).2.2
    rw [Stage.run_append hprepare]
    cases hbegun with
    | transition | fail | casePending | caseClean => cases hnext
    | caseExcluded _ =>
      cases hnext
      exact .accounting trivial ⟨t, htime⟩
    | recovery _ =>
      rename_i r _
      cases hresume : r.resumeValid with
      | true =>
        rw [hresume] at hnext
        cases hnext
      | false =>
        rw [hresume] at hnext
        cases hnext
        exact .failing (Or.inr hresume) (by decide) ⟨t, htime⟩
  | watching | latching =>
    obtain ⟨_, _, -, -, hnext⟩ := Stage.run_more h
    cases hnext
  | accounting hexcludes htime =>
    obtain ⟨p, -, -, rfl⟩ := Stage.run_more h
    exact .failing (Or.inl hexcludes) (by decide) htime
  | failing hdemands hown htime =>
    obtain ⟨p, -, hbegun⟩ := Stage.run_more h
    cases hbegun
    exact .latching hdemands hown htime

theorem recordRecovery_some (r : RecoveryArguments) : p.recordRecovery prereg r ≠ .ok none := by
  intro h
  unfold Projection.recordRecovery at h
  simp only [bind_ok_iff, require_ok, exists_and_left, exists_const] at h
  obtain ⟨-, -, -, -, -, -, _, -, -, -, h⟩ := h
  cases h

variable {memory : Projection outside}

/-- A stage that returns, taken apart. -/
theorem Stage.run_returned {stage : Stage}
    (h : (stage.run prereg read).2 = .ok (.returned memory)) :
    (∃ call, stage = .start call ∧ read = .ok memory ∧ memory.begin prereg call = .ok none) ∨
    (∃ observedAt, stage = .accounting observedAt ∧ read = .ok memory ∧ memory.Feasible prereg) ∨
    (∃ draft after prepared, stage = .append draft after ∧
      prepare prereg draft read = .ok prepared ∧
      prepared.1.advance prereg prepared.2 = .ok memory ∧ after = .finish) := by
  cases stage with
  | start call =>
    left
    unfold run at h
    simp only [bind_ok_iff] at h
    obtain ⟨p, hread, found, hbegin, h⟩ := h
    cases found with
    | none =>
      cases h
      exact ⟨call, rfl, hread, hbegin⟩
    | some stage => cases h
  | scientificState decision reasons observedAt =>
    unfold run at h
    rw [bind_ok_iff] at h
    obtain ⟨p, -, h⟩ := h
    cases h
  | accounting observedAt =>
    right; left
    unfold run at h
    rw [bind_ok_iff] at h
    obtain ⟨p, hread, h⟩ := h
    split at h
    · next hfeasible =>
      cases h
      exact ⟨observedAt, rfl, hread, hfeasible⟩
    · cases h
  | append draft after =>
    right; right
    cases hprepare : prepare prereg draft read with
    | error e =>
      unfold run at h
      dsimp only at h
      rw [hprepare] at h
      cases h
    | ok prepared =>
      rw [run_append hprepare] at h
      cases hadvance : prepared.1.advance prereg prepared.2 with
      | error e =>
        rw [hadvance] at h
        cases h
      | ok left =>
        rw [hadvance] at h
        have hnext : after.next left draft.observedAt = .returned memory := Except.ok.inj h
        cases after with
        | finish =>
          cases hnext
          exact ⟨draft, .finish, prepared, rfl, hprepare, hadvance, rfl⟩
        | checkFeasible => cases hnext
        | failResume => cases hnext

/-- **A recovery that did not resume** returns from a run that has failed. -/
theorem Place.returned {c : CallInProgress} (hc : Place outside prereg c)
    (hcall : c.call.Unresumed) (h : (c.stage.run prereg read).2 = .ok (.returned memory)) :
    memory.fatalLatched = true := by
  cases hc with
  | started =>
    rename_i call
    rcases Stage.run_returned h with ⟨_, hstage, -, hbegin⟩ | ⟨_, hstage, -⟩ | ⟨_, _, _, hstage, -⟩ <;>
      cases hstage
    cases call with
    | recordRecovery r => exact absurd hbegin (recordRecovery_some r)
    | _ => exact hcall.elim
  | observing hplain => exact absurd hcall hplain.2
  | appending hbegun =>
    rcases Stage.run_returned h with ⟨_, hstage, -⟩ | ⟨_, hstage, -⟩ |
      ⟨draft, after, prepared, hstage, -, -, hafter⟩ <;> cases hstage
    cases hbegun with
    | recovery _ =>
      have hresume : (if _ then AfterAppend.finish else .failResume) = .finish := hafter
      rw [if_neg (by rw [show _ = false from hcall]; exact Bool.false_ne_true)] at hresume
      cases hresume
    | _ => exact hcall.elim
  | watching hplain _ => exact absurd hcall hplain.2
  | accounting hexcludes htime =>
    rename_i call observedAt
    cases call <;> first | exact hcall.elim | exact hexcludes.elim
  | failing _ _ _ =>
    rcases Stage.run_returned h with ⟨call, hstage, -, hbegin⟩ | ⟨_, hstage, -⟩ |
      ⟨_, _, _, hstage, -⟩ <;> cases hstage
    have hfail := Except.ok.inj hbegin
    unfold Projection.fail at hfail
    cases hlatch : memory.fatalLatched with
    | true => rfl
    | false =>
      rw [hlatch] at hfail
      cases hfail
  | latching _ _ _ =>
    rcases Stage.run_returned h with ⟨_, hstage, -⟩ | ⟨_, hstage, -⟩ |
      ⟨draft, after, prepared, hstage, hprepare, hadvance, -⟩ <;> cases hstage
    obtain ⟨kind, happlied⟩ := Projection.applied_of_advance hadvance
    obtain ⟨_, -, hfields, -⟩ := Projection.nextEvent_ok (prepare_ok.mp hprepare).2.2
    have htype : prepared.2.eventType = "GENERATION_FATAL" :=
      congrArg LongRunEventFields.eventType hfields
    have hkind : LongRunEventType.ofValue "GENERATION_FATAL" = some kind := htype ▸ happlied.kind_eq
    exact happlied.latch_iff.mpr (Or.inr (Option.some.inj hkind).symm)

end Places

/-! ## What is owed -/

/-- The call has returned, or was stopped after its own event. -/
def CallEnd.Counts {outside : LongRunOutside} : CallEnd outside → Prop
  | .returned _ => True
  | .raised _ => False
  | .crashed appended => appended = true

instance {outside : LongRunOutside} : (e : CallEnd outside) → Decidable e.Counts
  | .returned _ => .isTrue trivial
  | .raised _ => isFalse fun h => h
  | .crashed appended => inferInstanceAs (Decidable (appended = true))

section Owing

variable {outside : LongRunOutside} {prereg : LongRunPreregistration}

/-- No process stops between an event that demands a failure and the event of this. -/
def StopsSettled (prereg : LongRunPreregistration) (w : LongRunWorld (eventList outside prereg)) :
    LongRunAction → Prop
  | .crash index => ∀ c ∈ w.calls[index]?, c.appended = true →
      ∀ p ∈ (Projection.load prereg w.file).toOption, DemandsFatal prereg p c.call →
        p.fatalLatched = true
  | _ => True

instance (w : LongRunWorld (eventList outside prereg)) : (action : LongRunAction) →
    Decidable (StopsSettled prereg w action)
  | .call _ => .isTrue trivial
  | .proceed _ => .isTrue trivial
  | .crash index => inferInstanceAs (Decidable (∀ c ∈ w.calls[index]?, c.appended = true →
      ∀ p ∈ (Projection.load prereg w.file).toOption, DemandsFatal prereg p c.call →
        p.fatalLatched = true))

/-- What is asked of a step for the law of the failure. The number of the next event can be
printed: Python prints no integer of more than 4300 digits. -/
def FatalMeets (prereg : LongRunPreregistration) (w : LongRunWorld (eventList outside prereg))
    (action : LongRunAction) : Prop :=
  Ordinary prereg w action ∧ ShortInteger (w.file.length + 1) ∧ StopsSettled prereg w action

instance (w : LongRunWorld (eventList outside prereg)) (action : LongRunAction) :
    Decidable (FatalMeets prereg w action) := inferInstanceAs (Decidable (_ ∧ _ ∧ _))

/-- What demands a failure has latched it, or a call is on the way to append it. -/
structure Owing (prereg : LongRunPreregistration) (w : LongRunWorld (eventList outside prereg)) :
    Prop where
  steady : Steady prereg w
  places : ∀ c ∈ w.calls, Place outside prereg c ∧ ¬ c.call.Raw LongRunEventType.recorded
  infeasible : ∀ p, Projection.load prereg w.file = .ok p → ¬ p.Feasible prereg →
    p.fatalLatched = true ∨ ∃ c ∈ w.calls, c.appended = true
  unresumed : ∀ entry ∈ w.history, entry.2.Counts → entry.1.Unresumed →
    ∀ p, Projection.load prereg w.file = .ok p → p.fatalLatched = true

theorem fresh_owing : Owing prereg (LongRunWorld.fresh (eventList outside prereg)) where
  steady := fresh_steady
  places := fun c hc => absurd hc not_mem_nil
  infeasible := by
    intro p hp hinfeasible
    cases hp
    refine absurd (Projection.feasible_iff.mpr ?_) hinfeasible
    intro symbol
    rw [prereg.minimum_eq, prereg.target_eq]
    exact (by decide : 64 + 0 ≤ 80)
  unresumed := fun entry hentry => absurd hentry not_mem_nil

variable {c : CallInProgress}

theorem Place.demands (hc : Place outside prereg c) (h : c.appended = true) :
    c.call.Excludes ∨ c.call.Unresumed := by
  cases hc with
  | accounting hexcludes _ => exact Or.inl hexcludes
  | failing hdemands _ _ => exact hdemands
  | latching hdemands _ _ => exact hdemands
  | _ => cases h

variable {p q : Projection outside}

theorem demandsFatal_of_infeasible {call : CoordinatorCall} (h : call.Excludes ∨ call.Unresumed)
    (hinfeasible : ¬ p.Feasible prereg) : DemandsFatal prereg p call := by
  cases call with
  | recordCaseExcluded case reason predictionId => exact hinfeasible
  | recordRecovery r => exact h.elim False.elim id
  | _ => exact h.elim False.elim False.elim

variable {w w' : LongRunWorld (eventList outside prereg)}

/-- **A call on the way to a failure** gets to it: it goes on, or the run has failed. -/
theorem Place.gets_on (hw : Steady prereg w) (hc : Place outside prereg c)
    (happended : c.appended = true) (hload : Projection.load prereg w.file = .ok p)
    (hinfeasible : ¬ p.Feasible prereg) (hshort : ShortInteger (w.file.length + 1)) :
    p.fatalLatched = true ∨
      (∃ next, c.stage.run prereg (Projection.load prereg w.file) = (none, .ok (.more next))) ∨
      ∃ event, (c.stage.run prereg (Projection.load prereg w.file)).1 = some event ∧
        event.kind = some .generationFatal := by
  obtain ⟨p', hp', hsteady⟩ := hw.loads
  rw [hload] at hp'
  cases hp'
  cases hc with
  | accounting _ _ =>
    rename_i call observedAt _ _
    refine Or.inr (Or.inl ⟨.start (infeasibleCall observedAt), ?_⟩)
    rw [hload]
    show (none, (if p.Feasible prereg then Except.ok (Progress.returned p) else
      .ok (.more (.start (infeasibleCall observedAt))))) = _
    rw [if_neg hinfeasible]
  | failing _ _ _ =>
    rename_i call incident detail observedAt _ _ _
    cases hlatch : p.fatalLatched with
    | true => exact Or.inl rfl
    | false =>
      refine Or.inr (Or.inl ⟨.append (fatalDraft incident detail observedAt) .finish, ?_⟩)
      rw [hload]
      show (none, Except.ok (Progress.ofOption p (p.fail incident detail observedAt))) = _
      unfold Projection.fail
      rw [hlatch]
      rfl
  | latching _ hown htime =>
    rename_i call incident detail observedAt _
    have hlength : p.events.length = w.file.length := by
      rw [Projection.load_events hload]
    obtain ⟨event, hevent⟩ : ∃ event, p.nextEvent prereg (fatalDraft incident detail observedAt)
        = .ok event :=
      nextEvent_fatal hsteady hown detail htime (by rw [hlength]; exact hshort)
    have hprepare : prepare prereg (fatalDraft incident detail observedAt)
        (Projection.load prereg w.file) = .ok (p, event) :=
      prepare_ok.mpr ⟨require_ok.mpr (safe_fatal _ _), hload, hevent⟩
    refine Or.inr (Or.inr ⟨event, ?_, ?_⟩)
    · rw [Stage.run_append hprepare]
    · obtain ⟨_, -, hfields, -⟩ := Projection.nextEvent_ok hevent
      exact LongRunEventType.ofValue_eq.mpr (congrArg LongRunEventFields.eventType hfields)
  | _ => cases happended

theorem demandsFatal_of_unresumed {call : CoordinatorCall} (h : call.Unresumed) :
    DemandsFatal prereg p call := by
  cases call with
  | recordRecovery r => exact h
  | _ => exact h.elim

theorem Place.excluding (hc : Place outside prereg c)
    (hraw : ¬ c.call.Raw LongRunEventType.recorded) {draft : Draft} {after : AfterAppend}
    (hstage : c.stage = .append draft after)
    (htype : draft.eventType = LongRunEventType.caseExcluded.value) : after = .checkFeasible := by
  have hother : ∀ s ∈ ["GENERATION_FATAL", "CASE_PENDING", "CASE_CLEAN", "RECOVERY_ATTEMPT",
      "WATCHDOG_CHECK"], s ≠ LongRunEventType.caseExcluded.value := by decide
  cases hc with
  | appending hbegun =>
    cases hstage
    cases hbegun with
    | transition _ => exact absurd ⟨.caseExcluded, by decide, htype⟩ hraw
    | fail _ => exact absurd htype (hother "GENERATION_FATAL" (by decide))
    | casePending _ => exact absurd htype (hother "CASE_PENDING" (by decide))
    | caseExcluded _ => rfl
    | caseClean _ _ => exact absurd htype (hother "CASE_CLEAN" (by decide))
    | recovery _ => exact absurd htype (hother "RECOVERY_ATTEMPT" (by decide))
  | watching _ hwatch =>
    cases hstage
    rw [hwatch] at htype
    exact absurd htype (hother "WATCHDOG_CHECK" (by decide))
  | latching _ _ _ =>
    cases hstage
    exact absurd htype (hother "GENERATION_FATAL" (by decide))
  | _ => cases hstage

/-- A stage that writes nothing keeps what is owed. -/
theorem Owing.quiet (hw : Owing prereg w) {index : ℕ} (hc : w.calls[index]? = some c)
    (hshort : ShortInteger (w.file.length + 1))
    (hquiet : (c.stage.run prereg (Projection.load prereg w.file)).1 = none)
    (hload : Projection.load prereg w.file = .ok p) :
    (¬ p.Feasible prereg →
      p.fatalLatched = true ∨ ∃ d ∈ (w.proceedWith prereg index c).calls, d.appended = true) ∧
    ∀ entry ∈ (w.proceedWith prereg index c).history, entry.2.Counts → entry.1.Unresumed →
      p.fatalLatched = true := by
  have hmem : c ∈ w.calls := mem_of_getElem? hc
  obtain ⟨hplace, -⟩ := hw.places c hmem
  refine ⟨?_, ?_⟩
  · intro hinfeasible
    rcases hw.infeasible p hload hinfeasible with hlatch | ⟨d, hd, happended⟩
    · exact Or.inl hlatch
    · by_cases hsame : d = c
      · subst hsame
        rcases hplace.gets_on hw.steady happended hload hinfeasible hshort with
          hlatch | ⟨next, hnext⟩ | ⟨event, hevent, -⟩
        · exact Or.inl hlatch
        · refine Or.inr ⟨_, goes_on_proceedWith hc (congrArg Prod.snd hnext), ?_⟩
          rw [happended]
          rfl
        · rw [hquiet] at hevent
          cases hevent
      · exact Or.inr ⟨d, stays_proceedWith hc hd hsame, happended⟩
  · intro entry hentry hcounts hunresumed
    rcases mem_proceedWith_history hentry with hold | ⟨memory, hmemory, rfl⟩ | ⟨e, -, rfl⟩
    · exact hw.unresumed entry hold hcounts hunresumed p hload
    · have hlatch := hplace.returned hunresumed hmemory
      rcases Stage.run_returned hmemory with ⟨_, -, hread, -⟩ | ⟨_, -, hread, -⟩ |
        ⟨draft, after, prepared, hstage, hprepare, -⟩
      · change Projection.load prereg w.file = .ok memory at hread
        rw [hload] at hread
        cases hread
        exact hlatch
      · change Projection.load prereg w.file = .ok memory at hread
        rw [hload] at hread
        cases hread
        exact hlatch
      · rw [hstage, Stage.run_append hprepare] at hquiet
        cases hquiet
    · exact hcounts.elim

/-- A stage that appends keeps what is owed. -/
theorem Owing.written (hw : Owing prereg w) {index : ℕ} (hc : w.calls[index]? = some c)
    (hshort : ShortInteger (w.file.length + 1)) {event : LongRunEvent outside}
    (hwritten : (c.stage.run prereg (Projection.load prereg w.file)).1 = some event)
    (hlegible : event.Legible) (hnext : Projection.load prereg (w.file ++ [event]) = .ok q) :
    (¬ q.Feasible prereg →
      q.fatalLatched = true ∨ ∃ d ∈ (w.proceedWith prereg index c).calls, d.appended = true) ∧
    ∀ entry ∈ (w.proceedWith prereg index c).history, entry.2.Counts → entry.1.Unresumed →
      q.fatalLatched = true := by
  have hmem : c ∈ w.calls := mem_of_getElem? hc
  obtain ⟨hplace, hraw⟩ := hw.places c hmem
  obtain ⟨draft, after, p, q', kind, hstage, hload, -, hevent, happlied, -, hq', hafter⟩ :=
    hw.steady.append hmem hwritten hlegible
  rw [hnext] at hq'
  cases hq'
  have hstays : p.fatalLatched = true → q.fatalLatched = true :=
    fun hlatch => happlied.latch_iff.mpr (Or.inl hlatch)
  refine ⟨?_, ?_⟩
  · intro hinfeasible
    by_cases hfeasible : p.Feasible prereg
    · -- the event is the exclusion that puts the minimum out of reach
      have hkind : kind = .caseExcluded := by
        by_contra hother
        exact hinfeasible (Projection.feasible_of_applied happlied hother hfeasible)
      obtain ⟨_, -, hfields, -⟩ := Projection.nextEvent_ok hevent
      have htype : draft.eventType = LongRunEventType.caseExcluded.value := by
        have hsame : event.eventType = draft.eventType :=
          congrArg LongRunEventFields.eventType hfields
        rw [← hsame, ← hkind]
        exact LongRunEventType.ofValue_eq.mp happlied.kind_eq
      rw [hplace.excluding hraw hstage htype] at hafter
      refine Or.inr ⟨_, goes_on_proceedWith hc hafter, ?_⟩
      show (c.appended || (c.stage.run prereg (Projection.load prereg w.file)).1.isSome) = true
      rw [hwritten]
      exact Bool.or_true _
    · rcases hw.infeasible p hload hfeasible with hlatch | ⟨d, hd, happended⟩
      · exact Or.inl (hstays hlatch)
      · by_cases hsame : d = c
        · subst hsame
          rcases hplace.gets_on hw.steady happended hload hfeasible hshort with
            hlatch | ⟨next, hquiet⟩ | ⟨other, hother, hkind⟩
          · exact Or.inl (hstays hlatch)
          · rw [hquiet] at hwritten
            cases hwritten
          · rw [hwritten] at hother
            cases hother
            have hfatal : kind = .generationFatal :=
              Option.some.inj (happlied.kind_eq.symm.trans hkind)
            exact Or.inl (happlied.latch_iff.mpr (Or.inr hfatal))
        · exact Or.inr ⟨d, stays_proceedWith hc hd hsame, happended⟩
  · intro entry hentry hcounts hunresumed
    rcases mem_proceedWith_history hentry with hold | ⟨memory, hmemory, rfl⟩ | ⟨e, -, rfl⟩
    · exact hstays (hw.unresumed entry hold hcounts hunresumed p hload)
    · have hlatch := hplace.returned hunresumed hmemory
      change (c.stage.run prereg (Projection.load prereg w.file)).2 = _ at hmemory
      rw [hafter] at hmemory
      cases after with
      | finish =>
        cases hmemory
        exact hlatch
      | checkFeasible => cases hmemory
      | failResume => cases hmemory
    · exact hcounts.elim

/-- **A step keeps what is owed.** -/
theorem step_owing {action : LongRunAction} (hw : Owing prereg w)
    (hmeets : FatalMeets prereg w action) (hstep : w.step prereg action = some w') :
    Owing prereg w' := by
  obtain ⟨hordinary, hshort, hcrash⟩ := hmeets
  have hsteady := steady_step hw.steady hordinary hstep
  rcases step_cases hstep with ⟨call, rfl, rfl⟩ | ⟨index, c, rfl, hc, rfl⟩ |
    ⟨index, c, rfl, hc, rfl⟩
  · refine ⟨hsteady, ?_, ?_, hw.unresumed⟩
    · intro d hd
      rcases mem_append.mp hd with hd | hd
      · exact hw.places d hd
      · rw [mem_singleton.mp hd]
        exact ⟨.started, hordinary⟩
    · intro p hp hinfeasible
      refine (hw.infeasible p hp hinfeasible).imp_right ?_
      rintro ⟨d, hd, happended⟩
      exact ⟨d, mem_append_left _ hd, happended⟩
  · have hmem : c ∈ w.calls := mem_of_getElem? hc
    have hplaces : ∀ d ∈ (w.proceedWith prereg index c).calls,
        Place outside prereg d ∧ ¬ d.call.Raw LongRunEventType.recorded := by
      intro d hd
      rcases mem_proceedWith_calls hd with hd | ⟨next, hnext, rfl⟩
      · exact hw.places d hd
      · exact ⟨(hw.places c hmem).1.next hnext, (hw.places c hmem).2⟩
    cases hwritten : (c.stage.run prereg (Projection.load prereg w.file)).1 with
    | none =>
      have hsame : (w.proceedWith prereg index c).file = w.file :=
        proceedWith_quiet hwritten
      refine ⟨hsteady, hplaces, ?_, ?_⟩
      · rw [hsame]
        exact fun p hp => (hw.quiet hc hshort hwritten hp).1
      · rw [hsame]
        exact fun entry hentry hcounts hunresumed p hp =>
          (hw.quiet hc hshort hwritten hp).2 entry hentry hcounts hunresumed
    | some event =>
      have hgrown : (w.proceedWith prereg index c).file = w.file ++ [event] :=
        proceedWith_written hwritten
      have hlegible : event.Legible := hordinary c hc event hwritten
      refine ⟨hsteady, hplaces, ?_, ?_⟩
      · rw [hgrown]
        exact fun q hq => (hw.written hc hshort hwritten hlegible hq).1
      · rw [hgrown]
        exact fun entry hentry hcounts hunresumed q hq =>
          (hw.written hc hshort hwritten hlegible hq).2 entry hentry hcounts hunresumed
  · have hmem : c ∈ w.calls := mem_of_getElem? hc
    obtain ⟨hplace, -⟩ := hw.places c hmem
    have hstopped : ∀ p, Projection.load prereg w.file = .ok p → c.appended = true →
        DemandsFatal prereg p c.call → p.fatalLatched = true := by
      intro p hp happended hdemands
      exact hcrash c hc happended p (by rw [hp]; rfl) hdemands
    refine ⟨hsteady, fun d hd => hw.places d (mem_of_mem_eraseIdx hd), ?_, ?_⟩
    · intro p hp hinfeasible
      rcases hw.infeasible p hp hinfeasible with hlatch | ⟨d, hd, happended⟩
      · exact Or.inl hlatch
      · by_cases hsame : d = c
        · subst hsame
          exact Or.inl (hstopped p hp happended
            (demandsFatal_of_infeasible (hplace.demands happended) hinfeasible))
        · obtain ⟨other, hother⟩ := mem_iff_getElem?.mp hd
          have hindex : other ≠ index := by
            intro heq
            rw [heq, hc] at hother
            exact hsame (Option.some.inj hother).symm
          exact Or.inr ⟨d, mem_eraseIdx_iff_getElem?.mpr ⟨other, hindex, hother⟩, happended⟩
    · intro entry hentry hcounts hunresumed p hp
      rcases mem_append.mp hentry with hold | hlast
      · exact hw.unresumed entry hold hcounts hunresumed p hp
      · rw [mem_singleton.mp hlast] at hcounts hunresumed
        exact hstopped p hp hcounts (demandsFatal_of_unresumed hunresumed)

/-! ## Runs -/

variable (history : List (CoordinatorCall × CallEnd outside)) (call : CoordinatorCall)

def CallReturned : Prop :=
  ∃ memory, (call, .returned memory) ∈ history

/-- A call was stopped after its own event, and was made again to its end. -/
def Retried : Prop :=
  ∃ before middle after e, history = before ++ (call, .crashed true) :: middle ++ (call, e) :: after ∧
    ∀ appended, e ≠ .crashed appended

/-- **The law of the failure**, in every run in which no process stops between an event that
demands a failure and the event of this, cases and recoveries come from their own methods, and lines
can be read: when no call is in progress, what a call demands that has returned, or was made again,
has latched the failure. -/
theorem fatal_law {actions : List LongRunAction} {w : LongRunWorld (eventList outside prereg)}
    (hrun : Runs.runFrom (LongRunWorld.step prereg) (LongRunWorld.fresh (eventList outside prereg))
      actions = some w)
    (hmeets : Runs.Along (LongRunWorld.step prereg) (FatalMeets prereg)
      (LongRunWorld.fresh (eventList outside prereg)) actions) :
    ∃ p, Projection.load prereg w.file = .ok p ∧
      (w.calls = [] → ∀ call, CallReturned w.history call ∨ Retried w.history call →
        DemandsFatal prereg p call → p.fatalLatched = true) := by
  have howing : Owing prereg w :=
    along_invariant (fun _ _ _ hw hmeet hstep => step_owing hw hmeet hstep) fresh_owing hmeets
      hrun
  obtain ⟨p, hload, -⟩ := howing.steady.loads
  refine ⟨p, hload, ?_⟩
  intro hnone call hended hdemands
  cases call with
  | recordCaseExcluded case reason predictionId =>
    rcases howing.infeasible p hload hdemands with hlatch | ⟨c, hc, -⟩
    · exact hlatch
    · rw [hnone] at hc
      exact absurd hc not_mem_nil
  | recordRecovery r =>
    rcases hended with ⟨memory, hmemory⟩ | ⟨before, middle, after, e, hhistory, -⟩
    · exact howing.unresumed _ hmemory trivial hdemands p hload
    · refine howing.unresumed (.recordRecovery r, .crashed true) ?_ rfl hdemands p hload
      rw [hhistory]
      simp
  | _ => exact hdemands.elim

end Owing

/-! ## A recovery that is interrupted -/

def paperRecovery : CoordinatorCall :=
  .recordRecovery ⟨"incident", "collector", 1, paperDigest.text, "stopped",
    [("state", paperDigest.text)], 2, paperDigest.text, false, [], paperTime⟩

def recoveryRun : List LongRunAction :=
  paperStart.take 6 ++ .call paperRecovery :: List.replicate 4 (.proceed 0)

def interruptedRun : List LongRunAction :=
  paperStart.take 6 ++ .call paperRecovery :: List.replicate 2 (.proceed 0)
    ++ .crash 0 :: .call paperRecovery :: List.replicate 1 (.proceed 0)

deriving instance DecidableEq for RecoveryArguments

/-- `paperRecovery` as an equation that can be decided. -/
def isPaperRecovery (call : CoordinatorCall) : Bool :=
  match call, paperRecovery with
  | .recordRecovery r, .recordRecovery r' => r = r'
  | _, _ => false

theorem eq_paperRecovery {call : CoordinatorCall} (h : isPaperRecovery call = true) :
    call = paperRecovery := by
  cases call with
  | recordRecovery r => exact congrArg CoordinatorCall.recordRecovery (of_decide_eq_true h)
  | _ => cases h

theorem recoveryRun_ended : (runFrom (LongRunWorld.step paperPreregistration)
    (LongRunWorld.fresh (eventList paperLongRun paperPreregistration)) recoveryRun).any
      (fun w => w.calls.isEmpty && match w.history.reverse with
        | (call, .returned _) :: _ => isPaperRecovery call
        | _ => false) = true := by
  decide +kernel

/-- The recovery that did not resume has returned, and the run has failed. -/
theorem recoveryRun_latched : ∃ (w : LongRunWorld (eventList paperLongRun paperPreregistration))
    (p : Projection paperLongRun), Projection.load paperPreregistration w.file = .ok p ∧
      CallReturned w.history paperRecovery ∧ p.fatalLatched = true := by
  have hmeets : Along (LongRunWorld.step paperPreregistration) (FatalMeets paperPreregistration)
      (LongRunWorld.fresh (eventList paperLongRun paperPreregistration)) recoveryRun := by
    decide +kernel
  obtain ⟨w, hw, hfacts⟩ := (Option.any_eq_true _ _).mp recoveryRun_ended
  rw [Bool.and_eq_true, List.isEmpty_iff] at hfacts
  obtain ⟨hnone, hlast⟩ := hfacts
  have hreturned : CallReturned w.history paperRecovery := by
    split at hlast
    · rename_i call memory before hhistory
      refine ⟨memory, mem_reverse.mp ?_⟩
      rw [hhistory, eq_paperRecovery hlast]
      exact mem_cons_self
    · cases hlast
  obtain ⟨p, hload, hlaw⟩ := fatal_law hw hmeets
  exact ⟨w, p, hload, hreturned, hlaw hnone paperRecovery (Or.inl hreturned) rfl⟩

theorem interruptedRun_ended : (runFrom (LongRunWorld.step paperPreregistration)
    (LongRunWorld.fresh (eventList paperLongRun paperPreregistration)) interruptedRun).any
      (fun w => w.calls.isEmpty && (match w.history.reverse with
        | (call, .raised _) :: (call', .crashed true) :: _ =>
          isPaperRecovery call && isPaperRecovery call'
        | _ => false) && (Projection.load paperPreregistration w.file).toOption.any fun p =>
          !p.fatalLatched) = true := by
  decide +kernel

/-- The recovery that is made again raises, and the run has not failed. -/
theorem interrupted_recovery_unlatched :
    ¬ ∀ (outside : LongRunOutside) (prereg : LongRunPreregistration) (actions : List LongRunAction)
      (w : LongRunWorld (eventList outside prereg)) (p : Projection outside),
      Runs.runFrom (LongRunWorld.step prereg) (LongRunWorld.fresh (eventList outside prereg)) actions
        = some w → Projection.load prereg w.file = .ok p → w.calls = [] →
          ∀ call, CallReturned w.history call ∨ Retried w.history call →
            DemandsFatal prereg p call → p.fatalLatched = true := by
  intro h
  obtain ⟨w, hw, hfacts⟩ := (Option.any_eq_true _ _).mp interruptedRun_ended
  rw [Bool.and_eq_true, Bool.and_eq_true, List.isEmpty_iff] at hfacts
  obtain ⟨⟨hnone, hlast⟩, hread⟩ := hfacts
  obtain ⟨p, hload, hunlatched⟩ := ok_of_toOption_any hread
  have hretried : Retried w.history paperRecovery := by
    split at hlast
    · rename_i call e call' before hhistory
      rw [Bool.and_eq_true] at hlast
      refine ⟨before.reverse, [], [], .raised e, ?_, fun _ he => (by cases he)⟩
      rw [reverse_eq_iff.mp hhistory, eq_paperRecovery hlast.1, eq_paperRecovery hlast.2]
      simp
    · cases hlast
  have hlatched := h paperLongRun paperPreregistration interruptedRun w p hw hload hnone
    paperRecovery (Or.inr hretried) rfl
  rw [hlatched] at hunlatched
  cases hunlatched

end AdvisorAI
