import AdvisorAI.Forward.LongRunCoordinator

/-!
# The steps of a long run

What a step of the coordinators did, taken apart: which event a stage writes (`Stage.run_some`),
what a call goes on with (`Begun`, `Stage.run_more`), and which calls are in progress after a step
(`LongRunWorld.step_cases`, `LongRunWorld.mem_proceedWith_calls`). The facts about runs use these
and unfold no stage.
-/

namespace AdvisorAI

open Lib Lib.Json Projection
open List hiding after

/-! ## What a stage did -/

section Inversion

variable {outside : LongRunOutside} {prereg : LongRunPreregistration} {p : Projection outside}

theorem Projection.signEvent_ok {fields : LongRunEventFields} {event : LongRunEvent outside}
    (h : signEvent outside fields = .ok event) : event.toLongRunEventFields = fields := by
  unfold signEvent at h
  rw [require_bind_ok, require_bind_ok] at h
  obtain ⟨-, -, h⟩ := h
  split at h
  · cases h
    rfl
  · cases h

theorem Projection.nextEvent_ok {draft : Draft} {event : LongRunEvent outside}
    (h : p.nextEvent prereg draft = .ok event) :
    ∃ t, awareUtc "event_observed_at" draft.observedAt = .ok t ∧
      event.toLongRunEventFields = p.nextFields prereg draft t ∧
        validateAppend prereg p draft.eventType draft.state draft.payload = .ok () := by
  unfold nextEvent at h
  simp only [bind_ok_iff] at h
  obtain ⟨t, ht, signed, hsigned, _, hvalidate, h⟩ := h
  cases h
  exact ⟨t, ht, signEvent_ok hsigned, hvalidate⟩

theorem Projection.nextEvent_of_valid {draft : Draft} {t : Timestamp}
    (ht : awareUtc "event_observed_at" draft.observedAt = .ok t)
    (hvalid : (p.nextFields prereg draft t).Valid)
    (hvalidate : validateAppend prereg p draft.eventType draft.state draft.payload = .ok ()) :
    p.nextEvent prereg draft = .ok ⟨_, _, hvalid, rfl⟩ := by
  have hprintable := hvalid.2.2.2.2.1
  have hsign : signEvent outside (p.nextFields prereg draft t) = .ok ⟨_, _, hvalid, rfl⟩ := by
    unfold signEvent
    rw [require_bind_ok, require_bind_ok]
    exact ⟨hprintable.2.2, hprintable, dif_pos hvalid⟩
  unfold nextEvent
  simp only [bind_ok_iff]
  exact ⟨t, ht, _, hsign, (), hvalidate, rfl⟩

theorem prepare_ok {draft : Draft} {read : Except PyError (Projection outside)}
    {prepared : Projection outside × LongRunEvent outside} :
    prepare prereg draft read = .ok prepared ↔ safePayload draft.payload = .ok () ∧
      read = .ok prepared.1 ∧ prepared.1.nextEvent prereg draft = .ok prepared.2 := by
  unfold prepare
  simp only [bind_ok_iff]
  refine ⟨?_, fun h => ⟨(), h.1, prepared.1, h.2.1, prepared.2, h.2.2, rfl⟩⟩
  rintro ⟨_, hsafe, p, hread, event, hevent, h⟩
  cases h
  exact ⟨hsafe, hread, hevent⟩

theorem Stage.run_append {draft : Draft} {after : AfterAppend}
    {read : Except PyError (Projection outside)}
    {prepared : Projection outside × LongRunEvent outside}
    (h : prepare prereg draft read = .ok prepared) :
    (Stage.append draft after).run prereg read
      = (some prepared.2, (prepared.1.advance prereg prepared.2).map fun memory =>
          after.next memory draft.observedAt) := by
  unfold run
  dsimp only
  rw [h]

theorem Stage.run_some {stage : Stage} {read : Except PyError (Projection outside)}
    {event : LongRunEvent outside} (h : (stage.run prereg read).1 = some event) :
    ∃ draft after p, stage = .append draft after ∧ prepare prereg draft read = .ok (p, event) := by
  cases stage with
  | start | scientificState | accounting => cases h
  | append draft after =>
    cases hprepare : prepare prereg draft read with
    | error e =>
      unfold run at h
      dsimp only at h
      rw [hprepare] at h
      cases h
    | ok prepared =>
      rw [run_append hprepare] at h
      cases h
      exact ⟨draft, after, prepared.1, rfl, hprepare⟩

/-- What a call goes on with after its first stage. -/
inductive Begun (prereg : LongRunPreregistration) (p : Projection outside) :
    CoordinatorCall → Stage → Prop where
  | transition {state : LongRunState} {eventType : String} {payload : List (String × Tree)}
      {observedAt : Datetime} (moves : state ∈ p.state.transitions) :
      Begun prereg p (.transition state eventType payload observedAt)
        (.append ⟨eventType, state, payload, observedAt⟩ .finish)
  | fail {incident detail : String} {observedAt : Datetime} (unlatched : p.fatalLatched = false) :
      Begun prereg p (.fail incident detail observedAt)
        (.append ⟨"GENERATION_FATAL", .generationFatal,
          [("incident", .text incident), ("detail", .text detail)], observedAt⟩ .finish)
  | casePending {case : CaseArguments} {predictionId : String} {key : CaseKey}
      (valid : Projection.validateCutoff outside prereg case = .ok key) :
      Begun prereg p (.recordCasePending case predictionId)
        (.append ⟨"CASE_PENDING", p.state, Projection.casePayload outside prereg key .pendingOutcome
          ++ [("prediction_id", .text predictionId)], case.observedAt⟩ .finish)
  | caseExcluded {case : CaseArguments} {reason : String} {predictionId : Option String}
      {key : CaseKey} (valid : Projection.validateCutoff outside prereg case = .ok key) :
      Begun prereg p (.recordCaseExcluded case reason predictionId)
        (.append ⟨"CASE_EXCLUDED", p.state, Projection.casePayload outside prereg key .excluded
          ++ [("reason", .text reason), ("prediction_id", nullable Tree.text predictionId)],
          case.observedAt⟩ .checkFeasible)
  | caseClean {case : CaseArguments} {predictionId outcomeCaseId : String} {key : CaseKey}
      (valid : Projection.validateCutoff outside prereg case = .ok key)
      (pending : p.cases.get key = some ⟨.pendingOutcome, some predictionId, none⟩) :
      Begun prereg p (.recordCaseClean case predictionId outcomeCaseId)
        (.append ⟨"CASE_CLEAN", p.state, Projection.casePayload outside prereg key .clean
          ++ [("prediction_id", .text predictionId), ("outcome_case_id", .text outcomeCaseId)],
          case.observedAt⟩ .finish)
  | recovery {r : RecoveryArguments} (unlatched : p.fatalLatched = false) :
      Begun prereg p (.recordRecovery r)
        (.append ⟨"RECOVERY_ATTEMPT", p.state, p.recoveryPayload prereg r, r.observedAt⟩
          (if r.resumeValid then .finish else .failResume))
  | watchdogCheck {decision : String} {reasons : List String} {observedAt : Datetime} :
      Begun prereg p (.recordWatchdogCheck decision reasons observedAt)
        (.scientificState decision reasons observedAt)

theorem Projection.begin_ok {call : CoordinatorCall} {next : Stage}
    (h : p.begin prereg call = .ok (some next)) : Begun prereg p call next := by
  cases call with
  | transition state eventType payload observedAt =>
    change p.transition state eventType payload observedAt = _ at h
    unfold Projection.transition at h
    rw [require_bind_ok] at h
    obtain ⟨-, h⟩ := h
    split at h
    · cases h
    · rw [require_bind_ok] at h
      obtain ⟨hmoves, h⟩ := h
      cases h
      exact .transition hmoves
  | fail incident detail observedAt =>
    change Except.ok (p.fail incident detail observedAt) = _ at h
    unfold Projection.fail at h
    cases hlatch : p.fatalLatched with
    | true =>
      rw [hlatch] at h
      cases h
    | false =>
      rw [hlatch] at h
      cases h
      exact .fail hlatch
  | recordCasePending case predictionId =>
    change p.recordCasePending prereg case predictionId = _ at h
    unfold Projection.recordCasePending at h
    rw [bind_ok_iff] at h
    obtain ⟨key, hkey, h⟩ := h
    split at h
    · cases h
    · rw [require_bind_ok] at h
      obtain ⟨-, h⟩ := h
      cases h
      exact .casePending hkey
  | recordCaseExcluded case reason predictionId =>
    change p.recordCaseExcluded prereg case reason predictionId = _ at h
    unfold Projection.recordCaseExcluded at h
    rw [bind_ok_iff] at h
    obtain ⟨key, hkey, h⟩ := h
    rw [require_bind_ok, require_bind_ok] at h
    obtain ⟨-, -, h⟩ := h
    split at h
    · cases h
    · rw [require_bind_ok] at h
      obtain ⟨-, h⟩ := h
      cases h
      exact .caseExcluded hkey
  | recordCaseClean case predictionId outcomeCaseId =>
    change p.recordCaseClean prereg case predictionId outcomeCaseId = _ at h
    unfold Projection.recordCaseClean at h
    rw [bind_ok_iff] at h
    obtain ⟨key, hkey, h⟩ := h
    dsimp only at h
    split at h
    · cases h
    · rw [require_bind_ok] at h
      obtain ⟨hpending, h⟩ := h
      cases h
      exact .caseClean hkey hpending
  | recordRecovery r =>
    change p.recordRecovery prereg r = _ at h
    unfold Projection.recordRecovery at h
    simp only [bind_ok_iff, require_ok, exists_and_left, exists_const] at h
    obtain ⟨hlatch, -, -, -, -, -, _, -, -, -, h⟩ := h
    cases h
    exact .recovery hlatch
  | recordWatchdogCheck decision reasons observedAt =>
    change p.recordWatchdogCheck decision reasons observedAt = _ at h
    unfold Projection.recordWatchdogCheck at h
    rw [require_bind_ok, require_bind_ok, require_bind_ok] at h
    obtain ⟨-, -, -, h⟩ := h
    cases h
    exact .watchdogCheck

/-- A stage after another, and what it took to get there. -/
def Stage.LeadsTo (prereg : LongRunPreregistration) (read : Except PyError (Projection outside))
    (next : Stage) : Stage → Prop
  | .start call => ∃ p, read = .ok p ∧ Begun prereg p call next
  | .scientificState decision reasons observedAt =>
    ∃ p, read = .ok p ∧ next = watchdogAppend p decision reasons observedAt
  | .accounting observedAt =>
    ∃ p, read = .ok p ∧ ¬ p.Feasible prereg ∧ next = .start (infeasibleCall observedAt)
  | .append draft after => ∃ prepared memory, prepare prereg draft read = .ok prepared ∧
    prepared.1.advance prereg prepared.2 = .ok memory ∧
      after.next memory draft.observedAt = .more next

theorem Stage.run_more {stage next : Stage} {read : Except PyError (Projection outside)}
    (h : (stage.run prereg read).2 = .ok (.more next)) : LeadsTo prereg read next stage := by
  cases stage with
  | start call =>
    unfold run at h
    simp only [bind_ok_iff] at h
    obtain ⟨p, hread, found, hbegin, h⟩ := h
    cases found with
    | none => cases h
    | some stage =>
      cases h
      exact ⟨p, hread, begin_ok hbegin⟩
  | scientificState decision reasons observedAt =>
    unfold run at h
    rw [bind_ok_iff] at h
    obtain ⟨p, hread, h⟩ := h
    cases h
    exact ⟨p, hread, rfl⟩
  | accounting observedAt =>
    unfold run at h
    rw [bind_ok_iff] at h
    obtain ⟨p, hread, h⟩ := h
    split at h
    · cases h
    · next hfeasible =>
      cases h
      exact ⟨p, hread, hfeasible, rfl⟩
  | append draft after =>
    cases hprepare : prepare prereg draft read with
    | error e =>
      unfold run at h
      dsimp only at h
      rw [hprepare] at h
      cases h
    | ok prepared =>
      rw [run_append hprepare] at h
      cases hadvance : prepared.1.advance prereg prepared.2 with
      | error e =>
        rw [hadvance] at h
        cases h
      | ok memory =>
        rw [hadvance] at h
        exact ⟨prepared, memory, hprepare, hadvance, Except.ok.inj h⟩

end Inversion

/-! ## What a step did -/

namespace LongRunWorld

variable {outside : LongRunOutside} {prereg : LongRunPreregistration} {store : EventStore outside}
  {w w' : LongRunWorld store}

theorem step_cases {action : LongRunAction} (h : w.step prereg action = some w') :
    (∃ call, action = .call call ∧
      w' = ⟨w.file, w.calls ++ [⟨call, .start call, false⟩], w.history⟩) ∨
    (∃ index c, action = .proceed index ∧ w.calls[index]? = some c ∧
      w' = w.proceedWith prereg index c) ∨
    (∃ index c, action = .crash index ∧ w.calls[index]? = some c ∧
      w' = ⟨w.file, w.calls.eraseIdx index, w.history ++ [(c.call, .crashed c.appended)]⟩) := by
  cases action with
  | call call =>
    cases h
    exact Or.inl ⟨call, rfl, rfl⟩
  | proceed index =>
    obtain ⟨c, hc, h⟩ := Option.map_eq_some_iff.mp h
    exact Or.inr (Or.inl ⟨index, c, rfl, hc, h.symm⟩)
  | crash index =>
    obtain ⟨c, hc, h⟩ := Option.map_eq_some_iff.mp h
    exact Or.inr (Or.inr ⟨index, c, rfl, hc, h.symm⟩)

theorem proceedWith_file (index : ℕ) (c : CallInProgress) : (w.proceedWith prereg index c).file
    = w.fileAfter (c.stage.run prereg (store.read w.file)).1 := by
  unfold proceedWith
  dsimp only
  split <;> rfl

theorem proceedWith_quiet {index : ℕ} {c : CallInProgress}
    (h : (c.stage.run prereg (store.read w.file)).1 = none) :
    (w.proceedWith prereg index c).file = w.file := by
  rw [proceedWith_file, h]
  rfl

theorem proceedWith_written {index : ℕ} {c : CallInProgress} {event : LongRunEvent outside}
    (h : (c.stage.run prereg (store.read w.file)).1 = some event) :
    (w.proceedWith prereg index c).file = store.write w.file event := by
  rw [proceedWith_file, h]
  rfl

theorem mem_proceedWith_calls {index : ℕ} {c d : CallInProgress}
    (h : d ∈ (w.proceedWith prereg index c).calls) : d ∈ w.calls ∨
      ∃ stage, (c.stage.run prereg (store.read w.file)).2 = .ok (.more stage) ∧
        d = ⟨c.call, stage,
          c.appended || (c.stage.run prereg (store.read w.file)).1.isSome⟩ := by
  unfold proceedWith at h
  dsimp only at h
  split at h
  · next stage hstage =>
    rcases mem_or_eq_of_mem_set h with h | h
    · exact Or.inl h
    · exact Or.inr ⟨stage, hstage, h⟩
  · exact Or.inl (mem_of_mem_eraseIdx h)
  · exact Or.inl (mem_of_mem_eraseIdx h)

theorem stays_proceedWith {index : ℕ} {c d : CallInProgress} (hc : w.calls[index]? = some c)
    (hd : d ∈ w.calls) (hne : d ≠ c) : d ∈ (w.proceedWith prereg index c).calls := by
  obtain ⟨other, hother⟩ := mem_iff_getElem?.mp hd
  have hindex : other ≠ index := by
    intro heq
    rw [heq, hc] at hother
    exact hne (Option.some.inj hother).symm
  unfold proceedWith
  dsimp only
  split
  · exact mem_of_getElem? (by rw [List.getElem?_set_ne (Ne.symm hindex), hother])
  · exact mem_eraseIdx_iff_getElem?.mpr ⟨other, hindex, hother⟩
  · exact mem_eraseIdx_iff_getElem?.mpr ⟨other, hindex, hother⟩

theorem goes_on_proceedWith {index : ℕ} {c : CallInProgress} {next : Stage}
    (hc : w.calls[index]? = some c)
    (h : (c.stage.run prereg (store.read w.file)).2 = .ok (.more next)) :
    ⟨c.call, next, c.appended || (c.stage.run prereg (store.read w.file)).1.isSome⟩
      ∈ (w.proceedWith prereg index c).calls := by
  unfold proceedWith
  dsimp only
  rw [h]
  exact mem_set (List.getElem?_eq_some_iff.mp hc).1 _

theorem mem_proceedWith_history {index : ℕ} {c : CallInProgress}
    {entry : CoordinatorCall × CallEnd outside}
    (h : entry ∈ (w.proceedWith prereg index c).history) : entry ∈ w.history ∨
      (∃ memory, (c.stage.run prereg (store.read w.file)).2 = .ok (.returned memory) ∧
        entry = (c.call, .returned memory)) ∨
      ∃ e, (c.stage.run prereg (store.read w.file)).2 = .error e ∧ entry = (c.call, .raised e) := by
  unfold proceedWith at h
  dsimp only at h
  split at h
  · exact Or.inl h
  · next memory hmemory =>
    rcases mem_append.mp h with h | h
    · exact Or.inl h
    · exact Or.inr (Or.inl ⟨memory, hmemory, mem_singleton.mp h⟩)
  · next e he =>
    rcases mem_append.mp h with h | h
    · exact Or.inl h
    · exact Or.inr (Or.inr ⟨e, he, mem_singleton.mp h⟩)

/-! ### A call at the end of the list, and one that is alone -/

theorem step_last_more {file : store.File} {calls : List CallInProgress}
    {history : List (CoordinatorCall × CallEnd outside)} {c : CallInProgress} {next : Stage}
    (h : c.stage.run prereg (store.read file) = (none, .ok (.more next))) :
    step prereg ⟨file, calls ++ [c], history⟩ (.proceed calls.length)
      = some ⟨file, calls ++ [⟨c.call, next, c.appended⟩], history⟩ := by
  have hlast : (calls ++ [c])[calls.length]? = some c := List.getElem?_concat_length
  unfold step
  dsimp only
  rw [hlast]
  show some (proceedWith prereg _ _ _) = _
  unfold proceedWith
  rw [h]
  dsimp only
  rw [set_append_right _ _ (le_refl _), Nat.sub_self, set_cons_zero]
  simp [fileAfter]

theorem step_last_returned {file : store.File} {calls : List CallInProgress}
    {history : List (CoordinatorCall × CallEnd outside)} {c : CallInProgress}
    {event : LongRunEvent outside} {memory : Projection outside}
    (h : c.stage.run prereg (store.read file) = (some event, .ok (.returned memory))) :
    step prereg ⟨file, calls ++ [c], history⟩ (.proceed calls.length)
      = some ⟨store.write file event, calls, history ++ [(c.call, .returned memory)]⟩ := by
  have hlast : (calls ++ [c])[calls.length]? = some c := List.getElem?_concat_length
  unfold step
  dsimp only
  rw [hlast]
  show some (proceedWith prereg _ _ _) = _
  unfold proceedWith
  rw [h]
  rw [eraseIdx_append_of_length_le (le_refl _), Nat.sub_self, eraseIdx_cons_zero,
    append_nil]
  rfl

end LongRunWorld

end AdvisorAI
