import AdvisorAI.Forward.LongRunAccounting
import AdvisorAI.Forward.LongRunSteps
import AdvisorAI.Forward.PredictionLedger

/-!
# Cases over runs of coordinators

In every run of any number of coordinators, what is loaded is accounted for (`runs_accounted`). A
case is not always pending first: an exclusion can be the first that is recorded of it, with a
prediction or without (`excluded_never_pending`). A clean case was pending, where it is recorded by
`recordCaseClean`: its call saw it pending, and no case goes away.
-/

namespace AdvisorAI

open Lib Lib.Json Projection LongRunWorld
open List hiding after
open Option hiding or_assoc

/-! ## Runs of coordinators -/

/-- What is assumed of Python: a symbol is in upper case, and an integer is its `int`. -/
structure LongRunOutside.KeepsKeys (outside : LongRunOutside) : Prop where
  symbol : ∀ symbol : V3CoreSymbol, outside.upper symbol.value = symbol.value
  ordinal : ∀ n : ℕ, outside.int (.number (integerToken n)) = some (n : ℤ)

/-- `transition` with the type of an event that another method appends. -/
def CoordinatorCall.Raw (kinds : List LongRunEventType) : CoordinatorCall → Prop
  | .transition _ eventType _ _ => ∃ kind ∈ kinds, eventType = kind.value
  | _ => False

instance (kinds : List LongRunEventType) : (call : CoordinatorCall) → Decidable (call.Raw kinds)
  | .transition _ eventType _ _ => inferInstanceAs (Decidable (∃ kind ∈ kinds, eventType = kind.value))
  | .fail _ _ _ => isFalse fun h => h
  | .recordCasePending _ _ => isFalse fun h => h
  | .recordCaseExcluded _ _ _ => isFalse fun h => h
  | .recordCaseClean _ _ _ => isFalse fun h => h
  | .recordRecovery _ => isFalse fun h => h
  | .recordWatchdogCheck _ _ _ => isFalse fun h => h

section Runs

variable {outside : LongRunOutside} {prereg : LongRunPreregistration}

variable {l more : List (String × Tree)}

theorem member_append {name : String} (h : ∀ m ∈ more, m.1 ≠ name) :
    member (l ++ more) name = member l name := by
  unfold member
  rw [reverse_append, List.find?_append]
  have hnone : more.reverse.find? (fun m => decide (m.1 = name)) = none := by
    rw [List.find?_eq_none]
    intro m hm hname
    exact h m (mem_reverse.mp hm) (of_decide_eq_true hname)
  rw [hnone, none_or]

variable {key : CaseKey}

theorem validateKey_value (houtside : outside.KeepsKeys)
    (hrange : 1 ≤ key.2 ∧ key.2 ≤ prereg.targetOpportunitiesPerSymbol) :
    Projection.validateKey outside prereg key.1.value key.2 = .ok key := by
  obtain ⟨symbol, ordinal⟩ := key
  have hstrip : strip symbol.value = symbol.value := by
    cases symbol <;> decide +kernel
  unfold Projection.validateKey
  rw [hstrip, houtside.symbol, V3CoreSymbol.ofValue_value]
  dsimp only at hrange ⊢
  rw [if_neg (by omega), Int.toNat_natCast]

theorem caseIdentity_payload (houtside : outside.KeepsKeys)
    (hrange : 1 ≤ key.2 ∧ key.2 ≤ prereg.targetOpportunitiesPerSymbol) (state : LongRunCaseState)
    (hmore : ∀ m ∈ more, m.1 ∉ ["symbol", "ordinal", "case_state"]) :
    Projection.caseIdentity outside prereg
      (Projection.casePayload outside prereg key state ++ more) = some (key, state) := by
  have hmember : ∀ name ∈ ["symbol", "ordinal", "case_state"],
      member (Projection.casePayload outside prereg key state ++ more) name
        = member (Projection.casePayload outside prereg key state) name := by
    intro name hname
    refine member_append ?_
    rintro m hm rfl
    exact hmore m hm hname
  have hsymbol : member (Projection.casePayload outside prereg key state) "symbol"
      = some (.text key.1.value) := rfl
  have hordinal : member (Projection.casePayload outside prereg key state) "ordinal"
      = some (.number (integerToken key.2)) := rfl
  have hstate : member (Projection.casePayload outside prereg key state) "case_state"
      = some (.text state.value) := rfl
  have hvalidate : Projection.validateKey outside prereg (outside.str (.text key.1.value)) key.2
      = .ok key := validateKey_value houtside hrange
  have hread : LongRunCaseState.ofValue (outside.str (.text state.value)) = some state :=
    LongRunCaseState.ofValue_value state
  unfold Projection.caseIdentity
  rw [hmember _ (by decide), hmember _ (by decide), hmember _ (by decide), hsymbol, hordinal, hstate]
  simp only [bind_eq_bind, bind_some, houtside.ordinal, hvalidate, hread,
    Option.pure_def]
  rfl

theorem validateCutoff_range {case : CaseArguments}
    (h : Projection.validateCutoff outside prereg case = .ok key) :
    1 ≤ key.2 ∧ key.2 ≤ prereg.targetOpportunitiesPerSymbol := by
  unfold Projection.validateCutoff at h
  rw [bind_ok_iff] at h
  obtain ⟨found, hfound, h⟩ := h
  rw [bind_ok_iff] at h
  obtain ⟨_, -, h⟩ := h
  rw [require_bind_ok] at h
  obtain ⟨-, h⟩ := h
  cases h
  exact validateKey_range hfound

/-- Some events before, a case was pending with a prediction. -/
def WasPending (prereg : LongRunPreregistration) (events : List (LongRunEvent outside)) (key : CaseKey)
    (predictionId : Option String) : Prop :=
  ∃ before after earlier c, events = before ++ after ∧ Projection.load prereg before = .ok earlier ∧
    earlier.cases.get key = some c ∧ c.state = .pendingOutcome ∧ c.predictionId = predictionId

variable {events : List (LongRunEvent outside)}

theorem WasPending.append {predictionId : Option String}
    (h : WasPending prereg events key predictionId) (event : LongRunEvent outside) :
    WasPending prereg (events ++ [event]) key predictionId := by
  obtain ⟨before, after, earlier, c, rfl, hrest⟩ := h
  exact ⟨before, after ++ [event], earlier, c, append_assoc _ _ _, hrest⟩

/-- Clean cases were pending, and what is about to be recorded as clean is there already. -/
structure CleanFollows (prereg : LongRunPreregistration)
    (w : LongRunWorld (eventList outside prereg)) : Prop where
  starts : ∀ c ∈ w.calls, ∀ call, c.stage = .start call → ¬ call.Raw [.caseClean]
  drafts : ∀ c ∈ w.calls, ∀ draft after, c.stage = .append draft after →
    draft.eventType = LongRunEventType.caseClean.value → ∀ p, Projection.load prereg w.file = .ok p →
      ∃ key status, Projection.caseIdentity outside prereg draft.payload = some (key, status) ∧
        p.cases.get key ≠ none
  recorded : ∀ p, Projection.load prereg w.file = .ok p → ∀ key c, p.cases.get key = some c →
    c.state = .clean → WasPending prereg w.file key c.predictionId

theorem fresh_cleanFollows : CleanFollows prereg (LongRunWorld.fresh (eventList outside prereg)) where
  starts := fun c hc => absurd hc not_mem_nil
  drafts := fun c hc => absurd hc not_mem_nil
  recorded := by
    intro p hp key c hc
    cases hp
    cases hc

variable {p q memory : Projection outside} {call : CoordinatorCall} {after : AfterAppend}

theorem begun_clean (houtside : outside.KeepsKeys) {draft : Draft}
    (h : Begun prereg p call (.append draft after)) (hraw : ¬ call.Raw [.caseClean])
    (hclean : draft.eventType = LongRunEventType.caseClean.value) :
    ∃ key status, Projection.caseIdentity outside prereg draft.payload = some (key, status) ∧
      p.cases.get key ≠ none := by
  have hother : ∀ s ∈ ["GENERATION_FATAL", "CASE_PENDING", "CASE_EXCLUDED", "RECOVERY_ATTEMPT"],
      s ≠ LongRunEventType.caseClean.value := by decide
  cases h with
  | transition _ => exact absurd ⟨_, mem_singleton_self _, hclean⟩ hraw
  | fail _ => exact absurd hclean (hother "GENERATION_FATAL" (by decide))
  | casePending _ => exact absurd hclean (hother "CASE_PENDING" (by decide))
  | caseExcluded _ => exact absurd hclean (hother "CASE_EXCLUDED" (by decide))
  | recovery _ => exact absurd hclean (hother "RECOVERY_ATTEMPT" (by decide))
  | caseClean hvalid hpending =>
    refine ⟨_, _, caseIdentity_payload houtside (validateCutoff_range hvalid) .clean ?_, ?_⟩
    · simp
    · rw [hpending]
      exact some_ne_none _

theorem case_stays {event : LongRunEvent outside}
    (h : Projection.load prereg (events ++ [event]) = .ok q) :
    ∃ p, Projection.load prereg events = .ok p ∧
      ∀ key, p.cases.get key ≠ none → q.cases.get key ≠ none := by
  obtain ⟨p, hp, -⟩ := load_append h
  refine ⟨p, hp, ?_⟩
  intro key hkey
  obtain ⟨c, hc⟩ := ne_none_iff_exists'.mp hkey
  obtain ⟨d, hd, -⟩ := load_keeps hp h hc
  rw [hd]
  exact some_ne_none d

theorem next_not_raw {draft : Draft} {kinds : List LongRunEventType}
    (h : after.next memory draft.observedAt = .more (.start call)) : ¬ call.Raw kinds := by
  cases after with
  | finish => cases h
  | checkFeasible => cases h
  | failResume =>
    cases h
    exact fun hraw => hraw

variable {w w' : LongRunWorld (eventList outside prereg)}

/-- The calls in progress make no `transition` of these kinds, and a rule holds of what they are
about to append. -/
structure CallsKeep (prereg : LongRunPreregistration) (kinds : List LongRunEventType)
    (Q : Projection outside → Draft → Prop) (w : LongRunWorld (eventList outside prereg)) : Prop where
  starts : ∀ c ∈ w.calls, ∀ call, c.stage = .start call → ¬ call.Raw kinds
  drafts : ∀ c ∈ w.calls, ∀ draft after, c.stage = .append draft after →
    ∀ p, Projection.load prereg w.file = .ok p → Q p draft

namespace CallsKeep

variable {kinds : List LongRunEventType} {Q : Projection outside → Draft → Prop}
  (hbegun : ∀ {p call draft after}, Begun prereg p call (.append draft after) →
    ¬ call.Raw kinds → Q p draft)
  (hwatch : ∀ p draft, draft.eventType = "WATCHDOG_CHECK" → Q p draft)

include hbegun hwatch

/-- What a stage goes on with keeps to the rule, and an append after it wrote nothing. -/
theorem next (hw : CallsKeep prereg kinds Q w) {c : CallInProgress} (hc : c ∈ w.calls) {next : Stage}
    (h : (c.stage.run prereg (Projection.load prereg w.file)).2 = .ok (.more next)) :
    (∀ call, next = .start call → ¬ call.Raw kinds) ∧
      ∀ draft after, next = .append draft after →
        (c.stage.run prereg (Projection.load prereg w.file)).1 = none ∧
          ∃ p, Projection.load prereg w.file = .ok p ∧ Q p draft := by
  have hleads := Stage.run_more h
  cases hstage : c.stage with
  | start call =>
    rw [hstage] at hleads
    obtain ⟨p, hp, hbegins⟩ := hleads
    refine ⟨?_, ?_⟩
    · rintro other rfl
      cases hbegins
    · rintro draft after rfl
      exact ⟨rfl, p, hp, hbegun hbegins (hw.starts c hc call hstage)⟩
  | scientificState decision reasons observedAt =>
    rw [hstage] at hleads
    obtain ⟨p, hp, rfl⟩ := hleads
    refine ⟨fun other hother => (by cases hother), ?_⟩
    intro draft after hnext
    cases hnext
    exact ⟨rfl, p, hp, hwatch _ _ rfl⟩
  | accounting observedAt =>
    rw [hstage] at hleads
    obtain ⟨p, -, -, rfl⟩ := hleads
    refine ⟨?_, fun other after hother => (by cases hother)⟩
    intro call hcall
    cases hcall
    exact fun hraw => hraw
  | append draft after =>
    rw [hstage] at hleads
    obtain ⟨prepared, memory, -, -, hnext⟩ := hleads
    refine ⟨?_, ?_⟩
    · rintro call rfl
      exact next_not_raw hnext
    · rintro other after' rfl
      cases after <;> cases hnext

/-- **A step keeps the rule**, where an event that is appended does. -/
theorem step (hw : CallsKeep prereg kinds Q w) {action : LongRunAction}
    (hraw : ∀ call, action = .call call → ¬ call.Raw kinds)
    (hgrows : ∀ index c, action = .proceed index → w.calls[index]? = some c →
      ∀ event, (c.stage.run prereg (Projection.load prereg w.file)).1 = some event →
        ∀ q, Projection.load prereg (w.file ++ [event]) = .ok q →
          ∃ p, Projection.load prereg w.file = .ok p ∧ ∀ draft, Q p draft → Q q draft)
    (hstep : w.step prereg action = some w') : CallsKeep prereg kinds Q w' := by
  rcases step_cases hstep with ⟨call, haction, rfl⟩ | ⟨index, c, haction, hc, rfl⟩ |
    ⟨index, c, -, -, rfl⟩
  · refine ⟨?_, ?_⟩
    · intro d hd other hstage
      rcases mem_append.mp hd with hd | hd
      · exact hw.starts d hd other hstage
      · rw [mem_singleton.mp hd] at hstage
        cases hstage
        exact hraw call haction
    · intro d hd draft after hstage
      rcases mem_append.mp hd with hd | hd
      · exact hw.drafts d hd draft after hstage
      · rw [mem_singleton.mp hd] at hstage
        cases hstage
  · have hmem : c ∈ w.calls := mem_of_getElem? hc
    refine ⟨?_, ?_⟩
    · intro d hd other hstage
      rcases mem_proceedWith_calls hd with hd | ⟨next, hnext, rfl⟩
      · exact hw.starts d hd other hstage
      · exact (hw.next hbegun hwatch hmem hnext).1 other hstage
    · intro d hd draft after hstage q hq
      cases hwritten : (c.stage.run prereg (Projection.load prereg w.file)).1 with
      | none =>
        rw [proceedWith_quiet hwritten] at hq
        rcases mem_proceedWith_calls hd with hd | ⟨next, hnext, rfl⟩
        · exact hw.drafts d hd draft after hstage q hq
        · obtain ⟨-, p, hp, hdraft⟩ := (hw.next hbegun hwatch hmem hnext).2 draft after hstage
          rw [hq] at hp
          cases hp
          exact hdraft
      | some event =>
        rw [proceedWith_written hwritten] at hq
        obtain ⟨p, hp, hkeeps⟩ := hgrows index c haction hc event hwritten q hq
        rcases mem_proceedWith_calls hd with hd | ⟨next, hnext, rfl⟩
        · exact hkeeps draft (hw.drafts d hd draft after hstage p hp)
        · have hnone := ((hw.next hbegun hwatch hmem hnext).2 draft after hstage).1
          rw [hwritten] at hnone
          cases hnone
  · have hsub : ∀ d ∈ w.calls.eraseIdx index, d ∈ w.calls := fun d hd => mem_of_mem_eraseIdx hd
    exact ⟨fun d hd => hw.starts d (hsub d hd), fun d hd => hw.drafts d (hsub d hd)⟩

end CallsKeep

/-- One step keeps the law, when it is no `transition` with the type of a clean case. -/
theorem step_cleanFollows (houtside : outside.KeepsKeys) (hw : CleanFollows prereg w)
    {action : LongRunAction} (hraw : ∀ call, action = .call call → ¬ call.Raw [.caseClean])
    (hstep : w.step prereg action = some w') : CleanFollows prereg w' := by
  have hcalls : CallsKeep prereg [.caseClean] (fun p draft =>
      draft.eventType = LongRunEventType.caseClean.value →
        ∃ key status, Projection.caseIdentity outside prereg draft.payload = some (key, status) ∧
          p.cases.get key ≠ none) w' := by
    have hwatch : "WATCHDOG_CHECK" ≠ LongRunEventType.caseClean.value := by decide
    refine CallsKeep.step (begun_clean houtside)
      (fun _ _ htype hclean => absurd (htype.symm.trans hclean) hwatch)
      ⟨hw.starts, fun c hc draft after hstage p hp hclean =>
        hw.drafts c hc draft after hstage hclean p hp⟩ hraw ?_ hstep
    intro _ _ _ _ event _ q hq
    obtain ⟨p, hp, hstays⟩ := case_stays hq
    refine ⟨p, hp, ?_⟩
    intro draft hdraft hclean
    obtain ⟨key, status, hidentity, hkey⟩ := hdraft hclean
    exact ⟨key, status, hidentity, hstays key hkey⟩
  refine ⟨hcalls.starts, fun d hd draft after hstage hclean p hp =>
    hcalls.drafts d hd draft after hstage p hp hclean, ?_⟩
  rcases step_cases hstep with ⟨call, -, rfl⟩ | ⟨index, c, -, hc, rfl⟩ | ⟨index, c, -, -, rfl⟩
  · exact hw.recorded
  · have hmem : c ∈ w.calls := mem_of_getElem? hc
    cases hwritten : (c.stage.run prereg (Projection.load prereg w.file)).1 with
    | none =>
      have hsame : (w.proceedWith prereg index c).file = w.file :=
        proceedWith_quiet hwritten
      rw [hsame]
      exact hw.recorded
    | some event =>
      obtain ⟨draft, after, before, hstage, hprepare⟩ := Stage.run_some hwritten
      obtain ⟨-, hbefore, hevent⟩ := prepare_ok.mp hprepare
      have hgrown : (w.proceedWith prereg index c).file = w.file ++ [event] :=
        proceedWith_written hwritten
      intro q hq key c' hc' hclean
      rw [hgrown] at hq ⊢
      obtain ⟨p, hp, htake⟩ := load_concat.mp hq
      obtain ⟨kind, happlied⟩ := applied_of_advance (take_ok.mp htake).2.2
      have hold : p.cases.get key = some c' → WasPending prereg (w.file ++ [event]) key
          c'.predictionId := fun hget => (hw.recorded p hp key c' hget hclean).append event
      rcases happlied.cases_move with ⟨-, hsame⟩ | ⟨named, desired, hchecked, -, hset⟩
      · rw [hsame] at hc'
        exact hold hc'
      · rw [hset] at hc'
        by_cases hkey : key = named
        · subst hkey
          rw [Dict.get_set_self, Option.some.injEq] at hc'
          subst hc'
          -- the event is a clean case: it was in a draft, and its case was there
          have hkind : kind = .caseClean := by
            have hstatus := hchecked.status
            rw [hclean] at hstatus
            cases kind <;> cases hstatus
            rfl
          obtain ⟨_, -, hfields, -⟩ := nextEvent_ok hevent
          have htype : draft.eventType = LongRunEventType.caseClean.value := by
            have hevent : event.eventType = draft.eventType :=
              congrArg LongRunEventFields.eventType hfields
            rw [← hevent, ← hkind]
            exact LongRunEventType.ofValue_eq.mp happlied.kind_eq
          have hpayload : event.payload = draft.payload :=
            congrArg LongRunEventFields.payload hfields
          obtain ⟨key', status, hidentity, hpresent⟩ :=
            hw.drafts c hmem draft after hstage htype p hp
          rw [← hpayload, hchecked.identity] at hidentity
          cases hidentity
          obtain ⟨prior, hprior⟩ := ne_none_iff_exists'.mp hpresent
          rcases hchecked.completes prior hprior with ⟨hexcluded, -⟩ | hcompletes
          · rw [hkind] at hexcluded
            cases hexcluded
          · obtain ⟨-, hpending, -, hprediction⟩ := hcompletes
            exact ⟨w.file, [event], p, prior, rfl, hp, hprior, hpending, hprediction⟩
        · rw [Dict.get_set_ne _ hkey] at hc'
          exact hold hc'
  · exact hw.recorded

/-- **Every reachable projection is accounted for.** Where clean cases are recorded by
`recordCaseClean`, they were pending with their prediction. -/
theorem runs_accounted (houtside : outside.KeepsKeys) {actions : List LongRunAction}
    {w : LongRunWorld (eventList outside prereg)}
    (hrun : Runs.runFrom (LongRunWorld.step prereg) (LongRunWorld.fresh (eventList outside prereg))
      actions = some w) {p : Projection outside} (hload : Projection.load prereg w.file = .ok p) :
    Projection.Accounted prereg w.file p ∧
      ((∀ call, .call call ∈ actions → ¬ call.Raw [.caseClean]) →
        ∀ key c, p.cases.get key = some c → c.state = .clean →
          WasPending prereg w.file key c.predictionId) := by
  refine ⟨load_accounted hload, ?_⟩
  intro hraw key c hc hclean
  have hmeets : Runs.Along (LongRunWorld.step prereg)
      (fun _ action => ∀ call, action = .call call → ¬ call.Raw [.caseClean])
      (LongRunWorld.fresh (eventList outside prereg)) actions :=
    Runs.along_of_forall fun action haction _ call hcall => hraw call (hcall ▸ haction)
  have hfollows : CleanFollows prereg w :=
    Runs.along_invariant (fun w action w' hw hmeet hstep => step_cleanFollows houtside hw hmeet hstep)
      fresh_cleanFollows hmeets hrun
  exact hfollows.recorded p hload key c hc hclean

end Runs

/-! ## A run -/

def paperLongRun : LongRunOutside where
  toForwardOutside := hashedBy fun _ => paperDigest
  repr _ := ""
  int := Projection.asInt
  equalsInt v n := decide (Projection.asInt v = some n)

def paperPreregistration : LongRunPreregistration where
  generationId := "generation"
  mandatoryCutoffs := (List.range 80).map fun n : ℕ => (900000000 * n : Timestamp)
  targetOpportunitiesPerSymbol := 80
  minimumCleanCasesPerSymbol := 64
  collectorMaxAttemptsTotal := 1
  candidateMaxAttemptsTotal := 1
  repositoryCommit := "4c6114db66c3dbd7ab3d3cb3e698fb056aea31b9"
  collectorCodeSha256 := paperDigest
  candidateWorkerCodeSha256 := paperDigest
  checkpointSha256 := paperDigest
  uvLockSha256 := paperDigest
  requirementsLockSha256 := paperDigest
  generationId_ne := by decide
  cutoffs_length := by rw [length_map, length_range]
  target_eq := rfl
  minimum_eq := rfl
  attempts_eq := ⟨rfl, rfl⟩

def paperTime : Datetime := Datetime.ofTimestamp 0

def paperCase : CaseArguments := ⟨"BTCUSDT", 1, paperTime, paperTime⟩

def alone (call : CoordinatorCall) : List LongRunAction := [.call call, .proceed 0, .proceed 0]

def paperStart : List LongRunAction :=
  [(.preflightReady, "PREFLIGHT_READY"), (.runningWarmup, "CANDIDATE_STARTED"),
    (.running, "WARMUP_COMPLETE")].flatMap fun move : LongRunState × String =>
      alone (.transition move.1 move.2 [] paperTime)

theorem asInt_natural (n : ℕ) : Projection.asInt (.number (integerToken n)) = some (n : ℤ) := by
  have hdigits : ∀ c ∈ Nat.toDigits 10 n, c.isDigit = true :=
    fun c hc => Nat.isDigit_of_mem_toDigits (by decide) (by decide) hc
  have hall : (Nat.toDigits 10 n).all Char.isDigit = true := List.all_eq_true.mpr hdigits
  unfold Projection.asInt
  dsimp only
  split
  · next digits heq =>
    have hminus : '-' ∈ Nat.toDigits 10 n := by
      rw [show Nat.toDigits 10 n = '-' :: digits from heq]
      exact mem_cons_self
    exact absurd (hdigits _ hminus) (by decide)
  · show (if (Nat.toDigits 10 n).all Char.isDigit = true then
      some ((Nat.ofDigitChars 10 (Nat.toDigits 10 n) 0 : ℕ) : ℤ) else none) = some (n : ℤ)
    rw [if_pos hall, Nat.ofDigitChars_ten_toDigits]

theorem paperLongRun_keepsKeys : paperLongRun.KeepsKeys := ⟨fun _ => rfl, asInt_natural⟩

def fileOf (actions : List LongRunAction) :
    Option (List (LongRunEvent paperLongRun) × Projection paperLongRun) := do
  let w ← Runs.runFrom (LongRunWorld.step paperPreregistration)
    (LongRunWorld.fresh (eventList paperLongRun paperPreregistration)) actions
  let p ← (Projection.load paperPreregistration w.file).toOption
  return (w.file, p)

theorem fileOf_run {actions : List LongRunAction} {file : List (LongRunEvent paperLongRun)}
    {p : Projection paperLongRun} (h : fileOf actions = some (file, p)) :
    ∃ w, Runs.runFrom (LongRunWorld.step paperPreregistration)
        (LongRunWorld.fresh (eventList paperLongRun paperPreregistration)) actions = some w ∧
      w.file = file ∧ Projection.load paperPreregistration file = .ok p := by
  unfold fileOf at h
  simp only [bind_eq_bind, bind_eq_some_iff, Option.pure_def, Option.some.injEq,
    Prod.mk.injEq] at h
  obtain ⟨w, hw, found, hfound, hfile, hp⟩ := h
  refine ⟨w, hw, hfile, ?_⟩
  cases hload : Projection.load paperPreregistration w.file with
  | error e =>
    rw [hload] at hfound
    cases hfound
  | ok loaded =>
    rw [hload] at hfound
    cases hfound
    rw [← hfile, hload, hp]

def lateRun : List LongRunAction :=
  paperStart ++ alone (.recordCaseExcluded paperCase "late" (some "prediction"))

/-- The case of a late prediction was never pending. -/
theorem excluded_never_pending :
    ¬ ∀ (outside : LongRunOutside) (prereg : LongRunPreregistration) (actions : List LongRunAction)
      (w : LongRunWorld (eventList outside prereg)) (p : Projection outside),
      Runs.runFrom (LongRunWorld.step prereg) (LongRunWorld.fresh (eventList outside prereg)) actions
        = some w → Projection.load prereg w.file = .ok p →
          ∀ key c, p.cases.get key = some c → c.state = .excluded → c.predictionId ≠ none →
            WasPending prereg w.file key c.predictionId := by
  intro h
  have hexcluded : (fileOf lateRun).map (fun found => found.2.cases.get (.btcusdt, 1))
      = some (some ⟨.excluded, some "prediction", none⟩) := by decide +kernel
  have hnever : (fileOf lateRun).all (fun found => (List.range (found.1.length + 1)).all fun n =>
      (Projection.load paperPreregistration (found.1.take n)).toOption.all fun earlier =>
        (earlier.cases.get (.btcusdt, 1)).all fun c => decide (c.state ≠ .pendingOutcome)) := by
    decide +kernel
  obtain ⟨⟨file, p⟩, hfound, hcase⟩ := map_eq_some_iff.mp hexcluded
  obtain ⟨w, hw, rfl, hload⟩ := fileOf_run hfound
  obtain ⟨before, after, earlier, c, hsplit, hearlier, hc, hpending, -⟩ :=
    h paperLongRun paperPreregistration lateRun w p hw hload _ _ hcase rfl (some_ne_none _)
  rw [hfound, all_some, List.all_eq_true] at hnever
  have htake : w.file.take before.length = before := by
    rw [hsplit, take_left]
  have hlength : before.length < w.file.length + 1 := by
    rw [hsplit, length_append]
    omega
  have hnone := hnever before.length (mem_range.mpr hlength)
  rw [htake, hearlier] at hnone
  change (earlier.cases.get (.btcusdt, 1)).all _ = true at hnone
  rw [hc, all_some, decide_eq_true_eq] at hnone
  exact hnone hpending

def cleanRun : List LongRunAction :=
  paperStart ++ alone (.recordCasePending paperCase "prediction") ++
    alone (.recordCaseClean paperCase "prediction" "outcome")

/-- The clean case of a run is accounted for. -/
theorem cleanRun_accounted : ∃ (w : LongRunWorld (eventList paperLongRun paperPreregistration))
    (p : Projection paperLongRun), Projection.load paperPreregistration w.file = .ok p ∧
      Projection.Accounted paperPreregistration w.file p ∧
        WasPending paperPreregistration w.file (.btcusdt, 1) (some "prediction") := by
  have hclean : (fileOf cleanRun).map (fun found => found.2.cases.get (.btcusdt, 1))
      = some (some ⟨.clean, some "prediction", some "outcome"⟩) := by decide +kernel
  obtain ⟨⟨file, p⟩, hfound, hcase⟩ := map_eq_some_iff.mp hclean
  obtain ⟨w, hw, rfl, hload⟩ := fileOf_run hfound
  obtain ⟨haccounted, hpending⟩ := runs_accounted paperLongRun_keepsKeys hw hload
  refine ⟨w, p, hload, haccounted, hpending ?_ _ _ hcase rfl⟩
  intro call hcall
  simp only [cleanRun, paperStart, alone, flatMap_cons, flatMap_nil, append_nil,
    mem_append, mem_cons, not_mem_nil, or_false, LongRunAction.call.injEq,
    reduceCtorEq, or_assoc] at hcall
  have htypes : ∀ s ∈ ["PREFLIGHT_READY", "CANDIDATE_STARTED", "WARMUP_COMPLETE"],
      ¬ ∃ kind ∈ [LongRunEventType.caseClean], s = kind.value := by decide
  rcases hcall with rfl | rfl | rfl | rfl | rfl
  · exact htypes "PREFLIGHT_READY" (by decide)
  · exact htypes "CANDIDATE_STARTED" (by decide)
  · exact htypes "WARMUP_COMPLETE" (by decide)
  · exact fun hraw => hraw
  · exact fun hraw => hraw

end AdvisorAI
