import AdvisorAI.Forward.LongRunSteady

/-!
# The watchdog of a long run

The watchdog's decision goes by the latch, its event has the scientific state, and the check of the
event compares this with the state of the run. The three agree while a failed run is in its fatal
state, and then the observation is taken and changes nothing (`watchdog_accepted`). A failed run
that is terminalized has another state, and refuses every observation
(`terminalized_refuses_watchdog`).
-/

namespace AdvisorAI

open Lib Lib.Json Projection LongRunWorld
open List hiding after

section Watchdog

variable {outside : LongRunOutside} {prereg : LongRunPreregistration}

def matchingDecision (p : Projection outside) : String :=
  if p.fatalLatched then "GENERATION_FATAL" else "LONG_RUN_HEALTHY"

/-- A watchdog's check from its beginning to its end, after the calls in progress. -/
def watchdogRun (w : LongRunWorld (eventList outside prereg)) (decision : String)
    (reasons : List String) (observedAt : Datetime) : List LongRunAction :=
  [.call (.recordWatchdogCheck decision reasons observedAt), .proceed w.calls.length,
    .proceed w.calls.length, .proceed w.calls.length]

/-- The same state, latch and accounting. -/
structure Unmoved (p q : Projection outside) : Prop where
  state_eq : q.state = p.state
  fatalLatched_eq : q.fatalLatched = p.fatalLatched
  fatalEvents_eq : q.fatalEvents = p.fatalEvents
  cases_eq : q.cases = p.cases
  recoveryCounts_eq : q.recoveryCounts = p.recoveryCounts
  recoveryComponentCounts_eq : q.recoveryComponentCounts = p.recoveryComponentCounts

/-- The check is accepted: it returns with one event more, nothing is changed, and the file loads. -/
def WatchdogAccepted (prereg : LongRunPreregistration) (w : LongRunWorld (eventList outside prereg))
    (p : Projection outside) (decision : String) (reasons : List String) (observedAt : Datetime) :
    Prop :=
  ∃ event q, Runs.runFrom (LongRunWorld.step prereg) w (watchdogRun w decision reasons observedAt)
      = some ⟨w.file ++ [event], w.calls, w.history ++
          [(.recordWatchdogCheck decision reasons observedAt, .returned q)]⟩ ∧
    Unmoved p q ∧ Projection.load prereg (w.file ++ [event]) = .ok q

/-- What a check needs besides the law: its time, its texts, and an event number that can be
printed. -/
structure Observable (prereg : LongRunPreregistration) (w : LongRunWorld (eventList outside prereg))
    (reasons : List String) (observedAt : Datetime) : Prop where
  time : ∃ t, awareUtc "event_observed_at" observedAt = .ok t ∧ UnbrokenText (outside.timeText t)
  generation : UnbrokenText prereg.generationId
  reasons : ∀ reason ∈ reasons, UnbrokenText reason
  number : ShortInteger (w.file.length + 1)

def watchdogDraft (p : Projection outside) (reasons : List String) (observedAt : Datetime) : Draft :=
  ⟨"WATCHDOG_CHECK", p.scientificState, [("decision", .text (matchingDecision p)),
    ("reasons", .array (reasons.map Tree.text))], observedAt⟩

theorem safe_watchdog (decision : String) (reasons : List String) :
    Safe [("decision", .text decision), ("reasons", .array (reasons.map Tree.text))] := by
  have hnames : ∀ name ∈ ["decision", "reasons"], namesCredential name = false := by
    decide +kernel
  have hall : namesAt [("decision", .text decision), ("reasons", .array (reasons.map Tree.text))]
      = ["decision", "reasons"] := by
    show "decision" :: ([] ++ "reasons" :: (namesOf (reasons.map Tree.text) ++ [])) = _
    rw [namesOf_texts]
    rfl
  unfold Safe
  rw [hall]
  exact hnames

theorem printable_watchdog (decision : String) (reasons : List String) :
    numbersAt [("decision", .text decision), ("reasons", .array (reasons.map Tree.text))] = [] ∧
      constantsAt [("decision", .text decision), ("reasons", .array (reasons.map Tree.text))]
        = [] := by
  refine ⟨?_, ?_⟩
  · show [] ++ (numbersOf (reasons.map Tree.text) ++ []) = []
    rw [numbersOf_texts]
    rfl
  · show [] ++ (constantsOf (reasons.map Tree.text) ++ []) = []
    rw [constantsOf_texts]
    rfl

variable {p : Projection outside}

theorem scientificState_eq (hagree : p.fatalLatched = true ↔ p.state = .generationFatal) :
    p.scientificState = p.state := by
  unfold Projection.scientificState
  by_cases hlatch : p.fatalLatched = true
  · rw [if_pos hlatch, hagree.mp hlatch]
  · rw [if_neg hlatch]

theorem validateWatchdogPayload_matching
    (hagree : p.fatalLatched = true ↔ p.state = .generationFatal) (reasons : List String) :
    Projection.validateWatchdogPayload p p.state
      [("decision", .text (matchingDecision p)), ("reasons", .array (reasons.map Tree.text))]
      = .ok () := by
  have hdecision : member [("decision", .text (matchingDecision p)),
      ("reasons", .array (reasons.map Tree.text))] "decision" = some (.text (matchingDecision p)) := rfl
  have hreasons : member [("decision", .text (matchingDecision p)),
      ("reasons", .array (reasons.map Tree.text))] "reasons"
        = some (.array (reasons.map Tree.text)) := rfl
  have htexts : Projection.isTexts (some (.array (reasons.map Tree.text))) = true := by
    show (reasons.map Tree.text).all _ = true
    rw [all_map, all_eq_true]
    exact fun _ _ => rfl
  have hdifferent : "LONG_RUN_HEALTHY" ≠ "GENERATION_FATAL" := by decide
  unfold Projection.validateWatchdogPayload
  rw [hdecision, hreasons, Option.bind_some, require_bind_ok]
  refine ⟨rfl, ?_⟩
  rw [require_bind_ok, require_bind_ok]
  by_cases hlatch : p.fatalLatched = true
  · have hmatching : Tree.asText (.text (matchingDecision p)) = some "GENERATION_FATAL" := by
      show some (matchingDecision p) = _
      unfold matchingDecision
      rw [if_pos hlatch]
    rw [hmatching]
    refine ⟨Or.inr rfl, htexts, ?_⟩
    rw [if_pos rfl, require_ok]
    exact ⟨hlatch, hagree.mp hlatch⟩
  · have hmatching : Tree.asText (.text (matchingDecision p)) = some "LONG_RUN_HEALTHY" := by
      show some (matchingDecision p) = _
      unfold matchingDecision
      rw [if_neg hlatch]
    rw [hmatching]
    refine ⟨Or.inl rfl, htexts, ?_⟩
    rw [if_neg (fun h => hdifferent (Option.some.inj h)), require_ok]
    exact ⟨Bool.not_eq_true _ ▸ hlatch, mt hagree.mpr hlatch⟩

theorem validateAppend_watchdog (hagree : p.fatalLatched = true ↔ p.state = .generationFatal)
    (reasons : List String) :
    Projection.validateAppend prereg p "WATCHDOG_CHECK" p.state
      [("decision", .text (matchingDecision p)), ("reasons", .array (reasons.map Tree.text))]
      = .ok () := by
  have hkind : LongRunEventType.ofValue "WATCHDOG_CHECK" = some .watchdogCheck := rfl
  have hother : LongRunEventType.watchdogCheck ≠ .generationFatal := by decide
  unfold Projection.validateAppend
  rw [bind_ok_iff]
  refine ⟨(), require_ok.mpr (safe_watchdog _ _), ?_⟩
  rw [hkind]
  rw [bind_ok_iff]
  refine ⟨(), ?_, validateWatchdogPayload_matching hagree reasons⟩
  unfold Projection.validateState
  rw [require_bind_ok, require_bind_ok, require_bind_ok, require_bind_ok, require_ok]
  refine ⟨fun fixed hfixed => (by cases hfixed), Or.inl rfl, ?_, ?_, fun h => hother h.1⟩
  · rintro ⟨hlatch, hactive⟩
    rw [hagree.mp hlatch] at hactive
    exact absurd hactive (by decide)
  · rintro ⟨hstate, -, hlatch⟩
    rw [hagree.mpr hstate] at hlatch
    cases hlatch

variable {w w' : LongRunWorld (eventList outside prereg)}

variable {reasons : List String} {observedAt : Datetime}

theorem nextEvent_watchdog (hload : Projection.load prereg w.file = .ok p)
    (hagree : p.fatalLatched = true ↔ p.state = .generationFatal)
    (h : Observable prereg w reasons observedAt) :
    ∃ event, p.nextEvent prereg (watchdogDraft p reasons observedAt) = .ok event ∧ event.Legible ∧
      event.eventType = "WATCHDOG_CHECK" := by
  obtain ⟨t, ht, htext⟩ := h.time
  have hrange : datetimeMin ≤ t ∧ t ≤ datetimeMax := by
    unfold awareUtc at ht
    split at ht
    · cases ht
    · exact Datetime.aware_valid ht
  have hlength : p.events.length = w.file.length := by
    rw [load_events hload]
  obtain ⟨hnumbers, hconstants⟩ := printable_watchdog (matchingDecision p) reasons
  have hprintable : (p.nextFields prereg (watchdogDraft p reasons observedAt) t).Printable := by
    refine ⟨?_, ?_, hconstants⟩
    · show ShortInteger (p.events.length + 1)
      rw [hlength]
      exact h.number
    · intro token htoken
      change token ∈ numbersAt [("decision", .text (matchingDecision p)),
        ("reasons", .array (reasons.map Tree.text))] at htoken
      rw [hnumbers] at htoken
      exact absurd htoken not_mem_nil
  have hvalid : (p.nextFields prereg (watchdogDraft p reasons observedAt) t).Valid :=
    ⟨Nat.succ_le_succ (Nat.zero_le _), prereg.generationId_ne,
      (by decide : "WATCHDOG_CHECK" ≠ ""), safe_watchdog _ _, hprintable, hrange⟩
  have hvalidate : Projection.validateAppend prereg p "WATCHDOG_CHECK" p.scientificState
      [("decision", .text (matchingDecision p)), ("reasons", .array (reasons.map Tree.text))]
      = .ok () := by
    rw [scientificState_eq hagree]
    exact validateAppend_watchdog hagree reasons
  refine ⟨⟨_, _, hvalid, rfl⟩, nextEvent_of_valid ht hvalid hvalidate, ?_, rfl⟩
  · have hnames : ∀ name ∈ ["decision", "reasons", "WATCHDOG_CHECK", "GENERATION_FATAL",
        "LONG_RUN_HEALTHY"], UnbrokenText name := by decide
    have hdecision : UnbrokenText (matchingDecision p) := by
      unfold matchingDecision
      split
      · exact hnames "GENERATION_FATAL" (by decide)
      · exact hnames "LONG_RUN_HEALTHY" (by decide)
    refine LongRunEvent.legible_iff.mpr ⟨h.generation, hnames "WATCHDOG_CHECK" (by decide), htext, ?_⟩
    refine unbroken_object.mpr (forall_mem_cons.mpr ⟨⟨hnames "decision" (by decide), ?_⟩,
      forall_mem_singleton.mpr ⟨hnames "reasons" (by decide), ?_⟩⟩)
    · exact (unbroken_text _).mpr hdecision
    · refine unbroken_array.mpr ?_
      intro item hitem
      obtain ⟨reason, hreason, rfl⟩ := mem_map.mp hitem
      exact (unbroken_text _).mpr (h.reasons reason hreason)

theorem recordWatchdogCheck_matching (p : Projection outside) (reasons : List String)
    (observedAt : Datetime) : p.recordWatchdogCheck (matchingDecision p) reasons observedAt
      = .ok (some (.scientificState (matchingDecision p) reasons observedAt)) := by
  have hdifferent : "GENERATION_FATAL" ≠ "LONG_RUN_HEALTHY" := by decide
  unfold Projection.recordWatchdogCheck matchingDecision
  rw [require_bind_ok, require_bind_ok, require_bind_ok]
  cases hlatch : p.fatalLatched with
  | true => exact ⟨Or.inr rfl, fun h => hdifferent h.2, fun h => (by cases h.2), rfl⟩
  | false =>
    exact ⟨Or.inl rfl, fun h => (by cases h.1), fun h => hdifferent h.1.symm, rfl⟩

/-- **The check is accepted**, and changes nothing, while the latch and the state agree. -/
theorem watchdog_accepted (hw : Steady prereg w) (hload : Projection.load prereg w.file = .ok p)
    (hagree : p.fatalLatched = true ↔ p.state = .generationFatal)
    (h : Observable prereg w reasons observedAt) :
    WatchdogAccepted prereg w p (matchingDecision p) reasons observedAt := by
  obtain ⟨event, hevent, hlegible, htype⟩ := nextEvent_watchdog hload hagree h
  obtain ⟨p', hp', hsteady⟩ := hw.loads
  rw [hload] at hp'
  cases hp'
  have hsound : DraftSound p (watchdogDraft p reasons observedAt) := by
    have hwatch : ∀ kind ∈ LongRunEventType.recorded, "WATCHDOG_CHECK" ≠ kind.value := by decide
    exact fun kind hkind htype => absurd htype (hwatch kind hkind)
  obtain ⟨q, kind, hadvance, happlied, -⟩ := nextEvent_advances hload hsteady hsound hevent
  have hkind : kind = .watchdogCheck := by
    have hkind := happlied.kind_eq
    rw [htype] at hkind
    exact (Option.some.inj hkind).symm
  subst hkind
  have htake := take_of_nextEvent hevent hlegible hadvance
  refine ⟨event, q, ?_, ?_, load_concat.mpr ⟨p, hload, htake⟩⟩
  · have hbegin : (Stage.start (.recordWatchdogCheck (matchingDecision p) reasons observedAt)).run
        prereg (Projection.load prereg w.file)
          = (none, .ok (.more (.scientificState (matchingDecision p) reasons observedAt))) := by
      rw [hload]
      show (none, (p.recordWatchdogCheck (matchingDecision p) reasons observedAt >>= fun next =>
        pure (Progress.ofOption p next))) = _
      rw [recordWatchdogCheck_matching]
      rfl
    have hobserve : (Stage.scientificState (matchingDecision p) reasons observedAt).run prereg
        (Projection.load prereg w.file)
          = (none, .ok (.more (.append (watchdogDraft p reasons observedAt) .finish))) := by
      rw [hload]
      rfl
    have happend : (Stage.append (watchdogDraft p reasons observedAt) .finish).run prereg
        (Projection.load prereg w.file) = (some event, .ok (.returned q)) := by
      have hprepare : prepare prereg (watchdogDraft p reasons observedAt)
          (Projection.load prereg w.file) = .ok (p, event) :=
        prepare_ok.mpr ⟨require_ok.mpr (safe_watchdog _ _), hload, hevent⟩
      rw [Stage.run_append hprepare]
      show (some event, (p.advance prereg event).map _) = _
      rw [hadvance]
      rfl
    obtain ⟨file, calls, history⟩ := w
    unfold watchdogRun
    rw [Runs.runFrom_cons (t := ⟨file, calls ++ [⟨_, _, false⟩], history⟩) rfl,
      Runs.runFrom_cons (step_last_more hbegin),
      Runs.runFrom_cons (step_last_more hobserve),
      Runs.runFrom_cons (step_last_returned happend)]
    rfl
  · refine ⟨happlied.state_eq.trans (happlied.watched rfl), ?_, happlied.fatalEvents_eq, ?_, ?_, ?_⟩
    · rw [Bool.eq_iff_iff, happlied.latch_iff]
      exact or_iff_left (by decide)
    · rcases happlied.cases_move with ⟨-, hsame⟩ | ⟨key, desired, hchecked, -⟩
      · exact hsame
      · cases hchecked.status
    · rcases happlied.recoveries_move with ⟨-, hsame, -⟩ | ⟨hrecovery, -⟩
      · exact hsame
      · cases hrecovery
    · rcases happlied.recoveries_move with ⟨-, -, hsame⟩ | ⟨hrecovery, -⟩
      · exact hsame
      · cases hrecovery

/-! ## Runs -/

/-- A failed run stays in its fatal state: no event takes it to another. -/
def StaysFatal (prereg : LongRunPreregistration) (w : LongRunWorld (eventList outside prereg)) :
    LongRunAction → Prop
  | .proceed index => ∀ c ∈ w.calls[index]?,
      ∀ event ∈ (c.stage.run prereg (Projection.load prereg w.file)).1,
        ∀ p ∈ (Projection.load prereg w.file).toOption, p.fatalLatched = true →
          event.state = .generationFatal
  | _ => True

instance (w : LongRunWorld (eventList outside prereg)) : (action : LongRunAction) →
    Decidable (StaysFatal prereg w action)
  | .call _ => .isTrue trivial
  | .proceed index => inferInstanceAs (Decidable (∀ c ∈ w.calls[index]?,
      ∀ event ∈ (c.stage.run prereg (Projection.load prereg w.file)).1,
        ∀ p ∈ (Projection.load prereg w.file).toOption, p.fatalLatched = true →
          event.state = .generationFatal))
  | .crash _ => .isTrue trivial

/-- What is asked of a step for the law of the watchdog. -/
def WatchdogMeets (prereg : LongRunPreregistration) (w : LongRunWorld (eventList outside prereg))
    (action : LongRunAction) : Prop :=
  Ordinary prereg w action ∧ StaysFatal prereg w action

instance (w : LongRunWorld (eventList outside prereg)) (action : LongRunAction) :
    Decidable (WatchdogMeets prereg w action) := inferInstanceAs (Decidable (_ ∧ _))

/-- A steady world whose latch says what its state says. -/
structure Agreeing (prereg : LongRunPreregistration) (w : LongRunWorld (eventList outside prereg)) :
    Prop where
  steady : Steady prereg w
  agrees : ∀ p, Projection.load prereg w.file = .ok p →
    (p.fatalLatched = true ↔ p.state = .generationFatal)

theorem fresh_agreeing : Agreeing prereg (LongRunWorld.fresh (eventList outside prereg)) where
  steady := fresh_steady
  agrees := by
    intro p hp
    cases hp
    exact ⟨fun h => (by cases h), fun h => (by cases h)⟩

theorem step_agreeing {action : LongRunAction} (hw : Agreeing prereg w)
    (hmeets : WatchdogMeets prereg w action) (hstep : w.step prereg action = some w') :
    Agreeing prereg w' := by
  refine ⟨steady_step hw.steady hmeets.1 hstep, ?_⟩
  rcases step_cases hstep with ⟨call, rfl, rfl⟩ | ⟨index, c, rfl, hc, rfl⟩ |
    ⟨index, c, rfl, -, rfl⟩
  · exact hw.agrees
  · have hmem : c ∈ w.calls := mem_of_getElem? hc
    cases hwritten : (c.stage.run prereg (Projection.load prereg w.file)).1 with
    | none =>
      have hsame : (w.proceedWith prereg index c).file = w.file :=
        proceedWith_quiet hwritten
      rw [hsame]
      exact hw.agrees
    | some event =>
      obtain ⟨-, -, p, q, kind, -, hload, -, -, happlied, -, hnext, -⟩ :=
        hw.steady.append hmem hwritten (hmeets.1 c hc event hwritten)
      have hgrown : (w.proceedWith prereg index c).file = w.file ++ [event] :=
        proceedWith_written hwritten
      intro q' hq'
      rw [hgrown, hnext] at hq'
      cases hq'
      refine ⟨?_, (load_failed hnext).2⟩
      intro hlatch
      rw [happlied.state_eq]
      rcases happlied.latch_iff.mp hlatch with hbefore | hkind
      · exact hmeets.2 c hc event hwritten p (by rw [hload]; rfl) hbefore
      · exact happlied.checked.fatal hkind
  · exact hw.agrees

/-- **The law of the watchdog**, in every run whose failed states are not left, with events of
cases and recoveries from their own methods, and lines that can be read: the matching observation
is accepted and changes nothing, and a case or a recovery does not change the state. -/
theorem watchdog_law {actions : List LongRunAction} {w : LongRunWorld (eventList outside prereg)}
    (hrun : Runs.runFrom (LongRunWorld.step prereg) (LongRunWorld.fresh (eventList outside prereg))
      actions = some w)
    (hmeets : Runs.Along (LongRunWorld.step prereg) (WatchdogMeets prereg)
      (LongRunWorld.fresh (eventList outside prereg)) actions) :
    ∃ p, Projection.load prereg w.file = .ok p ∧
      (∀ reasons observedAt, Observable prereg w reasons observedAt →
        WatchdogAccepted prereg w p (matchingDecision p) reasons observedAt) ∧
      ∀ before event after, w.file = before ++ event :: after →
        (∃ kind ∈ LongRunEventType.recorded, event.kind = some kind) →
          ∃ earlier later, Projection.load prereg before = .ok earlier ∧
            Projection.load prereg (before ++ [event]) = .ok later ∧ later.state = earlier.state := by
  have hagreeing : Agreeing prereg w :=
    Runs.along_invariant (fun _ _ _ hw hmeet hstep => step_agreeing hw hmeet hstep) fresh_agreeing
      hmeets hrun
  obtain ⟨p, hload, -⟩ := hagreeing.steady.loads
  refine ⟨p, hload, ?_, ?_⟩
  · intro reasons observedAt h
    exact watchdog_accepted hagreeing.steady hload (hagreeing.agrees p hload) h
  · rintro before event after hsplit ⟨kind, hrecorded, hkind⟩
    rw [hsplit] at hload
    obtain ⟨earlier, later, _, hearlier, hlater, happlied⟩ := load_split hload
    refine ⟨earlier, later, hearlier, hlater, ?_⟩
    rw [happlied.state_eq]
    exact hagreeing.steady.still before event after hsplit kind hrecorded hkind earlier hearlier

end Watchdog

def failedRun : List LongRunAction := paperStart ++ alone (.fail "UNKNOWN" "" paperTime)

def terminalizedRun : List LongRunAction :=
  failedRun ++ alone (.transition .terminalizing "DEADLINE_REACHED" [] paperTime)

theorem paper_observable {w : LongRunWorld (eventList paperLongRun paperPreregistration)} {n : ℕ}
    (hlength : w.file.length = n) (hshort : ShortInteger (n + 1)) :
    Observable paperPreregistration w [] paperTime where
  time := ⟨0, by decide, by decide⟩
  generation := by decide
  reasons := fun reason hreason => absurd hreason not_mem_nil
  number := hlength ▸ hshort

/-- A failed run is observed. -/
theorem failedRun_watched : ∃ (w : LongRunWorld (eventList paperLongRun paperPreregistration))
    (p : Projection paperLongRun), w.file.length = 4 ∧
      Projection.load paperPreregistration w.file = .ok p ∧
        WatchdogAccepted paperPreregistration w p "GENERATION_FATAL" [] paperTime := by
  have hstate : (fileOf failedRun).map (fun found => (found.1.length, matchingDecision found.2))
      = some (4, "GENERATION_FATAL") := by
    decide +kernel
  have hmeets : Runs.Along (LongRunWorld.step paperPreregistration)
      (WatchdogMeets paperPreregistration)
      (LongRunWorld.fresh (eventList paperLongRun paperPreregistration)) failedRun := by
    decide +kernel
  obtain ⟨⟨file, p⟩, hfound, hfacts⟩ := Option.map_eq_some_iff.mp hstate
  obtain ⟨w, hw, rfl, hload⟩ := fileOf_run hfound
  simp only [Prod.mk.injEq] at hfacts
  obtain ⟨hlength, hdecision⟩ := hfacts
  obtain ⟨p', hp', haccepted, -⟩ := watchdog_law hw hmeets
  rw [hload] at hp'
  cases hp'
  refine ⟨w, p, hlength, hload, ?_⟩
  rw [← hdecision]
  exact haccepted [] paperTime (paper_observable hlength (by decide))

/-- A failed run that is terminalized refuses the observation that it has failed. -/
theorem terminalized_refuses_watchdog :
    ¬ ∀ (outside : LongRunOutside) (prereg : LongRunPreregistration) (actions : List LongRunAction)
      (w : LongRunWorld (eventList outside prereg)) (p : Projection outside),
      Runs.runFrom (LongRunWorld.step prereg) (LongRunWorld.fresh (eventList outside prereg)) actions
        = some w → Projection.load prereg w.file = .ok p → p.state ≠ .audited →
          ∀ reasons observedAt, Observable prereg w reasons observedAt →
            WatchdogAccepted prereg w p (matchingDecision p) reasons observedAt := by
  intro h
  have hstate : (fileOf terminalizedRun).map (fun found => (found.1.length, found.2.state,
      matchingDecision found.2)) = some (5, .terminalizing, "GENERATION_FATAL") := by
    decide +kernel
  have hended : (Runs.runFrom (LongRunWorld.step paperPreregistration)
      (LongRunWorld.fresh (eventList paperLongRun paperPreregistration)) terminalizedRun).map
        (fun w => (w.calls.length, (Runs.runFrom (LongRunWorld.step paperPreregistration) w
          [.call (.recordWatchdogCheck "GENERATION_FATAL" [] paperTime), .proceed 0, .proceed 0,
            .proceed 0]).map fun w' => w'.file.length)) = some (0, some 5) := by
    decide +kernel
  obtain ⟨⟨file, p⟩, hfound, hfacts⟩ := Option.map_eq_some_iff.mp hstate
  obtain ⟨w, hw, rfl, hload⟩ := fileOf_run hfound
  simp only [Prod.mk.injEq] at hfacts
  obtain ⟨hlength, hterminalizing, hdecision⟩ := hfacts
  rw [hw, Option.map_some, Option.some.injEq, Prod.mk.injEq] at hended
  obtain ⟨hnone, hrefused⟩ := hended
  obtain ⟨event, q, hrun, -⟩ := h paperLongRun paperPreregistration terminalizedRun w p hw hload
    (by rw [hterminalizing]; decide) [] paperTime (paper_observable hlength (by decide))
  unfold watchdogRun at hrun
  rw [hdecision, hnone] at hrun
  rw [hrun] at hrefused
  have hmore : (w.file ++ [event]).length = 5 := Option.some.inj hrefused
  rw [length_append, hlength] at hmore
  cases hmore

end AdvisorAI
