import AdvisorAI.Lib.Local
import AdvisorAI.Live.ControlPlane

/-!
# When the live control plane is active

An append that raises leaves the memory of the plane ahead of its ledger, and so
does a change whose key the ledger has already: the key is made of the state, the
authorization and the time. `LiveSound` is what holds in all the other runs, one
lemma says what a call that gets as far as its append does, one what every other
call does, and `active_only_when_ready` follows by run induction.
-/

namespace AdvisorAI

open Lib Runs List Option

/-! ## What one call does -/

section Calls

variable (isoformat : Timestamp → String) {s : LiveSurroundings} {w : LiveWorld}
  {op : LiveOperation} {status : LiveControlStatus}

theorem LiveWorld.append_cases (s : LiveSurroundings) (w : LiveWorld)
    (eventType : LiveEventType) (key : String) (payload : LivePayload) :
    (∃ e, w.append s eventType key payload
      = (.error e, { w with nextEventId := w.nextEventId + 1 })) ∨
    (∃ existing ∈ w.incidentEvents, existing.eventType = eventType ∧
      existing.payload = payload ∧ w.append s eventType key payload
        = (.ok (), { w with nextEventId := w.nextEventId + 1 })) ∨
    ((∀ e ∈ w.incidentEvents, e.idempotencyKey ≠ key) ∧
      w.append s eventType key payload = (.ok (), { w with
        incidentEvents := w.incidentEvents ++
          [⟨w.nextEventId, eventType, key, s.occurredAt, payload⟩]
        nextEventId := w.nextEventId + 1 })) := by
  unfold append SqliteLedgers.appendUnder
  cases s.fault with
  | some e => exact Or.inl ⟨e, rfl⟩
  | none =>
    rcases SqliteLedgers.append_cases w.incidentEvents
        ⟨w.nextEventId, eventType, key, s.occurredAt, payload⟩ with
      ⟨e, happend⟩ | ⟨existing, hmem, htype, hpayload, happend⟩ | ⟨hnew, happend⟩
    · rw [happend]
      exact Or.inl ⟨e, rfl⟩
    · rw [happend]
      exact Or.inr (Or.inl ⟨existing, hmem, htype, hpayload, rfl⟩)
    · rw [happend]
      exact Or.inr (Or.inr ⟨hnew, rfl⟩)

/-- The event that a change of status appends. -/
def stateEvent (isoformat : Timestamp → String) (s : LiveSurroundings) (eventId : UUID)
    (status : LiveControlStatus) : LiveEvent :=
  ⟨eventId, .stateChanged, stateKey isoformat status, s.occurredAt, .status status⟩

/-- What an operation that changes to `status` is, and what it answers. -/
def Justifies (p : LiveControlPlane) (status : LiveControlStatus) (op : LiveOperation)
    (answer : LiveAnswer) : Prop :=
  match status.state with
  | .ready => ∃ request result, op = .evaluateReadiness request ∧ answer = .gate result ∧
      result.passed = true
  | .active => p.status.state = .ready ∧ ∃ evaluationAt, op = .start evaluationAt
  | _ => True

theorem transition_eq (h : status.state = .active → w.plane.status.state = .ready) :
    LiveControlPlane.transition isoformat status s w
      = let appended := (LiveControlPlane.remember w status).append s .stateChanged
          (stateKey isoformat status) (.status status)
        (appended.1.map fun _ => status, appended.2) := by
  unfold LiveControlPlane.transition
  rw [if_neg]
  rintro ⟨hactive, hnot⟩
  exact hnot (h hactive)

/-- **A call that gets as far as its append.** -/
theorem call_of_next (h : op.next s w.plane = some status) : ∃ answer,
    Justifies w.plane status op answer ∧
    LiveControlPlane.call isoformat s w op
      = let appended := (LiveControlPlane.remember w status).append s .stateChanged
          (stateKey isoformat status) (.status status)
        (appended.1.map fun _ => answer, appended.2) := by
  have hanswer : ∀ {β γ : Type} (x : Except PyError Unit) (b : β) (f : β → γ),
      (x.map fun _ => b).map f = x.map fun _ => f b := by
    intro β γ x b f
    cases x <;> rfl
  cases op with
  | recordAuthorization a => cases h
  | evaluateReadiness request =>
    unfold LiveOperation.next at h
    dsimp only at h
    cases hresult : LiveReadinessGate.evaluate request w.plane.authorization s.phaseGates
        s.evaluatedAt with
    | error e =>
      rw [hresult] at h
      cases h
    | ok result =>
      rw [hresult] at h
      dsimp only at h
      split at h
      · next hpassed =>
        cases h
        refine ⟨.gate result, ⟨request, result, rfl, rfl, hpassed⟩, ?_⟩
        show Prod.map _ id (LiveControlPlane.evaluateReadiness isoformat request s w) = _
        unfold LiveControlPlane.evaluateReadiness
        rw [hresult]
        dsimp only
        rw [if_pos hpassed, transition_eq isoformat (fun hactive => by cases hactive)]
        exact Prod.ext ((congrArg _ (hanswer _ _ _)).trans (hanswer _ _ _)) rfl
      · cases h
  | start evaluationAt =>
    unfold LiveOperation.next at h
    rw [bind_eq_bind, bind_eq_some_iff] at h
    obtain ⟨a, ha, h⟩ := h
    rw [bind_eq_bind, bind_eq_some_iff] at h
    obtain ⟨t, ht, h⟩ := h
    split at h
    · next hclear =>
      refine ⟨.status status, ?_⟩
      cases h
      simp only [Bool.and_eq_true, decide_eq_true_eq] at hclear
      obtain ⟨⟨hvalid, hadmitted⟩, hready⟩ := hclear
      refine ⟨⟨hready, evaluationAt, rfl⟩, ?_⟩
      show Prod.map _ id (LiveControlPlane.start isoformat evaluationAt s w) = _
      unfold LiveControlPlane.start
      rw [ha]
      cases htime : evaluationTime "live start evaluation timestamp must include a timezone"
          evaluationAt s.evaluatedAt with
      | error e =>
        rw [htime] at ht
        cases ht
      | ok t' =>
        rw [htime] at ht
        cases ht
        cases hphase : phaseAdmitted s.phaseGates t 10 with
        | error e =>
          rw [hphase] at hadmitted
          cases hadmitted
        | ok admitted =>
          rw [hphase] at hadmitted
          have htrue : admitted = true := hadmitted
          subst htrue
          dsimp only
          rw [if_neg (by rw [hvalid]; decide), hphase]
          rw [if_neg (not_not_intro hready), transition_eq isoformat (fun _ => hready)]
          exact Prod.ext (hanswer _ _ _) rfl
    · cases h
  | rollback reason =>
    unfold LiveOperation.next at h
    dsimp only at h
    split at h
    · next hreason =>
      refine ⟨.status status, ?_⟩
      cases h
      refine ⟨trivial, ?_⟩
      show Prod.map _ id (LiveControlPlane.rollback isoformat reason s w) = _
      unfold LiveControlPlane.rollback
      rw [dif_pos hreason, transition_eq isoformat (fun hactive => by cases hactive)]
      exact Prod.ext (hanswer _ _ _) rfl
    · cases h
  | returnToPaper =>
    refine ⟨.status status, ?_⟩
    cases h
    refine ⟨trivial, ?_⟩
    show Prod.map _ id (LiveControlPlane.returnToPaper isoformat s w) = _
    unfold LiveControlPlane.returnToPaper
    rw [transition_eq isoformat (fun hactive => by cases hactive)]
    exact Prod.ext (hanswer _ _ _) rfl

/-- A call that gets to no change of status, and records no authorization, changes
nothing. -/
theorem call_of_next_none (h : op.next s w.plane = none)
    (hop : ∀ a, op ≠ .recordAuthorization a) : ∃ result,
    LiveControlPlane.call isoformat s w op = (result, w) ∧ ¬StandsDown (op, result) := by
  cases op with
  | recordAuthorization a => exact absurd rfl (hop a)
  | evaluateReadiness request =>
    refine ⟨_, Prod.ext rfl ?_, not_false⟩
    unfold LiveOperation.next at h
    dsimp only at h
    show (LiveControlPlane.evaluateReadiness isoformat request s w).2 = w
    unfold LiveControlPlane.evaluateReadiness
    cases hresult : LiveReadinessGate.evaluate request w.plane.authorization s.phaseGates
        s.evaluatedAt with
    | error e => rfl
    | ok result =>
      rw [hresult] at h
      dsimp only at h ⊢
      by_cases hpassed : result.passed = true
      · rw [if_pos hpassed] at h
        cases h
      · rw [if_neg hpassed]
  | start evaluationAt =>
    refine ⟨_, Prod.ext rfl ?_, not_false⟩
    unfold LiveOperation.next at h
    dsimp only at h
    show (LiveControlPlane.start isoformat evaluationAt s w).2 = w
    unfold LiveControlPlane.start
    cases ha : w.plane.authorization with
    | none => rfl
    | some a =>
      rw [ha] at h
      cases htime : evaluationTime "live start evaluation timestamp must include a timezone"
          evaluationAt s.evaluatedAt with
      | error e => rfl
      | ok t =>
        rw [htime] at h
        dsimp only
        by_cases hvalid : a.isValidAt t = false
        · rw [if_pos hvalid]
        · rw [if_neg hvalid]
          cases hphase : phaseAdmitted s.phaseGates t 10 with
          | error e => rfl
          | ok admitted =>
            rw [Bool.not_eq_false] at hvalid
            cases admitted with
            | false => rfl
            | true =>
              by_cases hready : w.plane.status.state = .ready
              · simp [hvalid, hphase, hready, Except.toOption] at h
              · rw [if_pos hready]
  | rollback reason =>
    unfold LiveOperation.next at h
    dsimp only at h
    by_cases hreason : isBlank reason = false
    · rw [dif_pos hreason] at h
      cases h
    · refine ⟨.error (valueError "live rollback requires a reason"), ?_, not_false⟩
      show Prod.map _ id (LiveControlPlane.rollback isoformat reason s w) = _
      unfold LiveControlPlane.rollback
      rw [dif_neg hreason]
      rfl
  | returnToPaper => cases h

theorem call_recordAuthorization (s : LiveSurroundings) (w : LiveWorld) (a : LiveAuthorization) :
    let w' := (LiveControlPlane.call isoformat s w (.recordAuthorization a)).2
    w'.plane.status = w.plane.status ∧ w.nextEventId ≤ w'.nextEventId ∧
      (w'.incidentEvents = w.incidentEvents ∨
        (∃ answer, (LiveControlPlane.call isoformat s w (.recordAuthorization a)).1 = .ok answer) ∧
        (∀ e ∈ w.incidentEvents, e.idempotencyKey ≠ authorizationKey a) ∧
        w'.nextEventId = w.nextEventId + 1 ∧
        w'.incidentEvents = w.incidentEvents ++ [⟨w.nextEventId, .authorizationRecorded,
          authorizationKey a, s.occurredAt, .authorization a⟩]) := by
  dsimp only [LiveControlPlane.call, Prod.map, id]
  unfold LiveControlPlane.recordAuthorization
  split
  · exact ⟨rfl, le_refl _, Or.inl rfl⟩
  · rcases LiveWorld.append_cases s
        { w with plane := { w.plane with authorization := some a } }
        .authorizationRecorded (authorizationKey a) (.authorization a) with
      ⟨e, happend⟩ | ⟨existing, -, -, -, happend⟩ | ⟨hnew, happend⟩
    · rw [happend]
      exact ⟨rfl, Nat.le_succ _, Or.inl rfl⟩
    · rw [happend]
      exact ⟨rfl, Nat.le_succ _, Or.inl rfl⟩
    · rw [happend]
      exact ⟨rfl, Nat.le_succ _, Or.inr ⟨⟨_, rfl⟩, hnew, rfl, rfl⟩⟩

end Calls

/-! ## What the ledger says of the status -/

def statusOf (e : LiveEvent) : Option LiveControlStatus :=
  match e.eventType, e.payload with
  | .stateChanged, .status status => some status
  | _, _ => none

variable (events : List LiveEvent)

def lastStatus : Option LiveControlStatus :=
  (events.filterMap statusOf).getLast?

theorem lastStatus_concat (e : LiveEvent) :
    lastStatus (events ++ [e]) = (statusOf e).or (lastStatus events) := by
  unfold lastStatus
  rw [filterMap_append, List.getLast?_append]
  cases h : statusOf e <;> simp [h]

/-- A plane that hydrates has the last status recorded. -/
theorem hydrateLive_status {startedAt : Timestamp} {events : List LiveEvent}
    {p : LiveControlPlane} (h : hydrateLive startedAt events = .ok p) :
    p.status = (lastStatus events).getD (LiveControlPlane.fresh startedAt).status := by
  induction events using List.reverseRecOn generalizing p with
  | nil =>
    cases h
    rfl
  | append_singleton events e ih =>
    obtain ⟨q, hq, hstep⟩ := Journal.replay_concat_eq_ok _ h
    rw [lastStatus_concat]
    have hold := ih hq
    unfold hydrateLiveEvent at hstep
    unfold statusOf
    cases htype : e.eventType with
    | authorizationRecorded =>
      rw [htype] at hstep
      cases hpayload : e.payload with
      | authorization a =>
        rw [hpayload] at hstep
        cases hstep
        exact hold
      | status | other =>
        rw [hpayload] at hstep
        cases hstep
    | stateChanged =>
      rw [htype] at hstep
      cases hpayload : e.payload with
      | authorization | other =>
        rw [hpayload] at hstep
        cases hstep
      | status status =>
        rw [hpayload] at hstep
        dsimp only at hstep ⊢
        -- every way through the checks ends in the status of the event
        have hstatus : p = { q with status := status } := by
          split at hstep
          · cases hstep
          · split at hstep
            · split at hstep
              · cases hstep
              · split at hstep
                · cases hstep
                · exact (Except.ok.inj hstep).symm
            · exact (Except.ok.inj hstep).symm
        rw [hstatus]
        rfl
    | other name =>
      rw [htype] at hstep
      cases hstep
      exact hold

/-! ## What every step keeps -/

variable {trace : List (LiveOperation × Except PyError LiveAnswer)}
  {x : LiveOperation × Except PyError LiveAnswer}

theorem not_readySince_of_standsDown (hlast : trace.getLast? = some x) (hx : StandsDown x) :
    ¬ReadySince trace := by
  rintro ⟨earlier, request, result, later, rfl, -, hlater⟩
  rw [List.getLast?_append_of_ne_nil _ (cons_ne_nil _ _)] at hlast
  rcases eq_nil_or_concat later with rfl | ⟨front, y, rfl⟩
  · rw [List.getLast?_singleton] at hlast
    cases hlast
    exact hx
  · rw [concat_eq_append] at hlast hlater
    rw [← cons_append, List.getLast?_concat] at hlast
    cases hlast
    exact hlater x (mem_append_right _ (mem_singleton_self _)) hx

theorem readySince_concat (h : ReadySince trace) (hx : ¬StandsDown x) :
    ReadySince (trace ++ [x]) := by
  obtain ⟨earlier, request, result, later, rfl, hpassed, hlater⟩ := h
  refine ⟨earlier, request, result, later ++ [x], ?_, hpassed, ?_⟩
  · rw [append_assoc, cons_append]
  · intro y hy
    rcases mem_append.mp hy with hold | hnew
    · exact hlater y hold
    · rw [mem_singleton.mp hnew]
      exact hx

section Runs

variable (isoformat : Timestamp → String)

/-- What is true of a plane and its ledger in a run whose changes are all written. -/
structure LiveSound (sys : LiveSystem) : Prop where
  ids : ∀ e ∈ sys.world.incidentEvents, e.eventId < sys.world.nextEventId
  keys : (sys.world.incidentEvents.map LedgerEvent.idempotencyKey).Nodup
  keyed : ∀ e ∈ sys.world.incidentEvents, match statusOf e with
    | some status => e.eventType = .stateChanged ∧ e.payload = .status status ∧
        e.idempotencyKey = stateKey isoformat status
    | none => ∃ a, e.idempotencyKey = authorizationKey a
  status : lastStatus sys.world.incidentEvents = some sys.world.plane.status ∨
    lastStatus sys.world.incidentEvents = none ∧ sys.world.plane.status.state = .paper
  ready : sys.world.plane.status.state = .ready ∨ sys.world.plane.status.state = .active →
    ReadySince sys.trace

variable {isoformat}

theorem authorizationKey_ne (a : LiveAuthorization) (status : LiveControlStatus) :
    authorizationKey a ≠ stateKey isoformat status := by
  intro h
  have hchar := congrArg (fun k => k.toList[5]?) h
  unfold authorizationKey stateKey at hchar
  simp at hchar

theorem liveSound_init (startedAt : Timestamp) : LiveSound isoformat (.init startedAt) where
  ids := fun _ h => absurd h not_mem_nil
  keys := nodup_nil
  keyed := fun _ h => absurd h not_mem_nil
  status := Or.inr ⟨rfl, rfl⟩
  ready := by
    rintro (h | h) <;> cases h

variable {sys : LiveSystem} {s : LiveSurroundings} {op : LiveOperation}
  {status : LiveControlStatus}

/-- An append under the condition returns: the status is the recorded one already,
or its event is new. -/
theorem LiveSound.append_written (h : LiveSound isoformat sys) (hfault : s.fault = none)
    (hkey : status = sys.world.plane.status ∨
      ∀ e ∈ sys.world.incidentEvents, e.idempotencyKey ≠ stateKey isoformat status) :
    let appended := (LiveControlPlane.remember sys.world status).append s .stateChanged
      (stateKey isoformat status) (.status status)
    appended.1 = .ok () ∧ appended.2.nextEventId = sys.world.nextEventId + 1 ∧
    appended.2.plane.status = status ∧
    ((appended.2.incidentEvents = sys.world.incidentEvents ∧
        lastStatus sys.world.incidentEvents = some status) ∨
      ((∀ e ∈ sys.world.incidentEvents, e.idempotencyKey ≠ stateKey isoformat status) ∧
        appended.2.incidentEvents = sys.world.incidentEvents ++
          [stateEvent isoformat s sys.world.nextEventId status])) := by
  unfold LiveWorld.append LiveControlPlane.remember
  rw [hfault]
  dsimp only [SqliteLedgers.appendUnder]
  have hwrite : (∀ e ∈ sys.world.incidentEvents,
      e.idempotencyKey ≠ stateKey isoformat status) →
      SqliteLedgers.append sys.world.incidentEvents
          (stateEvent isoformat s sys.world.nextEventId status)
        = (.ok (stateEvent isoformat s sys.world.nextEventId status),
          sys.world.incidentEvents ++ [stateEvent isoformat s sys.world.nextEventId status]) := by
    intro hnew
    exact SqliteLedgers.append_of_new hnew fun e he => Nat.ne_of_lt (h.ids e he)
  by_cases hnew : ∀ e ∈ sys.world.incidentEvents, e.idempotencyKey ≠ stateKey isoformat status
  · have happend := hwrite hnew
    unfold stateEvent at happend
    rw [happend]
    exact ⟨rfl, rfl, rfl, Or.inr ⟨hnew, rfl⟩⟩
  · have hsame := hkey.resolve_right hnew
    -- the key is that of the last status recorded
    obtain ⟨e, he, hstatus⟩ : ∃ e ∈ sys.world.incidentEvents,
        statusOf e = some status ∧ lastStatus sys.world.incidentEvents = some status := by
      rcases h.status with hlast | ⟨hnone, -⟩
      · rw [← hsame] at hlast
        obtain ⟨e, he, hof⟩ := mem_filterMap.mp (List.mem_of_getLast? hlast)
        exact ⟨e, he, hof, hlast⟩
      · exfalso
        apply hnew
        intro e he heq
        have hkeyed := h.keyed e he
        have hof : statusOf e = none :=
          filterMap_eq_nil_iff.mp (List.getLast?_eq_none_iff.mp hnone) e he
        rw [hof] at hkeyed
        obtain ⟨a, ha⟩ := hkeyed
        exact authorizationKey_ne a status (ha.symm.trans heq)
    obtain ⟨hof, hlast⟩ := hstatus
    have hkeyed := h.keyed e he
    rw [hof] at hkeyed
    obtain ⟨htype, hpayload, hekey⟩ := hkeyed
    have hfind : SqliteLedgers.findKey sys.world.incidentEvents (stateKey isoformat status)
        = some e := by
      cases hfind : SqliteLedgers.findKey sys.world.incidentEvents (stateKey isoformat status) with
      | none => exact absurd hekey (SqliteLedgers.findKey_eq_none.mp hfind e he)
      | some existing =>
        obtain ⟨hmem, hexisting⟩ := SqliteLedgers.findKey_some hfind
        rw [Journal.eq_of_key_eq h.keys hmem he (hexisting.trans hekey.symm)]
    rw [SqliteLedgers.append_of_stored hfind htype hpayload]
    exact ⟨rfl, rfl, rfl, Or.inl ⟨rfl, hlast⟩⟩

variable {trace : List (LiveOperation × Except PyError LiveAnswer)}

theorem LiveSound.keep (h : LiveSound isoformat sys) {w : LiveWorld}
    (hevents : w.incidentEvents = sys.world.incidentEvents)
    (hid : sys.world.nextEventId ≤ w.nextEventId)
    (hstatus : lastStatus sys.world.incidentEvents = some w.plane.status ∨
      lastStatus sys.world.incidentEvents = none ∧ w.plane.status.state = .paper)
    (hready : w.plane.status.state = .ready ∨ w.plane.status.state = .active → ReadySince trace) :
    LiveSound isoformat ⟨w, trace⟩ where
  ids := fun e he => Nat.lt_of_lt_of_le (h.ids e (hevents ▸ he)) hid
  keys := hevents ▸ h.keys
  keyed := fun e he => h.keyed e (hevents ▸ he)
  status := hevents ▸ hstatus
  ready := hready

/-- One event is written, under a new key. -/
theorem LiveSound.write (h : LiveSound isoformat sys) {w : LiveWorld} {e : LiveEvent}
    (hevents : w.incidentEvents = sys.world.incidentEvents ++ [e])
    (hnew : ∀ x ∈ sys.world.incidentEvents, x.idempotencyKey ≠ e.idempotencyKey)
    (hid : e.eventId = sys.world.nextEventId) (hnext : w.nextEventId = sys.world.nextEventId + 1)
    (hkeyed : match statusOf e with
      | some status => e.eventType = .stateChanged ∧ e.payload = .status status ∧
          e.idempotencyKey = stateKey isoformat status
      | none => ∃ a, e.idempotencyKey = authorizationKey a)
    (hstatus : (statusOf e).or (lastStatus sys.world.incidentEvents) = some w.plane.status ∨
      (statusOf e).or (lastStatus sys.world.incidentEvents) = none ∧
        w.plane.status.state = .paper)
    (hready : w.plane.status.state = .ready ∨ w.plane.status.state = .active → ReadySince trace) :
    LiveSound isoformat ⟨w, trace⟩ where
  ids := by
    intro x hx
    show x.eventId < w.nextEventId
    rw [hnext]
    rcases mem_append.mp (hevents ▸ hx) with hold | hlast
    · exact Nat.lt_succ_of_lt (h.ids x hold)
    · rw [mem_singleton.mp hlast, hid]
      exact Nat.lt_succ_self _
  keys := by
    show (w.incidentEvents.map LedgerEvent.idempotencyKey).Nodup
    rw [hevents, map_append, nodup_append]
    refine ⟨h.keys, nodup_singleton _, ?_⟩
    intro k hk k' hk'
    obtain ⟨x, hx, rfl⟩ := List.mem_map.mp hk
    rw [map_singleton, mem_singleton] at hk'
    rw [hk']
    exact hnew x hx
  keyed := by
    intro x hx
    rcases mem_append.mp (hevents ▸ hx) with hold | hlast
    · exact h.keyed x hold
    · rw [mem_singleton.mp hlast]
      exact hkeyed
  status := by
    show lastStatus w.incidentEvents = _ ∨ lastStatus w.incidentEvents = _ ∧ _
    rw [hevents, lastStatus_concat]
    exact hstatus
  ready := hready

/-- **One call.** It keeps the invariant, and what raises changes nothing. -/
theorem LiveSound.call (h : LiveSound isoformat sys)
    (hwritten : ChangeWritten isoformat sys (.call op s)) :
    let called := LiveControlPlane.call isoformat s sys.world op
    LiveSound isoformat ⟨called.2, sys.trace ++ [(op, called.1)]⟩ ∧
      ∀ e, called.1 = .error e → called.2.plane.status = sys.world.plane.status ∧
        called.2.incidentEvents = sys.world.incidentEvents := by
  cases hnext : op.next s sys.world.plane with
  | some status =>
    obtain ⟨answer, hjustified, hcall⟩ := call_of_next isoformat hnext
    obtain ⟨hfault, hkey⟩ := hwritten status hnext
    obtain ⟨hok, hnextId, hstatus, hevents⟩ := h.append_written hfault hkey
    rw [hcall]
    dsimp only
    rw [hok]
    refine ⟨?_, fun e he => by cases he⟩
    -- what justifies the change is the newest entry of the trace, or it was there before
    have hready : status.state = .ready ∨ status.state = .active →
        ReadySince (sys.trace ++ [(op, .ok answer)]) := by
      unfold Justifies at hjustified
      rintro (hstate | hstate)
      · rw [hstate] at hjustified
        obtain ⟨request, result, rfl, rfl, hpassed⟩ := hjustified
        exact ⟨sys.trace, request, result, [], rfl, hpassed, fun _ hx => absurd hx not_mem_nil⟩
      · rw [hstate] at hjustified
        obtain ⟨hprior, evaluationAt, rfl⟩ := hjustified
        exact readySince_concat (h.ready (Or.inl hprior)) not_false
    rw [← hstatus] at hready
    rcases hevents with ⟨hsame, hlast⟩ | ⟨hnew, hevents⟩
    · refine h.keep hsame ?_ (Or.inl ?_) hready
      · rw [hnextId]
        exact Nat.le_succ _
      · rw [hstatus]
        exact hlast
    · refine h.write hevents hnew rfl hnextId ⟨rfl, rfl, rfl⟩ (Or.inl ?_) hready
      rw [hstatus]
      rfl
  | none =>
    by_cases hop : ∃ a, op = .recordAuthorization a
    · obtain ⟨a, rfl⟩ := hop
      obtain ⟨hstatus, hle, hevents⟩ := call_recordAuthorization isoformat s
        sys.world a
      have hkept := h.status
      have hready : sys.world.plane.status.state = .ready ∨
          sys.world.plane.status.state = .active → ReadySince (sys.trace ++
          [(.recordAuthorization a, (LiveControlPlane.call isoformat s sys.world
            (.recordAuthorization a)).1)]) :=
        fun hstate => readySince_concat (h.ready hstate) not_false
      rw [← hstatus] at hready hkept
      rcases hevents with hsame | ⟨⟨answer, hok⟩, hnew, hnextId, hevents⟩
      · exact ⟨h.keep hsame hle hkept hready, fun _ _ => ⟨hstatus, hsame⟩⟩
      · refine ⟨h.write hevents hnew rfl hnextId ⟨a, rfl⟩ hkept hready, ?_⟩
        intro e he
        rw [hok] at he
        cases he
    · obtain ⟨result, hcall, hstands⟩ := call_of_next_none isoformat hnext
        fun a ha => hop ⟨a, ha⟩
      rw [hcall]
      exact ⟨⟨h.ids, h.keys, h.keyed, h.status,
        fun hstate => readySince_concat (h.ready hstate) hstands⟩, fun _ _ => ⟨rfl, rfl⟩⟩

theorem LiveSound.step (h : LiveSound isoformat sys) {a : LiveAction} {sys' : LiveSystem}
    (hwritten : ChangeWritten isoformat sys a)
    (hstep : LiveSystem.step isoformat sys a = some sys') : LiveSound isoformat sys' := by
  cases a with
  | call op s =>
    cases hstep
    exact (h.call hwritten).1
  | restart startedAt =>
    unfold LiveSystem.step at hstep
    dsimp only at hstep
    cases hhydrate : hydrateLive startedAt sys.world.incidentEvents with
    | error e =>
      rw [hhydrate] at hstep
      cases hstep
    | ok plane =>
      rw [hhydrate] at hstep
      cases hstep
      have hstatus := hydrateLive_status hhydrate
      rcases h.status with hlast | ⟨hnone, -⟩
      · rw [hlast] at hstatus
        have hsame : plane.status = sys.world.plane.status := hstatus
        refine h.keep rfl (le_refl _) (Or.inl ?_) ?_
        · show _ = some plane.status
          rw [hsame]
          exact hlast
        · show plane.status.state = _ ∨ plane.status.state = _ → _
          rw [hsame]
          exact h.ready
      · rw [hnone] at hstatus
        have hpaper : plane.status.state = .paper := congrArg LiveControlStatus.state hstatus
        refine h.keep rfl (le_refl _) (Or.inr ⟨hnone, hpaper⟩) ?_
        show plane.status.state = _ ∨ plane.status.state = _ → _
        rw [hpaper]
        rintro (hready | hactive) <;> contradiction

end Runs

/-- **Active means ready.** In a run in which every change of status is written, the
plane is active only if a readiness evaluation passed since the last rollback or
return to paper, and an operation that raises leaves the status in memory and the
status a new plane reads from the ledger as they were. -/
theorem active_only_when_ready (isoformat : Timestamp → String) {startedAt : Timestamp}
    {actions : List LiveAction} {sys : LiveSystem}
    (hwritten : Along (LiveSystem.step isoformat) (ChangeWritten isoformat)
      (.init startedAt) actions)
    (hrun : runFrom (LiveSystem.step isoformat) (.init startedAt) actions = some sys) :
    (sys.world.plane.status.state = .active → ReadySince sys.trace) ∧
    ∀ (op : LiveOperation) (s : LiveSurroundings) (e : PyError),
      ChangeWritten isoformat sys (.call op s) →
      let called := LiveControlPlane.call isoformat s sys.world op
      called.1 = .error e →
        called.2.plane.status = sys.world.plane.status ∧
        ∀ restartedAt, (hydrateLive restartedAt called.2.incidentEvents).map
            LiveControlPlane.status
          = (hydrateLive restartedAt sys.world.incidentEvents).map LiveControlPlane.status := by
  have hsound := along_invariant (fun _ _ _ hs hmeet hstep => LiveSound.step hs hmeet hstep)
    (liveSound_init startedAt) hwritten hrun
  refine ⟨fun hactive => hsound.ready (Or.inr hactive), ?_⟩
  intro op s e hwritten
  dsimp only
  intro hraised
  obtain ⟨hstatus, hevents⟩ := (hsound.call hwritten).2 e hraised
  refine ⟨hstatus, ?_⟩
  intro restartedAt
  rw [hevents]

def liveAuthorization : LiveAuthorization where
  authorizationId := 7
  humanApprover := "human"
  approvedAt := 0
  allowedInstruments := ["crypto:BTC-USDT:approved-venue:spot"]
  fixedLossBudget := .ofNat 100
  maxOrderNotional := .ofNat 100
  riskPolicyHash := paperDigest
  rollbackCondition := "any reconciliation discrepancy"
  noSimultaneousExpansion := true
  aiServicesCanBeStopped := true
  owner := none
  venue := none
  expiresAt := none
  approvalReference := none
  budget_pos := Decimal.hundred_pos
  notional_pos := Decimal.hundred_pos
  identity_normal := by simp
  instruments_normal := by decide +kernel
  instruments_nodup := by simp
  instruments_ne := by simp
  approver_named := by decide +kernel
  rollback_stated := by decide +kernel
  expires_later := by simp

def cleanRequest : ReadinessRequest := ⟨true, true, ⟨true, true, true, true, true⟩, none⟩

def liveAt (t : Timestamp) (fault : Option PyError) : LiveSurroundings := ⟨t, t, t, none, fault⟩

def goLive : List LiveAction :=
  [.call (.recordAuthorization liveAuthorization) (liveAt 1 none),
   .call (.evaluateReadiness cleanRequest) (liveAt 2 none),
   .call (.start none) (liveAt 3 none)]

def spellTime (t : Timestamp) : String := t.toNat.repr

/-- The plane goes live, and every change on the way is written. -/
theorem active_only_when_ready_live : ∃ sys,
    runFrom (LiveSystem.step spellTime) (.init 0) goLive = some sys ∧
    sys.world.plane.status.state = .active ∧ ReadySince sys.trace := by
  have hactive : (runFrom (LiveSystem.step spellTime) (.init 0) goLive).any (fun sys =>
      sys.world.plane.status.state = .active) = true := by
    decide +kernel
  obtain ⟨sys, hrun, hstate⟩ := Option.any_eq_true _ _ |>.mp hactive
  refine ⟨sys, hrun, of_decide_eq_true hstate, ?_⟩
  exact (active_only_when_ready spellTime (by decide +kernel) hrun).1 (of_decide_eq_true hstate)

def liveTick : List LiveAction :=
  [.call (.recordAuthorization liveAuthorization) (liveAt 1 none),
   .call (.evaluateReadiness cleanRequest) (liveAt 1 none),
   .call (.rollback "incident") (liveAt 2 none),
   .call (.evaluateReadiness cleanRequest) (liveAt 2 none),
   .call (.start none) (liveAt 2 none),
   .call (.rollback "incident") (liveAt 2 none),
   .restart 3]

def rolledBack : LiveOperation × Except PyError LiveAnswer → Bool
  | (.rollback _, .ok _) => true
  | _ => false

/-- **Two rollbacks that do not last.** One raises: the memory is rolled back, the
ledger still says active. The other returns within the tick of an earlier one, its
key is taken, and the plane is active after a restart. -/
theorem rollback_not_durable :
    (∃ sys, runFrom (LiveSystem.step spellTime) (.init 0) goLive = some sys ∧
      let called := LiveControlPlane.call spellTime (liveAt 4 (some diskFull)) sys.world
        (.rollback "incident")
      called.1 = .error diskFull ∧
      called.2.plane.status ≠ sys.world.plane.status ∧
      ((hydrateLive 5 called.2.incidentEvents).toOption.map fun p => p.status.state)
        = some .active) ∧
    (∃ sys, runFrom (LiveSystem.step spellTime) (.init 0) liveTick = some sys ∧
      sys.world.plane.status.state = .active ∧ ¬ReadySince sys.trace) := by
  constructor
  · have hrun : (runFrom (LiveSystem.step spellTime) (.init 0) goLive).any (fun sys =>
        let called := LiveControlPlane.call spellTime (liveAt 4 (some diskFull)) sys.world
          (.rollback "incident")
        raises (fun e => decide (e = diskFull)) called.1 &&
        decide (called.2.plane.status ≠ sys.world.plane.status) &&
        decide (((hydrateLive 5 called.2.incidentEvents).toOption.map fun p => p.status.state)
          = some .active)) = true := by
      decide +kernel
    obtain ⟨sys, hrun, hstate⟩ := Option.any_eq_true _ _ |>.mp hrun
    simp only [Bool.and_eq_true, decide_eq_true_eq] at hstate
    obtain ⟨⟨hraised, hstatus⟩, hhydrated⟩ := hstate
    refine ⟨sys, hrun, ?_, hstatus, hhydrated⟩
    obtain ⟨e, hcalled, he⟩ := error_of_raises hraised
    rw [hcalled, of_decide_eq_true he]
  · have hrun : (runFrom (LiveSystem.step spellTime) (.init 0) liveTick).any (fun sys =>
        decide (sys.world.plane.status.state = .active) &&
        sys.trace.getLast?.any rolledBack) = true := by
      decide +kernel
    obtain ⟨sys, hrun, hstate⟩ := Option.any_eq_true _ _ |>.mp hrun
    simp only [Bool.and_eq_true, decide_eq_true_eq] at hstate
    obtain ⟨hactive, hlast⟩ := hstate
    obtain ⟨x, hx, hrollback⟩ := Option.any_eq_true _ _ |>.mp hlast
    refine ⟨sys, hrun, hactive, not_readySince_of_standsDown hx ?_⟩
    unfold rolledBack at hrollback
    split at hrollback
    · trivial
    · cases hrollback

end AdvisorAI
