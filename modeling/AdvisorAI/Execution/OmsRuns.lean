import AdvisorAI.Execution.OmsSteps
import AdvisorAI.Lib.Runs

/-!
# Runs of an order manager

A run is a list of actions: a call of an operation with the answers it gets and
the point at which the process dies, if it does; a restart of the process; and
the one other writer of the ORDER ledger, the reconciliation service. A process
that died is restarted before anything else happens. A restart that fails on
the ledger ends the run.

`run_keeps` is the induction over runs: what the journal's steps, torn fills
and restarts keep holds of the journal of every reachable world.
-/

namespace AdvisorAI

open Lib OrderJournal List

/-! ## Hydration and replay -/

/-- The adapter's bindings do not contradict the journal. -/
def Compatible (knownOrderIds : Option (Dict String UUID)) (l : List JournalEntry) : Prop :=
  ∀ ids ∈ knownOrderIds, ∀ k i, ids.get k = some i →
    ∀ t p, .order t p ∈ l → p.idempotencyKey = k → p.artifactId = i

private theorem entriesOf_snoc (l : List OrderEvent) (e : OrderEvent) :
    entriesOf (l ++ [e]) = entriesOf l ++ (entryOf e).toList := by
  unfold entriesOf
  rw [filterMap_append]
  cases h : entryOf e with
  | none => simp [h]
  | some x => simp [h]

variable {e : OrderEvent}

private theorem hydrateEvent_eq (h : Shaped e) (m : OrderManager) :
    hydrateEvent m e.eventType e.payload
      = match entryOf e with
        | some x => replayEntry m x
        | none => .ok m := by
  unfold Shaped at h
  cases he : entryOf e with
  | none =>
    rw [he] at h
    rw [h.1]
    rfl
  | some x =>
    rw [he] at h
    unfold entryOf at he
    split at he
    · next hp => cases he; rw [h.1, hp]; rfl
    · next hp => cases he; rw [h.1, hp]; rfl
    · cases he

private theorem hydrateStep_eq_ok {s s' : OrderManager × Option (Dict String UUID)} :
    hydrateStep s e = .ok s' ↔
      hydrateEvent s.1 e.eventType e.payload = .ok s'.1 ∧
        hydrateBinding s.2 e.payload = .ok s'.2 := by
  unfold hydrateStep
  cases hydrateEvent s.1 e.eventType e.payload with
  | error x =>
    constructor
    · intro h
      cases h
    · intro h
      cases h.1
  | ok m =>
    show (hydrateBinding s.2 e.payload >>= fun known => pure (m, known)) = _ ↔ _
    cases hydrateBinding s.2 e.payload with
    | error x =>
      constructor
      · intro h
        cases h
      · intro h
        cases h.2
    | ok known =>
      constructor
      · intro h
        cases h
        exact ⟨rfl, rfl⟩
      · intro ⟨h1, h2⟩
        cases h1
        cases h2
        rfl

variable {known known' : Option (Dict String UUID)}

private theorem hydrateBinding_order (h : hydrateBinding known e.payload = .ok known') :
    known' = known ∨ ∃ o, entryOf e = some (.order e.eventType o) ∧
      bindOrder known o = .ok known' := by
  unfold hydrateBinding at h
  split at h
  · next o hp => exact Or.inr ⟨o, by unfold entryOf; rw [hp], h⟩
  · cases h
    exact Or.inl rfl

theorem bindOrder_get {o : Order} (h : bindOrder known o = .ok known') :
    ∀ ids' ∈ known', ∀ k i, ids'.get k = some i →
      (k = o.idempotencyKey ∧ i = o.artifactId) ∨ ∃ ids ∈ known, ids.get k = some i := by
  unfold bindOrder at h
  intro ids' hids' k i hi
  cases known with
  | none =>
    cases h
    cases hids'
  | some ids =>
    dsimp only at h
    split at h
    · cases h
      cases hids'
      rw [Dict.get_set] at hi
      by_cases hk : k = o.idempotencyKey
      · rw [if_pos hk] at hi
        exact Or.inl ⟨hk, (Option.some.inj hi).symm⟩
      · rw [if_neg hk] at hi
        exact Or.inr ⟨ids, rfl, hi⟩
    · cases h

variable {events : List OrderEvent}

/-- A hydration that succeeds is a replay, and binds only orders of the journal. -/
theorem replay_of_hydrate {m : OrderManager} (hshaped : ∀ e ∈ events, Shaped e)
    (h : hydrate known events = .ok (m, known')) :
    replayEntries (entriesOf events) = .ok m ∧
      ∀ ids' ∈ known', ∀ k i, ids'.get k = some i →
        (∃ t p, .order t p ∈ entriesOf events ∧ p.artifactId = i ∧ p.idempotencyKey = k) ∨
        ∃ ids ∈ known, ids.get k = some i := by
  unfold hydrate at h
  split at h
  · next state hstate =>
    cases h
    have hall : ∀ l s, Journal.replay hydrateStep (OrderManager.empty, known) l = .ok s →
        (∀ e ∈ l, Shaped e) → replayEntries (entriesOf l) = .ok s.1 ∧
          ∀ ids' ∈ s.2, ∀ k i, ids'.get k = some i →
            (∃ t p, .order t p ∈ entriesOf l ∧ p.artifactId = i ∧ p.idempotencyKey = k) ∨
            ∃ ids ∈ known, ids.get k = some i := by
      refine Journal.replay_induction hydrateStep ?_ ?_
      · intro _
        exact ⟨rfl, fun ids' hids' k i hi => Or.inr ⟨ids', hids', hi⟩⟩
      · intro l e s s' _ hstep ih hsh
        obtain ⟨hreplay, hknown⟩ := ih fun e' he' => hsh e' (mem_append_left _ he')
        obtain ⟨hm, hb⟩ := hydrateStep_eq_ok.mp hstep
        rw [entriesOf_snoc]
        rw [hydrateEvent_eq (hsh e (mem_append_right _ (mem_singleton_self _)))] at hm
        refine ⟨?_, ?_⟩
        · cases he : entryOf e with
          | none =>
            rw [he] at hm
            rw [← Except.ok.inj hm]
            simpa using hreplay
          | some x =>
            rw [he] at hm
            unfold replayEntries at hreplay ⊢
            show Journal.replay replayEntry .empty (entriesOf l ++ [x]) = .ok s'.1
            rw [Journal.replay_concat, hreplay]
            exact hm
        · intro ids' hids' k i hi
          rcases hydrateBinding_order hb with hsame | ⟨o, ho, hbind⟩
          · rw [hsame] at hids'
            rcases hknown ids' hids' k i hi with ⟨t, p, hp, hid, hk⟩ | hold
            · exact Or.inl ⟨t, p, mem_append_left _ hp, hid, hk⟩
            · exact Or.inr hold
          · rcases bindOrder_get hbind ids' hids' k i hi with ⟨rfl, rfl⟩ | ⟨ids, hids, hi'⟩
            · exact Or.inl ⟨e.eventType, o, mem_append_right _ (by simp [ho]), rfl, rfl⟩
            · rcases hknown ids hids k i hi' with ⟨t, p, hp, hid, hk⟩ | hold
              · exact Or.inl ⟨t, p, mem_append_left _ hp, hid, hk⟩
              · exact Or.inr hold
    exact hall events (m, known') hstate hshaped
  · cases h

private theorem bindOrder_compatible {L : List JournalEntry} (hw : WellFormed L)
    (hc : Compatible known L) {t : OrderEventType} {o : Order} (ho : .order t o ∈ L) :
    ∃ known', bindOrder known o = .ok known' ∧ Compatible known' L := by
  have hok : ∃ known', bindOrder known o = .ok known' := by
    cases known with
    | none => exact ⟨none, rfl⟩
    | some ids =>
      have hget : ids.get o.idempotencyKey = none ∨
          ids.get o.idempotencyKey = some o.artifactId := by
        cases hid : ids.get o.idempotencyKey with
        | none => exact Or.inl rfl
        | some i => exact Or.inr (by rw [hc ids rfl _ i hid t o ho rfl])
      exact ⟨_, if_pos hget⟩
  obtain ⟨known', hbind⟩ := hok
  refine ⟨known', hbind, ?_⟩
  intro ids' hids' k i hi u p hp hk
  rcases bindOrder_get hbind ids' hids' k i hi with ⟨hko, hio⟩ | ⟨ids, hids, hi'⟩
  · rw [hio]
    exact hw.clients u p t o hp ho (hk.trans hko)
  · exact hc ids hids k i hi' u p hp hk

/-- A journal that replays hydrates, into any adapter that does not contradict it. -/
theorem hydrate_of_replay {m : OrderManager} (hshaped : ∀ e ∈ events, Shaped e)
    (hw : WellFormed (entriesOf events)) (hc : Compatible known (entriesOf events))
    (h : replayEntries (entriesOf events) = .ok m) :
    ∃ known', hydrate known events = .ok (m, known') := by
  have hall : ∀ l, l <+: events → ∀ m, replayEntries (entriesOf l) = .ok m →
      ∃ known', Journal.replay hydrateStep (OrderManager.empty, known) l = .ok (m, known') ∧
        Compatible known' (entriesOf events) := by
    intro l
    induction l using List.reverseRecOn with
    | nil =>
      intro _ m hm
      cases hm
      exact ⟨known, rfl, hc⟩
    | append_singleton l e ih =>
      intro hpre m hm
      have he : e ∈ events :=
        hpre.subset (mem_append_right _ (mem_singleton_self _))
      have hstep := hydrateEvent_eq (hshaped e he)
      rw [entriesOf_snoc] at hm
      obtain ⟨m₀, hm₀, hmstep, hbinding⟩ : ∃ m₀, replayEntries (entriesOf l) = .ok m₀ ∧
          hydrateEvent m₀ e.eventType e.payload = .ok m ∧
          ∀ known₀, Compatible known₀ (entriesOf events) →
            ∃ known', hydrateBinding known₀ e.payload = .ok known' ∧
              Compatible known' (entriesOf events) := by
        cases hentry : entryOf e with
        | none =>
          rw [hentry] at hm
          refine ⟨m, by simpa using hm, by rw [hstep, hentry], ?_⟩
          intro known₀ hc₀
          refine ⟨known₀, ?_, hc₀⟩
          unfold entryOf at hentry
          unfold hydrateBinding
          split at hentry
          · cases hentry
          · cases hentry
          · next hp => rw [hp]
        | some x =>
          rw [hentry] at hm
          obtain ⟨m₀, hm₀, hx⟩ := Journal.replay_concat_eq_ok replayEntry hm
          refine ⟨m₀, hm₀, by rw [hstep, hentry]; exact hx, ?_⟩
          intro known₀ hc₀
          have hmem : x ∈ entriesOf events := mem_filterMap.mpr ⟨e, he, hentry⟩
          unfold entryOf at hentry
          split at hentry
          · next o hp =>
            cases hentry
            rw [hp]
            exact bindOrder_compatible hw hc₀ hmem
          · next f hp =>
            rw [hp]
            exact ⟨known₀, rfl, hc₀⟩
          · cases hentry
      obtain ⟨known₀, hreplay, hc₀⟩ := ih ((prefix_append l [e]).trans hpre) m₀ hm₀
      obtain ⟨known', hb, hc'⟩ := hbinding known₀ hc₀
      refine ⟨known', ?_, hc'⟩
      rw [Journal.replay_concat, hreplay]
      exact hydrateStep_eq_ok.mpr ⟨hmstep, hb⟩
  obtain ⟨known', hreplay, -⟩ := hall events (prefix_refl _) m h
  refine ⟨known', ?_⟩
  unfold hydrate
  rw [hreplay]

/-! ## Actions -/

/-- A new process of the same kind: a fresh adapter, and a manager hydrated from the ledger. -/
def restart (w : OmsWorld) : Option OmsWorld :=
  match hydrate (w.knownOrderIds.map fun _ => Dict.empty) w.orderEvents with
  | .ok (m, known) => some { w with manager := m, knownOrderIds := known }
  | .error _ => none

/-- What happens to an order manager and its ledger. -/
inductive OmsAction where
  | call (env : Surroundings) (crashAt : Option Nat) (op : OmsOp)
  | restart
  | recordReconciliation (now : Timestamp) (key : String) (reconciliation : Reconciliation)

def reconciliationEvent (w : OmsWorld) (now : Timestamp) (key : String) (r : Reconciliation) :
    OrderEvent :=
  ⟨w.nextEventId, .reconciliationRecorded, "reconciliation:" ++ key, now, .reconciliation r⟩

/-- One action. A call that died is followed by a restart. -/
def omsStep (w : OmsWorld) : OmsAction → Option OmsWorld
  | .call env crashAt op =>
    match op.run env crashAt w with
    | (.error .crashed, _, w') => AdvisorAI.restart w'
    | (_, _, w') => some w'
  | .restart => AdvisorAI.restart w
  | .recordReconciliation now key r =>
    some { w with
      orderEvents := (SqliteLedgers.append w.orderEvents (reconciliationEvent w now key r)).2
      nextEventId := w.nextEventId + 1 }

def omsRun (w : OmsWorld) (acts : List OmsAction) : Option OmsWorld :=
  Runs.runFrom omsStep w acts

variable {w w' : OmsWorld} {c c' : OrderJournal} {env : Surroundings}

theorem represents_init (adapter : Adapter) : Represents (.init adapter) .empty := by
  refine ⟨rfl, ⟨rfl, ?_, ?_, rfl⟩, ?_⟩
  · intro e he
    cases he
  · intro e he
    cases he
  · intro ids hids k i hi
    cases adapter with
    | paper => cases hids
    | native =>
      cases hids
      cases hi

theorem sound_empty : Sound .empty := by
  refine ⟨⟨nodup_nil, ?_, ?_, ?_, List.Pairwise.nil, ?_, ?_, ?_⟩, projects_empty⟩
  · intro t o h
    cases h
  · intro t p u q h
    cases h
  · intro t p u q h
    cases h
  · intro f g h
    cases h
  · intro f h
    cases h
  · intro t o h
    cases h

theorem restart_represents (hd : Durable w c) (hw : WellFormed c.entries)
    (h : restart w = some w') : ∃ c', Restarts c c' ∧ Represents w' c' := by
  unfold restart at h
  split at h
  · next m known hm =>
    cases h
    obtain ⟨hreplay, hknown⟩ := replay_of_hydrate hd.shaped hm
    rw [hd.entries] at hreplay hknown
    refine ⟨{ c with memory := m }, ⟨m, hreplay, rfl⟩, rfl,
      ⟨hd.entries, hd.shaped, hd.eventIds, hd.submissions⟩, ?_⟩
    have hp := projects_of_replay hw hreplay
    intro ids hids k i hi
    rcases hknown ids hids k i hi with ⟨t, p, hp', rfl, hk⟩ | ⟨ids₀, hids₀, hi₀⟩
    · obtain ⟨o, ho, -⟩ := hp.loggedOrder t p hp'
      refine ⟨o, ho, ?_⟩
      rw [← hw.version hp ho hp' rfl]
      exact hk
    · -- The new adapter starts without bindings.
      obtain ⟨ids₁, -, rfl⟩ := Option.mem_map.mp hids₀
      cases hi₀
  · cases h

theorem recordReconciliation_represents (h : Represents w c) (now : Timestamp) (key : String)
    (r : Reconciliation) :
    Represents { w with
      orderEvents := (SqliteLedgers.append w.orderEvents (reconciliationEvent w now key r)).2
      nextEventId := w.nextEventId + 1 } c := by
  have hshape : Shaped (reconciliationEvent w now key r) := ⟨rfl, key, rfl⟩
  have hdurable : Durable { w with nextEventId := w.nextEventId + 1 } c :=
    ⟨h.durable.entries, h.durable.shaped,
      fun e he => Nat.lt_succ_of_lt (h.durable.eventIds e he), h.durable.submissions⟩
  refine ⟨h.memory, ?_, h.bound⟩
  unfold SqliteLedgers.append
  cases SqliteLedgers.findKey w.orderEvents
      (reconciliationEvent w now key r).idempotencyKey with
  | some existing =>
    dsimp only
    split
    · exact hdurable
    · exact hdurable
  | none =>
    dsimp only
    split
    · exact hdurable
    · refine ⟨?_, ?_, ?_, h.durable.submissions⟩
      · show entriesOf (w.orderEvents ++ [_]) = c.entries
        rw [entriesOf_snoc, h.durable.entries]
        exact append_nil _
      · intro e he
        rcases mem_append.mp he with hl | hr
        · exact h.durable.shaped e hl
        · rw [mem_singleton.mp hr]
          exact hshape
      · intro e he
        rcases mem_append.mp he with hl | hr
        · exact Nat.lt_succ_of_lt (h.durable.eventIds e hl)
        · rw [mem_singleton.mp hr]
          exact Nat.lt_succ_self _

/-! ## The induction over runs -/

def DiesRecording (w : OmsWorld) (a : OmsAction) (f : Fill) : Prop :=
  ∃ env crashAt side, a = .call env crashAt (.recordFill f side) ∧
    ((OmsOp.recordFill f side).run env crashAt w).1 = .error .crashed

/-- What has to be shown of a property of journals so that runs keep it, when the
calls take only steps in `A` and the actions meet `P`. -/
structure Kept (P : OmsWorld → OmsAction → Prop) (A : OrderJournal → Label → Prop)
    (J : OrderJournal → Prop) : Prop where
  init : J .empty
  step : ∀ l c c', Sound c → J c → A c l → Step l c c' → J c'
  torn : ∀ w a f c c', P w a → DiesRecording w a f → Sound c → J c →
    Step (.tornFill f) c c' → J c'
  restart : ∀ c c', Sound c → J c → Restarts c c' → J c'
  permit : ∀ w env n op c, P w (.call env n op) → Represents w c → Sound c → J c →
    ∀ c' l, (c' = c ∨ ∃ i, op = .route i) → op.Takes env c' l → A c' l

variable {P : OmsWorld → OmsAction → Prop} {A : OrderJournal → Label → Prop}
  {J : OrderJournal → Prop}

theorem path_keeps (hk : Kept P A J) (hs : Sound c) (hJ : J c) (h : Path A c c') : J c' := by
  induction h with
  | refl => exact hJ
  | tail hpath hstep ih =>
    obtain ⟨l, hA, hl⟩ := hstep
    exact hk.step l _ _ (path_sound hpath hs) ih hA hl

/-- A call, wherever it stops, leaves the ledger of a journal that keeps what is
kept; unless it died, the manager's memory is the journal's too. -/
theorem call_keeps (hk : Kept P A J) {crashAt : Option Nat} {op : OmsOp}
    (hI : ∃ c, Represents w c ∧ Sound c ∧ J c) (hP : P w (.call env crashAt op))
    {r : Except (Stop PyError) Unit} {n : Option Nat} (hrun : op.run env crashAt w = (r, n, w')) :
    ∃ c, Durable w' c ∧ Sound c ∧ J c ∧ (r ≠ .error .crashed → Represents w' c) := by
  obtain ⟨c, hrep, hs, hJ⟩ := hI
  have hrefines := op_refines op hrep hs (hk.permit w env crashAt op c hP hrep hs hJ)
  obtain ⟨hok, herr⟩ := Prog.wp_apply hrefines crashAt
  have hmoved : (∃ c₁, Represents w' c₁ ∧ Path A c c₁) →
      ∃ c, Durable w' c ∧ Sound c ∧ J c ∧ (r ≠ .error .crashed → Represents w' c) := by
    intro ⟨c₁, hr₁, hpath⟩
    exact ⟨c₁, hr₁.durable, path_sound hpath hs, path_keeps hk hs hJ hpath, fun _ => hr₁⟩
  cases r with
  | ok u => exact hmoved (hok u n w' hrun)
  | error e =>
    have hstop := herr e n w' hrun
    cases e with
    | raised e => exact hmoved hstop
    | crashed =>
      obtain ⟨c₁, hd₁, hpath | ⟨f, side, rfl, htorn⟩⟩ := hstop
      · exact ⟨c₁, hd₁, path_sound hpath hs, path_keeps hk hs hJ hpath, fun h => absurd rfl h⟩
      · have hdies : DiesRecording w (.call env crashAt (.recordFill f side)) f :=
          ⟨env, crashAt, side, rfl, by rw [hrun]⟩
        exact ⟨c₁, hd₁, step_sound htorn hs, hk.torn w _ f c c₁ hP hdies hs hJ htorn,
          fun h => absurd rfl h⟩

/-- **Step lemma.** One action keeps what is kept. -/
theorem action_keeps (hk : Kept P A J) {a : OmsAction} (hI : ∃ c, Represents w c ∧ Sound c ∧ J c)
    (hP : P w a) (hstep : omsStep w a = some w') : ∃ c, Represents w' c ∧ Sound c ∧ J c := by
  have hrestart : ∀ {c₁ w₁}, Durable w₁ c₁ → Sound c₁ → J c₁ → AdvisorAI.restart w₁ = some w' →
      ∃ c, Represents w' c ∧ Sound c ∧ J c := by
    intro c₁ w₁ hd hs₁ hJ₁ hre
    obtain ⟨c₂, hr₂, hrep₂⟩ := restart_represents hd hs₁.wellFormed hre
    exact ⟨c₂, hrep₂, restart_sound hr₂ hs₁, hk.restart c₁ c₂ hs₁ hJ₁ hr₂⟩
  cases a with
  | restart =>
    obtain ⟨c, hrep, hs, hJ⟩ := hI
    exact hrestart hrep.durable hs hJ hstep
  | recordReconciliation now key r =>
    obtain ⟨c, hrep, hs, hJ⟩ := hI
    cases hstep
    exact ⟨c, recordReconciliation_represents hrep now key r, hs, hJ⟩
  | call env crashAt op =>
    unfold omsStep at hstep
    dsimp only at hstep
    rcases hrun : op.run env crashAt w with ⟨r, n', w₁⟩
    obtain ⟨c₁, hd₁, hs₁, hJ₁, hr₁⟩ := call_keeps hk hI hP hrun
    rw [hrun] at hstep
    rcases r with e | u
    · cases e with
      | raised e =>
        cases hstep
        exact ⟨c₁, hr₁ (by simp), hs₁, hJ₁⟩
      | crashed => exact hrestart hd₁ hs₁ hJ₁ hstep
    · cases hstep
      exact ⟨c₁, hr₁ (by simp), hs₁, hJ₁⟩

variable {acts : List OmsAction}

/-- **Run induction.** From an empty ledger, whatever runs keep holds of the
journal of every world a run reaches. -/
theorem run_keeps (hk : Kept P A J) {adapter : Adapter}
    (hmeet : Runs.Along omsStep P (.init adapter) acts)
    (hrun : omsRun (.init adapter) acts = some w) : ∃ c, Represents w c ∧ Sound c ∧ J c :=
  Runs.along_invariant (I := fun w => ∃ c, Represents w c ∧ Sound c ∧ J c)
    (fun _ _ _ hI hP hstep => action_keeps hk hI hP hstep)
    ⟨.empty, represents_init adapter, sound_empty, hk.init⟩ hmeet hrun

theorem run_sound {adapter : Adapter} (hrun : omsRun (.init adapter) acts = some w) :
    ∃ c, Represents w c ∧ Sound c := by
  have hk : Kept (fun _ _ => True) (fun _ _ => True) (fun _ => True) := by
    refine ⟨trivial, ?_, ?_, ?_, ?_⟩
    · intros
      trivial
    · intros
      trivial
    · intros
      trivial
    · intros
      trivial
  obtain ⟨c, hrep, hs, -⟩ := run_keeps hk (Runs.along_true _ _) hrun
  exact ⟨c, hrep, hs⟩

/-! ## A paper order -/

def paperOrder (state : OrderState) : Order where
  artifactId := 1
  createdAt := 0
  parentIntentId := 2
  executionPlanId := 3
  instrument := paperInstrument
  side := .buy
  quantity := .ofNat 10
  orderType := "market"
  price := none
  timeInForce := "day"
  idempotencyKey := "key-1"
  state := state
  quantity_pos := by simp
  price_pos := by simp
  tokens_normal := by decide +kernel
  limit_priced := by decide
  idempotencyKey_normal := paperKey_normal

theorem fourUnits_pos : 0 < 4 := by decide

def paperFill (artifactId : UUID) (venueFillId : String) (quantity : Nat)
    (hpos : 0 < quantity := by decide)
    (hid : isBlank venueFillId = false ∧ strip venueFillId = venueFillId := by decide +kernel) :
    Fill where
  artifactId := artifactId
  createdAt := 0
  orderId := 1
  venueFillId := venueFillId
  quantity := .ofNat quantity
  price := .ofNat 100
  fee := .ofNat 0
  occurredAt := 0
  quantity_pos := by simpa using hpos
  price_pos := Decimal.hundred_pos
  fee_nonneg := Decimal.nothing_nonneg
  venueFillId_normal := hid

def paperAcknowledgement (accepted : Bool) : VenueAcknowledgement where
  orderId := 1
  venueOrderId := "paper-1"
  accepted := accepted
  venueOrderId_ne := by decide +kernel

def paperSurroundings (accepted : Bool) : Surroundings where
  now := 0
  eventBus := none
  submit := .acknowledged (paperAcknowledgement accepted)
  reconcile := none
  openOrders := .ok [paperAcknowledgement accepted]
  cancel := some (.ok (some true))

def paperCall (op : OmsOp) : OmsAction := .call (paperSurroundings true) none op

def paperLostRoute : OmsAction := .call (.quiet 0) none (.route 1)

def paperAcknowledged : List OmsAction :=
  [paperCall (.create (paperOrder .created)), paperCall (.transition 1 .riskApproved),
    paperCall (.route 1)]

end AdvisorAI
