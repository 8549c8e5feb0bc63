import AdvisorAI.Capabilities.Registry

/-!
# What the broker exposes

Every card of a registry has its trail in the ledger: the registration at the first
stage and a transition to each stage after it, in order (`CapabilityInv`). So an
executor is handed out for a card that has come through all of them, whatever was
raised, crashed or restarted on the way.

Two things are not as they should be. A card is found under a text in which name and
version are not told apart, and the denylist misses the spellings of
`change_risk_limit` that run its words together. `exposed_iff` says that nothing else
goes wrong.
-/

namespace AdvisorAI

open Lib List Prog Dict Option

/-! ## The trail of a card -/

/-- The stages after the first, up to a stage. -/
def CapabilityLifecycle.laterStages (stage : CapabilityLifecycle) : List CapabilityLifecycle :=
  (capabilityLifecycleOrder.take (stage.index + 1)).tail

theorem mem_capabilityLifecycleOrder (stage : CapabilityLifecycle) :
    stage ∈ capabilityLifecycleOrder := by
  cases stage <;> decide

variable {s t stage target : CapabilityLifecycle}

theorem laterStages_next (h : t.index = s.index + 1) : t.laterStages = s.laterStages ++ [t] := by
  have hall : ∀ s ∈ capabilityLifecycleOrder, ∀ t ∈ capabilityLifecycleOrder,
      t.index = s.index + 1 → t.laterStages = s.laterStages ++ [t] := by
    decide
  exact hall s (mem_capabilityLifecycleOrder s) t (mem_capabilityLifecycleOrder t) h

theorem index_le_deprecated (stage : CapabilityLifecycle) :
    stage.index ≤ CapabilityLifecycle.deprecated.index := by
  have hall : ∀ stage ∈ capabilityLifecycleOrder,
      stage.index ≤ CapabilityLifecycle.deprecated.index := by
    decide
  exact hall stage (mem_capabilityLifecycleOrder stage)

theorem eq_deprecated (h : CapabilityLifecycle.deprecated.index ≤ stage.index) :
    stage = .deprecated := by
  have hall : ∀ stage ∈ capabilityLifecycleOrder,
      CapabilityLifecycle.deprecated.index ≤ stage.index → stage = .deprecated := by
    decide
  exact hall stage (mem_capabilityLifecycleOrder stage) h

/-- What the ledger should hold of a card: its registration and its transitions. -/
def CapabilityCard.trail (card : CapabilityCard) : List (CapabilityEventType × CapabilityCard) :=
  (.capabilityRegistered, card.atStage .gap)
    :: card.lifecycle.laterStages.map fun stage => (.capabilityTransitioned, card.atStage stage)

variable {card prior : CapabilityCard}

theorem trail_atStage (h : target.index = card.lifecycle.index + 1) :
    (card.atStage target).trail
      = card.trail ++ [(.capabilityTransitioned, card.atStage target)] := by
  unfold CapabilityCard.trail
  rw [CapabilityCard.atStage_lifecycle, laterStages_next h, map_append]
  rfl

def recordedCards (events : List CapabilityEvent) :
    List (CapabilityEventType × CapabilityCard) :=
  events.filterMap fun e => match e.payload with
    | .card card _ _ => some (e.eventType, card)
    | .other _ => none

variable {e : CapabilityEvent} {humanApproval : Bool} {actor name json k : String}

theorem recordedCards_append (events : List CapabilityEvent)
    (h : e.payload = .card card actor humanApproval) :
    recordedCards (events ++ [e]) = recordedCards events ++ [(e.eventType, card)] := by
  unfold recordedCards
  rw [filterMap_append]
  simp [h]

/-- The card has come through every stage up to its own, in order. -/
def PassedInOrder (events : List CapabilityEvent) (card : CapabilityCard) : Prop :=
  card.trail.Sublist (recordedCards events)

/-! ## The invariant -/

structure CapabilityInv (events : List CapabilityEvent) (cards : CapabilityCards) : Prop where
  replays : hydrateCapabilities events = .ok cards
  keyed : ∀ k card, cards.get k = some card → card.key = k
  passed : ∀ k card, cards.get k = some card → card.lifecycle ≠ .deprecated →
    PassedInOrder events card
  current : ∀ e ∈ events, ∀ card actor humanApproval,
    e.payload = .card card actor humanApproval → ∃ held, cards.get card.key = some held ∧
      (held = card ∨ card.lifecycle.index < held.lifecycle.index)

theorem capabilityInv_init : CapabilityInv [] Dict.empty where
  replays := rfl
  keyed := by
    intro k card h
    cases h
  passed := by
    intro k card h
    cases h
  current := fun _ h => absurd h not_mem_nil

variable {events : List CapabilityEvent} {cards : CapabilityCards}

/-- An event that replays to its card, one that is further than before. -/
theorem CapabilityInv.snoc (hinv : CapabilityInv events cards)
    (hpayload : e.payload = .card card actor humanApproval)
    (hstep : hydrateCapability cards e = .ok (cards.set card.key card))
    (hpassed : card.lifecycle ≠ .deprecated → PassedInOrder (events ++ [e]) card)
    (hahead : ∀ held, cards.get card.key = some held →
      held = card ∨ held.lifecycle.index < card.lifecycle.index) :
    CapabilityInv (events ++ [e]) (cards.set card.key card) where
  replays := by
    have hreplay := hinv.replays
    unfold hydrateCapabilities at hreplay ⊢
    rw [Journal.replay_concat, hreplay]
    exact hstep
  keyed := by
    intro k found hfound
    rw [get_set] at hfound
    split at hfound
    · next hk =>
      cases hfound
      exact hk.symm
    · exact hinv.keyed k found hfound
  passed := by
    intro k found hfound hlive
    rw [get_set] at hfound
    split at hfound
    · cases hfound
      exact hpassed hlive
    · unfold PassedInOrder
      rw [recordedCards_append events hpayload]
      exact (hinv.passed k found hfound hlive).trans (sublist_append_left _ _)
  current := by
    intro x hx c act approval hc
    rcases mem_append.mp hx with hx | hx
    · obtain ⟨held, hheld, hle⟩ := hinv.current x hx c act approval hc
      by_cases hk : c.key = card.key
      · rw [hk, get_set_self]
        rw [hk] at hheld
        refine ⟨card, rfl, ?_⟩
        -- what was held is the new card, or behind it
        rcases hahead held hheld with rfl | hlt
        · exact hle
        · rcases hle with rfl | hlt'
          · exact Or.inr hlt
          · exact Or.inr (hlt'.trans hlt)
      · rw [get_set_ne _ hk]
        exact ⟨held, hheld, hle⟩
    · rw [mem_singleton.mp hx, hpayload] at hc
      cases hc
      exact ⟨_, get_set_self _ _ _, Or.inl rfl⟩

theorem CapabilityInv.foreign (hinv : CapabilityInv events cards)
    (htype : e.eventType = .other name) (hpayload : e.payload = .other json) :
    CapabilityInv (events ++ [e]) cards where
  replays := by
    have hreplay := hinv.replays
    unfold hydrateCapabilities at hreplay ⊢
    rw [Journal.replay_concat, hreplay]
    show hydrateCapability cards e = .ok cards
    unfold hydrateCapability
    rw [htype]
  keyed := hinv.keyed
  passed := by
    intro k found hfound hlive
    unfold PassedInOrder recordedCards
    rw [filterMap_append]
    exact (hinv.passed k found hfound hlive).trans (sublist_append_left _ _)
  current := by
    intro x hx c act approval hc
    rcases mem_append.mp hx with hx | hx
    · exact hinv.current x hx c act approval hc
    · rw [mem_singleton.mp hx, hpayload] at hc
      cases hc

theorem CapabilityInv.registered (hinv : CapabilityInv events cards)
    (htype : e.eventType = .capabilityRegistered)
    (hpayload : e.payload = .card card "registry" humanApproval) (hgap : card.lifecycle = .gap)
    (hnew : cards.get card.key = none) :
    CapabilityInv (events ++ [e]) (cards.set card.key card) := by
  refine hinv.snoc hpayload ?_ ?_ ?_
  · unfold hydrateCapability
    rw [htype, hpayload]
    simp only [hnew, hgap, any_none]
    rfl
  · intro _
    unfold PassedInOrder
    rw [recordedCards_append events hpayload, htype]
    have htrail : card.trail = [(.capabilityRegistered, card)] := by
      unfold CapabilityCard.trail
      rw [hgap]
      show [(CapabilityEventType.capabilityRegistered, card.atStage .gap)] = _
      rw [← hgap, CapabilityCard.atStage_self]
    rw [htrail]
    exact sublist_append_right _ _
  · intro held hheld
    rw [hnew] at hheld
    cases hheld

theorem validateTransition_ok (h : validateTransition card target = .ok ()) :
    target.index = card.lifecycle.index + 1 ∨ target = .deprecated := by
  unfold validateTransition at h
  split at h
  · cases h
  · next hvalid =>
    by_cases htarget : target = .deprecated
    · exact Or.inr htarget
    · left
      by_contra hindex
      exact hvalid ⟨hindex, htarget⟩

/-- A transition from the card that is held. -/
theorem CapabilityInv.transitioned (hinv : CapabilityInv events cards)
    (htype : e.eventType = .capabilityTransitioned)
    (hpayload : e.payload = .card (prior.atStage target) actor humanApproval)
    (hprior : cards.get k = some prior) (hactor : isBlank actor = false)
    (happroval : ¬(target = .activeWriteLimited ∧ humanApproval = false))
    (hvalid : validateTransition prior target = .ok ()) :
    CapabilityInv (events ++ [e]) (cards.set k (prior.atStage target)) := by
  have hk : (prior.atStage target).key = k := hinv.keyed k prior hprior
  have hset := hinv.snoc (e := e) hpayload ?_ ?_ ?_
  · rw [hk] at hset
    exact hset
  · unfold hydrateCapability
    rw [htype, hpayload]
    simp only [hk, hprior, hactor, Bool.false_eq_true, if_false,
      CapabilityCard.atStage_lifecycle, if_neg happroval, hvalid]
  · intro hlive
    rcases validateTransition_ok hvalid with hnext | hdeprecated
    · unfold PassedInOrder
      rw [recordedCards_append events hpayload, htype, trail_atStage hnext]
      refine (hinv.passed k prior hprior ?_).append (.refl _)
      -- there is no stage after the last
      intro hdeprecated
      have hle := index_le_deprecated target
      rw [hdeprecated] at hnext
      omega
    · exact absurd hdeprecated hlive
  · intro held hheld
    rw [hk, hprior] at hheld
    cases hheld
    rcases validateTransition_ok hvalid with hnext | rfl
    · right
      show prior.lifecycle.index < target.index
      omega
    · by_cases hindex : prior.lifecycle.index < CapabilityLifecycle.deprecated.index
      · exact Or.inr hindex
      · left
        rw [← eq_deprecated (Nat.le_of_not_lt hindex), CapabilityCard.atStage_self]

/-! ## The operations keep it -/

/-- An operation that returned has left a ledger and the cards it replays to. -/
def CapabilitySettled (w : CapabilityWorld) : Prop := CapabilityInv w.capabilityEvents w.cards

/-- One that stopped has too; a process that died may not have the cards in memory. -/
def CapabilityStopped (stop : Stop PyError) (w : CapabilityWorld) : Prop :=
  ∃ cards, CapabilityInv w.capabilityEvents cards ∧ (stop ≠ .crashed → w.cards = cards)

theorem CapabilitySettled.stopped {w : CapabilityWorld} (h : CapabilitySettled w)
    (stop : Stop PyError) : CapabilityStopped stop w := ⟨w.cards, h, fun _ => rfl⟩

section Runs

variable {canonicalHash : CapabilityCard → Digest} {env : CapabilitySurroundings}
  {w : CapabilityWorld}

/-- The last lines of an operation: store the event, then the card. -/
theorem wp_storeCard (hinv : CapabilitySettled w) {card : CapabilityCard}
    {eventType : CapabilityEventType} {actor key : String} {humanApproval : Bool}
    {Q : CapabilityCard → CapabilityWorld → Prop}
    (hnew : ∀ e : CapabilityEvent, e.eventType = eventType →
      e.payload = .card card actor humanApproval →
      CapabilityInv (w.capabilityEvents ++ [e]) (w.cards.set key card))
    (hstored : ∀ e ∈ w.capabilityEvents, e.payload = .card card actor humanApproval →
      w.cards.set key card = w.cards)
    (hQ : ∀ w', CapabilitySettled w' → Q card w') :
    Prog.wp (do
      recordCapability canonicalHash env card eventType actor humanApproval
      setCard key card
      pure card) Q CapabilityStopped w := by
  apply wp_bind
  apply wp_atomic (hinv.stopped _)
  unfold SqliteLedgers.appendUnder
  cases hfault : env.faults w.nextEventId with
  | some fault => exact ⟨w.cards, hinv, fun _ => rfl⟩
  | none =>
    dsimp only
    rcases SqliteLedgers.append_cases w.capabilityEvents ⟨w.nextEventId, eventType,
        capabilityKey canonicalHash card, env.now, .card card actor humanApproval⟩
      with ⟨e, happend⟩ | ⟨existing, hmem, -, hpayload, happend⟩ | ⟨-, happend⟩
    · rw [happend]
      exact ⟨w.cards, hinv, fun _ => rfl⟩
    · rw [happend]
      apply wp_bind
      apply wp_atomic ⟨w.cards, hinv, fun h => absurd rfl h⟩
      apply wp_pure
      apply hQ
      show CapabilityInv w.capabilityEvents (w.cards.set key card)
      rw [hstored existing hmem hpayload]
      exact hinv
    · rw [happend]
      have hset := hnew ⟨w.nextEventId, eventType, capabilityKey canonicalHash card, env.now,
        .card card actor humanApproval⟩ rfl rfl
      apply wp_bind
      apply wp_atomic ⟨_, hset, fun h => absurd rfl h⟩
      exact wp_pure (hQ _ hset)

theorem registerCapability_keeps (hinv : CapabilitySettled w) (card : CapabilityCard) :
    Prog.wp (registerCapability canonicalHash env card) (fun _ w' => CapabilitySettled w')
      CapabilityStopped w := by
  apply wp_ite
  · intro _
    exact wp_raise (hinv.stopped _)
  · intro hgap
    rw [not_not] at hgap
    apply wp_bind
    apply wp_read
    cases hget : w.cards.get card.key with
    | some prior =>
      apply wp_ite
      · intro _
        exact wp_raise (hinv.stopped _)
      · intro _
        exact wp_pure hinv
    | none =>
      refine wp_storeCard hinv ?_ ?_ fun _ h => h
      · intro e htype hpayload
        exact hinv.registered htype hpayload hgap hget
      · -- a card with an event is held
        intro e he hpayload
        obtain ⟨held, hheld, -⟩ := hinv.current e he _ _ _ hpayload
        rw [hget] at hheld
        cases hheld

theorem promoteCapability_keeps (hinv : CapabilitySettled w) (name version : String)
    (target : CapabilityLifecycle) (actor : String) (humanApproval : Bool) :
    Prog.wp (promoteCapability canonicalHash env name version target actor humanApproval)
      (fun _ w' => CapabilitySettled w') CapabilityStopped w := by
  apply wp_bind
  apply wp_read
  apply wp_bind
  refine wp_lift ?_ fun _ _ => hinv.stopped _
  intro prior hprior
  have hprior : w.cards.get (CapabilityCard.keyOf name version) = some prior := by
    unfold getCard at hprior
    split at hprior
    · next hget =>
      cases hprior
      exact hget
    · cases hprior
  apply wp_ite
  · intro _
    exact wp_raise (hinv.stopped _)
  · intro happroval
    apply wp_bind
    refine wp_lift ?_ fun _ _ => hinv.stopped _
    intro _ _
    apply wp_ite
    · intro _
      exact wp_raise (hinv.stopped _)
    · intro hactor
      rw [Bool.not_eq_true] at hactor
      apply wp_bind
      refine wp_lift ?_ fun _ _ => hinv.stopped _
      intro _ hvalid
      apply wp_bind
      refine wp_lift ?_ fun _ _ => hinv.stopped _
      intro _ _
      refine wp_storeCard hinv ?_ ?_ fun _ h => h
      · intro e htype hpayload
        exact hinv.transitioned htype hpayload hprior hactor happroval hvalid
      · -- a card that has been at this stage is not before it
        intro e he hpayload
        obtain ⟨held, hheld, hle⟩ := hinv.current e he _ _ _ hpayload
        rw [CapabilityCard.atStage_key, hinv.keyed _ _ hprior, hprior] at hheld
        cases hheld
        apply set_of_get_eq
        rcases hle with heq | hlt
        · rw [← heq]
          exact hprior
        · exfalso
          rw [CapabilityCard.atStage_lifecycle] at hlt
          rcases validateTransition_ok hvalid with hnext | rfl
          · omega
          · have hle := index_le_deprecated prior.lifecycle
            omega

theorem promoteThrough_keeps (actor : String) : ∀ (stages : List CapabilityLifecycle)
    (card : CapabilityCard) {w : CapabilityWorld}, CapabilitySettled w →
    Prog.wp (promoteThrough canonicalHash env actor card stages)
      (fun _ w' => CapabilitySettled w') CapabilityStopped w
  | [], _, _, hinv => wp_pure hinv
  | target :: rest, card, w, hinv => by
    apply wp_bind
    refine wp_mono (promoteCapability_keeps hinv _ _ _ _ _) ?_ fun _ _ h => h
    intro card' w' hinv'
    exact promoteThrough_keeps actor rest card' hinv'

theorem registerCollectorCandidate_keeps (hinv : CapabilitySettled w)
    (candidate : CollectorCandidate) :
    Prog.wp (registerCollectorCandidate canonicalHash env candidate)
      (fun _ w' => CapabilitySettled w') CapabilityStopped w := by
  apply wp_bind
  refine wp_lift ?_ fun _ _ => hinv.stopped _
  intro card _
  exact registerCapability_keeps hinv card

inductive CapabilityOp where
  | register (card : CapabilityCard)
  | registerCollector (candidate : CollectorCandidate)
  | promote (name version : String) (target : CapabilityLifecycle) (actor : String)
      (humanApproval : Bool)
  | promoteCollector (candidate : CollectorCandidate) (actor : String)

variable (canonicalHash env) in
def CapabilityOp.run : CapabilityOp → CapabilityOps CapabilityCard
  | .register card => registerCapability canonicalHash env card
  | .registerCollector candidate => registerCollectorCandidate canonicalHash env candidate
  | .promote name version target actor humanApproval =>
    promoteCapability canonicalHash env name version target actor humanApproval
  | .promoteCollector candidate actor => promoteCollectorToActiveRead canonicalHash env candidate actor

variable (canonicalHash env) in
/-- **Every operation keeps the invariant**, wherever it stops. -/
theorem capabilityOp_keeps (hinv : CapabilitySettled w) (op : CapabilityOp) :
    Prog.wp (op.run canonicalHash env) (fun _ w' => CapabilitySettled w') CapabilityStopped w := by
  cases op with
  | register card => exact registerCapability_keeps hinv card
  | registerCollector candidate => exact registerCollectorCandidate_keeps hinv candidate
  | promote name version target actor humanApproval =>
    exact promoteCapability_keeps hinv name version target actor humanApproval
  | promoteCollector candidate actor =>
    show Prog.wp (promoteCollectorToActiveRead canonicalHash env candidate actor) _ _ w
    apply wp_bind
    refine wp_mono (registerCollectorCandidate_keeps hinv candidate) ?_ fun _ _ h => h
    intro card w' hinv'
    exact promoteThrough_keeps actor readOnlyStages card hinv'

/-! ## Runs -/

inductive CapabilityAction where
  /-- An operation, and the point at which the process dies, if it does. -/
  | call (env : CapabilitySurroundings) (crashAt : Option Nat) (op : CapabilityOp)
  | restart
  /-- Another writer of the namespace. -/
  | foreign (now : Timestamp) (eventType idempotencyKey json : String)

/-- `CapabilityRegistry(ledgers)`, of the process that takes over. -/
def restartCapabilities (w : CapabilityWorld) : Option CapabilityWorld :=
  match hydrateCapabilities w.capabilityEvents with
  | .ok cards => some { w with cards }
  | .error _ => none

variable (canonicalHash) in
/-- One action. A call that died is followed by a restart. -/
def capabilityStep (w : CapabilityWorld) : CapabilityAction → Option CapabilityWorld
  | .call env crashAt op =>
    match op.run canonicalHash env crashAt w with
    | (.error .crashed, _, w') => restartCapabilities w'
    | (_, _, w') => some w'
  | .restart => restartCapabilities w
  | .foreign now eventType idempotencyKey json =>
    let event : CapabilityEvent :=
      ⟨w.nextEventId, .other eventType, idempotencyKey, now, .other json⟩
    some { w with
      capabilityEvents := (SqliteLedgers.append w.capabilityEvents event).2
      nextEventId := w.nextEventId + 1 }

variable (canonicalHash) in
def capabilityRun (w : CapabilityWorld) (acts : List CapabilityAction) : Option CapabilityWorld :=
  Runs.runFrom (capabilityStep canonicalHash) w acts

variable {w' : CapabilityWorld}

theorem restart_settled {cards : CapabilityCards} (hinv : CapabilityInv w.capabilityEvents cards)
    (h : restartCapabilities w = some w') : CapabilitySettled w' := by
  unfold restartCapabilities at h
  rw [hinv.replays] at h
  cases h
  exact hinv

theorem capabilityStep_settled {a : CapabilityAction} (hinv : CapabilitySettled w)
    (h : capabilityStep canonicalHash w a = some w') : CapabilitySettled w' := by
  cases a with
  | call env crashAt op =>
    obtain ⟨hok, herr⟩ :=
      wp_apply (capabilityOp_keeps canonicalHash env hinv op) crashAt
    simp only [capabilityStep] at h
    rcases hrun : op.run canonicalHash env crashAt w with ⟨r, n, w₁⟩
    simp only [hrun] at h
    cases r with
    | ok card =>
      cases h
      exact hok card n _ hrun
    | error stop =>
      obtain ⟨cards, hinv₁, hmemory⟩ := herr stop n w₁ hrun
      cases stop with
      | raised e =>
        cases h
        rw [← hmemory (by simp)] at hinv₁
        exact hinv₁
      | crashed => exact restart_settled hinv₁ h
  | restart => exact restart_settled hinv h
  | foreign now eventType idempotencyKey json =>
    cases h
    rcases SqliteLedgers.append_cases w.capabilityEvents
        (⟨w.nextEventId, .other eventType, idempotencyKey, now, .other json⟩ : CapabilityEvent)
      with ⟨e, happend⟩ | ⟨existing, -, -, -, happend⟩ | ⟨-, happend⟩
    · simp only [happend]
      exact hinv
    · simp only [happend]
      exact hinv
    · simp only [happend]
      exact hinv.foreign rfl rfl

theorem capabilityRun_settled {acts : List CapabilityAction}
    (hrun : capabilityRun canonicalHash .init acts = some w) : CapabilitySettled w := by
  have hinit : CapabilitySettled .init := capabilityInv_init
  exact Runs.run_invariant (fun _ _ _ hinv hstep => capabilityStep_settled hinv hstep) hinit hrun

/-! ## The broker -/

/-- An executor that is handed out has passed the checks. -/
theorem expose_ok {ε : Type} {request : ExposeRequest} {executor result : ε}
    (h : expose cards request executor = .ok result) : result = executor ∧
      ∃ card, cards.get (CapabilityCard.keyOf request.capabilityName request.capabilityVersion)
          = some card ∧
        card.lifecycle ∈ activeStages ∧
        normalizeAuthorityAction request.requestedAction ∈ card.allowedActions ∧
        isForbiddenAuthorityAction (normalizeAuthorityAction request.requestedAction) = false := by
  obtain ⟨card, hcard, h⟩ := ok_of_bind_ok h
  have hget : cards.get (CapabilityCard.keyOf request.capabilityName request.capabilityVersion)
      = some card := by
    unfold getCard at hcard
    split at hcard
    · next hget =>
      cases hcard
      exact hget
    · cases hcard
  dsimp only at h
  by_cases hactive : card.lifecycle ∉ activeStages
  · rw [if_pos hactive] at h
    cases h
  rw [if_neg hactive] at h
  by_cases hdeclared : normalizeAuthorityAction request.requestedAction ∉ card.allowedActions
  · rw [if_pos hdeclared] at h
    cases h
  rw [if_neg hdeclared] at h
  by_cases hforbidden :
      isForbiddenAuthorityAction (normalizeAuthorityAction request.requestedAction) = true
  · rw [if_pos hforbidden] at h
    cases h
  rw [if_neg hforbidden] at h
  rw [not_not] at hactive hdeclared
  rw [Bool.not_eq_true] at hforbidden
  refine ⟨?_, card, hget, hactive, hdeclared, hforbidden⟩
  split at h
  · cases h
  · split at h
    · cases h
      rfl
    · split at h
      · cases h
      · split at h
        · cases h
        · cases h
          rfl

/-- The registry holds the card that was asked for: under a text that names it and no
other. -/
def HoldsRequested (cards : CapabilityCards) (request : ExposeRequest) : Prop :=
  ∃ card, cards.get (CapabilityCard.keyOf request.capabilityName request.capabilityVersion)
      = some card ∧
    card.name = request.capabilityName ∧ card.capabilityVersion = request.capabilityVersion

/-- What an exposure should come to: the card that was asked for has come through every
stage, it declares the action, and the action is no spelling of a forbidden one. -/
def ProperlyExposed (w : CapabilityWorld) (request : ExposeRequest) : Prop :=
  ∃ card, w.cards.get (CapabilityCard.keyOf request.capabilityName request.capabilityVersion)
      = some card ∧
    card.name = request.capabilityName ∧ card.capabilityVersion = request.capabilityVersion ∧
    PassedInOrder w.capabilityEvents card ∧ card.lifecycle ∈ activeStages ∧
    normalizeAuthorityAction request.requestedAction ∈ card.allowedActions ∧
    ¬SpellsForbidden request.requestedAction

/-- **What is exposed.** In every run of operations that may raise, crash and restart, an
executor is handed out only for a card that has come through every stage in order and
declares the action. It is the card that was asked for and no spelling of a forbidden
action, exactly when the card under the text of the request has its name and version,
and the action does not run words of `change_risk_limit` together. -/
theorem exposed_iff {acts : List CapabilityAction}
    (hrun : capabilityRun canonicalHash .init acts = some w) {ε : Type} {request : ExposeRequest}
    {executor result : ε} (hexposed : expose w.cards request executor = .ok result) :
    (∃ card, w.cards.get (CapabilityCard.keyOf request.capabilityName request.capabilityVersion)
        = some card ∧ PassedInOrder w.capabilityEvents card ∧ card.lifecycle ∈ activeStages ∧
      normalizeAuthorityAction request.requestedAction ∈ card.allowedActions) ∧
    (ProperlyExposed w request ↔ HoldsRequested w.cards request ∧
      normalizeAuthorityAction request.requestedAction ∉ runTogetherRiskLimit) := by
  have hinv := capabilityRun_settled hrun
  obtain ⟨-, card, hget, hactive, hdeclared, hforbidden⟩ := expose_ok hexposed
  have hpassed : PassedInOrder w.capabilityEvents card := by
    refine hinv.passed _ card hget ?_
    intro hdeprecated
    rw [hdeprecated] at hactive
    exact absurd hactive (by decide)
  refine ⟨⟨card, hget, hpassed, hactive, hdeclared⟩, ?_⟩
  constructor
  · rintro ⟨held, hheld, hname, hversion, -, -, -, hspelling⟩
    refine ⟨⟨held, hheld, hname, hversion⟩, ?_⟩
    intro htogether
    exact hspelling (runTogether_spells htogether)
  · rintro ⟨⟨held, hheld, hname, hversion⟩, htogether⟩
    rw [hget] at hheld
    cases hheld
    refine ⟨card, hget, hname, hversion, hpassed, hactive, hdeclared, ?_⟩
    intro hspelling
    have hrejected := (spelling_rejected_iff hspelling).mpr htogether
    rw [hforbidden] at hrejected
    cases hrejected

end Runs

/-! ## Paper capabilities -/

def paperCapability (name version action : String)
    (h : normalizeAuthorityAction action = action ∧ isForbiddenAuthorityAction action = false ∧
      ∀ text ∈ [name, version, action], isBlank text = false) : CapabilityCard where
  artifactId := 1
  createdAt := 0
  name := name
  capabilityVersion := version
  lifecycle := .gap
  inputs := ["snapshot"]
  outputs := ["observations"]
  allowedActions := [action]
  resourceEnvelope := "small"
  latencyClass := "bounded"
  deterministic := true
  testReferences := ["contract:1", "security:1", "performance:1"]
  allowedActions_normal := by
    refine ⟨[action], ?_, ?_⟩
    · rw [map_singleton, h.1]
    · intro given hgiven
      rw [mem_singleton.mp hgiven]
      exact h.2.2 action (by simp)
  allowedActions_allowed := by
    intro found hfound
    rw [mem_singleton.mp hfound]
    exact h.2.1
  allowedActions_nodup := nodup_singleton _
  texts_ne := by
    intro text htext
    simp only [mem_cons, not_mem_nil, or_false] at htext
    rcases htext with rfl | rfl | rfl | rfl
    · exact h.2.2 _ (by simp)
    · exact h.2.2 _ (by simp)
    · decide
    · decide
  inputs_ne := oneItem_ne "snapshot"
  outputs_ne := oneItem_ne "observations"

def ungatedRegistry : CapabilitySurroundings := ⟨0, 1, none, fun _ => none⟩

def activation (card : CapabilityCard) : List CapabilityAction :=
  .call ungatedRegistry none (.register card)
    :: readOnlyStages.map (fun stage => .call ungatedRegistry none
      (.promote card.name card.capabilityVersion stage "reviewer" false)) ++ [.restart]

def readerCard : CapabilityCard :=
  paperCapability "reader" "v1" "read_source" (by decide +kernel)

def readerRequest : ExposeRequest := ⟨"reader", "v1", "readSource", "builder", some ["small"]⟩

/-- A capability that runs the words of `change_risk_limit` together, and one whose name
has a colon. -/
def riskCard : CapabilityCard :=
  paperCapability "tool" "v1" "changerisklimit" (by decide +kernel)

def riskRequest : ExposeRequest := ⟨"tool", "v1", "changerisklimit", "builder", none⟩

def colonCard : CapabilityCard :=
  paperCapability "tool:v1" "2" "read_source" (by decide +kernel)

def colonRequest : ExposeRequest := ⟨"tool", "v1:2", "read_source", "builder", none⟩

/-- A reader that has come through every stage is exposed. -/
theorem exposed_iff_reader : ∃ w,
    capabilityRun (fun _ => paperDigest) .init (activation readerCard) = some w ∧
    ProperlyExposed w readerRequest := by
  obtain ⟨w, hrun, hcheck⟩ := (Option.any_eq_true _ _).mp (show (capabilityRun (fun _ => paperDigest)
    .init (activation readerCard)).any (fun w =>
      decide ((expose w.cards readerRequest ()).toOption = some () ∧
        (w.cards.get "reader:v1").any fun card =>
          decide (card.name = "reader" ∧ card.capabilityVersion = "v1"))) = true by decide +kernel)
  obtain ⟨hexposed, hheld⟩ := of_decide_eq_true hcheck
  obtain ⟨card, hget, hidentity⟩ := (Option.any_eq_true _ _).mp hheld
  exact ⟨w, hrun, (exposed_iff hrun (ok_of_toOption hexposed)).2.mpr
    ⟨⟨card, hget, of_decide_eq_true hidentity⟩, by decide +kernel⟩⟩

/-- **Exposed, and should not be.** A spelling of `change_risk_limit` is handed an
executor; and a capability that was never registered is, under the text of another. -/
theorem improperly_exposed :
    (∃ w, capabilityRun (fun _ => paperDigest) .init (activation riskCard) = some w ∧
      expose w.cards riskRequest () = .ok () ∧ SpellsForbidden riskRequest.requestedAction ∧
      ¬ProperlyExposed w riskRequest) ∧
    (∃ w, capabilityRun (fun _ => paperDigest) .init (activation colonCard) = some w ∧
      expose w.cards colonRequest () = .ok () ∧
      (∀ card ∈ w.cards.values, card.name ≠ colonRequest.capabilityName) ∧
      ¬ProperlyExposed w colonRequest) := by
  constructor
  · obtain ⟨w, hrun, hexposed⟩ := (Option.any_eq_true _ _).mp (show (capabilityRun
      (fun _ => paperDigest) .init (activation riskCard)).any (fun w =>
        decide ((expose w.cards riskRequest ()).toOption = some ())) = true by decide +kernel)
    have hspelling : SpellsForbidden riskRequest.requestedAction := by decide +kernel
    refine ⟨w, hrun, ok_of_toOption (of_decide_eq_true hexposed), hspelling, ?_⟩
    rintro ⟨_, _, _, _, _, _, _, hnot⟩
    exact hnot hspelling
  · obtain ⟨w, hrun, hcheck⟩ := (Option.any_eq_true _ _).mp (show (capabilityRun
      (fun _ => paperDigest) .init (activation colonCard)).any (fun w =>
        decide ((expose w.cards colonRequest ()).toOption = some () ∧
          ∀ card ∈ w.cards.values, card.name ≠ colonRequest.capabilityName)) = true
      by decide +kernel)
    obtain ⟨hexposed, hnames⟩ := of_decide_eq_true hcheck
    refine ⟨w, hrun, ok_of_toOption hexposed, hnames, ?_⟩
    rintro ⟨card, hget, hname, -⟩
    exact hnames card (mem_values_iff.mpr ⟨_, hget⟩) hname

end AdvisorAI
