import AdvisorAI.Models.Authority

/-!
# Disabled models

`ModelAdvance` says once what an operation can do to the ledger and the records: it
leaves both alone, or stores one event and the record the event replays to.
From it follow that the records are always what the ledger replays to
(`ModelInv`), and that a model which has been disabled stays without authority
(`Benched`) under everything but a promotion to champion.

`disabled_stays_benched` is the law over runs with restarts and processes that
die between the ledger and the memory. `promotion_restores_authority` is the
run that shows why the promotion has to be excluded: the new record of
`promote` drops the reason for which the model was disabled.
-/

namespace AdvisorAI

open Lib Prog Dict Option
open List hiding after

inductive ModelOp where
  | register (card : ModelCard)
  | disable (modelName modelVersion reason : String)
  | promote (modelName modelVersion target : String) (evidence : ModelAdmissionEvidence)

section Inventory

variable (canonicalHash : ModelCard → Digest)

def ModelOp.run (env : InventorySurroundings) : ModelOp → ModelOps ModelAuthority
  | .register card => registerModel canonicalHash env card
  | .disable name version reason => disableModel canonicalHash env name version reason
  | .promote name version target evidence =>
    promoteModel canonicalHash env name version target evidence

/-! ## What an operation can do -/

/-- An event of the inventory that is new to the ledger. -/
structure NewModelEvent (events : List ModelEvent) (e : ModelEvent) (card : ModelCard)
    (eventType : ModelEventType) (actor : String) (reason : Option String)
    (evidence : Option ModelAdmissionEvidence) : Prop where
  type_eq : e.eventType = eventType
  payload_eq : e.payload = .card card actor reason evidence
  key_eq : e.idempotencyKey = modelKey canonicalHash card eventType
  key_new : ∀ x ∈ events, x.idempotencyKey ≠ e.idempotencyKey

/-- From a ledger and its records, an operation gets to a ledger and its records. -/
inductive ModelAdvance (env : InventorySurroundings) (events : List ModelEvent)
    (models : ModelRecords) : ModelOp → List ModelEvent → ModelRecords → Prop
  | same (op : ModelOp) : ModelAdvance env events models op events models
  | registered (card : ModelCard) (e : ModelEvent)
      (hstate : card.lifecycleState ∈ lifecycleStates) (hnew : models.get card.key = none)
      (hevent : NewModelEvent canonicalHash events e card .modelRegistered "inventory" none none) :
      ModelAdvance env events models (.register card) (events ++ [e]) (models.set card.key ⟨card, none⟩)
  | disabled (name version reason : String) (prior : ModelAuthority) (e : ModelEvent)
      (hreason : strip reason ≠ "")
      (hprior : models.get (strip name, strip version) = some prior)
      (hevent : NewModelEvent canonicalHash events e prior.card .modelDisabled "operator"
        (some (strip reason)) none) :
      ModelAdvance env events models (.disable name version reason) (events ++ [e])
        (models.set (strip name, strip version) ⟨prior.card, some (strip reason)⟩)
  | promoted (name version target : String) (evidence : ModelAdmissionEvidence)
      (prior : ModelAuthority) (e : ModelEvent)
      (hprior : models.get (strip name, strip version) = some prior)
      (hgate : gateCheck env (lower (strip target)) = .ok ())
      (hvalid : validatePromotion prior.card (prior.card.promoted (lower (strip target)) evidence)
        evidence = .ok ())
      (hevent : NewModelEvent canonicalHash events e
        (prior.card.promoted (lower (strip target)) evidence) .modelPromoted evidence.reviewer none
        (some evidence)) :
      ModelAdvance env events models (.promote name version target evidence) (events ++ [e])
        (models.set (strip name, strip version)
          ⟨prior.card.promoted (lower (strip target)) evidence, none⟩)

/-! ## The invariant -/

/-- How far a card has come in the lifecycle. -/
def ModelCard.rank (card : ModelCard) : Nat := lifecycleOrder.idxOf card.lifecycleState

/-- The record of a card is still the one an event left, or the card has moved on. -/
def StillHolds (e : ModelEvent) (card : ModelCard) (reason : Option String) (a : ModelAuthority) :
    Prop :=
  a.card = card ∧ (e.eventType = .modelDisabled → a.disabledReason = reason)
    ∨ card.rank < a.card.rank

structure ModelInv (events : List ModelEvent) (models : ModelRecords) : Prop where
  keyed : ∀ k a, models.get k = some a → a.card.key = k
  replays : hydrateModels events = .ok models
  current : ∀ e ∈ events, ∀ card actor reason evidence,
    e.payload = .card card actor reason evidence →
      ∃ a, models.get card.key = some a ∧ StillHolds e card reason a
  keys : ∀ e ∈ events, ∀ card actor reason evidence,
    e.payload = .card card actor reason evidence →
      e.idempotencyKey = modelKey canonicalHash card e.eventType

theorem modelInv_init : ModelInv canonicalHash [] Dict.empty where
  keyed := by
    intro k a h
    cases h
  replays := rfl
  current := fun _ h => absurd h not_mem_nil
  keys := fun _ h => absurd h not_mem_nil

variable {canonicalHash} {env : InventorySurroundings} {events : List ModelEvent}
  {models : ModelRecords}

variable {prior updated card : ModelCard}

theorem validatePromotion_rank {evidence : ModelAdmissionEvidence}
    (h : validatePromotion prior updated evidence = .ok ()) :
    updated.lifecycleState ∈ lifecycleOrder ∧ prior.lifecycleState ∈ lifecycleOrder ∧
      updated.rank = prior.rank + 1 := by
  unfold validatePromotion at h
  split at h
  · cases h
  split at h
  · cases h
  split at h
  · cases h
  next hmem =>
    split at h
    · cases h
    next hnext =>
      rw [not_or, not_not, not_not] at hmem
      rw [Bool.not_eq_false] at hnext
      exact ⟨hmem.2, hmem.1, of_decide_eq_true hnext⟩

variable {a : ModelAuthority}

variable {actor name json version reason : String} {evidence : Option ModelAdmissionEvidence}

variable {eventType : ModelEventType}

/-- The parts of the invariant that speak of the events, after one more event. -/
theorem ModelInv.snoc (hinv : ModelInv canonicalHash events models) {e : ModelEvent}
    {reason : Option String}
    (hevent : NewModelEvent canonicalHash events e card eventType actor reason evidence)
    (hkey : a.card.key = card.key) (hstep : hydrateModel models e = .ok (models.set card.key a))
    (hnew : StillHolds e card reason a)
    (hold : ∀ x ∈ events, ∀ c act r ev, x.payload = .card c act r ev → c.key = card.key →
      StillHolds x c r a) :
    ModelInv canonicalHash (events ++ [e]) (models.set card.key a) where
  keyed := by
    intro k b hb
    rw [get_set] at hb
    by_cases hk : k = card.key
    · rw [if_pos hk] at hb
      cases hb
      exact hkey.trans hk.symm
    · rw [if_neg hk] at hb
      exact hinv.keyed k b hb
  replays := by
    have hreplay := hinv.replays
    unfold hydrateModels at hreplay ⊢
    rw [Journal.replay_concat, hreplay]
    exact hstep
  current := by
    intro x hx c act r ev hpayload
    rcases mem_append.mp hx with hmem | hlast
    · by_cases hk : c.key = card.key
      · rw [hk, get_set_self]
        exact ⟨a, rfl, hold x hmem c act r ev hpayload hk⟩
      · rw [get_set_ne _ hk]
        exact hinv.current x hmem c act r ev hpayload
    · rw [mem_singleton.mp hlast] at hpayload ⊢
      rw [hevent.payload_eq] at hpayload
      cases hpayload
      rw [get_set_self]
      exact ⟨a, rfl, hnew⟩
  keys := by
    intro x hx c act r ev hpayload
    rcases mem_append.mp hx with hmem | hlast
    · exact hinv.keys x hmem c act r ev hpayload
    · rw [mem_singleton.mp hlast] at hpayload ⊢
      rw [hevent.payload_eq] at hpayload
      cases hpayload
      rw [hevent.key_eq, hevent.type_eq]

theorem ModelInv.foreign (hinv : ModelInv canonicalHash events models) {e : ModelEvent}
    (htype : e.eventType = .other name) (hpayload : e.payload = .other json) :
    ModelInv canonicalHash (events ++ [e]) models where
  keyed := hinv.keyed
  replays := by
    have hreplay := hinv.replays
    unfold hydrateModels at hreplay ⊢
    rw [Journal.replay_concat, hreplay]
    show hydrateModel models e = .ok models
    unfold hydrateModel
    rw [htype]
  current := by
    intro x hx c act r ev hx'
    rcases mem_append.mp hx with hmem | hlast
    · exact hinv.current x hmem c act r ev hx'
    · rw [mem_singleton.mp hlast, hpayload] at hx'
      cases hx'
  keys := by
    intro x hx c act r ev hx'
    rcases mem_append.mp hx with hmem | hlast
    · exact hinv.keys x hmem c act r ev hx'
    · rw [mem_singleton.mp hlast, hpayload] at hx'
      cases hx'

variable {models' : ModelRecords} {events' : List ModelEvent}

/-- **An operation keeps the invariant.** -/
theorem ModelAdvance.inv {op : ModelOp} (hinv : ModelInv canonicalHash events models)
    (h : ModelAdvance canonicalHash env events models op events' models') :
    ModelInv canonicalHash events' models' := by
  cases h with
  | same => exact hinv
  | registered card e hstate hnew hevent =>
    refine hinv.snoc (a := ⟨card, none⟩) hevent rfl ?_ ?_ ?_
    · unfold hydrateModel
      rw [hevent.type_eq, hevent.payload_eq]
      simp [hnew, hstate]
    · exact Or.inl ⟨rfl, fun _ => rfl⟩
    · -- a new model has no event yet
      intro x hx c act r ev hpayload hk
      obtain ⟨a, ha, -⟩ := hinv.current x hx c act r ev hpayload
      rw [hk, hnew] at ha
      cases ha
  | disabled name version reason prior e hreason hprior hevent =>
    have hk := hinv.keyed _ _ hprior
    rw [← hk]
    refine hinv.snoc (a := ⟨prior.card, some (strip reason)⟩) hevent rfl ?_ ?_ ?_
    · unfold hydrateModel
      rw [hevent.type_eq, hevent.payload_eq]
      simp only [hk, hprior, reduceCtorEq, if_false]
      rw [strip_strip, if_neg hreason]
    · exact Or.inl ⟨rfl, fun _ => rfl⟩
    · -- an earlier disablement of the same card would have the same key
      intro x hx c act r ev hpayload hck
      obtain ⟨a, ha, hholds⟩ := hinv.current x hx c act r ev hpayload
      rw [hck, hk, hprior] at ha
      cases ha
      rcases hholds with ⟨hcard, -⟩ | hrank
      · left
        refine ⟨hcard, ?_⟩
        intro htype
        exfalso
        apply hevent.key_new x hx
        rw [hinv.keys x hx c act r ev hpayload, hevent.key_eq, htype, hcard]
      · exact Or.inr hrank
  | promoted name version target evidence prior e hprior hgate hvalid hevent =>
    have hk : (prior.card.promoted (lower (strip target)) evidence).key
        = (strip name, strip version) := by
      rw [ModelCard.promoted_key]
      exact hinv.keyed _ _ hprior
    obtain ⟨-, -, hrank⟩ := validatePromotion_rank hvalid
    rw [← hk]
    refine hinv.snoc (a := ⟨prior.card.promoted (lower (strip target)) evidence, none⟩) hevent rfl
      ?_ ?_ ?_
    · unfold hydrateModel
      rw [hevent.type_eq, hevent.payload_eq]
      simp only [hk, hprior, hvalid]
    · exact Or.inl ⟨rfl, fun _ => rfl⟩
    · intro x hx c act r ev hpayload hck
      obtain ⟨a, ha, hholds⟩ := hinv.current x hx c act r ev hpayload
      rw [hck, hk, hprior] at ha
      cases ha
      right
      rcases hholds with ⟨hcard, -⟩ | hlt
      · rw [hrank, hcard]
        exact Nat.lt_succ_self _
      · rw [hrank]
        exact Nat.lt_succ_of_lt hlt

/-! ## The operations advance -/

variable (canonicalHash env) in
/-- An operation that returns leaves a ledger and records it advanced to. -/
def InventorySettles (w : ModelWorld) (op : ModelOp) (_ : ModelAuthority) (w' : ModelWorld) : Prop :=
  ModelAdvance canonicalHash env w.modelEvents w.models op w'.modelEvents w'.models

variable (canonicalHash env) in
/-- One that stops does too; a process that died may not have the records in memory. -/
def InventoryStops (w : ModelWorld) (op : ModelOp) (stop : Stop PyError) (w' : ModelWorld) : Prop :=
  ∃ models', ModelAdvance canonicalHash env w.modelEvents w.models op w'.modelEvents models' ∧
    (stop ≠ .crashed → w'.models = models')

variable {w : ModelWorld} {op : ModelOp}

theorem settles_same : InventorySettles canonicalHash env w op a w := .same op

theorem stops_same {stop : Stop PyError} : InventoryStops canonicalHash env w op stop w :=
  ⟨w.models, .same op, fun _ => rfl⟩

variable {key : String × String}

/-- The last lines of an operation: store the event, then the record. An event
that is already stored has left the record it would leave again. -/
theorem wp_store {reason : Option String}
    (hnew : ∀ e, NewModelEvent canonicalHash w.modelEvents e card eventType actor reason evidence →
      ModelAdvance canonicalHash env w.modelEvents w.models op (w.modelEvents ++ [e])
        (w.models.set key a)) (hstored : ∀ e ∈ w.modelEvents, e.eventType = eventType →
      e.payload = .card card actor reason evidence → w.models.set key a = w.models) :
    Prog.wp (do
      recordModel canonicalHash env card eventType actor reason evidence
      setModel key a
      pure a) (InventorySettles canonicalHash env w op) (InventoryStops canonicalHash env w op) w := by
  apply wp_bind
  apply wp_atomic stops_same
  dsimp only
  rcases SqliteLedgers.append_cases w.modelEvents ⟨w.nextEventId, eventType,
      modelKey canonicalHash card eventType, env.now, .card card actor reason evidence⟩
    with ⟨e, happend⟩ | ⟨existing, hmem, htype, hpayload, happend⟩ | ⟨hkey, happend⟩
  · rw [happend]
    exact ⟨w.models, .same op, fun _ => rfl⟩
  · rw [happend]
    apply wp_bind
    apply wp_atomic ⟨w.models, .same op, fun h => absurd rfl h⟩
    apply wp_pure
    show ModelAdvance canonicalHash env w.modelEvents w.models op w.modelEvents (w.models.set key a)
    rw [hstored existing hmem htype hpayload]
    exact .same op
  · rw [happend]
    have hadvance := hnew _ ⟨rfl, rfl, rfl, hkey⟩
    apply wp_bind
    apply wp_atomic ⟨_, hadvance, fun h => absurd rfl h⟩
    exact wp_pure hadvance

theorem wp_getModel {Q : ModelAuthority → ModelWorld → Prop}
    (h : ∀ prior, w.models.get key = some prior → Q prior w) :
    Prog.wp (getModel key) Q (InventoryStops canonicalHash env w op) w := by
  apply wp_bind
  apply wp_read
  cases hget : w.models.get key with
  | none => exact wp_raise stops_same
  | some prior => exact wp_pure (h prior hget)

theorem registerModel_advances (hinv : ModelInv canonicalHash w.modelEvents w.models)
    (card : ModelCard) : Prog.wp (registerModel canonicalHash env card)
      (InventorySettles canonicalHash env w (.register card))
      (InventoryStops canonicalHash env w (.register card)) w := by
  apply wp_ite
  · intro _
    exact wp_raise stops_same
  · intro hstate
    rw [not_not] at hstate
    apply wp_bind
    apply wp_read
    cases hget : w.models.get card.key with
    | some prior =>
      apply wp_ite
      · intro _
        exact wp_raise stops_same
      · intro _
        exact wp_pure settles_same
    | none =>
      apply wp_store
      · intro e hevent
        exact .registered card e hstate hget hevent
      · -- a model with an event has a record
        intro e he _ hpayload
        obtain ⟨a, ha, -⟩ := hinv.current e he _ _ _ _ hpayload
        rw [hget] at ha
        cases ha

theorem disableModel_advances (hinv : ModelInv canonicalHash w.modelEvents w.models)
    (name version reason : String) : Prog.wp (disableModel canonicalHash env name version reason)
      (InventorySettles canonicalHash env w (.disable name version reason))
      (InventoryStops canonicalHash env w (.disable name version reason)) w := by
  apply wp_ite
  · intro _
    exact wp_raise stops_same
  · intro hblank
    rw [not_or, not_or] at hblank
    apply wp_bind
    apply wp_getModel
    intro prior hprior
    apply wp_store
    · intro e hevent
      exact .disabled name version reason prior e hblank.2.2 hprior hevent
    · -- the same disablement of the same card
      intro e he htype hpayload
      obtain ⟨a, ha, hholds⟩ := hinv.current e he _ _ _ _ hpayload
      rw [hinv.keyed _ _ hprior, hprior] at ha
      cases ha
      rcases hholds with ⟨-, hreason⟩ | hrank
      · apply set_of_get_eq
        rw [hprior, ← hreason htype]
      · exact absurd hrank (Nat.lt_irrefl _)

theorem promoteModel_advances (hinv : ModelInv canonicalHash w.modelEvents w.models)
    (name version target : String) (evidence : ModelAdmissionEvidence) :
    Prog.wp (promoteModel canonicalHash env name version target evidence)
      (InventorySettles canonicalHash env w (.promote name version target evidence))
      (InventoryStops canonicalHash env w (.promote name version target evidence)) w := by
  apply wp_ite
  · intro _
    exact wp_raise stops_same
  · intro _
    apply wp_bind
    apply wp_getModel
    intro prior hprior
    apply wp_ite
    · intro _
      exact wp_raise stops_same
    · intro _
      apply wp_bind
      refine wp_lift ?_ fun _ _ => stops_same
      intro _ hgate
      apply wp_bind
      refine wp_lift ?_ fun _ _ => stops_same
      intro _ _
      apply wp_bind
      refine wp_lift ?_ fun _ _ => stops_same
      intro _ hvalid
      apply wp_store
      · intro e hevent
        exact .promoted name version target evidence prior e hprior hgate hvalid hevent
      · -- a card that was promoted to this state is not below it
        intro e he _ hpayload
        obtain ⟨a, ha, hholds⟩ := hinv.current e he _ _ _ _ hpayload
        rw [ModelCard.promoted_key, hinv.keyed _ _ hprior, hprior] at ha
        cases ha
        obtain ⟨-, -, hrank⟩ := validatePromotion_rank hvalid
        rcases hholds with ⟨hcard, -⟩ | hlt
        · rw [← hcard] at hrank
          exact absurd hrank (Nat.ne_of_lt (Nat.lt_succ_self _))
        · rw [hrank] at hlt
          exact absurd hlt (Nat.not_lt_of_lt (Nat.lt_succ_self _))

variable (env) in
/-- **Every operation advances.** -/
theorem op_advances (hinv : ModelInv canonicalHash w.modelEvents w.models) (op : ModelOp) :
    Prog.wp (op.run canonicalHash env) (InventorySettles canonicalHash env w op)
      (InventoryStops canonicalHash env w op) w := by
  cases op with
  | register card => exact registerModel_advances hinv card
  | disable name version reason => exact disableModel_advances hinv name version reason
  | promote name version target evidence =>
    exact promoteModel_advances hinv name version target evidence

/-! ## Authority -/

variable (env) in
/-- The operation promotes the model to champion: its card stands at `paper` and
the checks of `promote` pass. -/
def PromotesToChampion (models : ModelRecords) (key : String × String) : ModelOp → Prop
  | .promote name version target evidence =>
    (strip name, strip version) = key ∧ lower (strip target) = "champion" ∧
      gateCheck env "champion" = .ok () ∧ ∃ prior, models.get key = some prior ∧
        prior.card.lifecycleState = "paper" ∧
        validatePromotion prior.card (prior.card.promoted "champion" evidence) evidence = .ok ()
  | _ => False

/-- The model is authoritative in an inventory with these records. -/
def AuthoritativeIn (models : ModelRecords) (key : String × String) : Prop :=
  ∃ a, models.get key = some a ∧ a.authoritative = true

/-- What a model keeps once it was disabled: the reason, or a place in the
lifecycle to which a promotion has moved it that carries no authority. -/
def Benched (models : ModelRecords) (key : String × String) : Prop :=
  ∃ a, models.get key = some a ∧
    (a.disabledReason.isSome ∨ a.card.lifecycleState ∈ ["shadow", "paper"])

theorem Benched.not_authoritative (h : Benched models key) : ¬AuthoritativeIn models key := by
  intro ⟨b, hb, hauth⟩
  obtain ⟨a, ha, hbench⟩ := h
  rw [ha] at hb
  cases hb
  unfold ModelAuthority.authoritative authoritativeStates at hauth
  rw [Bool.and_eq_true] at hauth
  obtain ⟨hnone, hstate⟩ := hauth
  rcases hbench with hsome | hplace
  · rw [of_decide_eq_true hnone] at hsome
    cases hsome
  · have hstate := of_decide_eq_true hstate
    simp only [mem_cons, not_mem_nil, or_false] at hplace hstate
    rcases hplace with hp | hp
    · rw [hp] at hstate
      exact absurd hstate (by decide)
    · rw [hp] at hstate
      exact absurd hstate (by decide)

/-- The state after `challenger` or `shadow` is one without authority; the state
after `paper` is `champion`. -/
theorem promoted_state {evidence : ModelAdmissionEvidence}
    (h : validatePromotion prior updated evidence = .ok ()) :
    updated.lifecycleState ∈ ["shadow", "paper"]
      ∨ prior.lifecycleState = "paper" ∧ updated.lifecycleState = "champion" := by
  obtain ⟨hupdated, hprior, hrank⟩ := validatePromotion_rank h
  have hall : ∀ p ∈ lifecycleOrder, ∀ u ∈ lifecycleOrder,
      lifecycleOrder.idxOf u = lifecycleOrder.idxOf p + 1 →
        u ∈ ["shadow", "paper"] ∨ p = "paper" ∧ u = "champion" := by
    decide
  exact hall _ hprior _ hupdated hrank

/-- **What an operation does to a benched model.** -/
theorem ModelAdvance.benched {op : ModelOp} (hbench : Benched models key)
    (hop : ¬PromotesToChampion env models key op)
    (h : ModelAdvance canonicalHash env events models op events' models') :
    Benched models' key := by
  obtain ⟨a, ha, hplace⟩ := hbench
  cases h with
  | same => exact ⟨a, ha, hplace⟩
  | registered card e hstate hnew hevent =>
    have hne : key ≠ card.key := by
      intro heq
      rw [heq, hnew] at ha
      cases ha
    exact ⟨a, by rw [get_set_ne _ hne, ha], hplace⟩
  | disabled name version reason prior e hreason hprior hevent =>
    by_cases heq : key = (strip name, strip version)
    · rw [heq]
      exact ⟨_, get_set_self _ _ _, Or.inl rfl⟩
    · exact ⟨a, by rw [get_set_ne _ heq, ha], hplace⟩
  | promoted name version target evidence prior e hprior hgate hvalid hevent =>
    by_cases heq : key = (strip name, strip version)
    · rw [heq]
      refine ⟨_, get_set_self _ _ _, Or.inr ?_⟩
      rcases promoted_state hvalid with hstate | ⟨hpaper, hchampion⟩
      · exact hstate
      · rw [ModelCard.promoted_lifecycleState] at hchampion
        rw [hchampion] at hgate hvalid
        exact absurd ⟨heq.symm, hchampion, hgate, prior, heq ▸ hprior, hpaper, hvalid⟩ hop
    · exact ⟨a, by rw [get_set_ne _ heq, ha], hplace⟩

/-! ## Runs -/

inductive ModelAction where
  /-- An operation, and the point at which the process dies, if it does. -/
  | call (env : InventorySurroundings) (crashAt : Option Nat) (op : ModelOp)
  | restart
  /-- Another writer of the namespace. -/
  | foreign (now : Timestamp) (eventType idempotencyKey json : String)

/-- `ModelInventory(ledgers)`, of the process that takes over. -/
def restartModels (w : ModelWorld) : Option ModelWorld :=
  match hydrateModels w.modelEvents with
  | .ok models => some { w with models }
  | .error _ => none

variable (canonicalHash) in
/-- One action. A call that died is followed by a restart. -/
def modelStep (w : ModelWorld) : ModelAction → Option ModelWorld
  | .call env crashAt op =>
    match op.run canonicalHash env crashAt w with
    | (.error .crashed, _, w') => restartModels w'
    | (_, _, w') => some w'
  | .restart => restartModels w
  | .foreign now eventType idempotencyKey json =>
    let event : ModelEvent := ⟨w.nextEventId, .other eventType, idempotencyKey, now, .other json⟩
    some { w with
      modelEvents := (SqliteLedgers.append w.modelEvents event).2
      nextEventId := w.nextEventId + 1 }

variable (canonicalHash) in
def modelRun (w : ModelWorld) (acts : List ModelAction) : Option ModelWorld :=
  Runs.runFrom (modelStep canonicalHash) w acts

/-- The promotion of a model to champion, as an action. -/
def ChampionPromotion (key : String × String) (w : ModelWorld) : ModelAction → Prop
  | .call env _ op => PromotesToChampion env w.models key op
  | _ => False

variable {w' : ModelWorld}

theorem restart_records (hinv : ModelInv canonicalHash w.modelEvents models')
    (h : restartModels w = some w') : w'.modelEvents = w.modelEvents ∧ w'.models = models' := by
  unfold restartModels at h
  rw [hinv.replays] at h
  cases h
  exact ⟨rfl, rfl⟩

/-- **What a step can do**: a call advances, whether it returns, raises or dies;
a restart finds the records that were there; another writer touches none. -/
theorem modelStep_cases {a : ModelAction} (hinv : ModelInv canonicalHash w.modelEvents w.models)
    (h : modelStep canonicalHash w a = some w') :
    ModelInv canonicalHash w'.modelEvents w'.models ∧
      (w'.models = w.models ∨ ∃ env crashAt op, a = .call env crashAt op ∧
        ModelAdvance canonicalHash env w.modelEvents w.models op w'.modelEvents w'.models) := by
  cases a with
  | call env crashAt op =>
    obtain ⟨hok, herr⟩ := wp_apply (op_advances env hinv op) crashAt
    simp only [modelStep] at h
    rcases hrun : op.run canonicalHash env crashAt w with ⟨r, n, w₁⟩
    simp only [hrun] at h
    cases r with
    | ok a =>
      cases h
      have hadvance := hok a n _ hrun
      exact ⟨hadvance.inv hinv, Or.inr ⟨env, crashAt, op, rfl, hadvance⟩⟩
    | error stop =>
      obtain ⟨models', hadvance, hmemory⟩ := herr stop n w₁ hrun
      cases stop with
      | raised e =>
        cases h
        rw [← hmemory (by simp)] at hadvance
        exact ⟨hadvance.inv hinv, Or.inr ⟨env, crashAt, op, rfl, hadvance⟩⟩
      | crashed =>
        obtain ⟨hevents, hmodels⟩ := restart_records (hadvance.inv hinv) h
        rw [hevents, hmodels]
        exact ⟨hadvance.inv hinv, Or.inr ⟨env, crashAt, op, rfl, hadvance⟩⟩
  | restart =>
    obtain ⟨hevents, hmodels⟩ := restart_records hinv h
    rw [hevents, hmodels]
    exact ⟨hinv, Or.inl rfl⟩
  | foreign now eventType idempotencyKey json =>
    cases h
    refine ⟨?_, Or.inl rfl⟩
    rcases SqliteLedgers.append_cases w.modelEvents
        (⟨w.nextEventId, .other eventType, idempotencyKey, now, .other json⟩ : ModelEvent)
      with ⟨e, happend⟩ | ⟨existing, -, -, -, happend⟩ | ⟨-, happend⟩
    · simp only [happend]
      exact hinv
    · simp only [happend]
      exact hinv
    · simp only [happend]
      exact hinv.foreign rfl rfl

theorem modelInv_of_run {acts : List ModelAction}
    (hrun : modelRun canonicalHash .init acts = some w) :
    ModelInv canonicalHash w.modelEvents w.models := by
  refine Runs.run_invariant
    (I := fun s : ModelWorld => ModelInv canonicalHash s.modelEvents s.models) ?_
    (modelInv_init canonicalHash) hrun
  intro s a s' hinv hstep
  exact (modelStep_cases hinv hstep).1

/-- A call of `disable` that returned has benched the model. -/
theorem disableModel_benched (hinv : ModelInv canonicalHash w.modelEvents w.models)
    (hrun : Prog.run (disableModel canonicalHash env name version reason) w = (.ok a, w')) :
    ModelInv canonicalHash w'.modelEvents w'.models ∧
      Benched w'.models (strip name, strip version) := by
  have hreturns : Prog.wp (disableModel canonicalHash env name version reason)
      (fun _ s => Benched s.models (strip name, strip version)) (fun _ _ => True) w := by
    apply wp_ite
    · intro _
      exact wp_raise trivial
    · intro _
      apply wp_bind
      apply wp_bind
      apply wp_read
      cases hget : w.models.get (strip name, strip version) with
      | none => exact wp_raise trivial
      | some prior =>
        apply wp_pure
        apply wp_bind
        apply wp_atomic trivial
        dsimp only
        split
        · next heq =>
          split at heq
          · cases heq
            apply wp_bind
            apply wp_atomic trivial
            exact wp_pure ⟨_, get_set_self _ _ _, Or.inl rfl⟩
          · cases heq
        · trivial
  unfold Prog.run at hrun
  rcases hbudget : disableModel canonicalHash env name version reason none w with ⟨r, n, s⟩
  rw [hbudget] at hrun
  cases hrun
  have hadvance := (wp_apply (disableModel_advances hinv name version reason) none).1
    a n _ hbudget
  exact ⟨hadvance.inv hinv, (wp_apply hreturns none).1 a n _ hbudget⟩

/-- **Disabled for good.** After a call of `disable` that returned, a run of
operations, crashes and restarts without a promotion of the model to champion
leaves it without authority, in memory and in whatever the ledger hydrates to. -/
theorem disabled_stays_benched {name version reason : String} {a : ModelAuthority}
    {before rest : List ModelAction} {w₀ w₁ w₂ : ModelWorld}
    (hbefore : modelRun canonicalHash .init before = some w₀)
    (hdisable : Prog.run (disableModel canonicalHash env name version reason) w₀ = (.ok a, w₁))
    (hmeet : Runs.Along (modelStep canonicalHash)
      (fun s act => ¬ChampionPromotion (strip name, strip version) s act) w₁ rest)
    (hrest : modelRun canonicalHash w₁ rest = some w₂) :
    ¬AuthoritativeIn w₂.models (strip name, strip version) ∧
      ∀ models, hydrateModels w₂.modelEvents = .ok models →
        ¬AuthoritativeIn models (strip name, strip version) := by
  obtain ⟨hinv₁, hbench₁⟩ := disableModel_benched (modelInv_of_run hbefore) hdisable
  obtain ⟨hinv, hbench⟩ : ModelInv canonicalHash w₂.modelEvents w₂.models ∧
      Benched w₂.models (strip name, strip version) := by
    refine Runs.along_invariant (I := fun s : ModelWorld =>
      ModelInv canonicalHash s.modelEvents s.models ∧
        Benched s.models (strip name, strip version)) ?_ ⟨hinv₁, hbench₁⟩ hmeet hrest
    intro s act s' ⟨hinv, hbench⟩ hnot hstep
    obtain ⟨hinv', hcases⟩ := modelStep_cases hinv hstep
    refine ⟨hinv', ?_⟩
    rcases hcases with hsame | ⟨env', crashAt, op, rfl, hadvance⟩
    · rw [hsame]
      exact hbench
    · exact hadvance.benched hbench hnot
  refine ⟨hbench.not_authoritative, ?_⟩
  intro models hmodels
  rw [hinv.replays] at hmodels
  cases hmodels
  exact hbench.not_authoritative

end Inventory

/-! ## A paper model -/

def exampleCard (state : String) : ModelCard where
  artifactId := 1
  createdAt := 0
  modelName := "naive"
  modelVersion := "v1"
  role := "forecast"
  dataHash := paperDigest
  codeHash := paperDigest
  trainingCutoff := 0
  lifecycleState := state
  texts_normal := by decide
  options_ne := by decide
  independentOf_normal := by decide
  calibrationScore_range := by
    intro s hs
    cases hs

def exampleEvidence : ModelAdmissionEvidence where
  modelName := "naive"
  modelVersion := "v1"
  evaluationHash := paperDigest
  baselineNetUtility := .ofNat 1
  candidateNetUtility := .ofNat 2
  pastOnly := true
  calibrated := true
  resourceLimitPassed := true
  usefulRiskInformation := false
  independentReview := true
  reviewer := "reviewer"
  benchmarkHash := none
  maxErrorCorrelation := none
  regimeFailures := []
  latencyMs := none
  peakRamMib := none
  peakVramMib := none
  identity_normal := by decide
  maxErrorCorrelation_range := by
    intro c hc
    cases hc
  regimeFailures_normal := by decide

def ungated : InventorySurroundings := ⟨0, none⟩

/-- A champion is disabled, and the process restarts. -/
theorem disabled_stays_benched_champion :
    ∃ w₀ a w₁ w₂, modelRun (fun _ => paperDigest) .init
        [.call ungated none (.register (exampleCard "champion"))] = some w₀ ∧
      Prog.run (disableModel (fun _ => paperDigest) ungated "naive" "v1" "drift") w₀
        = (.ok a, w₁) ∧
      modelRun (fun _ => paperDigest) w₁ [.restart] = some w₂ ∧
      ¬AuthoritativeIn w₂.models (strip "naive", strip "v1") := by
  have hruns : (modelRun (fun _ => paperDigest) .init
      [.call ungated none (.register (exampleCard "champion"))]).any (fun w =>
        let after := Prog.run (disableModel (fun _ => paperDigest) ungated "naive" "v1" "drift") w
        after.1.toOption.isSome && (modelRun (fun _ => paperDigest) after.2 [.restart]).isSome)
      = true := by
    decide +kernel
  obtain ⟨w₀, hw₀, hfacts⟩ := (Option.any_eq_true _ _).mp hruns
  rw [Bool.and_eq_true] at hfacts
  obtain ⟨hreturns, hrestarts⟩ := hfacts
  rcases hdisable : Prog.run (disableModel (fun _ => paperDigest) ungated "naive" "v1" "drift") w₀
    with ⟨r, w₁⟩
  rw [hdisable] at hreturns hrestarts
  obtain ⟨w₂, hw₂⟩ := isSome_iff_exists.mp hrestarts
  cases r with
  | error e => cases hreturns
  | ok a =>
    refine ⟨w₀, a, w₁, w₂, hw₀, hdisable, hw₂, ?_⟩
    refine (disabled_stays_benched hw₀ hdisable ?_ hw₂).1
    exact ⟨id, fun _ _ => trivial⟩

/-- A paper model is disabled for drift, and promoted to champion. -/
theorem promotion_restores_authority :
    ¬∀ (canonicalHash : ModelCard → Digest) (before rest : List ModelAction)
        (w₀ w₁ w₂ : ModelWorld) (env : InventorySurroundings) (name version reason : String)
        (a : ModelAuthority),
      modelRun canonicalHash .init before = some w₀ →
      Prog.run (disableModel canonicalHash env name version reason) w₀ = (.ok a, w₁) →
      modelRun canonicalHash w₁ rest = some w₂ →
      ¬AuthoritativeIn w₂.models (strip name, strip version) := by
  intro h
  have hruns : (modelRun (fun _ => paperDigest) .init
      [.call ungated none (.register (exampleCard "paper"))]).any (fun w =>
        let after := Prog.run (disableModel (fun _ => paperDigest) ungated "naive" "v1" "drift") w
        after.1.toOption.isSome && (modelRun (fun _ => paperDigest) after.2
          [.call ungated none (.promote "naive" "v1" "champion" exampleEvidence), .restart]).any
          fun w => (w.models.get (strip "naive", strip "v1")).any fun a => a.authoritative)
      = true := by
    decide +kernel
  obtain ⟨w₀, hw₀, hfacts⟩ := (Option.any_eq_true _ _).mp hruns
  rw [Bool.and_eq_true] at hfacts
  obtain ⟨hreturns, hpromoted⟩ := hfacts
  rcases hdisable : Prog.run (disableModel (fun _ => paperDigest) ungated "naive" "v1" "drift") w₀
    with ⟨r, w₁⟩
  rw [hdisable] at hreturns hpromoted
  obtain ⟨w₂, hw₂, hauth⟩ := (Option.any_eq_true _ _).mp hpromoted
  obtain ⟨b, hb, hbauth⟩ := (Option.any_eq_true _ _).mp hauth
  cases r with
  | error e => cases hreturns
  | ok a =>
    exact h (fun _ => paperDigest) _ _ w₀ w₁ w₂ ungated "naive" "v1" "drift" a hw₀ hdisable hw₂
      ⟨b, hb, hbauth⟩

variable {canonicalHash : ModelCard → Digest} {acts : List ModelAction}

/-! ## The rungs of the lifecycle -/

/-- What evidence must show of the model of a key, to carry it to a stage. -/
def Shows (evidence : ModelAdmissionEvidence) (key : String × String) (stage : String) : Prop :=
  (evidence.modelName, evidence.modelVersion) = key ∧
    (evidence.pastOnly && evidence.calibrated && evidence.resourceLimitPassed) = true ∧
    (stage ∈ ["paper", "champion"] → (evidence.improves || evidence.usefulRiskInformation) = true) ∧
    (stage = "champion" → (evidence.independentReview && evidence.improves) = true)

/-- A promotion to a stage that the gates let through, on such evidence. -/
def Earns (key : String × String) (stage : String) : ModelAction → Prop
  | .call env _ (.promote name version target evidence) =>
    (strip name, strip version) = key ∧ lower (strip target) = stage ∧
      gateCheck env stage = .ok () ∧ Shows evidence key stage
  | _ => False

/-- The model was registered, and every stage above that of its registration was earned. -/
def Earned (acts : List ModelAction) (key : String × String) (card : ModelCard) : Prop :=
  ∃ first, first.key = key ∧ (∃ env crashAt, .call env crashAt (.register first) ∈ acts) ∧
    ∀ stage ∈ lifecycleOrder, first.rank < lifecycleOrder.idxOf stage →
      lifecycleOrder.idxOf stage ≤ card.rank → ∃ act ∈ acts, Earns key stage act

theorem Earned.mono {card : ModelCard} {acts' : List ModelAction} (h : Earned acts key card)
    (hsub : acts ⊆ acts') : Earned acts' key card := by
  obtain ⟨first, hkey, ⟨env, crashAt, hmem⟩, hall⟩ := h
  exact ⟨first, hkey, ⟨env, crashAt, hsub hmem⟩, fun stage hstage hlt hle =>
    (hall stage hstage hlt hle).imp fun _ => And.imp_left (@hsub _)⟩

theorem validatePromotion_shows {prior updated : ModelCard} {evidence : ModelAdmissionEvidence}
    (h : validatePromotion prior updated evidence = .ok ()) :
    Shows evidence updated.key updated.lifecycleState := by
  unfold validatePromotion at h
  grind [Shows]

/-- **Step lemma.** Only a promotion takes a model up, and it takes it up one stage. -/
theorem ModelAdvance.earned (h : ModelAdvance canonicalHash env events models op events' models')
    (hinv : ModelInv canonicalHash events models) (crashAt : Option Nat)
    (hbefore : ∀ a, models.get key = some a → Earned acts key a.card) :
    ∀ a, models'.get key = some a → Earned (acts ++ [.call env crashAt op]) key a.card := by
  intro a ha
  have hkept : ∀ a, models.get key = some a →
      Earned (acts ++ [.call env crashAt op]) key a.card :=
    fun a ha => (hbefore a ha).mono (subset_append_left _ _)
  have hset : ∀ {k v}, (models.set k v).get key = some a →
      key = k ∧ a = v ∨ models.get key = some a := by
    grind [get_set]
  cases h with
  | same => exact hkept a ha
  | registered card e hstate hnew hevent =>
    obtain ⟨hkey, rfl⟩ | ha := hset ha
    · exact ⟨card, hkey.symm, ⟨env, crashAt, by simp⟩, fun stage _ hlt hle => absurd hle (not_le.mpr hlt)⟩
    · exact hkept a ha
  | disabled name version reason prior e hreason hprior hevent =>
    obtain ⟨rfl, rfl⟩ | ha := hset ha
    · exact hkept prior hprior
    · exact hkept a ha
  | promoted name version target evidence prior e hprior hgate hvalid hevent =>
    obtain ⟨rfl, rfl⟩ | ha := hset ha
    · obtain ⟨first, hfirst, hreg, hall⟩ := hkept prior hprior
      obtain ⟨hupdated, -, hrank⟩ := validatePromotion_rank hvalid
      refine ⟨first, hfirst, hreg, fun stage hstage hlt hle => ?_⟩
      by_cases hold : lifecycleOrder.idxOf stage ≤ prior.card.rank
      · exact hall stage hstage hlt hold
      · -- The stage is the one that this promotion leads to.
        have htarget : lower (strip target) = stage := by
          refine (idxOf_inj hupdated).mp ?_
          change _ ≤ (prior.card.promoted (lower (strip target)) evidence).rank at hle
          exact hrank.trans (by omega)
        have hshows := validatePromotion_shows hvalid
        rw [ModelCard.promoted_key, ModelCard.promoted_lifecycleState, hinv.keyed _ _ hprior,
          htarget] at hshows
        exact ⟨_, mem_append_right _ (mem_singleton_self _), rfl, htarget, htarget ▸ hgate, hshows⟩
    · exact hkept a ha

def examplePromotion : List ModelAction :=
  [.call ungated none (.register (exampleCard "paper")),
    .call ungated none (.promote "naive" "v1" "champion" exampleEvidence)]

end AdvisorAI
