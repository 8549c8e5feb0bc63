import AdvisorAI.Execution.AccountLedger
import AdvisorAI.Lib.Runs

/-!
# The account ledger replays to the live account

Ten encoders, ten decoders: `entry_faithful` says that the event an operation
writes decodes to the mutation the operation applied. The rest does not depend
on the kind of event. `AccountSound` is what holds between operations: the
ledger has one event per key, and hydrating it from the initial account gives
the live one.
-/

namespace AdvisorAI

open Lib List Prog

variable {N : Type} [Arith N] [DecidableEq N] {digest : HashedState N → Digest}
  {initial account : AccountState N} {w w' : AccountWorld N} {env : Surroundings}

/-! ## Encoders and decoders -/

omit [DecidableEq N] in
private theorem replayedFill_encoded (fill : AccountFill N) (side instrument : String)
    (rest : Payload N) :
    replayedFill ([("fill_id", .uuid fill.artifactId),
      ("venue_fill_id", .text fill.venueFillId), ("order_id", .uuid fill.orderId),
      ("instrument_id", .text instrument), ("side", .text side),
      ("quantity", .number fill.quantity), ("price", .number fill.price),
      ("fee", .number fill.fee), ("occurred_at", .time (.ofTimestamp fill.occurredAt))] ++ rest)
      = .ok fill := by
  show (do
    let occurredAt ← (Datetime.ofTimestamp fill.occurredAt).aware
      "timestamps must include a timezone"
    if h : (Arith.lt Arith.zero fill.quantity = true ∧ Arith.lt Arith.zero fill.price = true ∧
        Arith.lt fill.fee Arith.zero = false) ∧
        (isBlank fill.venueFillId = false ∧ strip fill.venueFillId = fill.venueFillId) ∧
        (datetimeMin ≤ occurredAt ∧ occurredAt ≤ datetimeMax) then
      .ok ⟨fill.artifactId, fill.orderId, fill.venueFillId, fill.quantity, fill.price, fill.fee,
        occurredAt, h.1.1, h.1.2.1, h.1.2.2, h.2.1, h.2.2⟩
    else .error (valueError "validation error for Fill") : Except PyError (AccountFill N)) = _
  rw [Datetime.aware_ofTimestamp fill.occurredAt_valid]
  exact dif_pos ⟨⟨fill.quantity_pos, fill.price_pos, fill.fee_nonneg⟩, fill.venueFillId_normal,
    fill.occurredAt_valid⟩

/-- The event an entry writes decodes to its mutation, and its hash is found. -/
structure Faithful (e : AccountEntry N) : Prop where
  mutation : ∀ snapshot : AccountStateSnapshot N,
    replayedMutation e.eventType (withHash e.payload snapshot) = .ok (some e.mutation)
  hash : ∀ snapshot : AccountStateSnapshot N,
    Payload.get (withHash e.payload snapshot) "state_hash" = some (.text snapshot.stateHash.text)

variable {entry e : AccountEntry N}

omit [DecidableEq N] in
private theorem ok_of_checked {c : Prop} [Decidable c] {error : PyError}
    (h : (if c then (.error error : Except PyError (AccountEntry N)) else .ok entry) = .ok e) :
    entry = e := by
  split at h
  · cases h
  · exact Except.ok.inj h

variable {call op : AccountCall N}

omit [DecidableEq N] in
/-- **Encoders match decoders.** -/
theorem entry_faithful (h : call.entry = .ok e) : Faithful e := by
  cases call with
  | fill f side instrumentId =>
    have he := ok_of_checked h
    subst he
    refine ⟨?_, fun _ => rfl⟩
    intro snapshot
    unfold replayedMutation withHash
    rw [replayedFill_encoded]
    rfl
  | funding | cashTransfer | borrow | fxAdjustment | corporateAction | split | dividend | mark
  | margin =>
    have he := ok_of_checked h
    subst he
    exact ⟨fun _ => rfl, fun _ => rfl⟩

variable {snapshot : AccountStateSnapshot N} {candidate : AccountState N}

theorem hydrateAccountEvent_entry (he : Faithful e)
    (hcandidate : Local.result e.mutation.run account = .ok candidate)
    (hsnapshot : candidate.snapshot digest = .ok snapshot) (applied : Dict String (Payload N))
    (id : UUID) (now : Timestamp) :
    hydrateAccountEvent digest (account, applied)
        ⟨id, e.eventType, e.key, now, withHash e.payload snapshot⟩
      = .ok (candidate, applied.set e.key (withHash e.payload snapshot)) := by
  have hreplayed : replayedAccount account
      ⟨id, e.eventType, e.key, now, withHash e.payload snapshot⟩ = .ok (some candidate) := by
    unfold replayedAccount
    simp only [he.mutation, hcandidate]
  have hcheck : checkHash digest ⟨id, e.eventType, e.key, now, withHash e.payload snapshot⟩
      candidate = .ok () := by
    unfold checkHash
    simp only [he.hash, hsnapshot]
    exact if_neg (fun h => h rfl)
  unfold hydrateAccountEvent
  simp only [hreplayed, hcheck]

/-! ## Soundness -/

def ledgerKeys (events : List (AccountEvent N)) : List String :=
  events.map LedgerEvent.idempotencyKey

/-- Hydrating the ledger of `w` from the initial account gives `account`: each
event is applied, once, in order. -/
structure AccountDurable (digest : HashedState N → Digest) (initial : AccountState N)
    (w : AccountWorld N) (account : AccountState N) : Prop where
  hydrates : ∃ applied, hydrateAccount digest initial w.accountEvents = .ok (account, applied) ∧
    ∀ k, k ∈ applied.keys ↔ k ∈ ledgerKeys w.accountEvents
  mutations : ∃ ms : List (AccountMutation N),
    w.accountEvents.map (fun e => replayedMutation e.eventType e.payload)
      = ms.map (fun m => .ok (some m)) ∧
    Journal.replay (fun s m => Local.result m.run s) initial ms = .ok account
  snapshots : w.accountEvents ≠ [] → ∃ snapshot, account.snapshot digest = .ok snapshot
  keys : (ledgerKeys w.accountEvents).Nodup
  eventIds : ∀ e ∈ w.accountEvents, e.eventId < w.nextEventId

/-- What holds between operations: the live account is the hydrated one, and the
process remembers the keys of the ledger. -/
structure AccountSound (digest : HashedState N → Digest) (initial : AccountState N)
    (w : AccountWorld N) : Prop where
  durable : AccountDurable digest initial w w.account
  remembered : ∀ k, k ∈ w.appliedPayloads.keys ↔ k ∈ ledgerKeys w.accountEvents

theorem AccountDurable.congr (h : AccountDurable digest initial w account)
    (hevents : w'.accountEvents = w.accountEvents) (hid : w.nextEventId ≤ w'.nextEventId) :
    AccountDurable digest initial w' account := by
  refine ⟨?_, ?_, ?_, ?_, ?_⟩
  · rw [hevents]
    exact h.hydrates
  · rw [hevents]
    exact h.mutations
  · rw [hevents]
    exact h.snapshots
  · rw [hevents]
    exact h.keys
  · intro e he
    rw [hevents] at he
    exact Nat.lt_of_lt_of_le (h.eventIds e he) hid

theorem AccountSound.published (h : AccountSound digest initial w) (p : List EventEnvelope) :
    AccountSound digest initial { w with published := p } :=
  ⟨h.durable.congr rfl (Nat.le_refl _), h.remembered⟩

theorem accountSound_init (digest : HashedState N → Digest) (initial : AccountState N) :
    AccountSound digest initial (.init initial) := by
  refine ⟨⟨⟨Dict.empty, rfl, ?_⟩, ⟨[], rfl, rfl⟩, fun h => absurd rfl h, nodup_nil, ?_⟩, ?_⟩
  · intro k
    exact Iff.rfl
  · intro e he
    cases he
  · intro k
    exact Iff.rfl

theorem AccountDurable.snoc (h : AccountDurable digest initial w w.account) (he : Faithful e)
    (hcandidate : Local.result e.mutation.run w.account = .ok candidate)
    (hsnapshot : candidate.snapshot digest = .ok snapshot)
    (hnew : e.key ∉ ledgerKeys w.accountEvents) (now : Timestamp) :
    AccountDurable digest initial { w with
      accountEvents := w.accountEvents ++
        [⟨w.nextEventId, e.eventType, e.key, now, withHash e.payload snapshot⟩]
      nextEventId := w.nextEventId + 1 } candidate := by
  obtain ⟨applied, hreplay, hkeys⟩ := h.hydrates
  obtain ⟨ms, hms, hfold⟩ := h.mutations
  refine ⟨⟨applied.set e.key (withHash e.payload snapshot), ?_, ?_⟩, ⟨ms ++ [e.mutation], ?_, ?_⟩,
    fun _ => ⟨snapshot, hsnapshot⟩, ?_, ?_⟩
  · unfold hydrateAccount at hreplay ⊢
    rw [Journal.replay_concat, hreplay]
    exact hydrateAccountEvent_entry he hcandidate hsnapshot applied _ _
  · intro k
    unfold ledgerKeys at hkeys ⊢
    rw [Dict.mem_keys_set, map_append, mem_append, map_singleton,
      mem_singleton, hkeys]
    exact or_comm
  · rw [map_append, map_append, hms, map_singleton, map_singleton,
      he.mutation]
  · rw [Journal.replay_concat, hfold]
    exact hcandidate
  · unfold ledgerKeys at hnew ⊢
    rw [map_append, map_singleton]
    exact List.Nodup.append h.keys (nodup_singleton _) (by simpa using hnew)
  · intro x hx
    rcases mem_append.mp hx with hl | hr
    · exact Nat.lt_succ_of_lt (h.eventIds x hl)
    · rw [mem_singleton.mp hr]
      exact Nat.lt_succ_self _

/-! ## One operation -/

section Rules

variable {G : AccountWorld N → Prop} {E : Stop PyError → AccountWorld N → Prop}

variable {artifactId : Option UUID} {publishType key : String}

omit [Arith N] [DecidableEq N] in
theorem wp_publishAccountEvent {event : AccountEvent N} (hcrash : E .crashed w)
    (hraise : ∀ e, E (.raised e) w) (hok : ∀ p, G { w with published := p }) :
    Prog.wp (publishAccountEvent env event publishType artifactId) (fun _ => G) E w := by
  unfold publishAccountEvent
  cases env.eventBus with
  | none => exact wp_pure (hok w.published)
  | some publish =>
    refine wp_atomic hcrash ?_
    dsimp only
    split
    · next heq =>
      split at heq
      · cases heq
        exact hok _
      · cases heq
    · next heq =>
      split at heq
      · cases heq
      · cases heq
        exact hraise _

omit [Arith N] [DecidableEq N] in
theorem wp_republishAccountEvent (hcrash : E .crashed w) (hraise : ∀ e, E (.raised e) w)
    (hok : ∀ p, G { w with published := p }) :
    Prog.wp (republishAccountEvent env key publishType artifactId) (fun _ => G) E w := by
  unfold republishAccountEvent
  cases env.eventBus with
  | none => exact wp_pure (hok w.published)
  | some publish =>
    refine wp_bind (wp_read ?_)
    cases SqliteLedgers.findKey w.accountEvents key with
    | none => exact wp_pure (hok w.published)
    | some event => exact wp_publishAccountEvent hcrash hraise hok

omit [DecidableEq N] in
theorem wp_accountSnapshot (hraise : ∀ e, E (.raised e) w) (hok : G w) :
    Prog.wp (accountSnapshot digest) (fun _ => G) E w := by
  refine wp_bind (wp_read (wp_lift ?_ (fun e _ => hraise e)))
  intro _ _
  exact hok

end Rules

def Records (e : AccountEntry N) (x : AccountEvent N) : Prop :=
  x.idempotencyKey = e.key ∧ replayedMutation x.eventType x.payload = .ok (some e.mutation)

/-- Nothing was written, or one event that records the entry. -/
def GrowsBy (e : AccountEntry N) (w w' : AccountWorld N) : Prop :=
  w'.accountEvents = w.accountEvents ∨
    ∃ x, w'.accountEvents = w.accountEvents ++ [x] ∧ Records e x

/-- What an operation that started in `w` leaves behind. -/
def Leaves (digest : HashedState N → Digest) (initial : AccountState N) (e : AccountEntry N)
    (w w' : AccountWorld N) : Prop :=
  AccountSound digest initial w' ∧ GrowsBy e w w'

/-- Where an operation may stop: sound, or, if it died, with a durable ledger. -/
def LeavesStopped (digest : HashedState N → Digest) (initial : AccountState N)
    (e : AccountEntry N) (w : AccountWorld N) : Stop PyError → AccountWorld N → Prop
  | .raised _, w' => Leaves digest initial e w w'
  | .crashed, w' => (∃ account, AccountDurable digest initial w' account) ∧ GrowsBy e w w'

/-- **The pattern keeps ledger and account in step**, and when it returns the
ledger holds an event under its key. -/
theorem applyEntry_leaves (h : AccountSound digest initial w) (he : Faithful e) :
    Prog.wp (applyEntry digest env e)
      (fun _ w' => Leaves digest initial e w w' ∧ e.key ∈ ledgerKeys w'.accountEvents)
      (LeavesStopped digest initial e w) w := by
  have hstay : Leaves digest initial e w w := ⟨h, Or.inl rfl⟩
  have hdied : LeavesStopped digest initial e w .crashed w := ⟨⟨_, h.durable⟩, Or.inl rfl⟩
  refine wp_bind (wp_read ?_)
  cases hprior : w.appliedPayloads.get e.key with
  | some prior =>
    have hknown : e.key ∈ ledgerKeys w.accountEvents :=
      (h.remembered e.key).mp (Dict.mem_keys_iff.mpr ⟨prior, hprior⟩)
    refine wp_ite (fun _ => wp_raise hstay) ?_
    intro _
    refine wp_bind (wp_republishAccountEvent hdied (fun _ => hstay) ?_)
    intro p
    exact wp_accountSnapshot (fun _ => ⟨h.published p, Or.inl rfl⟩)
      ⟨⟨h.published p, Or.inl rfl⟩, hknown⟩
  | none =>
    have hnew : e.key ∉ ledgerKeys w.accountEvents := by
      rw [← h.remembered]
      exact Dict.get_eq_none_iff.mp hprior
    refine wp_bind (wp_onCopy ?_ (fun _ => hstay))
    intro candidate hcandidate
    refine wp_bind (wp_lift ?_ (fun _ _ => hstay))
    intro snapshot hsnapshot
    have hdurable := h.durable.snoc he hcandidate hsnapshot hnew env.now
    have happend : SqliteLedgers.append w.accountEvents
        ⟨w.nextEventId, e.eventType, e.key, env.now, withHash e.payload snapshot⟩
        = (.ok ⟨w.nextEventId, e.eventType, e.key, env.now, withHash e.payload snapshot⟩,
          w.accountEvents ++
            [⟨w.nextEventId, e.eventType, e.key, env.now, withHash e.payload snapshot⟩]) := by
      refine SqliteLedgers.append_of_new ?_ ?_
      · intro x hx hkey
        exact hnew (mem_map.mpr ⟨x, hx, hkey⟩)
      · intro x hx
        exact Nat.ne_of_lt (h.durable.eventIds x hx)
    refine wp_bind (wp_atomic hdied ?_)
    rw [happend]
    refine wp_bind (wp_modify (wp_bind (wp_modify ?_)))
    -- The account is committed and the key remembered.
    generalize hw₁ : ({ w with
      accountEvents := w.accountEvents ++
        [⟨w.nextEventId, e.eventType, e.key, env.now, withHash e.payload snapshot⟩]
      nextEventId := w.nextEventId + 1
      account := candidate
      appliedPayloads := w.appliedPayloads.set e.key
        (if e.remembersHash then withHash e.payload snapshot else e.payload) } : AccountWorld N)
      = w₁
    have hsound : AccountSound digest initial w₁ := by
      rw [← hw₁]
      refine ⟨hdurable.congr rfl (Nat.le_refl _), ?_⟩
      intro k
      unfold ledgerKeys
      rw [Dict.mem_keys_set, map_append, mem_append, map_singleton,
        mem_singleton, h.remembered]
      exact or_comm
    have hgrows : GrowsBy e w w₁ := by
      rw [← hw₁]
      exact Or.inr ⟨_, rfl, rfl, he.mutation snapshot⟩
    have hkey : e.key ∈ ledgerKeys w₁.accountEvents := by
      rw [← hw₁]
      exact mem_map.mpr ⟨_, mem_append_right _ (mem_singleton_self _), rfl⟩
    refine wp_bind (wp_publishAccountEvent ⟨⟨_, hsound.durable⟩, hgrows⟩
      (fun _ => ⟨hsound, hgrows⟩) ?_)
    intro p
    exact wp_accountSnapshot (fun _ => ⟨hsound.published p, hgrows⟩)
      ⟨⟨hsound.published p, hgrows⟩, hkey⟩

theorem call_leaves (h : AccountSound digest initial w) (he : op.entry = .ok e) :
    Prog.wp (op.run digest env)
      (fun _ w' => Leaves digest initial e w w' ∧ e.key ∈ ledgerKeys w'.accountEvents)
      (LeavesStopped digest initial e w) w := by
  unfold AccountCall.run
  rw [he]
  exact wp_bind (wp_pure (applyEntry_leaves h (entry_faithful he)))

/-! ## Runs -/

/-- What happens to an account ledger. -/
inductive AccountAction (N : Type) [Arith N] where
  | call (env : Surroundings) (crashAt : Option Nat) (op : AccountCall N)
  | restart

/-- A new process: a ledger hydrated over the initial account. -/
def restartAccount (digest : HashedState N → Digest) (initial : AccountState N)
    (w : AccountWorld N) : Option (AccountWorld N) :=
  match hydrateAccount digest initial w.accountEvents with
  | .ok (account, applied) => some { w with account := account, appliedPayloads := applied }
  | .error _ => none

/-- One action. A call that died is followed by a restart. -/
def accountLedgerStep (digest : HashedState N → Digest) (initial : AccountState N)
    (w : AccountWorld N) : AccountAction N → Option (AccountWorld N)
  | .call env crashAt op =>
    match op.run digest env crashAt w with
    | (.error .crashed, _, w') => restartAccount digest initial w'
    | (_, _, w') => some w'
  | .restart => restartAccount digest initial w

theorem accountLedgerStep_call (crashAt : Option Nat) (op : AccountCall N) :
    accountLedgerStep digest initial w (.call env crashAt op)
      = match op.run digest env crashAt w with
        | (.error .crashed, _, w') => restartAccount digest initial w'
        | (_, _, w') => some w' :=
  rfl

/-- The world after a run over an initial account and an empty ledger. -/
def accountLedgerRun (digest : HashedState N → Digest) (initial : AccountState N)
    (acts : List (AccountAction N)) : Option (AccountWorld N) :=
  Runs.runFrom (accountLedgerStep digest initial) (.init initial) acts

theorem restartAccount_sound (h : AccountDurable digest initial w account) :
    ∃ w', restartAccount digest initial w = some w' ∧ AccountSound digest initial w' ∧
      w'.accountEvents = w.accountEvents := by
  obtain ⟨applied, hreplay, hkeys⟩ := h.hydrates
  refine ⟨{ w with account := account, appliedPayloads := applied }, ?_, ?_, rfl⟩
  · unfold restartAccount
    rw [hreplay]
  · exact ⟨h.congr rfl (Nat.le_refl _), hkeys⟩

/-- A step adds nothing, or one event that records the call. -/
def ActionGrows (a : AccountAction N) (w w' : AccountWorld N) : Prop :=
  w'.accountEvents = w.accountEvents ∨
    ∃ env crashAt op e x, a = .call env crashAt op ∧ op.entry = .ok e ∧ Records e x ∧
      w'.accountEvents = w.accountEvents ++ [x]

omit [DecidableEq N] in
private theorem GrowsBy.action (h : GrowsBy e w w') {crashAt : Option Nat} (he : op.entry = .ok e) :
    ActionGrows (.call env crashAt op) w w' := by
  rcases h with hsame | ⟨x, hx, hrec⟩
  · exact Or.inl hsame
  · exact Or.inr ⟨env, crashAt, op, e, x, rfl, he, hrec, hx⟩

/-- **One step**: every action leads to a sound world. -/
theorem accountLedgerStep_sound (h : AccountSound digest initial w) (a : AccountAction N) :
    ∃ w', accountLedgerStep digest initial w a = some w' ∧ AccountSound digest initial w' ∧
      ActionGrows a w w' := by
  cases a with
  | restart =>
    obtain ⟨w', hw', hs', hsame⟩ := restartAccount_sound h.durable
    exact ⟨w', hw', hs', Or.inl hsame⟩
  | call env crashAt op =>
    cases hentry : op.entry with
    | error e =>
      have hrun : op.run digest env crashAt w = (.error (.raised e), crashAt, w) := by
        show Prog.bind (Prog.lift op.entry) _ crashAt w = _
        rw [hentry]
        rfl
      refine ⟨w, ?_, h, Or.inl rfl⟩
      rw [accountLedgerStep_call, hrun]
    | ok e =>
      obtain ⟨hok, herr⟩ := wp_apply (call_leaves h hentry) crashAt
      rw [accountLedgerStep_call]
      rcases hrun : op.run digest env crashAt w with ⟨r, n', w'⟩
      cases r with
      | ok snapshot =>
        obtain ⟨⟨hs', hgrows⟩, -⟩ := hok snapshot n' w' hrun
        exact ⟨w', rfl, hs', hgrows.action hentry⟩
      | error stop =>
        have hleft := herr stop n' w' hrun
        cases stop with
        | raised x => exact ⟨w', rfl, hleft.1, hleft.2.action hentry⟩
        | crashed =>
          obtain ⟨⟨account, hdurable⟩, hgrows⟩ := hleft
          obtain ⟨w'', hw'', hs'', hsame⟩ := restartAccount_sound hdurable
          refine ⟨w'', hw'', hs'', ?_⟩
          rcases hgrows.action hentry with hg | hg
          · exact Or.inl (hsame.trans hg)
          · obtain ⟨env', crashAt', op', e', x, ha, he', hrec, hx⟩ := hg
            exact Or.inr ⟨env', crashAt', op', e', x, ha, he', hrec, hsame.trans hx⟩

/-- The ledger's events are records of calls of the run. -/
def Authored (acts : List (AccountAction N)) (w : AccountWorld N) : Prop :=
  ∀ x ∈ w.accountEvents, ∃ env crashAt op e,
    .call env crashAt op ∈ acts ∧ op.entry = .ok e ∧ Records e x

variable {acts : List (AccountAction N)} {a : AccountAction N}

omit [DecidableEq N] in
private theorem Authored.step (h : Authored acts w) (hgrows : ActionGrows a w w') :
    Authored (acts ++ [a]) w' := by
  intro x hx
  have hold : x ∈ w.accountEvents → ∃ env crashAt op e,
      .call env crashAt op ∈ acts ++ [a] ∧ op.entry = .ok e ∧ Records e x := by
    intro hmem
    obtain ⟨env, crashAt, op, e, hact, he, hrec⟩ := h x hmem
    exact ⟨env, crashAt, op, e, mem_append_left _ hact, he, hrec⟩
  rcases hgrows with hsame | ⟨env, crashAt, op, e, y, ha, he, hrec, hy⟩
  · rw [hsame] at hx
    exact hold hx
  · rw [hy] at hx
    rcases mem_append.mp hx with hl | hr
    · exact hold hl
    · rw [mem_singleton.mp hr]
      subst ha
      exact ⟨env, crashAt, op, e, mem_append_right _ (mem_singleton_self _), he, hrec⟩

/-- **A run**: it never gets stuck, and where it gets to is sound. -/
theorem accountLedgerRun_sound (digest : HashedState N → Digest) (initial : AccountState N)
    (acts : List (AccountAction N)) :
    ∃ w, accountLedgerRun digest initial acts = some w ∧ AccountSound digest initial w ∧
      Authored acts w := by
  induction acts using List.reverseRecOn with
  | nil =>
    refine ⟨.init initial, rfl, accountSound_init digest initial, ?_⟩
    intro x hx
    cases hx
  | append_singleton acts a ih =>
    obtain ⟨w, hrun, hsound, hauthored⟩ := ih
    obtain ⟨w', hstep, hsound', hgrows⟩ := accountLedgerStep_sound hsound a
    refine ⟨w', ?_, hsound', hauthored.step hgrows⟩
    unfold accountLedgerRun at hrun ⊢
    rw [Runs.runFrom_append, hrun]
    show Runs.runFrom (accountLedgerStep digest initial) w [a] = some w'
    unfold Runs.runFrom
    rw [hstep]
    rfl

variable {k : String}

private theorem ledgerKeys_step (h : AccountSound digest initial w)
    (hstep : accountLedgerStep digest initial w a = some w') (hk : k ∈ ledgerKeys w.accountEvents) :
    k ∈ ledgerKeys w'.accountEvents := by
  obtain ⟨w'', hw'', -, hgrows⟩ := accountLedgerStep_sound h a
  rw [hstep] at hw''
  cases hw''
  unfold ledgerKeys at hk ⊢
  rcases hgrows with hsame | ⟨_, _, _, _, y, _, _, _, hy⟩
  · rw [hsame]
    exact hk
  · rw [hy, map_append]
    exact mem_append_left _ hk

private theorem ledgerKeys_run (h : AccountSound digest initial w)
    (hk : k ∈ ledgerKeys w.accountEvents)
    (hrun : Runs.runFrom (accountLedgerStep digest initial) w acts = some w') :
    k ∈ ledgerKeys w'.accountEvents := by
  have hkeep : AccountSound digest initial w' ∧ k ∈ ledgerKeys w'.accountEvents := by
    refine Runs.run_invariant
      (I := fun w => AccountSound digest initial w ∧ k ∈ ledgerKeys w.accountEvents)
      ?_ ⟨h, hk⟩ hrun
    intro s a s' ⟨hs, hks⟩ hstep
    obtain ⟨s'', hs'', hsound, -⟩ := accountLedgerStep_sound hs a
    rw [hstep] at hs''
    cases hs''
    exact ⟨hsound, ledgerKeys_step hs hstep hks⟩
  exact hkeep.2

/-- In the run a call under the key returned. -/
def Returned (digest : HashedState N → Digest) (initial : AccountState N)
    (acts : List (AccountAction N)) (key : String) : Prop :=
  ∃ before env crashAt op rest w snapshot n' w' e,
    acts = before ++ .call env crashAt op :: rest ∧
    accountLedgerRun digest initial before = some w ∧
    op.run digest env crashAt w = (.ok snapshot, n', w') ∧ op.entry = .ok e ∧ e.key = key

theorem returned_mem_ledgerKeys (hreturned : Returned digest initial acts k)
    (hrun : accountLedgerRun digest initial acts = some w) : k ∈ ledgerKeys w.accountEvents := by
  obtain ⟨before, env, crashAt, op, rest, w₀, snapshot, n', w₁, e, hacts, hbefore, hcall, he, hk⟩ :=
    hreturned
  obtain ⟨w₀', hw₀', hsound, -⟩ := accountLedgerRun_sound digest initial before
  rw [hbefore] at hw₀'
  cases hw₀'
  obtain ⟨⟨hsound₁, -⟩, hkey⟩ :=
    (wp_apply (call_leaves hsound he) crashAt).1 snapshot n' w₁ hcall
  have hstep : accountLedgerStep digest initial w₀ (.call env crashAt op) = some w₁ := by
    rw [accountLedgerStep_call, hcall]
  unfold accountLedgerRun at hrun hbefore
  rw [hacts, Runs.runFrom_append, hbefore] at hrun
  have hrest : Runs.runFrom (accountLedgerStep digest initial) w₁ rest = some w := by
    rw [← hrun]
    show _ = Runs.runFrom (accountLedgerStep digest initial) w₀ (.call env crashAt op :: rest)
    conv_rhs => unfold Runs.runFrom
    rw [hstep]
  rw [← hk]
  exact ledgerKeys_run hsound₁ hkey hrest

/-- **A fresh ledger is the live one.** Over any run of the ten operations, with
retries, rejected calls, deaths and restarts, hydrating from the initial account
succeeds and gives a snapshot with the state hash of the live account. Both
accounts are the initial one with the mutation of each event of the ledger
applied once, in order; there is one event per key, the events are those of the
calls, and a call that returned has its event. Once the ledger has an event, the
snapshot is there. -/
theorem hydrated_account_is_live (digest : HashedState N → Digest) (initial : AccountState N)
    (acts : List (AccountAction N)) :
    ∃ w, accountLedgerRun digest initial acts = some w ∧
      ∃ fresh applied, hydrateAccount digest initial w.accountEvents = .ok (fresh, applied) ∧
        (fresh.snapshot digest).map (·.stateHash)
          = (w.account.snapshot digest).map (·.stateHash) ∧
        (w.accountEvents ≠ [] → ∃ snapshot, fresh.snapshot digest = .ok snapshot) ∧
        (∃ ms : List (AccountMutation N),
          w.accountEvents.map (fun x => replayedMutation x.eventType x.payload)
            = ms.map (fun m => .ok (some m)) ∧
          Journal.replay (fun s m => Local.result m.run s) initial ms = .ok w.account ∧
          Journal.replay (fun s m => Local.result m.run s) initial ms = .ok fresh) ∧
        Authored acts w ∧
        (∀ k, k ∈ applied.keys ↔ k ∈ w.appliedPayloads.keys) ∧
        (ledgerKeys w.accountEvents).Nodup ∧
        ∀ k, Returned digest initial acts k → (ledgerKeys w.accountEvents).count k = 1 := by
  obtain ⟨w, hrun, hsound, hauthored⟩ := accountLedgerRun_sound digest initial acts
  obtain ⟨applied, hreplay, hkeys⟩ := hsound.durable.hydrates
  obtain ⟨ms, hms, hfold⟩ := hsound.durable.mutations
  refine ⟨w, hrun, w.account, applied, hreplay, rfl, hsound.durable.snapshots, ⟨ms, hms, hfold, hfold⟩,
    hauthored, ?_, hsound.durable.keys, ?_⟩
  · intro k
    rw [hkeys, hsound.remembered]
  · intro k hk
    exact count_eq_one_of_mem hsound.durable.keys (returned_mem_ledgerKeys hk hrun)

end AdvisorAI
