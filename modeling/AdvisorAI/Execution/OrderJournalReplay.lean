import AdvisorAI.Execution.OrderJournalSound

/-!
# Replaying a journal

A restart rebuilds the memory from the entries with the manager's own
`hydrateEvent`. Whatever memory the replay of a well-formed journal yields is a
projection of it (`projects_of_replay`), so a restart keeps soundness, and the
ambiguous orders it yields are read off the entries
(`mem_ambiguous_of_replay`).

The inductions are on prefixes of one well-formed journal: the facts about pairs
of entries are inherited from it, the facts about the memory are built up.
-/

namespace AdvisorAI

open Lib List Dict

namespace OrderJournal

variable {l L : List JournalEntry} {m m' : OrderManager} {c c' : OrderJournal}

def replayEntry (m : OrderManager) (e : JournalEntry) : Except PyError OrderManager :=
  hydrateEvent m e.eventType e.artifact

def replayEntries (l : List JournalEntry) : Except PyError OrderManager :=
  Journal.replay replayEntry .empty l

/-- The process restarts: the memory is replayed, the rest is durable. -/
def Restarts (c c' : OrderJournal) : Prop :=
  ∃ m, replayEntries c.entries = .ok m ∧ c' = { c with memory := m }

theorem replayEntry_fill {f : Fill} (h : replayEntry m (.fill f) = .ok m') :
    (∃ o, m.orders.get f.orderId = some o) ∧
      m' = { m with fills := m.fills.set f.venueFillId f } := by
  unfold replayEntry hydrateEvent at h
  simp only [JournalEntry.eventType, JournalEntry.artifact] at h
  split at h
  · cases h
  · next hne =>
    cases h
    exact ⟨Option.ne_none_iff_exists'.mp hne, rfl⟩

variable {o prior : Order} {t : OrderEventType}

/-- The memory after an order entry that replays: a new order must be a
creation, a known one must be allowed to move, or be marked ambiguous. -/
theorem replayEntry_order (ht : (∃ s, t = .order s) ∨ t = .orderAckAmbiguous)
    (h : replayEntry m (.order t o) = .ok m') :
    (m.orders.get o.artifactId = none ∧ t = .order .created ∧ o.state = .created ∧
      m' = { m with orders := m.orders.set o.artifactId o }) ∨
    (∃ prior s, m.orders.get o.artifactId = some prior ∧ t = .order s ∧
      o.state ∈ allowedTransitions prior.state ∧
      m' = { m with
        orders := m.orders.set o.artifactId o
        ambiguousOrders := if s = .acknowledged
          then m.ambiguousOrders.erase o.artifactId else m.ambiguousOrders }) ∨
    (∃ prior, m.orders.get o.artifactId = some prior ∧ t = .orderAckAmbiguous ∧
      m' = { m with
        orders := m.orders.set o.artifactId o
        ambiguousOrders := insert o.artifactId m.ambiguousOrders }) := by
  unfold replayEntry at h
  simp only [JournalEntry.eventType, JournalEntry.artifact] at h
  rcases ht with ⟨s, rfl⟩ | rfl
  · unfold hydrateEvent at h
    cases hget : m.orders.get o.artifactId with
    | none =>
      simp only [hget] at h
      split at h
      · cases h
      · next hs =>
        split at h
        · cases h
        · next hstate =>
          cases h
          rw [not_not] at hs hstate
          exact Or.inl ⟨rfl, by rw [hs], hstate, rfl⟩
    | some prior =>
      simp only [hget] at h
      split at h
      · cases h
      · next hallowed =>
        cases h
        rw [not_not] at hallowed
        exact Or.inr (Or.inl ⟨prior, s, rfl, rfl, hallowed, rfl⟩)
  · unfold hydrateEvent at h
    cases hget : m.orders.get o.artifactId with
    | none =>
      simp only [hget] at h
      cases h
    | some prior =>
      simp only [hget] at h
      cases h
      exact Or.inr (Or.inr ⟨prior, rfl, rfl, rfl⟩)

theorem replayEntry_create (h : m.orders.get o.artifactId = none) (hstate : o.state = .created) :
    replayEntry m (.order (.order .created) o)
      = .ok { m with orders := m.orders.set o.artifactId o } := by
  unfold replayEntry hydrateEvent
  dsimp only [JournalEntry.eventType, JournalEntry.artifact]
  rw [h]
  rw [if_neg (not_not.mpr rfl), if_neg (not_not.mpr hstate)]

theorem replayEntry_advance {s : OrderState} (h : m.orders.get o.artifactId = some prior)
    (hal : o.state ∈ allowedTransitions prior.state) : replayEntry m (.order (.order s) o)
      = .ok { m with
          orders := m.orders.set o.artifactId o
          ambiguousOrders := if s = .acknowledged
            then m.ambiguousOrders.erase o.artifactId else m.ambiguousOrders } := by
  unfold replayEntry hydrateEvent
  dsimp only [JournalEntry.eventType, JournalEntry.artifact]
  rw [h]
  dsimp only
  rw [if_neg (not_not.mpr hal)]

theorem replayEntry_lost (h : m.orders.get o.artifactId = some prior) :
    replayEntry m (.order .orderAckAmbiguous o)
      = .ok { m with
          orders := m.orders.set o.artifactId o
          ambiguousOrders := insert o.artifactId m.ambiguousOrders } := by
  unfold replayEntry hydrateEvent
  dsimp only [JournalEntry.eventType, JournalEntry.artifact]
  rw [h]

theorem WellFormed.orderType (hw : WellFormed L) (h : .order t o ∈ L) :
    (∃ s, t = .order s) ∨ t = .orderAckAmbiguous := by
  rcases hw.shape t o h with ht | ht | ⟨ht, -⟩
  · exact Or.inl ⟨_, ht⟩
  · exact Or.inl ⟨_, ht⟩
  · exact Or.inr ht

private theorem projects_snoc_order (hw : WellFormed L) (hpre : l ++ [.order t o] <+: L)
    (hp : Projects l m) (h : replayEntry m (.order t o) = .ok m') :
    Projects (l ++ [.order t o]) m' := by
  have hmem : .order t o ∈ L := hpre.subset (mem_append_right _ (mem_singleton_self _))
  have hsub : ∀ {u q}, .order u q ∈ l → .order u q ∈ L := fun hq =>
    hpre.subset (mem_append_left _ hq)
  -- In each of the three cases the version becomes the current one.
  have horders : m'.orders = m.orders.set o.artifactId o ∧ m'.fills = m.fills ∧
      ∀ i ∈ m'.ambiguousOrders, i = o.artifactId ∨ i ∈ m.ambiguousOrders := by
    rcases replayEntry_order (hw.orderType hmem) h with
      ⟨-, -, -, rfl⟩ | ⟨prior, s, -, -, -, rfl⟩ | ⟨prior, -, -, rfl⟩
    · exact ⟨rfl, rfl, fun i hi => Or.inr hi⟩
    · refine ⟨rfl, rfl, ?_⟩
      intro i hi
      split at hi
      · exact Or.inr (Finset.mem_of_mem_erase hi)
      · exact Or.inr hi
    · exact ⟨rfl, rfl, fun i hi => Finset.mem_insert.mp hi⟩
  obtain ⟨hset, hfills, hamb⟩ := horders
  have hpair : ∀ u q, .order u q ∈ l → q.artifactId = o.artifactId →
      stage q.state ≤ stage o.state := by
    intro u q hq hid
    have hpw := (hw.stages.sublist hpre.sublist)
    rw [pairwise_append] at hpw
    exact hpw.2.2 _ hq _ (mem_singleton_self _) hid
  have hknown : ∀ {prior}, m.orders.get o.artifactId = some prior →
      o.artifactId ∈ l.filterMap JournalEntry.openedId := by
    intro prior hprior
    rw [← hp.orderIds]
    exact mem_keys_iff.mpr ⟨prior, hprior⟩
  -- An order is opened once: its second creation would repeat a key.
  have honce : ∀ {prior}, m.orders.get o.artifactId = some prior → t ≠ .order .created := by
    intro prior hprior ht
    have hkeys := hknown hprior
    rw [mem_filterMap] at hkeys
    obtain ⟨x, hx, hopen⟩ := hkeys
    cases x with
    | fill f => cases hopen
    | order u q =>
      unfold JournalEntry.openedId at hopen
      split at hopen
      · next heq =>
        cases heq
        have hid : q.artifactId = o.artifactId := Option.some.inj hopen
        have hver := hw.versions _ q t o (hsub hx) hmem hid
        have hnd := hw.keys.sublist (hpre.sublist.map JournalEntry.key)
        rw [map_append, nodup_append] at hnd
        refine hnd.2.2 (JournalEntry.key (.order (.order .created) q))
          (mem_map.mpr ⟨_, hx, rfl⟩)
          (JournalEntry.key (.order t o)) (by simp) ?_
        rw [ht, ← hver]
        rfl
      · cases hopen
  refine ⟨?_, ?_, ?_, ?_, ?_⟩
  · intro i p hpget
    rw [hset, get_set] at hpget
    by_cases hi : i = o.artifactId
    · rw [if_pos hi] at hpget
      cases hpget
      exact ⟨hi.symm, t, mem_append_right _ (mem_singleton_self _)⟩
    · rw [if_neg hi] at hpget
      obtain ⟨hid, u, hu⟩ := hp.orderLogged i p hpget
      exact ⟨hid, u, mem_append_left _ hu⟩
  · intro u q hq
    rw [hset]
    rcases mem_append.mp hq with hl | he
    · by_cases hi : q.artifactId = o.artifactId
      · exact ⟨o, by rw [hi, get_set_self], hpair u q hl hi⟩
      · obtain ⟨p, hpget, hle⟩ := hp.loggedOrder u q hl
        exact ⟨p, by rw [get_set_ne _ hi, hpget], hle⟩
    · cases mem_singleton.mp he
      exact ⟨o, get_set_self _ _ _, Nat.le_refl _⟩
  · rw [hset, keys_set, filterMap_append, hp.orderIds]
    rcases replayEntry_order (hw.orderType hmem) h with
      ⟨hnone, ht, -, -⟩ | ⟨prior, s, hprior, -, -, -⟩ | ⟨prior, hprior, -, -⟩
    · rw [get_eq_none_iff, hp.orderIds] at hnone
      rw [if_neg hnone, ht]
      rfl
    · rw [if_pos (hknown hprior)]
      simp [openedId_version (honce hprior)]
    · rw [if_pos (hknown hprior)]
      simp [openedId_version (honce hprior)]
  · rw [hfills, hp.fills, loggedFills_append]
    simp [loggedFills, JournalEntry.fill?]
  · intro i hi
    rw [hset, get_set]
    by_cases hio : i = o.artifactId
    · exact ⟨o, if_pos hio⟩
    · rw [if_neg hio]
      exact hp.ambiguous i ((hamb i hi).resolve_left hio)

private theorem projects_snoc_fill (hw : WellFormed L) {f : Fill}
    (hpre : l ++ [.fill f] <+: L) (hp : Projects l m)
    (h : replayEntry m (.fill f) = .ok m') : Projects (l ++ [.fill f]) m' := by
  obtain ⟨-, rfl⟩ := replayEntry_fill h
  have horder : ∀ {u q}, .order u q ∈ l ++ [.fill f] → .order u q ∈ l := by
    intro u q hq
    rcases mem_append.mp hq with hl | he
    · exact hl
    · cases mem_singleton.mp he
  -- The fill's key is its own, so the manager has not seen its venue id.
  have hnew : m.fills.get f.venueFillId = none := by
    rw [Option.eq_none_iff_forall_ne_some]
    intro g hg
    obtain ⟨hgl, hv⟩ := hp.get_fill.mp hg
    have hnd := hw.keys.sublist (hpre.sublist.map JournalEntry.key)
    rw [map_append, nodup_append] at hnd
    refine hnd.2.2 (JournalEntry.key (.fill g)) (mem_map.mpr ⟨_, hgl, rfl⟩)
      (JournalEntry.key (.fill f)) (by simp) ?_
    exact congrArg fillKey hv
  refine ⟨?_, ?_, ?_, ?_, hp.ambiguous⟩
  · intro i p hpget
    obtain ⟨hid, u, hu⟩ := hp.orderLogged i p hpget
    exact ⟨hid, u, mem_append_left _ hu⟩
  · intro u q hq
    exact hp.loggedOrder u q (horder hq)
  · rw [filterMap_append]
    show m.orders.keys = _
    rw [hp.orderIds]
    exact (append_nil _).symm
  · show (m.fills.set f.venueFillId f).entries = _
    rw [entries_set_of_get_none hnew, hp.fills, loggedFills_append, map_append]
    rfl

theorem projects_empty : Projects [] .empty := by
  refine ⟨?_, ?_, rfl, rfl, ?_⟩
  · intro i o h
    cases h
  · intro t p h
    cases h
  · intro i hi
    exact absurd hi (Finset.notMem_empty i)

/-- **Replay.** The memory a well-formed journal replays to is a projection of it. -/
theorem projects_of_replay (hw : WellFormed L) (h : replayEntries L = .ok m) : Projects L m := by
  have hall : ∀ l m, replayEntries l = .ok m → l <+: L → Projects l m := by
    refine Journal.replay_induction replayEntry ?_ ?_
    · intro _
      exact projects_empty
    · intro l e s s' _ hstep ih hpre
      have hl : Projects l s := ih ((prefix_append l [e]).trans hpre)
      cases e with
      | order t o => exact projects_snoc_order hw hpre hl hstep
      | fill f => exact projects_snoc_fill hw hpre hl hstep
  exact hall L m h (prefix_refl L)

theorem restart_sound (h : Restarts c c') (hs : Sound c) : Sound c' := by
  obtain ⟨m, hm, rfl⟩ := h
  exact ⟨hs.wellFormed, projects_of_replay hs.wellFormed hm⟩

/-! ## The ambiguous orders of a replay -/

/-- The journal says that an order's acknowledgement was lost. -/
def LoggedLost (l : List JournalEntry) (i : UUID) : Prop :=
  ∃ o, .order .orderAckAmbiguous o ∈ l ∧ o.artifactId = i

/-- The journal says that an order was acknowledged. -/
def LoggedAcknowledged (l : List JournalEntry) (i : UUID) : Prop :=
  ∃ o, .order (.order .acknowledged) o ∈ l ∧ o.artifactId = i

private theorem loggedLost_snoc {e : JournalEntry} {i : UUID} :
    LoggedLost (l ++ [e]) i ↔
      LoggedLost l i ∨ ∃ o, e = .order .orderAckAmbiguous o ∧ o.artifactId = i := by
  constructor
  · intro ⟨o, ho, hid⟩
    rcases mem_append.mp ho with hl | he
    · exact Or.inl ⟨o, hl, hid⟩
    · exact Or.inr ⟨o, (mem_singleton.mp he).symm, hid⟩
  · intro h
    rcases h with ⟨o, ho, hid⟩ | ⟨o, rfl, hid⟩
    · exact ⟨o, mem_append_left _ ho, hid⟩
    · exact ⟨o, mem_append_right _ (mem_singleton_self _), hid⟩

private theorem loggedAcknowledged_snoc {e : JournalEntry} {i : UUID} :
    LoggedAcknowledged (l ++ [e]) i ↔
      LoggedAcknowledged l i ∨ ∃ o, e = .order (.order .acknowledged) o ∧ o.artifactId = i := by
  constructor
  · intro ⟨o, ho, hid⟩
    rcases mem_append.mp ho with hl | he
    · exact Or.inl ⟨o, hl, hid⟩
    · exact Or.inr ⟨o, (mem_singleton.mp he).symm, hid⟩
  · intro h
    rcases h with ⟨o, ho, hid⟩ | ⟨o, rfl, hid⟩
    · exact ⟨o, mem_append_left _ ho, hid⟩
    · exact ⟨o, mem_append_right _ (mem_singleton_self _), hid⟩

/-- **Ambiguity after a replay.** An order is ambiguous exactly when the journal
says its acknowledgement was lost and does not say it was acknowledged. -/
theorem mem_ambiguous_of_replay (hw : WellFormed L) (h : replayEntries L = .ok m) (i : UUID) :
    i ∈ m.ambiguousOrders ↔ LoggedLost L i ∧ ¬LoggedAcknowledged L i := by
  have hall : ∀ l m, replayEntries l = .ok m → l <+: L →
      (i ∈ m.ambiguousOrders ↔ LoggedLost l i ∧ ¬LoggedAcknowledged l i) := by
    refine Journal.replay_induction replayEntry ?_ ?_
    · intro _
      constructor
      · intro hi
        exact absurd hi (Finset.notMem_empty i)
      · intro ⟨⟨o, ho, _⟩, _⟩
        cases ho
    · intro l e s s' _ hstep ih hpre
      have hl := ih ((prefix_append l [e]).trans hpre)
      rw [loggedLost_snoc, loggedAcknowledged_snoc]
      cases e with
      | fill f =>
        obtain ⟨-, rfl⟩ := replayEntry_fill hstep
        simpa using hl
      | order t o =>
        have hmem : .order t o ∈ L :=
          hpre.subset (mem_append_right _ (mem_singleton_self _))
        rcases replayEntry_order (hw.orderType hmem) hstep with
          ⟨hnone, rfl, -, rfl⟩ | ⟨prior, u, -, rfl, -, rfl⟩ | ⟨prior, hprior, rfl, rfl⟩
        · simpa using hl
        · by_cases hu : u = .acknowledged
          · subst hu
            by_cases hi : i = o.artifactId
            · simp [hi]
            · simpa [hi, Ne.symm hi] using hl
          · simp [hu, hl]
        · -- A lost acknowledgement is logged while the order is ROUTED, hence
          -- before any acknowledgement of it.
          by_cases hi : i = o.artifactId
          · have hnot : ¬LoggedAcknowledged l i := by
              intro ⟨q, hq, hid⟩
              have hpw := hw.stages.sublist hpre.sublist
              rw [pairwise_append] at hpw
              have hle := hpw.2.2 _ hq _ (mem_singleton_self _) (hid.trans hi)
              have hq3 : q.state = .acknowledged := by
                rcases hw.shape _ q (hpre.subset (mem_append_left _ hq)) with h1 | h1 | h1
                · cases h1
                · exact (OrderEventType.order.inj h1).symm
                · cases h1.1
              have ho2 : o.state = .routed := by
                rcases hw.shape _ o hmem with h1 | h1 | h1
                · cases h1
                · cases h1
                · exact h1.2
              rw [hq3, ho2] at hle
              exact absurd hle (by decide)
            have hnot' : ¬LoggedAcknowledged l o.artifactId := hi ▸ hnot
            simp [hi, hnot']
          · simpa [hi, Ne.symm hi] using hl
  exact hall L m h (prefix_refl L)

end OrderJournal

end AdvisorAI
