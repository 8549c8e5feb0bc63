import AdvisorAI.Execution.OrderJournal

/-!
# Every step keeps a journal sound

The steps write one order version (`sound_logVersion`, `sound_logOpened`) or
one fill (`sound_logFill`); everything a step does is put together from these
three. `step_sound` is the step lemma.
-/

namespace AdvisorAI

open Lib List Dict

namespace OrderJournal

variable {l : List JournalEntry} {m : OrderManager} {c c' : OrderJournal}

/-! ## Reading a sound journal -/

theorem loggedFills_append (l l' : List JournalEntry) :
    loggedFills (l ++ l') = loggedFills l ++ loggedFills l' :=
  filterMap_append

variable {f : Fill}

theorem mem_loggedFills : f ∈ loggedFills l ↔ .fill f ∈ l := by
  unfold loggedFills
  rw [mem_filterMap]
  constructor
  · intro ⟨e, he, hf⟩
    cases e with
    | order t o => cases hf
    | fill g =>
      cases hf
      exact he
  · intro h
    exact ⟨.fill f, h, rfl⟩

theorem loggedFills_post_order (t : OrderEventType) (o : Order) :
    loggedFills (Journal.post JournalEntry.key l (.order t o)) = loggedFills l := by
  unfold Journal.post
  split
  · rfl
  · rw [loggedFills_append]
    exact append_nil _

variable {o p : Order} {t : OrderEventType}

theorem mem_order_post_fill :
    .order t o ∈ Journal.post JournalEntry.key l (.fill f) ↔ .order t o ∈ l := by
  constructor
  · intro h
    rcases Journal.mem_post _ h with hl | he
    · exact hl
    · cases he
  · exact Journal.mem_post_of_mem _

theorem mem_fill_post_order :
    .fill f ∈ Journal.post JournalEntry.key l (.order t o) ↔ .fill f ∈ l := by
  rw [← mem_loggedFills, ← mem_loggedFills, loggedFills_post_order]

namespace Projects

theorem values (h : Projects l m) : m.fills.values = loggedFills l := by
  unfold Dict.values
  rw [h.fills, map_map]
  exact map_id _

theorem get_fill (h : Projects l m) {v : String} {f : Fill} :
    m.fills.get v = some f ↔ .fill f ∈ l ∧ f.venueFillId = v := by
  rw [← mem_entries_iff, h.fills, mem_map, ← mem_loggedFills]
  constructor
  · intro ⟨g, hg, he⟩
    cases he
    exact ⟨hg, rfl⟩
  · intro ⟨hf, hv⟩
    exact ⟨f, hf, by rw [hv]⟩

theorem filledQuantity_eq (h : Projects l m) (i : UUID) :
    filledQuantity m.fills i = loggedQuantity l i := by
  unfold filledQuantity loggedQuantity
  rw [h.values]

theorem orderId (h : Projects l m) {i : UUID} {o : Order} (ho : m.orders.get i = some o) :
    o.artifactId = i :=
  (h.orderLogged i o ho).1

theorem stored (h : Projects l m) {i : UUID} {o : Order} (ho : m.orders.get i = some o) :
    ∃ t, .order t o ∈ l :=
  (h.orderLogged i o ho).2

theorem stage_le (h : Projects l m) {i : UUID} {o p : Order} {t : OrderEventType}
    (ho : m.orders.get i = some o) (hp : .order t p ∈ l) (hid : p.artifactId = i) :
    stage p.state ≤ stage o.state := by
  obtain ⟨o', ho', hs⟩ := h.loggedOrder t p hp
  rw [hid, ho] at ho'
  cases ho'
  exact hs

theorem not_logged (h : Projects l m) {i : UUID} (hi : m.orders.get i = none)
    {t : OrderEventType} {p : Order} (hp : .order t p ∈ l) : p.artifactId ≠ i := by
  intro hid
  obtain ⟨o, ho, -⟩ := h.loggedOrder t p hp
  rw [hid, hi] at ho
  cases ho

end Projects

variable {i : UUID}

theorem WellFormed.version (hw : WellFormed l) (hp : Projects l m) (ho : m.orders.get i = some o)
    (hl : .order t p ∈ l) (hid : p.artifactId = i) : p.withState o.state = o := by
  obtain ⟨hio, u, hu⟩ := hp.orderLogged i o ho
  exact hw.versions t p u o hl hu (hid.trans hio.symm)

theorem Sound.filled_le (h : Sound c) (ho : c.memory.orders.get i = some o) :
    filledQuantity c.memory.fills i ≤ o.quantity.value := by
  obtain ⟨hi, t, ht⟩ := h.projects.orderLogged i o ho
  rw [h.projects.filledQuantity_eq, ← hi]
  exact h.wellFormed.room t o ht

/-! ## Writing an order version -/

/-- How a new version has to fit the versions already there. -/
structure Fits (l : List JournalEntry) (t : OrderEventType) (p : Order) : Prop where
  shape : t = .order .created ∨ t = .order p.state ∨ t = .orderAckAmbiguous ∧ p.state = .routed
  version : ∀ u q, .order u q ∈ l → q.artifactId = p.artifactId → q.withState p.state = p
  client : ∀ u q, .order u q ∈ l → q.idempotencyKey = p.idempotencyKey →
    q.artifactId = p.artifactId
  stage_le : ∀ u q, .order u q ∈ l → q.artifactId = p.artifactId →
    stage q.state ≤ stage p.state
  room : loggedQuantity l p.artifactId ≤ p.quantity.value

theorem wellFormed_postOrder (h : WellFormed l) (hf : Fits l t p) :
    WellFormed (Journal.post JournalEntry.key l (.order t p)) := by
  have hcases : ∀ {u q}, .order u q ∈ Journal.post JournalEntry.key l (.order t p) →
      .order u q ∈ l ∨ u = t ∧ q = p := by
    intro u q hq
    rcases Journal.mem_post _ hq with hl | he
    · exact Or.inl hl
    · cases he
      exact Or.inr ⟨rfl, rfl⟩
  have hquantity : ∀ i, loggedQuantity (Journal.post JournalEntry.key l (.order t p)) i
      = loggedQuantity l i := by
    intro i
    unfold loggedQuantity
    rw [loggedFills_post_order]
  refine ⟨Journal.post_nodup _ h.keys, ?_, ?_, ?_, ?_, ?_, ?_, ?_⟩
  · intro u q hq
    rcases hcases hq with hl | ⟨rfl, rfl⟩
    · exact h.shape u q hl
    · exact hf.shape
  · intro u q v r hq hr hid
    rcases hcases hq with hlq | ⟨rfl, rfl⟩
    · rcases hcases hr with hlr | ⟨rfl, rfl⟩
      · exact h.versions u q v r hlq hlr hid
      · exact hf.version u q hlq hid
    · rcases hcases hr with hlr | ⟨rfl, rfl⟩
      · have hv := hf.version v r hlr hid.symm
        rw [← hv, Order.withState_withState, Order.withState_self]
      · rfl
  · intro u q v r hq hr hk
    rcases hcases hq with hlq | ⟨rfl, rfl⟩
    · rcases hcases hr with hlr | ⟨rfl, rfl⟩
      · exact h.clients u q v r hlq hlr hk
      · exact hf.client u q hlq hk
    · rcases hcases hr with hlr | ⟨rfl, rfl⟩
      · exact (hf.client v r hlr hk.symm).symm
      · rfl
  · refine Journal.post_pairwise _ h.stages ?_
    intro x hx
    cases x with
    | order u q => exact hf.stage_le u q hx
    | fill f => trivial
  · intro f g hfl hgl
    exact h.fillArtifacts f g (mem_fill_post_order.mp hfl) (mem_fill_post_order.mp hgl)
  · intro f hfl
    obtain ⟨u, o, ho, hid⟩ := h.fillOrders f (mem_fill_post_order.mp hfl)
    exact ⟨u, o, Journal.mem_post_of_mem _ ho, hid⟩
  · intro u q hq
    rw [hquantity]
    rcases hcases hq with hl | ⟨rfl, rfl⟩
    · exact h.room u q hl
    · exact hf.room

theorem mem_post_version (h : WellFormed l) (hf : Fits l t p) (ht : t ≠ .order .created) :
    .order t p ∈ Journal.post JournalEntry.key l (.order t p) := by
  refine Journal.mem_post_self _ ?_
  intro x hx hkey
  cases x with
  | fill f => exact absurd hkey.symm (orderKey_ne_fillKey _ _ _)
  | order u q =>
    obtain ⟨hk, hu⟩ := orderKey_inj hkey
    subst hu
    have hstate : q.state = p.state := by
      rcases h.shape u q hx with hc | hs | ⟨ha, hr⟩
      · exact absurd hc ht
      · rcases hf.shape with hc | hs' | ⟨ha', -⟩
        · exact absurd hc ht
        · rw [hs] at hs'
          exact OrderEventType.order.inj hs'
        · rw [hs] at ha'
          cases ha'
      · rcases hf.shape with hc | hs' | ⟨-, hr'⟩
        · exact absurd hc ht
        · rw [ha] at hs'
          cases hs'
        · rw [hr, hr']
    have hv := hf.version u q hx (hf.client u q hx hk)
    rw [← hstate, Order.withState_self] at hv
    rw [hv]

theorem openedId_version (ht : t ≠ .order .created) :
    JournalEntry.openedId (.order t p) = none := by
  unfold JournalEntry.openedId
  split
  · next heq =>
    cases heq
    exact absurd rfl ht
  · rfl

theorem openedId_post_version (ht : t ≠ .order .created) :
    (Journal.post JournalEntry.key l (.order t p)).filterMap JournalEntry.openedId
      = l.filterMap JournalEntry.openedId := by
  unfold Journal.post
  split
  · rfl
  · rw [filterMap_append]
    simp [openedId_version ht]

variable {s : OrderState}

theorem fits_version (h : Sound c) (ho : c.memory.orders.get o.artifactId = some o)
    (hs : stage o.state ≤ stage s) (ht : t = .order s ∨ t = .orderAckAmbiguous ∧ s = .routed) :
    Fits c.entries t (o.withState s) := by
  obtain ⟨-, v, hv⟩ := h.projects.orderLogged o.artifactId o ho
  refine ⟨?_, ?_, ?_, ?_, ?_⟩
  · rcases ht with ht | ⟨ht, hr⟩
    · exact Or.inr (Or.inl ht)
    · exact Or.inr (Or.inr ⟨ht, hr⟩)
  · intro u q hq hid
    have hver := h.wellFormed.version h.projects ho hq hid
    show q.withState s = o.withState s
    rw [← hver, Order.withState_withState]
  · intro u q hq hk
    exact h.wellFormed.clients u q v o hq hv hk
  · intro u q hq hid
    exact Nat.le_trans (h.projects.stage_le ho hq hid) hs
  · exact h.wellFormed.room v o hv

theorem sound_logVersion (h : Sound c) (ho : c.memory.orders.get o.artifactId = some o)
    (hs : stage o.state ≤ stage s)
    (ht : t = .order s ∧ s ≠ .created ∨ t = .orderAckAmbiguous ∧ s = .routed) :
    Sound (c.logOrder t (o.withState s)) := by
  have hopen : t ≠ .order .created := by
    rcases ht with ⟨ht, hc⟩ | ⟨ht, -⟩
    · rw [ht]
      intro he
      exact hc (OrderEventType.order.inj he)
    · rw [ht]
      intro he
      cases he
  have hfits : Fits c.entries t (o.withState s) :=
    fits_version h ho hs (ht.imp And.left id)
  have hkeep : ∀ i p, c.memory.orders.get i = some p →
      ∃ p', (c.memory.orders.set o.artifactId (o.withState s)).get i = some p' ∧
        stage p.state ≤ stage p'.state := by
    intro i p hp
    rw [get_set]
    by_cases hi : i = o.artifactId
    · rw [hi, ho] at hp
      cases hp
      exact ⟨o.withState s, by rw [if_pos hi], hs⟩
    · exact ⟨p, by rw [if_neg hi]; exact hp, Nat.le_refl _⟩
  refine ⟨wellFormed_postOrder h.wellFormed hfits, ?_, ?_, ?_, ?_, ?_⟩
  · intro i p hp
    have hget : (c.memory.orders.set o.artifactId (o.withState s)).get i = some p := hp
    rw [get_set] at hget
    by_cases hi : i = o.artifactId
    · rw [if_pos hi] at hget
      cases hget
      exact ⟨hi.symm, t, mem_post_version h.wellFormed hfits hopen⟩
    · rw [if_neg hi] at hget
      obtain ⟨hid, u, hu⟩ := h.projects.orderLogged i p hget
      exact ⟨hid, u, Journal.mem_post_of_mem _ hu⟩
  · intro u q hq
    rcases Journal.mem_post _ hq with hl | he
    · obtain ⟨p, hp, hle⟩ := h.projects.loggedOrder u q hl
      obtain ⟨p', hp', hle'⟩ := hkeep _ p hp
      exact ⟨p', hp', Nat.le_trans hle hle'⟩
    · cases he
      exact ⟨o.withState s, get_set_self _ _ _, Nat.le_refl _⟩
  · have hmem : o.artifactId ∈ c.memory.orders.keys := mem_keys_iff.mpr ⟨o, ho⟩
    show (c.memory.orders.set o.artifactId (o.withState s)).keys = _
    rw [keys_set, if_pos hmem, h.projects.orderIds]
    exact (openedId_post_version hopen).symm
  · show c.memory.fills.entries = _
    rw [h.projects.fills]
    exact congrArg _ (loggedFills_post_order t (o.withState s)).symm
  · intro i hi
    obtain ⟨p, hp⟩ := h.projects.ambiguous i hi
    obtain ⟨p', hp', -⟩ := hkeep i p hp
    exact ⟨p', hp'⟩

theorem loggedQuantity_of_absent (hw : WellFormed l) (hp : Projects l m)
    (hi : m.orders.get i = none) : loggedQuantity l i = 0 := by
  have hnil : ((loggedFills l).filter fun f => f.orderId = i) = [] := by
    rw [filter_eq_nil_iff]
    intro f hf
    obtain ⟨t, o, ho, hid⟩ := hw.fillOrders f (mem_loggedFills.mp hf)
    have hne := hp.not_logged hi ho
    rw [hid] at hne
    simpa using hne
  unfold loggedQuantity
  rw [hnil]
  rfl

theorem sound_logOpened (h : Sound c) (ho : c.memory.orders.get o.artifactId = none)
    (hfresh : ∀ p ∈ c.memory.orders.values, p.idempotencyKey ≠ o.idempotencyKey) :
    Sound (c.logOrder (.order .created) o) := by
  have hkey : ∀ u q, .order u q ∈ c.entries → q.idempotencyKey ≠ o.idempotencyKey := by
    intro u q hq hk
    obtain ⟨p, hp, -⟩ := h.projects.loggedOrder u q hq
    have hver := h.wellFormed.version h.projects hp hq rfl
    refine hfresh p (mem_values_iff.mpr ⟨_, hp⟩) ?_
    rw [← hver]
    exact hk
  have habsent : JournalEntry.key (.order (.order .created) o)
      ∉ c.entries.map JournalEntry.key := by
    intro hmem
    obtain ⟨x, hx, hxk⟩ := mem_map.mp hmem
    cases x with
    | fill f => exact orderKey_ne_fillKey _ _ _ hxk.symm
    | order u q => exact hkey u q hx (orderKey_inj hxk).1
  have hfits : Fits c.entries (.order .created) o := by
    refine ⟨Or.inl rfl, ?_, ?_, ?_, ?_⟩
    · intro u q hq hid
      exact absurd hid (h.projects.not_logged ho hq)
    · intro u q hq hk
      exact absurd hk (hkey u q hq)
    · intro u q hq hid
      exact absurd hid (h.projects.not_logged ho hq)
    · rw [loggedQuantity_of_absent h.wellFormed h.projects ho]
      exact le_of_lt o.quantity_pos
  refine ⟨wellFormed_postOrder h.wellFormed hfits, ?_, ?_, ?_, ?_, ?_⟩
  · intro i p hp
    have hget : (c.memory.orders.set o.artifactId o).get i = some p := hp
    rw [get_set] at hget
    by_cases hi : i = o.artifactId
    · rw [if_pos hi] at hget
      cases hget
      refine ⟨hi.symm, .order .created, ?_⟩
      show _ ∈ Journal.post _ _ _
      rw [Journal.post_of_absent _ habsent]
      exact mem_append_right _ (mem_singleton_self _)
    · rw [if_neg hi] at hget
      obtain ⟨hid, u, hu⟩ := h.projects.orderLogged i p hget
      exact ⟨hid, u, Journal.mem_post_of_mem _ hu⟩
  · intro u q hq
    rcases Journal.mem_post _ hq with hl | he
    · obtain ⟨p, hp, hle⟩ := h.projects.loggedOrder u q hl
      exact ⟨p, (get_set_ne _ (h.projects.not_logged ho hl) _).trans hp, hle⟩
    · cases he
      exact ⟨o, get_set_self _ _ _, Nat.le_refl _⟩
  · have hmem : o.artifactId ∉ c.memory.orders.keys := get_eq_none_iff.mp ho
    show (c.memory.orders.set o.artifactId o).keys
      = (Journal.post _ _ _).filterMap JournalEntry.openedId
    rw [keys_set, if_neg hmem, h.projects.orderIds, Journal.post_of_absent _ habsent,
      filterMap_append]
    rfl
  · show c.memory.fills.entries = _
    rw [h.projects.fills]
    exact congrArg _ (loggedFills_post_order (.order .created) o).symm
  · intro i hi
    obtain ⟨p, hp⟩ := h.projects.ambiguous i hi
    have hne : i ≠ o.artifactId := by
      intro he
      rw [he, ho] at hp
      cases hp
    exact ⟨p, (get_set_ne _ hne _).trans hp⟩

/-! ## Writing a fill -/

theorem fillKey_absent (hp : Projects l m) (hnew : m.fills.get f.venueFillId = none) :
    JournalEntry.key (.fill f) ∉ l.map JournalEntry.key := by
  intro hmem
  obtain ⟨x, hx, hxk⟩ := mem_map.mp hmem
  cases x with
  | order t o => exact orderKey_ne_fillKey _ _ _ hxk
  | fill g =>
    have hg := hp.get_fill.mpr ⟨hx, fillKey_inj hxk⟩
    rw [hnew] at hg
    cases hg

theorem loggedQuantity_append_fill (l : List JournalEntry) (f : Fill) (i : UUID) :
    loggedQuantity (l ++ [.fill f]) i
      = loggedQuantity l i + if f.orderId = i then f.quantity.value else 0 := by
  unfold loggedQuantity
  rw [loggedFills_append, filter_append, map_append, sum_append]
  by_cases h : f.orderId = i
  · simp [loggedFills, JournalEntry.fill?, h]
  · simp [loggedFills, JournalEntry.fill?, h]

theorem Accepts.stored (h : Sound c) (ha : c.Accepts f o) :
    o.artifactId = f.orderId ∧ ∃ t, .order t o ∈ c.entries :=
  h.projects.orderLogged f.orderId o ha.order

theorem sound_logFill (h : Sound c) (ha : c.Accepts f o) : Sound (c.logFill f) := by
  obtain ⟨hid, t, ht⟩ := ha.stored h
  have habsent := fillKey_absent h.projects ha.new
  have hpost : Journal.post JournalEntry.key c.entries (.fill f) = c.entries ++ [.fill f] :=
    Journal.post_of_absent _ habsent
  have hfill : ∀ g, .fill g ∈ c.entries ++ [.fill f] → .fill g ∈ c.entries ∨ g = f := by
    intro g hg
    rcases mem_append.mp hg with hl | he
    · exact Or.inl hl
    · exact Or.inr (JournalEntry.fill.inj (mem_singleton.mp he))
  have hold : ∀ g, .fill g ∈ c.entries → g.artifactId ≠ f.artifactId := by
    intro g hg
    refine ha.newArtifact g ?_
    rw [h.projects.values]
    exact mem_loggedFills.mpr hg
  have horder : ∀ u q, .order u q ∈ c.entries ++ [.fill f] → .order u q ∈ c.entries := by
    intro u q hq
    rwa [← hpost, mem_order_post_fill] at hq
  constructor
  · show WellFormed (Journal.post JournalEntry.key c.entries (.fill f))
    refine ⟨Journal.post_nodup _ h.wellFormed.keys, ?_, ?_, ?_, ?_, ?_, ?_, ?_⟩
    · intro u q hq
      exact h.wellFormed.shape u q (mem_order_post_fill.mp hq)
    · intro u q v r hq hr
      exact h.wellFormed.versions u q v r (mem_order_post_fill.mp hq) (mem_order_post_fill.mp hr)
    · intro u q v r hq hr
      exact h.wellFormed.clients u q v r (mem_order_post_fill.mp hq) (mem_order_post_fill.mp hr)
    · refine Journal.post_pairwise _ h.wellFormed.stages ?_
      intro x _
      cases x with
      | order u q => trivial
      | fill g => trivial
    · rw [hpost]
      intro g k hg hk hgk
      rcases hfill g hg with hgl | rfl
      · rcases hfill k hk with hkl | rfl
        · exact h.wellFormed.fillArtifacts g k hgl hkl hgk
        · exact absurd hgk (hold g hgl)
      · rcases hfill k hk with hkl | rfl
        · exact absurd hgk.symm (hold k hkl)
        · rfl
    · rw [hpost]
      intro g hg
      rcases hfill g hg with hgl | rfl
      · obtain ⟨u, q, hq, hqid⟩ := h.wellFormed.fillOrders g hgl
        exact ⟨u, q, mem_append_left _ hq, hqid⟩
      · exact ⟨t, o, mem_append_left _ ht, hid⟩
    · rw [hpost]
      intro u q hq
      have hql := horder u q hq
      rw [loggedQuantity_append_fill]
      by_cases hf : f.orderId = q.artifactId
      · -- Versions of one order have one quantity.
        have hver := h.wellFormed.version h.projects ha.order hql hf.symm
        have hquantity : q.quantity = o.quantity := by
          rw [← hver]
          rfl
        rw [if_pos hf, hquantity, ← hf, ← h.projects.filledQuantity_eq]
        exact ha.room
      · rw [if_neg hf, add_zero]
        exact h.wellFormed.room u q hql
  · show Projects (Journal.post JournalEntry.key c.entries (.fill f)) _
    rw [hpost]
    refine ⟨?_, ?_, ?_, ?_, h.projects.ambiguous⟩
    · intro i p hp
      obtain ⟨hpid, u, hu⟩ := h.projects.orderLogged i p hp
      exact ⟨hpid, u, mem_append_left _ hu⟩
    · intro u q hq
      exact h.projects.loggedOrder u q (horder u q hq)
    · rw [filterMap_append]
      show c.memory.orders.keys = _
      rw [h.projects.orderIds]
      exact (append_nil _).symm
    · show (c.memory.fills.set f.venueFillId f).entries = _
      rw [entries_set_of_get_none ha.new, h.projects.fills, loggedFills_append,
        map_append]
      rfl

/-! ## The step lemma -/

theorem sound_settleAmbiguity (h : Sound c) (i : UUID) : Sound (c.settleAmbiguity i) := by
  refine ⟨h.wellFormed, h.projects.orderLogged, h.projects.loggedOrder, h.projects.orderIds,
    h.projects.fills, ?_⟩
  intro j hj
  exact h.projects.ambiguous j (Finset.mem_of_mem_erase hj)

theorem sound_advance (h : Sound c) (ho : c.memory.orders.get i = some o)
    (hs : s ∈ allowedTransitions o.state) : Sound (c.advance o s) := by
  have ho' : c.memory.orders.get o.artifactId = some o := by
    rw [h.projects.orderId ho]
    exact ho
  exact sound_logVersion h ho' (stage_le_of_allowed _ _ hs)
    (Or.inl ⟨rfl, ne_created_of_allowed _ _ hs⟩)

theorem sound_lose (h : Sound c) (ho : c.memory.orders.get i = some o) (hr : o.state = .routed) :
    Sound (c.lose o) := by
  have ho' : c.memory.orders.get o.artifactId = some o := by
    rw [h.projects.orderId ho]
    exact ho
  have hsound := sound_logVersion (t := .orderAckAmbiguous) (s := o.state) h ho'
    (Nat.le_refl _) (Or.inr ⟨rfl, hr⟩)
  rw [Order.withState_self] at hsound
  -- Writing the current version again leaves the orders as they are.
  have hset : c.memory.orders.set o.artifactId o = c.memory.orders := set_of_get_eq ho'
  unfold logOrder at hsound
  rw [hset] at hsound
  refine ⟨hsound.wellFormed, hsound.projects.orderLogged, hsound.projects.loggedOrder,
    hsound.projects.orderIds, hsound.projects.fills, ?_⟩
  intro j hj
  rcases Finset.mem_insert.mp hj with rfl | hj
  · exact ⟨o, ho'⟩
  · exact h.projects.ambiguous j hj

theorem fillState_allowed (hs : s ∈ fillableStates) (filled quantity : ℚ) :
    fillState filled quantity ∈ allowedTransitions s := by
  have hboth : ∀ s : OrderState, s ∈ fillableStates →
      OrderState.filled ∈ allowedTransitions s ∧
      OrderState.partiallyFilled ∈ allowedTransitions s := by
    decide
  unfold fillState
  split
  · exact (hboth s hs).1
  · exact (hboth s hs).2

theorem sound_moveTo (h : Sound c) (ho : c.memory.orders.get i = some o)
    (hs : s = o.state ∨ s ∈ allowedTransitions o.state) : Sound (c.moveTo o s) := by
  unfold moveTo
  split
  · exact h
  · next hne => exact sound_advance h ho (hs.resolve_left hne)

/-- **Step lemma.** Every step keeps a journal sound. -/
theorem step_sound {label : Label} (hstep : Step label c c') (h : Sound c) : Sound c' := by
  cases hstep with
  | create absent fresh => exact sound_logOpened h absent fresh
  | advance current allowed changes => exact sound_advance h current allowed
  | route current approved =>
    have hs := sound_advance (s := .routed) h current (by rw [approved]; decide)
    exact ⟨hs.wellFormed, hs.projects⟩
  | lose current routed => exact sound_lose h current routed
  | resolve current pending allowed =>
    exact sound_settleAmbiguity (sound_moveTo h current allowed) _
  | record accepts =>
    exact sound_moveTo (sound_logFill h accepts) accepts.order
      (Or.inr (fillState_allowed accepts.fillable _ _))
  | settle current recorded allowed changes => exact sound_advance h current allowed
  | tornFill accepts => exact sound_logFill h accepts

end OrderJournal

end AdvisorAI
