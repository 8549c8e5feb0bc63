import AdvisorAI.Execution.OmsRuns

/-!
# An order is submitted at most once, and only after it is durably ROUTED

The journal's `route` step is the one step that submits. It needs an order in
RISK_APPROVED, whose version is on disk because the memory projects the
journal, and it leaves a ROUTED version behind; the stage of an order never
falls, so the step cannot be taken for that order again, before or after any
number of crashes.
-/

namespace AdvisorAI

open Lib OrderJournal List

variable {c c' : OrderJournal} {w : OmsWorld}

/-- A submission was made with an approved and then a routed version on disk. -/
def SubmittedAfter (o : Order) (l : List JournalEntry) : Prop :=
  o.state = .routed ∧ ∃ t, (t = .order .riskApproved ∨ t = .order .created) ∧
    List.Sublist [.order t (o.withState .riskApproved), .order (.order .routed) o] l

/-- The submissions of a journal: no order and no key twice, each after its
durable ROUTED version. -/
structure RoutedOnce (c : OrderJournal) : Prop where
  logged : ∀ s ∈ c.submissions, s.2 <+: c.entries ∧ SubmittedAfter s.1 s.2
  orders : (c.submissions.map fun s => s.1.artifactId).Nodup
  keys : (c.submissions.map fun s => s.1.idempotencyKey).Nodup

variable {s : Order × List JournalEntry}

private theorem RoutedOnce.routed_logged (h : RoutedOnce c) (hs : s ∈ c.submissions) :
    .order (.order .routed) s.1 ∈ c.entries := by
  obtain ⟨hpre, -, t, -, hsub⟩ := h.logged s hs
  exact hpre.subset (hsub.subset (by simp))

variable {o : Order}

private theorem RoutedOnce.not_approved (h : RoutedOnce c) (hsound : Sound c) {i : UUID}
    (ho : c.memory.orders.get i = some o) (happroved : o.state = .riskApproved)
    (hs : s ∈ c.submissions) : s.1.artifactId ≠ i := by
  intro hid
  have hstage := hsound.projects.stage_le ho (h.routed_logged hs) hid
  obtain ⟨-, hrouted, -⟩ := h.logged s hs
  rw [hrouted, happroved] at hstage
  exact absurd hstage (by decide)

private theorem RoutedOnce.mono (h : RoutedOnce c) (hpre : c.entries <+: c'.entries)
    (hsub : c'.submissions = c.submissions) : RoutedOnce c' := by
  refine ⟨?_, ?_, ?_⟩
  · intro s hs
    rw [hsub] at hs
    obtain ⟨hp, hafter⟩ := h.logged s hs
    exact ⟨hp.trans hpre, hafter⟩
  · rw [hsub]
    exact h.orders
  · rw [hsub]
    exact h.keys

private theorem prefix_moveTo (c : OrderJournal) (o : Order) (s : OrderState) :
    c.entries <+: (c.moveTo o s).entries ∧ (c.moveTo o s).submissions = c.submissions := by
  unfold moveTo
  split
  · exact ⟨prefix_refl _, rfl⟩
  · exact ⟨Journal.prefix_post _ _ _, rfl⟩

private theorem routed_entry (hs : Sound c) {i : UUID} (ho : c.memory.orders.get i = some o)
    (happroved : o.state = .riskApproved) :
    SubmittedAfter (o.withState .routed) (c.advance o .routed).entries := by
  obtain ⟨hid, t, ht⟩ := hs.projects.orderLogged i o ho
  have habsent : JournalEntry.key (.order (.order .routed) (o.withState .routed))
      ∉ c.entries.map JournalEntry.key := by
    intro hmem
    obtain ⟨x, hx, hkey⟩ := mem_map.mp hmem
    cases x with
    | fill f => exact orderKey_ne_fillKey _ _ _ hkey.symm
    | order u q =>
      obtain ⟨hk, hu⟩ := orderKey_inj hkey
      subst hu
      have hqid : q.artifactId = i :=
        (hs.wellFormed.clients _ q t o hx ht hk).trans hid
      have hstage := hs.projects.stage_le ho hx hqid
      rcases hs.wellFormed.shape _ q hx with h1 | h1 | h1
      · cases h1
      · rw [← OrderEventType.order.inj h1, happroved] at hstage
        exact absurd hstage (by decide)
      · cases h1.1
  have htype : t = .order .riskApproved ∨ t = .order .created := by
    rcases hs.wellFormed.shape t o ht with h1 | h1 | h1
    · exact Or.inr h1
    · rw [happroved] at h1
      exact Or.inl h1
    · rw [happroved] at h1
      cases h1.2
  have hversion : (o.withState .routed).withState .riskApproved = o := by
    rw [Order.withState_withState, ← happroved, Order.withState_self]
  refine ⟨rfl, t, htype, ?_⟩
  show List.Sublist _ (Journal.post JournalEntry.key c.entries _)
  rw [Journal.post_of_absent _ habsent, hversion]
  exact List.Sublist.append (singleton_sublist.mpr ht) (List.Sublist.refl _)

/-- **Step lemma.** Whatever a journal does, its submissions stay in order. -/
theorem routedOnce_step {l : Label} (hs : Sound c) (h : RoutedOnce c) (hstep : Step l c c') :
    RoutedOnce c' := by
  cases hstep with
  | create | advance | lose | settle | tornFill => exact h.mono (Journal.prefix_post _ _ _) rfl
  | @resolve _ i o accepted current pending allowed =>
    obtain ⟨hpre, hsub⟩ := prefix_moveTo c o (answeredState accepted)
    exact h.mono hpre hsub
  | @record _ f o accepts =>
    obtain ⟨hpre, hsub⟩ := prefix_moveTo (c.logFill f) o (c.stateAfter f o)
    exact h.mono ((Journal.prefix_post _ _ _).trans hpre) hsub
  | @route _ i o current approved =>
    have hid : o.artifactId = i := hs.projects.orderId current
    have hnew : ∀ s ∈ c.submissions, s.1.artifactId ≠ o.artifactId := by
      intro s hsub
      rw [hid]
      exact h.not_approved hs current approved hsub
    have hnewKey : ∀ s ∈ c.submissions, s.1.idempotencyKey ≠ o.idempotencyKey := by
      intro s hsub hk
      obtain ⟨-, t, ht⟩ := hs.projects.orderLogged i o current
      exact hnew s hsub (hs.wellFormed.clients _ _ t o (h.routed_logged hsub) ht hk)
    refine ⟨?_, ?_, ?_⟩
    · intro s hsub
      rcases mem_append.mp hsub with hold | hlast
      · obtain ⟨hp, hafter⟩ := h.logged s hold
        exact ⟨hp.trans (Journal.prefix_post _ _ _), hafter⟩
      · rw [mem_singleton.mp hlast]
        exact ⟨prefix_refl _, routed_entry hs current approved⟩
    · show ((c.submissions ++ [_]).map _).Nodup
      rw [map_append]
      refine List.Nodup.append h.orders (nodup_singleton _) ?_
      intro i' hi' hlast
      obtain ⟨s, hsub, rfl⟩ := mem_map.mp hi'
      exact hnew s hsub (mem_singleton.mp hlast)
    · show ((c.submissions ++ [_]).map _).Nodup
      rw [map_append]
      refine List.Nodup.append h.keys (nodup_singleton _) ?_
      intro k hk hlast
      obtain ⟨s, hsub, rfl⟩ := mem_map.mp hk
      exact hnewKey s hsub (mem_singleton.mp hlast)

theorem routedOnce_kept : Kept (fun _ _ => True) (fun _ _ => True) RoutedOnce := by
  refine ⟨⟨?_, nodup_nil, nodup_nil⟩, ?_, ?_, ?_, ?_⟩
  · intro s hs
    cases hs
  · intro l c c' hs h _ hstep
    exact routedOnce_step hs h hstep
  · intro w a f c c' _ _ hs h hstep
    exact routedOnce_step hs h hstep
  · intro c c' _ h hre
    obtain ⟨m, -, rfl⟩ := hre
    exact h.mono (prefix_refl _) rfl
  · intro w env n op c _ _ _ _ c' l _ _
    trivial

/-! ## The world -/

/-- The submissions seen by the venue: no order twice, no idempotency key twice,
and each made when the ledger held an event with the order's RISK_APPROVED
version and, after it, the ROUTED event of the very order submitted. -/
def SubmittedOnceAfterRouted (w : OmsWorld) : Prop :=
  (w.submissions.map fun s => s.order.artifactId).Nodup ∧
  (w.submissions.map fun s => s.order.idempotencyKey).Nodup ∧
  ∀ s ∈ w.submissions, ∃ approved routed : OrderEvent,
    List.Sublist [approved, routed] s.ledger ∧
    (approved.eventType = .order .riskApproved ∨ approved.eventType = .order .created) ∧
    approved.payload = .order (s.order.withState .riskApproved) ∧
    routed.eventType = .order .routed ∧ routed.payload = .order s.order ∧
    s.order.state = .routed

theorem entryOf_order {e : OrderEvent} {t : OrderEventType} (h : entryOf e = some (.order t o)) :
    e.eventType = t ∧ e.payload = .order o := by
  unfold entryOf at h
  split at h
  · next p hp =>
    cases h
    exact ⟨rfl, hp⟩
  · cases h
  · cases h

private theorem submitted_of_routedOnce (hd : Durable w c) (h : RoutedOnce c) :
    SubmittedOnceAfterRouted w := by
  have hids : (w.submissions.map fun s => s.order.artifactId)
      = c.submissions.map fun s => s.1.artifactId := by
    rw [← hd.submissions, map_map]
    rfl
  have hkeys : (w.submissions.map fun s => s.order.idempotencyKey)
      = c.submissions.map fun s => s.1.idempotencyKey := by
    rw [← hd.submissions, map_map]
    rfl
  refine ⟨hids ▸ h.orders, hkeys ▸ h.keys, ?_⟩
  intro s hs
  have hmem : (s.order, entriesOf s.ledger) ∈ c.submissions := by
    rw [← hd.submissions]
    exact mem_map.mpr ⟨s, hs, rfl⟩
  obtain ⟨-, hrouted, t, ht, hsub⟩ := h.logged _ hmem
  -- The two entries come from two events, in the same order.
  obtain ⟨events, hevents, heq⟩ := sublist_filterMap_iff.mp hsub
  obtain ⟨before, approved, rest, hsplit, -, happroved, hrest⟩ :=
    filterMap_eq_cons_iff.mp heq.symm
  obtain ⟨mid, routed, last, hsplit', -, hroutedEntry, -⟩ := filterMap_eq_cons_iff.mp hrest
  obtain ⟨hat, hap⟩ := entryOf_order happroved
  obtain ⟨hrt, hrp⟩ := entryOf_order hroutedEntry
  refine ⟨approved, routed, ?_, hat ▸ ht, hap, hrt, hrp, hrouted⟩
  refine List.Sublist.trans ?_ hevents
  rw [hsplit, hsplit']
  refine List.Sublist.trans ?_ (sublist_append_right before _)
  exact (singleton_sublist.mpr (by simp)).cons_cons approved

theorem entryOf_of_payload {e : OrderEvent} {o : Order} (h : e.payload = .order o) :
    entryOf e = some (.order e.eventType o) := by
  unfold entryOf
  rw [h]

/-- **The order history.** After any run, with crashes and restarts in it, the
durable versions of one order differ in their state alone and their stages never
fall; the manager holds each logged order, as its latest version. -/
theorem order_history_never_regresses {adapter : Adapter} {acts : List OmsAction}
    (hrun : omsRun (.init adapter) acts = some w) :
    (w.orderEvents.Pairwise fun e e' => ∀ p q, e.payload = .order p → e'.payload = .order q →
      p.artifactId = q.artifactId → p.withState q.state = q ∧ stage p.state ≤ stage q.state) ∧
    ∀ e ∈ w.orderEvents, ∀ p, e.payload = .order p →
      ∃ o, w.manager.orders.get p.artifactId = some o ∧ p.withState o.state = o ∧
        stage p.state ≤ stage o.state := by
  obtain ⟨c, hrep, hs⟩ := run_sound hrun
  have hlogged : ∀ e ∈ w.orderEvents, ∀ p, e.payload = .order p →
      .order e.eventType p ∈ c.entries := by
    intro e he p hp
    rw [← hrep.durable.entries]
    exact mem_filterMap.mpr ⟨e, he, entryOf_of_payload hp⟩
  constructor
  · have hstages := hs.wellFormed.stages
    rw [← hrep.durable.entries] at hstages
    refine (pairwise_filterMap.mp hstages).imp_of_mem ?_
    intro e e' he he' hle p q hp hq hid
    refine ⟨hs.wellFormed.versions _ _ _ _ (hlogged e he p hp) (hlogged e' he' q hq) hid, ?_⟩
    exact hle _ (entryOf_of_payload hp) _ (entryOf_of_payload hq) hid
  · intro e he p hp
    obtain ⟨o, ho, hle⟩ := hs.projects.loggedOrder _ p (hlogged e he p hp)
    rw [hrep.memory]
    exact ⟨o, ho, hs.wellFormed.version hs.projects ho (hlogged e he p hp) rfl, hle⟩

/-- The acknowledged paper order leaves several versions, none behind another. -/
theorem order_history_never_regresses_paper :
    ∃ w, omsRun (.init .paper) paperAcknowledged = some w ∧ 3 ≤ w.orderEvents.length ∧
      w.orderEvents.Pairwise fun e e' => ∀ p q, e.payload = .order p → e'.payload = .order q →
        p.artifactId = q.artifactId → p.withState q.state = q ∧ stage p.state ≤ stage q.state := by
  have hrun : (omsRun (.init .paper) paperAcknowledged).any
      (fun w => 3 ≤ w.orderEvents.length) = true := by
    decide +kernel
  obtain ⟨w, hw, hlength⟩ := (Option.any_eq_true _ _).mp hrun
  exact ⟨w, hw, of_decide_eq_true hlength, (order_history_never_regresses hw).1⟩

end AdvisorAI
