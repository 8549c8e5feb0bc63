import Mathlib.Algebra.Order.BigOperators.Group.List
import AdvisorAI.Execution.OmsRuns

/-!
# Fills and fill states

Fills and order states are two projections of one log. `FillsBacked` ties them
together on the log alone: a FILLED version stands over fills that sum to the
quantity, a PARTIALLY_FILLED one over fills with a positive sum. It survives
torn fills and restarts. That a PARTIALLY_FILLED order is not yet full
(`Completed`) does not: a crash between the durable fill and the transition
leaves a full order in its old state until the fill is delivered again.
-/

namespace AdvisorAI

open Lib OrderJournal List

variable {c c' : OrderJournal} {w : OmsWorld} {l : List JournalEntry}

def fillStates : List OrderState := [.partiallyFilled, .filled]

theorem loggedQuantity_nonneg (l : List JournalEntry) (i : UUID) : 0 ≤ loggedQuantity l i := by
  refine sum_nonneg ?_
  intro q hq
  obtain ⟨f, -, rfl⟩ := mem_map.mp hq
  exact le_of_lt f.quantity_pos

variable {f : Fill}

theorem loggedQuantity_pos (hf : .fill f ∈ l) : 0 < loggedQuantity l f.orderId := by
  refine lt_of_lt_of_le f.quantity_pos (single_le_sum ?_ _ ?_)
  · intro q hq
    obtain ⟨g, -, rfl⟩ := mem_map.mp hq
    exact le_of_lt g.quantity_pos
  · refine mem_map.mpr ⟨f, ?_, rfl⟩
    rw [mem_filter]
    exact ⟨mem_loggedFills.mpr hf, by simp⟩

theorem loggedQuantity_post_order (t : OrderEventType) (o : Order) (i : UUID) :
    loggedQuantity (Journal.post JournalEntry.key l (.order t o)) i = loggedQuantity l i := by
  unfold loggedQuantity
  rw [loggedFills_post_order]

variable {o : Order}

theorem loggedQuantity_logFill (hs : Sound c) (ha : c.Accepts f o) (i : UUID) :
    loggedQuantity (c.logFill f).entries i
      = loggedQuantity c.entries i + if f.orderId = i then f.quantity.value else 0 := by
  show loggedQuantity (Journal.post JournalEntry.key c.entries (.fill f)) i = _
  rw [Journal.post_of_absent _ (fillKey_absent hs.projects ha.new), loggedQuantity_append_fill]

/-! ## Fill states are backed by fills -/

/-- The fill states in a log are backed by its fills. -/
structure FillsBacked (l : List JournalEntry) : Prop where
  full : ∀ t p, .order t p ∈ l → p.state = .filled →
    loggedQuantity l p.artifactId = p.quantity.value
  part : ∀ t p, .order t p ∈ l → p.state = .partiallyFilled →
    0 < loggedQuantity l p.artifactId

variable {t : OrderEventType}

private theorem fillsBacked_post (h : FillsBacked l)
    (hfull : o.state = .filled → loggedQuantity l o.artifactId = o.quantity.value)
    (hsome : o.state = .partiallyFilled → 0 < loggedQuantity l o.artifactId) :
    FillsBacked (Journal.post JournalEntry.key l (.order t o)) := by
  constructor
  · intro u p hp hstate
    rw [loggedQuantity_post_order]
    rcases Journal.mem_post _ hp with hl | he
    · exact h.full u p hl hstate
    · cases he
      exact hfull hstate
  · intro u p hp hstate
    rw [loggedQuantity_post_order]
    rcases Journal.mem_post _ hp with hl | he
    · exact h.part u p hl hstate
    · cases he
      exact hsome hstate

private theorem fillsBacked_logFill (hs : Sound c) (h : FillsBacked c.entries)
    (ha : c.Accepts f o) : FillsBacked (c.logFill f).entries := by
  have hnonneg : ∀ i, 0 ≤ if f.orderId = i then f.quantity.value else 0 := by
    intro i
    split
    · exact le_of_lt f.quantity_pos
    · exact le_refl _
  constructor
  · intro t p hp hstate
    have hpl : .order t p ∈ c.entries := mem_order_post_fill.mp hp
    rw [loggedQuantity_logFill hs ha]
    by_cases hid : f.orderId = p.artifactId
    · -- A FILLED order takes no new fill: its state is past the fillable ones.
      have hstage := hs.projects.stage_le ha.order hpl hid.symm
      have hfillable : ∀ s ∈ fillableStates, stage s ≤ 4 := by decide
      rw [hstate] at hstage
      exact absurd (Nat.le_trans hstage (hfillable _ ha.fillable)) (by decide)
    · rw [if_neg hid, add_zero]
      exact h.full t p hpl hstate
  · intro t p hp hstate
    rw [loggedQuantity_logFill hs ha]
    exact add_pos_of_pos_of_nonneg (h.part t p (mem_order_post_fill.mp hp) hstate) (hnonneg _)

private theorem fillState_backed {filled : ℚ} (quantity : ℚ) (hpos : 0 < filled) :
    (fillState filled quantity = .filled → filled = quantity) ∧
    (fillState filled quantity = .partiallyFilled → 0 < filled) := by
  unfold fillState
  split
  · next h => exact And.intro (fun _ => h) (fun _ => hpos)
  · refine And.intro ?_ (fun _ => hpos)
    intro h
    cases h

/-- Fill states are entered through fills only. -/
def FillStatesFromFills (c : OrderJournal) : Label → Prop
  | .create o => o.state ∈ fillStates → c.memory.orders.get o.artifactId ≠ none
  | .advance i s => s ∈ fillStates → ∀ o, c.memory.orders.get i = some o →
    s ∈ allowedTransitions o.state → s = o.state
  | _ => True

variable {s : OrderState}

private theorem not_mem_fillStates (h : s ∉ fillStates) : s ≠ .filled ∧ s ≠ .partiallyFilled := by
  have hall : ∀ s : OrderState, s ∉ fillStates → s ≠ .filled ∧ s ≠ .partiallyFilled := by
    decide
  exact hall s h

/-- **Step lemma.** -/
theorem fillsBacked_step {label : Label} (hs : Sound c) (h : FillsBacked c.entries)
    (hA : FillStatesFromFills c label) (hstep : Step label c c') : FillsBacked c'.entries := by
  have hmove : ∀ {c : OrderJournal} {o : Order} {s : OrderState}, FillsBacked c.entries →
      (s = .filled → loggedQuantity c.entries o.artifactId = o.quantity.value) →
      (s = .partiallyFilled → 0 < loggedQuantity c.entries o.artifactId) →
      FillsBacked (c.moveTo o s).entries := by
    intro c o s h hfull hsome
    unfold moveTo
    split
    · exact h
    · exact fillsBacked_post h hfull hsome
  have hplain : ∀ {c : OrderJournal} {o : Order} {s : OrderState}, FillsBacked c.entries →
      s ∉ fillStates → FillsBacked (c.advance o s).entries := by
    intro c o s h hs
    obtain ⟨hf, hp⟩ := not_mem_fillStates hs
    exact fillsBacked_post h (fun he => absurd he hf) (fun he => absurd he hp)
  cases hstep with
  | @create _ o absent fresh =>
    have hstate : o.state ∉ fillStates := fun hmem => hA hmem absent
    obtain ⟨hf, hp⟩ := not_mem_fillStates hstate
    exact fillsBacked_post h (fun he => absurd he hf) (fun he => absurd he hp)
  | @advance _ i o s current allowed changes =>
    exact hplain h fun hmem => changes (hA hmem o current allowed)
  | route current approved => exact hplain h (by decide)
  | @lose _ i o current routed =>
    refine fillsBacked_post h ?_ ?_
    · intro he
      rw [routed] at he
      cases he
    · intro he
      rw [routed] at he
      cases he
  | @resolve _ i o accepted current pending allowed =>
    have hanswer : answeredState accepted ∉ fillStates := by
      cases accepted
      · decide
      · decide
    obtain ⟨hf, hp⟩ := not_mem_fillStates hanswer
    exact hmove h (fun he => absurd he hf) (fun he => absurd he hp)
  | @record _ f o accepts =>
    have hid : o.artifactId = f.orderId := (accepts.stored hs).1
    have hsum : loggedQuantity (c.logFill f).entries o.artifactId
        = filledQuantity c.memory.fills f.orderId + f.quantity.value := by
      rw [loggedQuantity_logFill hs accepts, if_pos hid.symm, hid,
        hs.projects.filledQuantity_eq]
    have hpos : 0 < filledQuantity c.memory.fills f.orderId + f.quantity.value := by
      rw [hs.projects.filledQuantity_eq]
      exact add_pos_of_nonneg_of_pos (loggedQuantity_nonneg _ _) f.quantity_pos
    obtain ⟨hfull, hsome⟩ := fillState_backed o.quantity.value hpos
    refine hmove (fillsBacked_logFill hs h accepts) ?_ ?_
    · intro he
      rw [hsum]
      exact hfull he
    · intro he
      rw [hsum]
      exact hsome he
  | @settle _ f o current recorded allowed changes =>
    obtain ⟨g, hg, hgo⟩ := recorded
    have hid : o.artifactId = f.orderId := hs.projects.orderId current
    have hpos : 0 < filledQuantity c.memory.fills o.artifactId := by
      rw [hs.projects.filledQuantity_eq, hid, ← hgo]
      exact loggedQuantity_pos (hs.projects.get_fill.mp hg).1
    obtain ⟨hfull, hsome⟩ := fillState_backed o.quantity.value hpos
    rw [hs.projects.filledQuantity_eq] at hfull hsome
    refine fillsBacked_post h ?_ ?_
    · intro he
      exact hfull (by rw [← hs.projects.filledQuantity_eq]; exact he)
    · intro he
      exact hsome (by rw [← hs.projects.filledQuantity_eq]; exact he)
  | tornFill accepts => exact fillsBacked_logFill hs h accepts

/-! ## A full order without a torn fill is FILLED -/

/-- Once the fills of an order sum to its quantity, a FILLED version is logged. -/
def Completed (i : UUID) (l : List JournalEntry) : Prop :=
  ∀ t p, .order t p ∈ l → p.artifactId = i → loggedQuantity l i = p.quantity.value →
    ∃ u q, .order u q ∈ l ∧ q.artifactId = i ∧ q.state = .filled

variable {i j : UUID}

private theorem completed_post (h : Completed i l)
    (hnew : o.artifactId = i → loggedQuantity l i = o.quantity.value →
      ∃ u q, .order u q ∈ Journal.post JournalEntry.key l (.order t o) ∧ q.artifactId = i ∧
        q.state = .filled) : Completed i (Journal.post JournalEntry.key l (.order t o)) := by
  intro u p hp hid hsum
  rw [loggedQuantity_post_order] at hsum
  rcases Journal.mem_post _ hp with hl | he
  · obtain ⟨v, q, hq, hqid, hstate⟩ := h u p hl hid hsum
    exact ⟨v, q, Journal.mem_post_of_mem _ hq, hqid, hstate⟩
  · cases he
    exact hnew hid hsum

private theorem completed_version (hs : Sound c) (h : Completed i c.entries)
    (ho : c.memory.orders.get j = some o) :
    Completed i (Journal.post JournalEntry.key c.entries (.order t (o.withState s))) := by
  refine completed_post h ?_
  intro hid hsum
  obtain ⟨-, u, hu⟩ := hs.projects.orderLogged j o ho
  obtain ⟨v, q, hq, hqid, hstate⟩ := h u o hu hid hsum
  exact ⟨v, q, Journal.mem_post_of_mem _ hq, hqid, hstate⟩

private theorem completed_moveTo (hs : Sound c) (h : Completed i c.entries)
    (ho : c.memory.orders.get j = some o) : Completed i (c.moveTo o s).entries := by
  unfold moveTo
  split
  · exact h
  · exact completed_version hs h ho

private theorem completed_logFill_other (hs : Sound c) (h : Completed i c.entries)
    (ha : c.Accepts f o) (hne : f.orderId ≠ i) : Completed i (c.logFill f).entries := by
  intro t p hp hid hsum
  rw [loggedQuantity_logFill hs ha, if_neg hne, add_zero] at hsum
  obtain ⟨u, q, hq, hqid, hstate⟩ := h t p (mem_order_post_fill.mp hp) hid hsum
  exact ⟨u, q, mem_order_post_fill.mpr hq, hqid, hstate⟩

/-- Recording the completing fill logs a FILLED version. -/
private theorem completed_record (hs : Sound c) (h : Completed i c.entries) (ha : c.Accepts f o) :
    Completed i ((c.logFill f).moveTo o (c.stateAfter f o)).entries := by
  have hs₁ := sound_logFill hs ha
  by_cases hi : f.orderId = i
  · intro t p hp hid hsum
    obtain ⟨hoid, v, hv⟩ := ha.stored hs
    -- Every version carries the quantity, so the target was FILLED.
    have hmoved : ∀ {s}, s = c.stateAfter f o → s ≠ .filled →
        filledQuantity c.memory.fills f.orderId + f.quantity.value ≠ o.quantity.value := by
      intro s hst hne heq
      unfold stateAfter fillState at hst
      rw [if_pos heq] at hst
      exact hne hst
    have hfinal := sound_moveTo hs₁ (s := c.stateAfter f o) ha.order
      (Or.inr (fillState_allowed ha.fillable _ _))
    have hquantity : p.quantity = o.quantity := by
      have hov : .order v o ∈ ((c.logFill f).moveTo o (c.stateAfter f o)).entries := by
        unfold moveTo
        split
        · exact mem_order_post_fill.mpr hv
        · exact Journal.mem_post_of_mem _ (mem_order_post_fill.mpr hv)
      have hver := hfinal.wellFormed.versions t p v o hp hov
        (hid.trans (hi.symm.trans hoid.symm))
      rw [← hver]
      rfl
    have hsum' : loggedQuantity ((c.logFill f).moveTo o (c.stateAfter f o)).entries i
        = filledQuantity c.memory.fills f.orderId + f.quantity.value := by
      have hbase : loggedQuantity (c.logFill f).entries i
          = filledQuantity c.memory.fills f.orderId + f.quantity.value := by
        rw [loggedQuantity_logFill hs ha, if_pos hi, ← hi, hs.projects.filledQuantity_eq]
      unfold moveTo
      split
      · exact hbase
      · rw [← hbase]
        exact loggedQuantity_post_order _ _ _
    have hfilled : c.stateAfter f o = .filled := by
      by_contra hne
      refine hmoved rfl hne ?_
      rw [← hsum', hsum, hquantity]
    have hne : c.stateAfter f o ≠ o.state := by
      intro he
      have hfill := ha.fillable
      rw [← he, hfilled] at hfill
      exact absurd hfill (by decide)
    have hget := sound_moveTo hs₁ (s := c.stateAfter f o) ha.order
      (Or.inr (fillState_allowed ha.fillable _ _))
    have hcurrent : ((c.logFill f).moveTo o (c.stateAfter f o)).memory.orders.get i
        = some (o.withState (c.stateAfter f o)) := by
      unfold moveTo
      rw [if_neg hne]
      show (c.memory.orders.set o.artifactId (o.withState (c.stateAfter f o))).get i = _
      rw [← hi, ← hoid, Dict.get_set_self]
    obtain ⟨u, hu⟩ := hget.projects.stored hcurrent
    exact ⟨u, o.withState (c.stateAfter f o), hu, hoid.trans hi, hfilled⟩
  · exact completed_moveTo hs₁ (completed_logFill_other hs h ha hi) (by exact ha.order)

theorem completed_step {label : Label} (hs : Sound c) (h : Completed i c.entries)
    (hA : ∀ f, label = .tornFill f → f.orderId ≠ i) (hstep : Step label c c') :
    Completed i c'.entries := by
  cases hstep with
  | @create _ o absent fresh =>
    refine completed_post h ?_
    intro hid hsum
    -- An order without fills is not full.
    rw [← hid, loggedQuantity_of_absent hs.wellFormed hs.projects absent] at hsum
    exact absurd hsum (ne_of_lt o.quantity_pos)
  | advance current allowed changes => exact completed_version hs h current
  | route current approved => exact completed_version hs h current
  | @lose _ j o current routed =>
    have hver := completed_version (t := .orderAckAmbiguous) (s := o.state) hs h current
    rw [Order.withState_self] at hver
    exact hver
  | resolve current pending allowed => exact completed_moveTo hs h current
  | record accepts => exact completed_record hs h accepts
  | settle current recorded allowed changes => exact completed_version hs h current
  | @tornFill _ f o accepts => exact completed_logFill_other hs h accepts (hA f rfl)

/-! ## Runs -/

/-- A call other than `record_fill` puts an order in a fill state. -/
def EntersFillState (w : OmsWorld) : OmsAction → Prop
  | .call _ _ (.create o) => o.state ∈ fillStates ∧ w.manager.orders.get o.artifactId = none
  | .call _ _ (.transition i s) => s ∈ fillStates ∧
    ∃ o, w.manager.orders.get i = some o ∧ s ∈ allowedTransitions o.state ∧ s ≠ o.state
  | _ => False

private theorem fillStates_permit {env : Surroundings} {n : Option Nat} {op : OmsOp}
    (hP : ¬EntersFillState w (.call env n op)) (hrep : Represents w c) :
    ∀ c' l, (c' = c ∨ ∃ i, op = .route i) → op.Takes env c' l → FillStatesFromFills c' l := by
  intro c' l hwhere htakes
  have hplain : ∀ {i s}, s ∉ fillStates → FillStatesFromFills c' (.advance i s) :=
    fun hs hmem => absurd hmem hs
  have hanswer : ∀ accepted, answeredState accepted ∉ fillStates := by
    decide
  cases op with
  | create o =>
    obtain rfl | ⟨i, hi⟩ := hwhere
    · cases htakes
      intro hmem hnone
      exact hP ⟨hmem, by rw [hrep.memory]; exact hnone⟩
    · cases hi
  | transition i s =>
    obtain rfl | ⟨j, hj⟩ := hwhere
    · cases htakes
      intro hmem o ho hal
      by_contra hne
      exact hP ⟨hmem, o, by rw [hrep.memory]; exact ho, hal, hne⟩
    · cases hj
  | approveRisk i decision check =>
    obtain ⟨-, rfl⟩ := htakes
    exact hplain (by decide)
  | route i =>
    obtain ⟨-, rfl | rfl | rfl | ⟨accepted, rfl⟩⟩ := htakes
    · exact hplain (by decide)
    · trivial
    · trivial
    · exact hplain (hanswer accepted)
  | reconcileAmbiguous i =>
    obtain ⟨o, a, -, -, -, rfl | ⟨-, rfl⟩⟩ := htakes
    · trivial
    · exact hplain (hanswer _)
  | reconcileRouted i =>
    obtain ⟨o, a, -, -, -, rfl⟩ := htakes
    exact hplain (hanswer _)
  | expireUnacknowledged | cancel | acknowledgeCancel | reconcile =>
    cases htakes
    exact hplain (by decide)
  | recordFill f side =>
    obtain ⟨-, -, rfl | rfl⟩ := htakes
    · trivial
    · trivial

theorem fillsBacked_kept : Kept (fun w a => ¬EntersFillState w a) FillStatesFromFills
    (fun c => FillsBacked c.entries) := by
  refine ⟨⟨?_, ?_⟩, ?_, ?_, ?_, ?_⟩
  · intro t p hp
    cases hp
  · intro t p hp
    cases hp
  · intro l c c' hs h hA hstep
    exact fillsBacked_step hs h hA hstep
  · intro w a f c c' _ _ hs h hstep
    exact fillsBacked_step hs h (show FillStatesFromFills c (.tornFill f) from trivial) hstep
  · intro c c' _ h hre
    obtain ⟨m, -, rfl⟩ := hre
    exact h
  · intro w env n op c hP hrep _ _
    exact fillStates_permit hP hrep

theorem completed_kept (i : UUID) :
    Kept (fun w a => ∀ f, DiesRecording w a f → f.orderId ≠ i)
      (fun _ l => ∀ f, l = .tornFill f → f.orderId ≠ i) (fun c => Completed i c.entries) := by
  refine ⟨?_, ?_, ?_, ?_, ?_⟩
  · intro t p hp
    cases hp
  · intro l c c' hs h hA hstep
    exact completed_step hs h hA hstep
  · intro w a f c c' hP hdies hs h hstep
    refine completed_step hs h ?_ hstep
    intro g hg
    cases hg
    exact hP f hdies
  · intro c c' _ h hre
    obtain ⟨m, -, rfl⟩ := hre
    exact h
  · intro w env n op c _ _ _ _ c' l _ htakes f hl
    -- No operation takes a torn fill on purpose.
    rw [hl] at htakes
    cases op with
    | approveRisk i decision check => cases htakes.2
    | route | reconcileAmbiguous | reconcileRouted | recordFill => simp [OmsOp.Takes] at htakes
    | _ => cases htakes

/-- The fills recorded for an order, oldest first. -/
def recordedFills (m : OrderManager) (i : UUID) : List Fill :=
  m.fills.values.filter fun f => f.orderId = i

/-- What the fills of an order say about it: each venue fill once, no more than
the quantity, all of it when FILLED, some of it when PARTIALLY_FILLED. -/
structure FillsMatch (m : OrderManager) (i : UUID) (o : Order) : Prop where
  distinct : ((recordedFills m i).map Fill.venueFillId).Nodup
  room : filledQuantity m.fills i ≤ o.quantity.value
  full : o.state = .filled → filledQuantity m.fills i = o.quantity.value
  part : o.state = .partiallyFilled → 0 < filledQuantity m.fills i

private theorem recorded_distinct {l : List JournalEntry} {m : OrderManager}
    (hp : Projects l m) (i : UUID) : ((recordedFills m i).map Fill.venueFillId).Nodup := by
  have hkeys : m.fills.values.map Fill.venueFillId = m.fills.entries.map Prod.fst := by
    rw [hp.values, hp.fills, map_map]
    rfl
  have hall : (m.fills.values.map Fill.venueFillId).Nodup := by
    rw [hkeys]
    exact m.fills.nodup
  exact hall.sublist (filter_sublist.map _)

/-- **Fills and states.** In every run that enters fill states through
`record_fill` only, the fills of every order match its state; and a
PARTIALLY_FILLED order is not full, unless the process died in a `record_fill`
of that order. -/
theorem fills_match_state {adapter : Adapter} {acts : List OmsAction}
    (hmeet : Runs.Along omsStep (fun w a => ¬EntersFillState w a) (.init adapter) acts)
    (hrun : omsRun (.init adapter) acts = some w) {i : UUID} {o : Order}
    (ho : w.manager.orders.get i = some o) :
    FillsMatch w.manager i o ∧
    (Runs.Along omsStep (fun w a => ∀ f, DiesRecording w a f → f.orderId ≠ i) (.init adapter) acts →
      o.state = .partiallyFilled → filledQuantity w.manager.fills i < o.quantity.value) := by
  obtain ⟨c, hrep, hs, hback⟩ := run_keeps fillsBacked_kept hmeet hrun
  rw [hrep.memory] at ho ⊢
  obtain ⟨hid, t, ht⟩ := hs.projects.orderLogged i o ho
  have hsum := hs.projects.filledQuantity_eq i
  constructor
  · refine ⟨recorded_distinct hs.projects i, hs.filled_le ho, ?_, ?_⟩
    · intro hstate
      rw [hsum, ← hid]
      exact hback.full t o ht hstate
    · intro hstate
      rw [hsum, ← hid]
      exact hback.part t o ht hstate
  · intro halive hstate
    obtain ⟨c₂, hrep₂, hs₂, hdone⟩ := run_keeps (completed_kept i) halive hrun
    have hmem : c₂.memory = c.memory := hrep₂.memory.symm.trans hrep.memory
    rw [← hmem] at ho ⊢
    obtain ⟨hid₂, u, hu⟩ := hs₂.projects.orderLogged i o ho
    refine lt_of_le_of_ne (hs₂.filled_le ho) ?_
    intro hfull
    rw [hs₂.projects.filledQuantity_eq] at hfull
    obtain ⟨v, q, hq, hqid, hqstate⟩ := hdone u o hu hid₂ hfull
    have hstage := hs₂.projects.stage_le ho hq hqid
    rw [hqstate, hstate] at hstage
    exact absurd hstage (by decide)

def paperPartlyFilled : List OmsAction :=
  paperAcknowledged ++ [paperCall (.recordFill (paperFill 11 "v-1" 4 fourUnits_pos paperFillId_normal) "buy")]

private theorem paperPartlyFilled_meets : Runs.Along omsStep
    (fun w a => ¬EntersFillState w a) (.init .paper) paperPartlyFilled := by
  refine Runs.along_of_forall ?_
  intro a ha s
  simp only [paperPartlyFilled, paperAcknowledged, mem_append, mem_cons,
    not_mem_nil, or_false] at ha
  rcases ha with (rfl | rfl | rfl) | rfl
  · exact fun h => absurd h.1 (by decide)
  · exact fun h => absurd h.1 (by decide)
  · exact id
  · exact id

/-- The partly filled paper order matches its fill. -/
theorem fills_match_state_paper :
    ∃ w o, omsRun (.init .paper) paperPartlyFilled = some w ∧
      w.manager.orders.get 1 = some o ∧ o.state = .partiallyFilled ∧
      FillsMatch w.manager 1 o := by
  have hrun : (omsRun (.init .paper) paperPartlyFilled).any (fun w =>
      (w.manager.orders.get 1).any fun o => o.state = .partiallyFilled) = true := by
    decide +kernel
  obtain ⟨w, hw, hany⟩ := (Option.any_eq_true _ _).mp hrun
  obtain ⟨o, ho, hstate⟩ := (Option.any_eq_true _ _).mp hany
  exact ⟨w, o, hw, ho, of_decide_eq_true hstate,
    (fills_match_state paperPartlyFilled_meets hw ho).1⟩

/-- The process dies between the durable fill of the last six units and the
transition; the restarted manager has a full order in PARTIALLY_FILLED. -/
theorem partially_filled_can_be_full :
    ¬∀ (adapter : Adapter) (acts : List OmsAction) (w : OmsWorld) (i : UUID) (o : Order),
      Runs.Along omsStep (fun w a => ¬EntersFillState w a) (.init adapter) acts →
      omsRun (.init adapter) acts = some w → w.manager.orders.get i = some o →
      o.state = .partiallyFilled → filledQuantity w.manager.fills i < o.quantity.value := by
  intro h
  let torn : OmsAction :=
    .call (paperSurroundings true) (some 1) (.recordFill (paperFill 12 "v-2" 6 (by decide) laterFillId_normal) "buy")
  have hmeet : Runs.Along omsStep (fun w a => ¬EntersFillState w a) (.init .paper)
      (paperPartlyFilled ++ [torn]) := by
    refine Runs.along_of_forall ?_
    intro a ha s
    simp only [paperPartlyFilled, paperAcknowledged, mem_append, mem_cons,
      not_mem_nil, or_false] at ha
    rcases ha with ((rfl | rfl | rfl) | rfl) | rfl
    · exact fun h => absurd h.1 (by decide)
    · exact fun h => absurd h.1 (by decide)
    · exact id
    · exact id
    · exact id
  have hrun : (omsRun (.init .paper) (paperPartlyFilled ++ [torn])).any (fun w =>
      (w.manager.orders.get 1).any fun o => o.state = .partiallyFilled ∧
        filledQuantity w.manager.fills 1 = o.quantity.value) = true := by
    decide +kernel
  obtain ⟨w, hw, hany⟩ := (Option.any_eq_true _ _).mp hrun
  obtain ⟨o, ho, hstate⟩ := (Option.any_eq_true _ _).mp hany
  have hfull := of_decide_eq_true hstate
  exact absurd (h .paper _ w 1 o hmeet hw ho hfull.1) (not_lt_of_ge (ge_of_eq hfull.2))

end AdvisorAI
