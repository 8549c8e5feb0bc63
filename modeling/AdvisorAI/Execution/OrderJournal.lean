import AdvisorAI.Execution.Oms

/-!
# The order journal

What the order manager is for, without the machinery: a journal of order
versions and fills, the memory that mirrors it, and the submissions made to the
venue. A journal moves by a handful of named steps (`OrderJournal.Step`), each
writing at most one order version and one fill; a crash between the two writes
of a fill is the step `tornFill`.

`Sound` is what every reachable journal satisfies. Its first half, `WellFormed`,
speaks about the entries alone, so it survives a restart unchanged; its second
half, `Projects`, ties the memory to the entries and is re-established by
replaying them (`projects_of_replay`). The order of states is captured by
`stage`, which no transition decreases; only partial fills and pending
cancellations share a stage, and they are the only states an order can enter
twice.
-/

namespace AdvisorAI

open Lib

/-! ## Stages -/

def stage : OrderState → Nat
  | .created => 0
  | .riskApproved => 1
  | .routed => 2
  | .acknowledged => 3
  | .partiallyFilled => 4
  | .cancelPending => 4
  | .filled => 5
  | .cancelled => 5
  | .rejected => 5
  | .expired => 5
  | .reconciled => 6

theorem stage_le_of_allowed : ∀ s t : OrderState, t ∈ allowedTransitions s →
    stage s ≤ stage t := by
  decide

/-- The states that can be entered more than once. -/
def reenterable : List OrderState := [.partiallyFilled, .cancelPending]

theorem stage_lt_of_allowed : ∀ s t : OrderState, t ∈ allowedTransitions s →
    t ∉ reenterable → stage s < stage t := by
  decide

theorem ne_created_of_allowed : ∀ s t : OrderState, t ∈ allowedTransitions s → t ≠ .created := by
  decide

theorem eq_routed_of_stage : ∀ s : OrderState, stage s = 2 → s = .routed := by
  decide

/-! ## Entries and their keys -/

/-- A durable entry: a version of an order, or a fill. -/
inductive JournalEntry where
  | order (eventType : OrderEventType) (order : Order)
  | fill (fill : Fill)
deriving DecidableEq

namespace JournalEntry

def eventType : JournalEntry → OrderEventType
  | .order t _ => t
  | .fill _ => .fillRecorded

def artifact : JournalEntry → OrderArtifact
  | .order _ o => .order o
  | .fill f => .fill f

def key : JournalEntry → String
  | .order t o => orderKey o.idempotencyKey t
  | .fill f => fillKey f.venueFillId

def fill? : JournalEntry → Option Fill
  | .order _ _ => none
  | .fill f => some f

def openedId : JournalEntry → Option UUID
  | .order (.order .created) o => some o.artifactId
  | _ => none

/-- Of two versions of one order the later one is not at an earlier stage. -/
def StageLe : JournalEntry → JournalEntry → Prop
  | .order _ p, .order _ q => p.artifactId = q.artifactId → stage p.state ≤ stage q.state
  | _, _ => True

end JournalEntry

theorem state_value_injective : ∀ s t : OrderState, s.value = t.value → s = t := by
  decide

private theorem sep_not_mem_name (t : OrderEventType) : ':' ∉ t.name.toList := by
  cases t with
  | order s => revert s; decide +kernel
  | _ => decide +kernel

private theorem name_injective {t u : OrderEventType} (h : t.name = u.name) : t = u := by
  cases t with
  | order s =>
    cases u with
    | order s' =>
      have hs : s.value = s'.value := by
        have := congrArg String.toList h
        simp only [OrderEventType.name, String.toList_append, List.append_cancel_left_eq] at this
        exact String.toList_injective this
      rw [state_value_injective s s' hs]
    | orderAckAmbiguous | fillRecorded | reconciliationRecorded => revert s; decide +kernel
  | orderAckAmbiguous =>
    cases u with
    | order s => revert s; decide +kernel
    | orderAckAmbiguous => rfl
    | fillRecorded | reconciliationRecorded => exact absurd h (by decide +kernel)
  | fillRecorded =>
    cases u with
    | order s => revert s; decide +kernel
    | orderAckAmbiguous | reconciliationRecorded => exact absurd h (by decide +kernel)
    | fillRecorded => rfl
  | reconciliationRecorded =>
    cases u with
    | order s => revert s; decide +kernel
    | orderAckAmbiguous | fillRecorded => exact absurd h (by decide +kernel)
    | reconciliationRecorded => rfl

theorem orderKey_inj {k k' : String} {t t' : OrderEventType}
    (h : orderKey k t = orderKey k' t') : k = k' ∧ t = t' := by
  have hl := congrArg String.toList h
  simp only [orderKey, String.toList_append, List.append_assoc,
    List.append_cancel_left_eq] at hl
  obtain ⟨hk, ht⟩ := append_sep_inj (sep_not_mem_name t) (sep_not_mem_name t') hl
  exact ⟨String.toList_injective hk, name_injective (String.toList_injective ht)⟩

theorem fillKey_inj {v v' : String} (h : fillKey v = fillKey v') : v = v' := by
  have hl := congrArg String.toList h
  simp only [fillKey, String.toList_append, List.append_cancel_left_eq] at hl
  exact String.toList_injective hl

theorem orderKey_ne_fillKey (k v : String) (t : OrderEventType) : orderKey k t ≠ fillKey v := by
  intro h
  have hl := congrArg String.toList h
  simp only [orderKey, fillKey, String.toList_append] at hl
  have ho : ("order:" : String).toList = ['o', 'r', 'd', 'e', 'r', ':'] := by decide
  have hf : ("fill:" : String).toList = ['f', 'i', 'l', 'l', ':'] := by decide
  rw [ho, hf] at hl
  simp at hl

/-! ## Journals -/

/-- The entries, the memory that mirrors them, and the submissions made so far,
each with the entries there were at the time. -/
structure OrderJournal where
  entries : List JournalEntry
  memory : OrderManager
  submissions : List (Order × List JournalEntry)

variable (l : List JournalEntry)

def loggedFills : List Fill := l.filterMap JournalEntry.fill?

/-- What the logged fills of an order add up to. -/
def loggedQuantity (orderId : UUID) : ℚ :=
  (((loggedFills l).filter fun f => f.orderId = orderId).map fun f => f.quantity.value).sum

namespace OrderJournal

def empty : OrderJournal := ⟨[], .empty, []⟩

variable (c : OrderJournal)

/-- Write an order version, and make it the current one. -/
def logOrder (t : OrderEventType) (o : Order) : OrderJournal :=
  { c with
    entries := Journal.post JournalEntry.key c.entries (.order t o)
    memory := { c.memory with orders := c.memory.orders.set o.artifactId o } }

variable (o : Order)

def advance (s : OrderState) : OrderJournal :=
  c.logOrder (.order s) (o.withState s)

def submit : OrderJournal :=
  { c.advance o .routed with
    submissions := c.submissions ++ [(o.withState .routed, (c.advance o .routed).entries)] }

/-- Remember that the venue's answer to a routed order was lost. -/
def lose : OrderJournal :=
  { c with
    entries := Journal.post JournalEntry.key c.entries (.order .orderAckAmbiguous o)
    memory := { c.memory with
      ambiguousOrders := insert o.artifactId c.memory.ambiguousOrders } }

def settleAmbiguity (orderId : UUID) : OrderJournal :=
  { c with memory := { c.memory with
      ambiguousOrders := c.memory.ambiguousOrders.erase orderId } }

def logFill (f : Fill) : OrderJournal :=
  { c with
    entries := Journal.post JournalEntry.key c.entries (.fill f)
    memory := { c.memory with fills := c.memory.fills.set f.venueFillId f } }

/-- Move an order to a state it may already be in. -/
def moveTo (s : OrderState) : OrderJournal :=
  if s = o.state then c else c.advance o s

/-- A new fill of `o` that `record_fill` accepts. -/
structure Accepts (c : OrderJournal) (f : Fill) (o : Order) : Prop where
  order : c.memory.orders.get f.orderId = some o
  fillable : o.state ∈ fillableStates
  new : c.memory.fills.get f.venueFillId = none
  newArtifact : ∀ g ∈ c.memory.fills.values, g.artifactId ≠ f.artifactId
  room : filledQuantity c.memory.fills f.orderId + f.quantity.value ≤ o.quantity.value

def stateAfter (f : Fill) (o : Order) : OrderState :=
  fillState (filledQuantity c.memory.fills f.orderId + f.quantity.value) o.quantity.value

/-- The state the fills already recorded put an order in. -/
def stateOfFills : OrderState :=
  fillState (filledQuantity c.memory.fills o.artifactId) o.quantity.value

/-- The names of the steps of a journal. -/
inductive Label where
  | create (order : Order)
  | advance (orderId : UUID) (state : OrderState)
  | route (orderId : UUID)
  | lose (orderId : UUID)
  | resolve (orderId : UUID) (accepted : Bool)
  | record (fill : Fill)
  | settle (fill : Fill)
  | tornFill (fill : Fill)

inductive Step : Label → OrderJournal → OrderJournal → Prop where
  | create {c : OrderJournal} {o : Order} (absent : c.memory.orders.get o.artifactId = none)
      (fresh : ∀ p ∈ c.memory.orders.values, p.idempotencyKey ≠ o.idempotencyKey) :
      Step (.create o) c (c.logOrder (.order .created) o)
  | advance {c : OrderJournal} {i : UUID} {o : Order} {s : OrderState}
      (current : c.memory.orders.get i = some o) (allowed : s ∈ allowedTransitions o.state)
      (changes : s ≠ o.state) :
      Step (.advance i s) c (c.advance o s)
  | route {c : OrderJournal} {i : UUID} {o : Order}
      (current : c.memory.orders.get i = some o) (approved : o.state = .riskApproved) :
      Step (.route i) c (c.submit o)
  | lose {c : OrderJournal} {i : UUID} {o : Order}
      (current : c.memory.orders.get i = some o) (routed : o.state = .routed) :
      Step (.lose i) c (c.lose o)
  | resolve {c : OrderJournal} {i : UUID} {o : Order} {accepted : Bool}
      (current : c.memory.orders.get i = some o) (pending : i ∈ c.memory.ambiguousOrders)
      (allowed : answeredState accepted = o.state ∨
        answeredState accepted ∈ allowedTransitions o.state) :
      Step (.resolve i accepted) c ((c.moveTo o (answeredState accepted)).settleAmbiguity i)
  | record {c : OrderJournal} {f : Fill} {o : Order} (accepts : c.Accepts f o) :
      Step (.record f) c ((c.logFill f).moveTo o (c.stateAfter f o))
  | settle {c : OrderJournal} {f : Fill} {o : Order}
      (current : c.memory.orders.get f.orderId = some o)
      (recorded : ∃ g, c.memory.fills.get f.venueFillId = some g ∧ g.orderId = f.orderId)
      (allowed : c.stateOfFills o ∈ allowedTransitions o.state)
      (changes : c.stateOfFills o ≠ o.state) :
      Step (.settle f) c (c.advance o (c.stateOfFills o))
  | tornFill {c : OrderJournal} {f : Fill} {o : Order} (accepts : c.Accepts f o) :
      Step (.tornFill f) c (c.logFill f)

/-! ## Soundness -/

/-- What holds of the entries of every reachable journal. -/
structure WellFormed (l : List JournalEntry) : Prop where
  keys : (l.map JournalEntry.key).Nodup
  /-- An event type names the state of the version it carries, creation apart. -/
  shape : ∀ t o, .order t o ∈ l →
    t = .order .created ∨ t = .order o.state ∨ t = .orderAckAmbiguous ∧ o.state = .routed
  /-- Versions of one order differ in their state only. -/
  versions : ∀ t p u q, .order t p ∈ l → .order u q ∈ l → p.artifactId = q.artifactId →
    p.withState q.state = q
  /-- An idempotency key belongs to one order. -/
  clients : ∀ t p u q, .order t p ∈ l → .order u q ∈ l →
    p.idempotencyKey = q.idempotencyKey → p.artifactId = q.artifactId
  stages : l.Pairwise JournalEntry.StageLe
  fillArtifacts : ∀ f g, .fill f ∈ l → .fill g ∈ l → f.artifactId = g.artifactId → f = g
  fillOrders : ∀ f, .fill f ∈ l → ∃ t o, .order t o ∈ l ∧ o.artifactId = f.orderId
  room : ∀ t o, .order t o ∈ l → loggedQuantity l o.artifactId ≤ o.quantity.value

/-- The memory is a projection of the entries. -/
structure Projects (l : List JournalEntry) (m : OrderManager) : Prop where
  orderLogged : ∀ i o, m.orders.get i = some o → o.artifactId = i ∧ ∃ t, .order t o ∈ l
  loggedOrder : ∀ t p, .order t p ∈ l →
    ∃ o, m.orders.get p.artifactId = some o ∧ stage p.state ≤ stage o.state
  orderIds : m.orders.keys = l.filterMap JournalEntry.openedId
  fills : m.fills.entries = (loggedFills l).map fun f => (f.venueFillId, f)
  ambiguous : ∀ i ∈ m.ambiguousOrders, ∃ o, m.orders.get i = some o

/-- What holds of every reachable journal. -/
structure Sound (c : OrderJournal) : Prop where
  wellFormed : WellFormed c.entries
  projects : Projects c.entries c.memory

end OrderJournal

end AdvisorAI
