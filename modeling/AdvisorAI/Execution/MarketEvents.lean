import AdvisorAI.Collectors.MarketRecovery
import AdvisorAI.Contracts.Scalars
import AdvisorAI.Lib.Distinct

/-!
# Market events and their replay

`MarketEvent` carries its validators. Two events are compared as Python compares the models:
field by field, decimals as numbers (`MarketEvent.same`).

`ReplayEngine.replay` keeps one event of each identifier, refuses two that differ before it
calls the handler, and hands over what it kept in the order of time, sequence and identifier.
`replay_spec` is the law for two collections that have the same events in any order and
number: either both replays raise and call nobody, or both hand over the same sequence.
-/

namespace AdvisorAI

open Lib

/-- A text that `require_nonblank_identity` returns. -/
def IsIdentity (s : String) : Prop := isBlank s = false ∧ strip s = s

instance (s : String) : Decidable (IsIdentity s) := inferInstanceAs (Decidable (_ ∧ _))

theorem isIdentity_ofList {l : List Char} (hblank : l.all isSpace = false)
    (hstrip : ((l.dropWhile isSpace).reverse.dropWhile isSpace).reverse = l) :
    IsIdentity (String.ofList l) := by
  refine ⟨(isBlank_ofList l).trans hblank, ?_⟩
  rw [strip_ofList, hstrip]

theorem isIdentity_strip {s : String} (h : isBlank s = false) : IsIdentity (strip s) :=
  ⟨(isBlank_strip s).trans h, strip_strip s⟩

/-- A decimal field that is missing or positive. -/
def OptionalPositive (d : Option Decimal) : Prop := ∀ v ∈ d, 0 < v.value

instance (d : Option Decimal) : Decidable (OptionalPositive d) :=
  inferInstanceAs (Decidable (∀ v ∈ d, 0 < v.value))

def Uncrossed (bid ask : Option Decimal) : Prop := ∀ b ∈ bid, ∀ a ∈ ask, b.value ≤ a.value

instance (bid ask : Option Decimal) : Decidable (Uncrossed bid ask) :=
  inferInstanceAs (Decidable (∀ b ∈ bid, ∀ a ∈ ask, b.value ≤ a.value))

@[ext]
structure MarketEvent where
  eventId : UUID
  eventType : String
  instrumentId : String
  occurredAt : Timestamp
  sequence : ℕ
  price : Option Decimal
  quantity : Option Decimal
  bid : Option Decimal
  ask : Option Decimal
  payload : List (String × String)
  eventType_identity : IsIdentity eventType
  instrumentId_identity : IsIdentity instrumentId
  occurredAt_valid : datetimeMin ≤ occurredAt ∧ occurredAt ≤ datetimeMax
  price_positive : OptionalPositive price
  quantity_positive : OptionalPositive quantity
  bid_positive : OptionalPositive bid
  ask_positive : OptionalPositive ask
  uncrossed : Uncrossed bid ask

namespace MarketEvent

instance : DecidableEq MarketEvent := fun _ _ => decidable_of_iff' _ MarketEvent.ext_iff

/-- Two decimals that are equal as numbers, or two that are missing. -/
def sameDecimal (a b : Option Decimal) : Bool := a.map Decimal.value = b.map Decimal.value

/-- `a == b`. -/
def same (a b : MarketEvent) : Bool :=
  a.eventId = b.eventId && a.eventType = b.eventType && a.instrumentId = b.instrumentId
    && a.occurredAt = b.occurredAt && a.sequence = b.sequence && sameDecimal a.price b.price
    && sameDecimal a.quantity b.quantity && sameDecimal a.bid b.bid && sameDecimal a.ask b.ask
    && a.payload = b.payload

def compared (e : MarketEvent) :=
  (e.eventId, e.eventType, e.instrumentId, e.occurredAt, e.sequence,
    [e.price, e.quantity, e.bid, e.ask].map (Option.map Decimal.value), e.payload)

theorem same_iff {a b : MarketEvent} : a.same b = true ↔ a.compared = b.compared := by
  unfold same compared sameDecimal
  simp only [Bool.and_eq_true, decide_eq_true_eq, Prod.mk.injEq, List.map_cons, List.map_nil,
    List.cons.injEq]
  tauto

theorem sameItems : SameItems eventId same where
  refl := fun _ => same_iff.mpr rfl
  symm := fun _ _ h => same_iff.mpr (same_iff.mp h).symm
  trans := fun _ _ _ h h' => same_iff.mpr ((same_iff.mp h).trans (same_iff.mp h'))
  key_eq := fun _ _ h => congrArg Prod.fst (same_iff.mp h)

/-- `(item.occurred_at, item.sequence, str(item.event_id))`. -/
def sortKey (e : MarketEvent) : Timestamp ×ₗ ℕ ×ₗ String :=
  toLex (e.occurredAt, toLex (e.sequence, uuidText e.eventId))

theorem sortKey_ranks : Ranks sortKey eventId same where
  rank_eq := by
    intro a b h
    have hcompared := same_iff.mp h
    simp only [compared, Prod.mk.injEq] at hcompared
    obtain ⟨hid, -, -, htime, hsequence, -, -⟩ := hcompared
    unfold sortKey
    rw [hid, htime, hsequence]
  key_eq := by
    intro a b h
    have htexts : uuidText a.eventId = uuidText b.eventId :=
      congrArg (fun k : Timestamp ×ₗ ℕ ×ₗ String => (ofLex (ofLex k).2).2) h
    exact uuidText_injective htexts

end MarketEvent

/-! ## Two events -/

theorem trade_identity : IsIdentity "trade" := isIdentity_ofList (by decide) (by decide)

theorem bitcoin_identity : IsIdentity "BTC-USD" := isIdentity_ofList (by decide) (by decide)

def paperPrice : Decimal := ⟨false, 15, -1⟩

theorem paperPrice_positive : OptionalPositive (some paperPrice) := by
  intro v hv
  cases hv
  show (0 : ℚ) < ((15 : ℤ) : ℚ) / ((10 ^ (0 + 1) : ℕ) : ℚ)
  norm_num

theorem missing_positive : OptionalPositive none := by
  intro v hv
  cases hv

theorem missing_uncrossed : Uncrossed none none := by
  intro b hb
  cases hb

def paperTrade (eventId : UUID) (sequence : ℕ) : MarketEvent where
  eventId := eventId
  eventType := "trade"
  instrumentId := "BTC-USD"
  occurredAt := 0
  sequence := sequence
  price := some paperPrice
  quantity := none
  bid := none
  ask := none
  payload := [("raw_sha256", "00")]
  eventType_identity := trade_identity
  instrumentId_identity := bitcoin_identity
  occurredAt_valid := epoch_valid
  price_positive := paperPrice_positive
  quantity_positive := missing_positive
  bid_positive := missing_positive
  ask_positive := missing_positive
  uncrossed := missing_uncrossed

/-! ## The replay -/

/-- A handler: what a call does when it comes after other calls. -/
abbrev EventHandler := List MarketEvent → MarketEvent → Except PyError Unit

namespace ReplayEngine

/-- `raise ValueError(f"replay received conflicting event ID {event.event_id}")`. -/
def conflict (event : MarketEvent) : PyError :=
  valueError ("replay received conflicting event ID " ++ uuidText event.eventId)

/-- `for event in ordered: handler(event)`, with the calls that were made. -/
def callAll (handler : EventHandler) (calls : List MarketEvent) :
    List MarketEvent → List MarketEvent × Except PyError Unit
  | [] => (calls, .ok ())
  | event :: rest =>
    match handler calls event with
    | .ok () => callAll handler (calls ++ [event]) rest
    | .error e => (calls ++ [event], .error e)

/-- Hand over a sequence of events and count it. -/
def deliver (handler : EventHandler) (ordered : List MarketEvent) :
    List MarketEvent × Except PyError ℕ :=
  let run := callAll handler [] ordered
  (run.1, run.2.map fun _ => ordered.length)

variable (events : List MarketEvent)

/-- The calls of the handler, and what `replay` returns or raises. -/
def replay (handler : EventHandler) :
    List MarketEvent × Except PyError ℕ :=
  match collect MarketEvent.eventId MarketEvent.same conflict Dict.empty events with
  | .ok unique => deliver handler (ordered MarketEvent.sortKey unique)
  | .error e => ([], .error e)

/-- Two events of one identifier that differ. -/
def Conflicting : Prop :=
  ¬ Lib.Consistent MarketEvent.eventId MarketEvent.same events

theorem replay_conflicting {events : List MarketEvent} (h : Conflicting events)
    (handler : EventHandler) :
    ∃ event ∈ events, replay events handler = ([], .error (conflict event)) := by
  unfold replay
  cases hcollect : collect MarketEvent.eventId MarketEvent.same conflict Dict.empty events with
  | ok unique => exact absurd ((collect_ok_iff MarketEvent.sameItems).mp ⟨unique, hcollect⟩) h
  | error e =>
    obtain ⟨event, hevent, he⟩ := collect_error hcollect
    exact ⟨event, hevent, by rw [he]⟩

/-- What a replay without a conflict hands over: an event for each identifier, in order. -/
structure Sequence (events sequence : List MarketEvent) : Prop where
  nodup : (sequence.map MarketEvent.eventId).Nodup
  sorted : (sequence.map MarketEvent.sortKey).Pairwise fun a b => a ≤ b
  mem : ∀ e ∈ sequence, e ∈ events
  covers : Covers MarketEvent.same sequence events

/-- **The law of replay** for two collections of the same events. -/
theorem replay_spec {events events' : List MarketEvent}
    (h : Covers MarketEvent.same events' events) (h' : Covers MarketEvent.same events events')
    (handler handler' : EventHandler) :
    (Conflicting events → (∃ e, replay events handler = ([], .error e)) ∧
      ∃ e, replay events' handler' = ([], .error e)) ∧
    (¬ Conflicting events → ∃ sequence sequence',
      List.Forall₂ (fun a b => a.same b = true) sequence sequence' ∧ Sequence events sequence ∧
      Sequence events' sequence' ∧ replay events handler = deliver handler sequence ∧
      replay events' handler' = deliver handler' sequence') := by
  have hsame := MarketEvent.sameItems
  refine ⟨?_, ?_⟩
  · intro hconflict
    have hconflict' : Conflicting events' := fun hok => hconflict (hok.of_covers hsame h)
    obtain ⟨event, -, hevent⟩ := replay_conflicting hconflict handler
    obtain ⟨event', -, hevent'⟩ := replay_conflicting hconflict' handler'
    exact ⟨⟨_, hevent⟩, _, hevent'⟩
  · intro hno
    have hconsistent : Lib.Consistent MarketEvent.eventId MarketEvent.same events := not_not.mp hno
    obtain ⟨unique, hunique⟩ : ∃ unique,
        collect MarketEvent.eventId MarketEvent.same conflict Dict.empty events = .ok unique :=
      (collect_ok_iff hsame).mpr hconsistent
    obtain ⟨unique', hunique'⟩ : ∃ unique,
        collect MarketEvent.eventId MarketEvent.same conflict Dict.empty events' = .ok unique :=
      (collect_ok_iff hsame).mpr (hconsistent.of_covers hsame h')
    have hsequence : ∀ {events : List MarketEvent} {unique : Dict UUID MarketEvent},
        collect MarketEvent.eventId MarketEvent.same conflict Dict.empty events = .ok unique →
        Sequence events (ordered MarketEvent.sortKey unique) := by
      intro events unique hunique
      refine ⟨ordered_keys_nodup (collect_keyed hsame hunique), ordered_sorted unique, ?_, ?_⟩
      · intro e he
        exact mem_of_collect hsame hunique (mem_ordered.mp he)
      · intro e he
        obtain ⟨b, hb, heb⟩ := (collect_spec hsame hunique).1 e (Or.inr he)
        exact ⟨b, mem_ordered.mpr (Dict.mem_values_iff.mpr ⟨_, hb⟩), heb⟩
    refine ⟨ordered MarketEvent.sortKey unique, ordered MarketEvent.sortKey unique',
      ordered_same hsame MarketEvent.sortKey_ranks hunique hunique' h h', hsequence hunique,
      hsequence hunique', ?_, ?_⟩
    · unfold replay
      rw [hunique]
    · unfold replay
      rw [hunique']

end ReplayEngine

end AdvisorAI
