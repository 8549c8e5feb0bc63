import AdvisorAI.Contracts.Core

/-!
# The append-only ledger

Each namespace of the SQLite database is a table of events in insertion order
with two unique columns, the event id and the idempotency key. `append` is the
one way to write: an event whose key is present is compared with the stored one
and, when type and payload agree, answered by the stored event; the table is
left alone. The select and the insert run in one transaction, so `append` is
one atomic step of whoever calls it.

A namespace is a `List (LedgerEvent τ π)` for its own event types `τ` and
payloads `π`.
-/

namespace AdvisorAI

open Lib

structure LedgerEvent (τ π : Type) where
  eventId : UUID
  eventType : τ
  idempotencyKey : String
  occurredAt : Timestamp
  payload : π
deriving DecidableEq

def diskFull : PyError := ⟨"OperationalError", "database or disk is full"⟩

namespace SqliteLedgers

variable {τ π : Type} [DecidableEq τ] [DecidableEq π]

/-- `SELECT * FROM table WHERE idempotency_key = ?`. -/
def findKey (events : List (LedgerEvent τ π)) (key : String) : Option (LedgerEvent τ π) :=
  events.find? fun e => e.idempotencyKey = key

/-- Append or return the matching prior event for an idempotency retry. -/
def append (events : List (LedgerEvent τ π)) (event : LedgerEvent τ π) :
    Except PyError (LedgerEvent τ π) × List (LedgerEvent τ π) :=
  match findKey events event.idempotencyKey with
  | some existing =>
    if existing.eventType ≠ event.eventType ∨ existing.payload ≠ event.payload then
      (.error ⟨"IdempotencyConflict", "idempotency key " ++ pyRepr event.idempotencyKey
        ++ " already records different content"⟩, events)
    else (.ok existing, events)
  | none =>
    if events.any fun e => e.eventId = event.eventId then
      (.error ⟨"IdempotencyConflict", "event ID " ++ uuidText event.eventId
        ++ " is already recorded with different content"⟩, events)
    else (.ok event, events ++ [event])

/-- An append while the database may fail: what it raises leaves the table alone. -/
def appendUnder (fault : Option PyError) (events : List (LedgerEvent τ π))
    (event : LedgerEvent τ π) : Except PyError (LedgerEvent τ π) × List (LedgerEvent τ π) :=
  match fault with
  | some e => (.error e, events)
  | none => append events event

variable {events : List (LedgerEvent τ π)}

omit [DecidableEq τ] [DecidableEq π] in
theorem findKey_eq_none {key : String} :
    findKey events key = none ↔ ∀ e ∈ events, e.idempotencyKey ≠ key := by
  unfold findKey
  rw [List.find?_eq_none]
  simp

variable {e event existing : LedgerEvent τ π}

omit [DecidableEq τ] [DecidableEq π] in
theorem findKey_some {key : String} (h : findKey events key = some e) :
    e ∈ events ∧ e.idempotencyKey = key := by
  exact ⟨List.mem_of_find?_eq_some h, by simpa using List.find?_some h⟩

theorem append_of_new (hkey : ∀ e ∈ events, e.idempotencyKey ≠ event.idempotencyKey)
    (hid : ∀ e ∈ events, e.eventId ≠ event.eventId) :
    append events event = (.ok event, events ++ [event]) := by
  unfold append
  rw [findKey_eq_none.mpr hkey]
  have hany : (events.any fun e => decide (e.eventId = event.eventId)) = false := by
    rw [List.any_eq_false]
    intro e he
    simp [hid e he]
  simp only [hany]
  rfl

theorem append_of_stored (hfind : findKey events event.idempotencyKey = some existing)
    (htype : existing.eventType = event.eventType) (hpayload : existing.payload = event.payload) :
    append events event = (.ok existing, events) := by
  unfold append
  rw [hfind]
  simp [htype, hpayload]

/-- **The three outcomes of an append**: a conflict, a retry or a new row. -/
theorem append_cases (events : List (LedgerEvent τ π)) (event : LedgerEvent τ π) :
    (∃ e, append events event = (.error e, events)) ∨
    (∃ existing ∈ events, existing.eventType = event.eventType ∧
      existing.payload = event.payload ∧ append events event = (.ok existing, events)) ∨
    ((∀ e ∈ events, e.idempotencyKey ≠ event.idempotencyKey) ∧
      append events event = (.ok event, events ++ [event])) := by
  cases hfind : findKey events event.idempotencyKey with
  | some existing =>
    by_cases hconflict : existing.eventType ≠ event.eventType ∨ existing.payload ≠ event.payload
    · left
      unfold append
      rw [hfind]
      exact ⟨_, if_pos hconflict⟩
    · right
      left
      rw [not_or, not_not, not_not] at hconflict
      exact ⟨existing, (findKey_some hfind).1, hconflict.1, hconflict.2,
        append_of_stored hfind hconflict.1 hconflict.2⟩
  | none =>
    have hnew := findKey_eq_none.mp hfind
    by_cases hid : (events.any fun e => decide (e.eventId = event.eventId)) = true
    · left
      unfold append
      rw [hfind]
      exact ⟨_, if_pos hid⟩
    · right
      right
      refine ⟨hnew, append_of_new hnew ?_⟩
      intro e he heq
      apply hid
      rw [List.any_eq_true]
      exact ⟨e, he, decide_eq_true heq⟩

/-- Neither the key nor the id of an event is in the table. -/
def Fresh (events : List (LedgerEvent τ π)) (event : LedgerEvent τ π) : Prop :=
  (∀ e ∈ events, e.idempotencyKey ≠ event.idempotencyKey) ∧ ∀ e ∈ events, e.eventId ≠ event.eventId

theorem append_of_not_fresh (h : ¬Fresh events event) : (append events event).2 = events := by
  rcases append_cases events event with ⟨e, happend⟩ | ⟨existing, -, -, -, happend⟩ | ⟨hkey, -⟩
  · rw [happend]
  · rw [happend]
  · have hid : (events.any fun e => decide (e.eventId = event.eventId)) = true := by
      by_contra hnone
      refine h ⟨hkey, ?_⟩
      intro e he heq
      apply hnone
      rw [List.any_eq_true]
      exact ⟨e, he, decide_eq_true heq⟩
    unfold append
    rw [findKey_eq_none.mpr hkey]
    rw [if_pos hid]

/-- The table has nothing against an event: what is stored under its key is the same, or
neither its key nor its id is there. -/
def Agrees (events : List (LedgerEvent τ π)) (event : LedgerEvent τ π) : Prop :=
  match findKey events event.idempotencyKey with
  | some existing => existing.eventType = event.eventType ∧ existing.payload = event.payload
  | none => ∀ e ∈ events, e.eventId ≠ event.eventId

theorem append_of_agrees (h : Agrees events event) :
    ∃ stored, (append events event).1 = .ok stored := by
  unfold Agrees at h
  cases hfind : findKey events event.idempotencyKey with
  | some existing =>
    rw [hfind] at h
    exact ⟨existing, by rw [append_of_stored hfind h.1 h.2]⟩
  | none =>
    rw [hfind] at h
    exact ⟨event, by rw [append_of_new (findKey_eq_none.mp hfind) h]⟩

/-- **When an append conflicts**: the table has something against the event. -/
theorem append_of_not_agrees (h : ¬Agrees events event) :
    ∃ e : PyError, e.typeName = "IdempotencyConflict" ∧ (append events event).1 = .error e := by
  unfold Agrees at h
  unfold append
  cases hfind : findKey events event.idempotencyKey with
  | some existing =>
    rw [hfind] at h
    have hconflict : existing.eventType ≠ event.eventType ∨ existing.payload ≠ event.payload :=
      Decidable.not_and_iff_or_not.mp h
    dsimp only
    rw [if_pos hconflict]
    exact ⟨_, rfl, rfl⟩
  | none =>
    rw [hfind] at h
    have hid : (events.any fun e => decide (e.eventId = event.eventId)) = true := by
      by_contra hnone
      apply h
      intro e he heq
      apply hnone
      rw [List.any_eq_true]
      exact ⟨e, he, decide_eq_true heq⟩
    rw [if_pos hid]
    exact ⟨_, rfl, rfl⟩

end SqliteLedgers

end AdvisorAI
