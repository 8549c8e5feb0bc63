import AdvisorAI.Execution.MarketEvents
import AdvisorAI.Lib.JsonTexts
import AdvisorAI.Lib.LineJournal

/-!
# The spool of raw market events

`RawEventSpool` appends one line of JSON for each event and builds its memory from the lines
when it is opened. What `model_dump` makes of a time and what the validators make of an
identifier, a time, a number or a decimal is taken as a parameter (`PydanticScalars`); the
text of the line, its way through the file and the checks of `MarketEvent` are not.

`Spooled` is the invariant over appends and openings; `spool_reads_back` says that reading
gives the events of the appends that took one, in their order.
-/

namespace AdvisorAI

open Lib Lib.Json List

/-- How the model library prints a time, and what it reads scalars from. -/
structure PydanticScalars where
  timeText : Timestamp → String
  uuid : Tree → Option UUID
  time : Tree → Option Datetime
  integer : Tree → Option ℤ
  decimal : Tree → Option Decimal

namespace MarketEvent

/-! ## The text of an event -/

section Dump

variable (pydantic : PydanticScalars)

/-- A decimal is printed as a text, a missing one as `null`. -/
def optionalTree (d : Option Decimal) : Tree := (d.map fun v => Tree.text v.text).getD .null

def pairTree (p : String × String) : Tree := .array [.text p.1, .text p.2]

/-- `event.model_dump(mode="json", round_trip=True)`, its keys sorted. -/
def dump (e : MarketEvent) : List (String × Tree) :=
  [("ask", optionalTree e.ask), ("bid", optionalTree e.bid),
    ("event_id", .text (uuidText e.eventId)), ("event_type", .text e.eventType),
    ("instrument_id", .text e.instrumentId), ("occurred_at", .text (pydantic.timeText e.occurredAt)),
    ("payload", .array (e.payload.map pairTree)), ("price", optionalTree e.price),
    ("quantity", optionalTree e.quantity), ("sequence", .number (integerToken e.sequence))]

/-- `json.dumps(payload, sort_keys=True, separators=(",", ":"))`. -/
def line (e : MarketEvent) : List Char := write quotedAscii (.object (e.dump pydantic))

end Dump

/-! ## Validation -/

section Validate

variable (pydantic : PydanticScalars)

def fieldNames : List String :=
  ["event_id", "event_type", "instrument_id", "occurred_at", "sequence", "price", "quantity", "bid",
    "ask", "payload"]

variable (members : List (String × Tree))

/-- An optional decimal: missing, `null`, or a finite decimal above zero. -/
def readOptional (name : String) : Option (Option Decimal) :=
  match member members name with
  | none => some none
  | some .null => some none
  | some v => (pydantic.decimal v).map some

def readPair : Tree → Option (String × String)
  | .array [k, v] => do return (← Tree.asText k, ← Tree.asText v)
  | _ => none

def readPayload : Option Tree → Option (List (String × String))
  | none => some []
  | some (.array items) => items.mapM readPair
  | some _ => none

/-- The event, when every field is there and passes its validators. -/
def build (occurredAt : Timestamp) : Option MarketEvent := do
  let eventId ← (member members "event_id").bind pydantic.uuid
  let eventType ← (member members "event_type").bind Tree.asText
  let instrumentId ← (member members "instrument_id").bind Tree.asText
  let sequence ← (member members "sequence").bind pydantic.integer
  let price ← readOptional pydantic members "price"
  let quantity ← readOptional pydantic members "quantity"
  let bid ← readOptional pydantic members "bid"
  let ask ← readOptional pydantic members "ask"
  let payload ← readPayload (member members "payload")
  -- extra="forbid"
  if members.all (fun m => m.1 ∈ fieldNames) ∧ 0 ≤ sequence then
    if h : (isBlank eventType = false ∧ isBlank instrumentId = false) ∧
        (datetimeMin ≤ occurredAt ∧ occurredAt ≤ datetimeMax) ∧
        (OptionalPositive price ∧ OptionalPositive quantity) ∧
        (OptionalPositive bid ∧ OptionalPositive ask) ∧ Uncrossed bid ask then
      return ⟨eventId, strip eventType, strip instrumentId, occurredAt, sequence.toNat, price,
        quantity, bid, ask, payload, isIdentity_strip h.1.1, isIdentity_strip h.1.2, h.2.1,
        h.2.2.1.1, h.2.2.1.2, h.2.2.2.1.1, h.2.2.2.1.2, h.2.2.2.2⟩
    else none
  else none

/-- The `ValidationError` of a model. -/
def invalid : PyError := valueError "validation error for MarketEvent"

/-- `MarketEvent.model_validate(value)`. A time that leaves the calendar in UTC raises at once. -/
def validate : Tree → Except PyError MarketEvent
  | .object members =>
    match (member members "occurred_at").bind pydantic.time with
    | none => .error invalid
    | some time =>
      match time.aware "market event timestamp must include a timezone" with
      | .ok occurredAt => ((build pydantic members occurredAt).map Except.ok).getD (.error invalid)
      | .error e => .error (if e.typeName = "ValueError" then invalid else e)
  | _ => .error invalid

end Validate

/-! ## The round trip of an event -/

/-- The scalars of an event are read from the texts they are printed as. -/
structure ScalarsReadBack (pydantic : PydanticScalars) (e : MarketEvent) : Prop where
  uuid : pydantic.uuid (.text (uuidText e.eventId)) = some e.eventId
  time : pydantic.time (.text (pydantic.timeText e.occurredAt))
    = some (Datetime.ofTimestamp e.occurredAt)
  integer : pydantic.integer (.number (integerToken e.sequence)) = some (e.sequence : ℤ)
  decimal : ∀ d, some d ∈ [e.price, e.quantity, e.bid, e.ask] →
    pydantic.decimal (.text d.text) = some d

section RoundTrip

variable {pydantic : PydanticScalars} {e : MarketEvent}

theorem readOptional_of_member {members : List (String × Tree)} {name : String} {d : Option Decimal}
    (hmember : member members name = some (optionalTree d))
    (hdecimal : ∀ v, d = some v → pydantic.decimal (.text v.text) = some v) :
    readOptional pydantic members name = some d := by
  unfold readOptional
  rw [hmember]
  cases d with
  | none => rfl
  | some v =>
    show (pydantic.decimal (.text v.text)).map some = some (some v)
    rw [hdecimal v rfl]
    rfl

theorem readPayload_pairs (l : List (String × String)) :
    readPayload (some (.array (l.map pairTree))) = some l := by
  have hpairs : (l.map pairTree).mapM readPair = some l := by
    induction l with
    | nil => rfl
    | cons p l ih =>
      rw [map_cons, mapM_cons, ih]
      rfl
  exact hpairs

theorem build_dump (h : ScalarsReadBack pydantic e) :
    build pydantic (e.dump pydantic) e.occurredAt = some e := by
  have hdecimal : ∀ d ∈ [e.price, e.quantity, e.bid, e.ask], ∀ name,
      member (e.dump pydantic) name = some (optionalTree d) →
        readOptional pydantic (e.dump pydantic) name = some d := by
    intro d hd name hmember
    refine readOptional_of_member hmember ?_
    intro v hv
    exact h.decimal v (hv ▸ hd)
  have hnames : (e.dump pydantic).all (fun m => m.1 ∈ fieldNames) = true := rfl
  refine bind_of_some (a := e.eventId) h.uuid ?_
  refine bind_of_some (a := e.eventType) rfl ?_
  refine bind_of_some (a := e.instrumentId) rfl ?_
  refine bind_of_some (a := (e.sequence : ℤ)) h.integer ?_
  refine bind_of_some (hdecimal e.price (by simp) _ rfl) ?_
  refine bind_of_some (hdecimal e.quantity (by simp) _ rfl) ?_
  refine bind_of_some (hdecimal e.bid (by simp) _ rfl) ?_
  refine bind_of_some (hdecimal e.ask (by simp) _ rfl) ?_
  refine bind_of_some (readPayload_pairs e.payload) ?_
  rw [if_pos ⟨hnames, Int.natCast_nonneg _⟩, dif_pos ⟨⟨e.eventType_identity.1,
    e.instrumentId_identity.1⟩, e.occurredAt_valid, ⟨e.price_positive, e.quantity_positive⟩,
    ⟨e.bid_positive, e.ask_positive⟩, e.uncrossed⟩]
  refine congrArg some (MarketEvent.ext rfl e.eventType_identity.2 e.instrumentId_identity.2 rfl
    (Int.toNat_natCast _) rfl rfl rfl rfl rfl)

/-- **An event is validated back** from its dump. -/
theorem validate_dump (h : ScalarsReadBack pydantic e) :
    validate pydantic (.object (e.dump pydantic)) = .ok e := by
  have htime : (member (e.dump pydantic) "occurred_at").bind pydantic.time
      = some (Datetime.ofTimestamp e.occurredAt) := h.time
  unfold validate
  dsimp only
  rw [htime]
  dsimp only
  rw [Datetime.aware_ofTimestamp e.occurredAt_valid]
  dsimp only
  rw [build_dump h]
  rfl

theorem loads_line (pydantic : PydanticScalars) (e : MarketEvent) :
    loads (e.line pydantic) = some (.object (e.dump pydantic)) :=
  loads_write quotedAscii_readBack _

theorem line_spec (pydantic : PydanticScalars) (e : MarketEvent) :
    (e.line pydantic).all isSpace = false ∧ ∀ c ∈ e.line pydantic, isLineBreak c = false := by
  refine ⟨?_, ?_⟩
  · rw [all_eq_false]
    exact ⟨'{', mem_cons_self, by decide⟩
  · intro c hc
    have hplain := write_quotedAscii_plain _ c hc
    have hbreaks : ∀ n ∈ lineBreaks, ¬ (32 ≤ n ∧ n ≤ 126) := by decide
    unfold isPlain at hplain
    rw [Bool.and_eq_true, decide_eq_true_eq, decide_eq_true_eq] at hplain
    exact decide_eq_false fun hmem => hbreaks _ hmem hplain

end RoundTrip

end MarketEvent

/-! ## The spool -/

structure RawEventSpool where
  file : Option (List Char)
  events : Dict UUID MarketEvent

namespace RawEventSpool

variable (pydantic : PydanticScalars)

def corrupted (lineNumber : ℕ) : PyError :=
  ⟨"RuntimeError", "raw event spool is corrupted at line " ++ lineNumber.repr⟩

def reused (event : MarketEvent) : PyError :=
  ⟨"RuntimeError", "raw event spool reuses event ID " ++ uuidText event.eventId
    ++ " with different content"⟩

def readLine (lineNumber : ℕ) (line : List Char) : Except PyError MarketEvent :=
  match loads line with
  | none => .error (corrupted lineNumber)
  | some value =>
    match MarketEvent.validate pydantic value with
    | .ok event => .ok event
    | .error e => .error (if e.typeName = "ValueError" then corrupted lineNumber else e)

/-- How the file is read: an event from each line, unless one of its identifier differs. -/
def reader : LineReader (Dict UUID MarketEvent) MarketEvent PyError where
  read := readLine pydantic
  check := fun events event =>
    if (events.get event.eventId).all fun prior => prior.same event then .ok ()
    else .error (reused event)
  take := fun events event => events.set event.eventId event

def readFile (text : List Char) : Except PyError (Dict UUID MarketEvent) :=
  (reader pydantic).readFile Dict.empty text

/-- `RawEventSpool(path)`. -/
def openFile (file : Option (List Char)) : Except PyError RawEventSpool :=
  match file with
  | none => .ok ⟨none, Dict.empty⟩
  | some text => (readFile pydantic text).map fun events => ⟨some text, events⟩

/-- Python refuses to print an integer of more digits. -/
def maxStrDigits : ℕ := 4300

/-- What `append` returns or raises, and what it leaves. The file is opened, and there, before
the line is printed. -/
def append (spool : RawEventSpool) (event : MarketEvent) :
    Except PyError Bool × RawEventSpool :=
  match spool.events.get event.eventId with
  | some prior =>
    if prior.same event then (.ok false, spool)
    else (.error (valueError ("event ID " ++ uuidText event.eventId
      ++ " is reused for different content")), spool)
  | none =>
    let text := spool.file.getD []
    if maxStrDigits < (Nat.toDigits 10 event.sequence).length then
      (.error (valueError "Exceeds the limit (4300 digits) for integer string conversion"),
        { spool with file := some text })
    else (.ok true, ⟨some (text ++ (event.line pydantic ++ [newline])),
      spool.events.set event.eventId event⟩)

/-- `tuple(events.values())` of what the file has. -/
def read (spool : RawEventSpool) : Except PyError (List MarketEvent) :=
  match spool.file with
  | none => .ok []
  | some text => (readFile pydantic text).map Dict.values

/-! ## Runs -/

inductive Action where
  | append (event : MarketEvent)
  | reopen

def Action.offered : Action → List MarketEvent
  | .append event => [event]
  | .reopen => []

/-- The events that appends have taken, after one more. -/
def takenAfter (taken : List MarketEvent) (event : MarketEvent) :
    Except PyError Bool → List MarketEvent
  | .ok true => taken ++ [event]
  | _ => taken

/-- One action, with the events that appends have taken. -/
def act (at' : RawEventSpool × List MarketEvent) :
    Action → Except PyError (RawEventSpool × List MarketEvent)
  | .append event =>
    let result := at'.1.append pydantic event
    .ok (result.2, takenAfter at'.2 event result.1)
  | .reopen => (openFile pydantic at'.1.file).map fun spool => (spool, at'.2)

def run (at' : RawEventSpool × List MarketEvent) :
    List Action → Except PyError (RawEventSpool × List MarketEvent)
  | [] => .ok at'
  | action :: actions => (act pydantic at' action).bind fun next => run next actions

def fresh : RawEventSpool × List MarketEvent := (⟨none, Dict.empty⟩, [])

/-! ## What a spool holds -/

/-- The memory after some events that all have identifiers of their own. -/
def remembered (events : Dict UUID MarketEvent) (l : List MarketEvent) : Dict UUID MarketEvent :=
  l.foldl (fun events event => events.set event.eventId event) events

/-- The file has one line for each event that was taken, and the memory has these events. -/
structure Spooled (spool : RawEventSpool) (taken : List MarketEvent) : Prop where
  file : spool.file = none ∧ taken = [] ∨
    spool.file = some (LineReader.journalText (MarketEvent.line pydantic) taken)
  events : spool.events = remembered Dict.empty taken
  nodup : (taken.map MarketEvent.eventId).Nodup
  readBack : ∀ e ∈ taken, e.ScalarsReadBack pydantic

variable {pydantic} {events : Dict UUID MarketEvent} {taken : List MarketEvent}

theorem reader_readsLine {e : MarketEvent} (h : e.ScalarsReadBack pydantic) :
    (reader pydantic).ReadsLine (e.line pydantic) e where
  visible := (e.line_spec pydantic).1
  read := by
    intro number
    show readLine pydantic number (e.line pydantic) = .ok e
    unfold readLine
    rw [MarketEvent.loads_line]
    dsimp only
    rw [MarketEvent.validate_dump h]

theorem reader_accepts (hnodup : (taken.map MarketEvent.eventId).Nodup)
    (hnew : ∀ e ∈ taken, events.get e.eventId = none) : (reader pydantic).Accepts events taken := by
  induction taken generalizing events with
  | nil => trivial
  | cons e taken ih =>
    rw [map_cons, nodup_cons] at hnodup
    obtain ⟨hother, hnodup⟩ := hnodup
    have hget : (events.get e.eventId).all (fun prior => prior.same e) = true := by
      rw [hnew e mem_cons_self]
      rfl
    refine ⟨if_pos hget, ih hnodup ?_⟩
    intro e' he'
    have hne : e'.eventId ≠ e.eventId := by
      intro heq
      exact hother (heq ▸ mem_map_of_mem he')
    show (events.set e.eventId e).get e'.eventId = none
    rw [Dict.get_set_ne _ hne]
    exact hnew e' (mem_cons_of_mem _ he')

theorem readFile_lines (h : ∀ e ∈ taken, e.ScalarsReadBack pydantic)
    (hnodup : (taken.map MarketEvent.eventId).Nodup) :
    readFile pydantic (LineReader.journalText (MarketEvent.line pydantic) taken)
      = .ok (remembered Dict.empty taken) :=
  LineReader.readFile_written (fun e he => reader_readsLine (h e he))
    (fun e _ => (e.line_spec pydantic).2) (reader_accepts hnodup fun _ _ => rfl)

theorem remembered_values (hnodup : (taken.map MarketEvent.eventId).Nodup)
    (hnew : ∀ e ∈ taken, events.get e.eventId = none) :
    (remembered events taken).values = events.values ++ taken := by
  induction taken generalizing events with
  | nil => exact (append_nil _).symm
  | cons e taken ih =>
    rw [map_cons, nodup_cons] at hnodup
    obtain ⟨hother, hnodup⟩ := hnodup
    show (remembered (events.set e.eventId e) taken).values = _
    rw [ih hnodup, Dict.values_set_of_get_none (hnew e mem_cons_self), append_assoc]
    · rfl
    · intro e' he'
      have hne : e'.eventId ≠ e.eventId := by
        intro heq
        exact hother (heq ▸ mem_map_of_mem he')
      rw [Dict.get_set_ne _ hne]
      exact hnew e' (mem_cons_of_mem _ he')

theorem remembered_append (l : List MarketEvent) (e : MarketEvent) :
    remembered events (l ++ [e]) = (remembered events l).set e.eventId e :=
  foldl_concat _ _ _ _

theorem get_remembered {k : UUID} (h : (remembered events taken).get k = none) :
    events.get k = none ∧ k ∉ taken.map MarketEvent.eventId := by
  induction taken generalizing events with
  | nil => exact ⟨h, not_mem_nil⟩
  | cons e taken ih =>
    obtain ⟨hget, hother⟩ := ih h
    rw [Dict.get_set] at hget
    by_cases hk : k = e.eventId
    · rw [if_pos hk] at hget
      cases hget
    · rw [if_neg hk] at hget
      refine ⟨hget, ?_⟩
      intro hmem
      rcases mem_cons.mp hmem with heq | hmem
      · exact hk heq
      · exact hother hmem

variable {spool : RawEventSpool}

theorem Spooled.text (h : Spooled pydantic spool taken) :
    spool.file.getD [] = LineReader.journalText (MarketEvent.line pydantic) taken := by
  rcases h.file with ⟨hnone, hempty⟩ | hfile
  · rw [hnone, hempty]
    rfl
  · rw [hfile]
    rfl

theorem Spooled.openFile_eq (h : Spooled pydantic spool taken) :
    openFile pydantic spool.file = .ok spool := by
  obtain ⟨file, events⟩ := spool
  have hevents : events = remembered Dict.empty taken := h.events
  rcases h.file with ⟨hnone, hempty⟩ | hfile
  · obtain rfl : file = none := hnone
    rw [hempty] at hevents
    rw [hevents]
    rfl
  · obtain rfl : file = some _ := hfile
    unfold openFile
    dsimp only
    rw [readFile_lines h.readBack h.nodup, hevents]
    rfl

theorem Spooled.read_eq (h : Spooled pydantic spool taken) : spool.read pydantic = .ok taken := by
  unfold read
  rcases h.file with ⟨hnone, hempty⟩ | hfile
  · rw [hnone, hempty]
  · rw [hfile]
    dsimp only
    rw [readFile_lines h.readBack h.nodup]
    exact congrArg Except.ok (remembered_values h.nodup fun _ _ => rfl)

theorem append_spooled (h : Spooled pydantic spool taken) {e : MarketEvent}
    (hread : e.ScalarsReadBack pydantic) :
    Spooled pydantic (spool.append pydantic e).2
      (takenAfter taken e (spool.append pydantic e).1) := by
  unfold append
  cases hget : spool.events.get e.eventId with
  | some prior =>
    dsimp only
    by_cases hsame : prior.same e = true
    · rw [if_pos hsame]
      exact h
    · rw [if_neg hsame]
      exact h
  | none =>
    by_cases hlong : maxStrDigits < (Nat.toDigits 10 e.sequence).length
    · -- the file is opened, and nothing is written
      rw [if_pos hlong]
      exact ⟨Or.inr (congrArg some h.text), h.events, h.nodup, h.readBack⟩
    · rw [if_neg hlong]
      show Spooled pydantic ⟨some (spool.file.getD [] ++ (e.line pydantic ++ [newline])),
        spool.events.set e.eventId e⟩ (taken ++ [e])
      rw [h.events] at hget
      obtain ⟨-, hother⟩ := get_remembered hget
      refine ⟨Or.inr ?_, ?_, ?_, ?_⟩
      · rw [h.text, LineReader.journalText_append]
      · rw [remembered_append, h.events]
      · rw [map_append, nodup_append]
        refine ⟨h.nodup, nodup_singleton _, ?_⟩
        intro id hid id' hid' heq
        rw [mem_singleton.mp hid'] at heq
        exact hother (heq ▸ hid)
      · intro e' he'
        rcases mem_append.mp he' with hbefore | hnow
        · exact h.readBack e' hbefore
        · rw [mem_singleton.mp hnow]
          exact hread

/-- What one action preserves: it does not fail to open the file, and the spool holds again
what was taken. -/
theorem act_spooled (h : Spooled pydantic spool taken) {action : Action}
    (hread : ∀ e ∈ action.offered, e.ScalarsReadBack pydantic) :
    ∃ next, act pydantic (spool, taken) action = .ok next ∧
      Spooled pydantic next.1 next.2 := by
  cases action with
  | append e => exact ⟨_, rfl, append_spooled h (hread e mem_cons_self)⟩
  | reopen =>
    refine ⟨(spool, taken), ?_, h⟩
    unfold act
    rw [h.openFile_eq]
    rfl

variable {actions : List Action}

theorem run_spooled (h : Spooled pydantic spool taken)
    (hread : ∀ action ∈ actions, ∀ e ∈ action.offered, e.ScalarsReadBack pydantic) :
    ∃ last, run pydantic (spool, taken) actions = .ok last ∧ Spooled pydantic last.1 last.2 := by
  induction actions generalizing spool taken with
  | nil => exact ⟨(spool, taken), rfl, h⟩
  | cons action actions ih =>
    obtain ⟨next, hact, hnext⟩ := act_spooled h (hread action mem_cons_self)
    obtain ⟨last, hrun, hlast⟩ :=
      ih hnext fun action haction => hread action (mem_cons_of_mem _ haction)
    refine ⟨last, ?_, hlast⟩
    unfold run
    rw [hact]
    exact hrun

theorem fresh_spooled : Spooled pydantic fresh.1 fresh.2 where
  file := Or.inl ⟨rfl, rfl⟩
  events := rfl
  nodup := nodup_nil
  readBack := fun _ he => absurd he not_mem_nil

/-- **A spool reads back** what its appends have taken, and opens to what it was. -/
theorem spool_reads_back
    (hread : ∀ action ∈ actions, ∀ e ∈ action.offered, e.ScalarsReadBack pydantic) :
    ∃ spool taken, run pydantic fresh actions = .ok (spool, taken) ∧
      spool.read pydantic = .ok taken ∧ openFile pydantic spool.file = .ok spool := by
  obtain ⟨last, hrun, hlast⟩ := run_spooled fresh_spooled hread
  exact ⟨last.1, last.2, hrun, hlast.read_eq, hlast.openFile_eq⟩

end RawEventSpool

/-! ## Replay and reload -/

/-- **Market events are replayed and reloaded**: two collections of the same events are handed
over as one sequence in order, or both are refused before any call, and a spool reads back the
events that its appends have taken. -/
theorem market_events_replay (pydantic : PydanticScalars) (events events' : List MarketEvent)
    (h : Covers MarketEvent.same events' events) (h' : Covers MarketEvent.same events events')
    (handler handler' : EventHandler) (actions : List RawEventSpool.Action)
    (hread : ∀ action ∈ actions, ∀ e ∈ action.offered, e.ScalarsReadBack pydantic) :
    (ReplayEngine.Conflicting events → (∃ e, ReplayEngine.replay events handler = ([], .error e)) ∧
      ∃ e, ReplayEngine.replay events' handler' = ([], .error e)) ∧
    (¬ ReplayEngine.Conflicting events → ∃ sequence sequence',
      List.Forall₂ (fun a b => a.same b = true) sequence sequence' ∧
      ReplayEngine.Sequence events sequence ∧ ReplayEngine.Sequence events' sequence' ∧
      ReplayEngine.replay events handler = ReplayEngine.deliver handler sequence ∧
      ReplayEngine.replay events' handler' = ReplayEngine.deliver handler' sequence') ∧
    ∃ spool taken, RawEventSpool.run pydantic RawEventSpool.fresh actions = .ok (spool, taken) ∧
      spool.read pydantic = .ok taken ∧ RawEventSpool.openFile pydantic spool.file = .ok spool := by
  obtain ⟨hconflicting, hconsistent⟩ := ReplayEngine.replay_spec h h' handler handler'
  exact ⟨hconflicting, hconsistent, RawEventSpool.spool_reads_back hread⟩

def paperScalars : PydanticScalars where
  timeText := fun _ => "1970-01-01T00:00:00Z"
  uuid
    | .text s => [1, 2].find? fun id => s = uuidText id
    | _ => none
  time
    | .text s => if s = "1970-01-01T00:00:00Z" then some (Datetime.ofTimestamp 0) else none
    | _ => none
  integer
    | .number token => [1, 2].find? fun n : ℤ => token = integerToken n
    | _ => none
  decimal
    | .text s => [paperPrice].find? fun d => s = d.text
    | _ => none

theorem find?_of_injective {α β : Type} [DecidableEq β] {f : α → β} (hf : Function.Injective f)
    {l : List α} {a : α} (ha : a ∈ l) : (l.find? fun b => f a = f b) = some a := by
  induction l with
  | nil => exact absurd ha not_mem_nil
  | cons b l ih =>
    by_cases hab : f a = f b
    · rw [List.find?_cons, decide_eq_true hab, hf hab]
    · rw [List.find?_cons, decide_eq_false hab]
      refine ih ((mem_cons.mp ha).resolve_left ?_)
      intro heq
      exact hab (congrArg f heq)

variable (s : String)

theorem paperScalars_uuid :
    paperScalars.uuid (.text s) = [1, 2].find? fun id => s = uuidText id := rfl

theorem paperScalars_time : paperScalars.time (.text s)
    = if s = "1970-01-01T00:00:00Z" then some (Datetime.ofTimestamp 0) else none := rfl

theorem paperScalars_integer (token : NumberToken) :
    paperScalars.integer (.number token) = [1, 2].find? fun n : ℤ => token = integerToken n := rfl

theorem paperScalars_decimal :
    paperScalars.decimal (.text s) = [paperPrice].find? fun d => s = d.text := rfl

theorem paperTrade_readBack {id : UUID} (h : id ∈ [1, 2]) :
    (paperTrade id id).ScalarsReadBack paperScalars where
  uuid := by
    have huuids : Function.Injective uuidText := fun _ _ hab => uuidText_injective hab
    rw [paperScalars_uuid]
    exact find?_of_injective huuids h
  time := by
    rw [paperScalars_time]
    exact if_pos rfl
  integer := by
    have hintegers : Function.Injective integerToken := fun _ _ hab =>
      integerText_valueText.delimited.injective (congrArg NumberToken.text hab)
    have hmem : (id : ℤ) ∈ ([1, 2] : List ℤ) := by
      rcases mem_cons.mp h with rfl | h
      · exact mem_cons_self
      · rw [mem_singleton.mp h]
        exact mem_cons_of_mem _ mem_cons_self
    rw [paperScalars_integer]
    exact find?_of_injective hintegers hmem
  decimal := by
    intro d hd
    have heq : d = paperPrice := by simpa [paperTrade] using hd
    rw [heq, paperScalars_decimal]
    exact find?_of_injective Decimal.text_injective mem_cons_self

theorem market_events_replay_paper :
    (∃ sequence sequence', List.Forall₂ (fun a b => a.same b = true) sequence sequence' ∧
      ReplayEngine.Sequence [paperTrade 1 1, paperTrade 2 2] sequence ∧
      ReplayEngine.Sequence [paperTrade 2 2, paperTrade 1 1, paperTrade 2 2] sequence' ∧
      ReplayEngine.replay [paperTrade 1 1, paperTrade 2 2] (fun _ _ => .ok ())
        = ReplayEngine.deliver (fun _ _ => .ok ()) sequence ∧
      ReplayEngine.replay [paperTrade 2 2, paperTrade 1 1, paperTrade 2 2] (fun _ _ => .ok ())
        = ReplayEngine.deliver (fun _ _ => .ok ()) sequence') ∧
    ∃ spool taken, RawEventSpool.run paperScalars RawEventSpool.fresh
        [.append (paperTrade 1 1), .reopen, .append (paperTrade 2 2)] = .ok (spool, taken) ∧
      spool.read paperScalars = .ok taken ∧
      RawEventSpool.openFile paperScalars spool.file = .ok spool := by
  have hrefl : ∀ e : MarketEvent, e.same e = true := MarketEvent.sameItems.refl
  have hcovers : ∀ l m : List MarketEvent, l ⊆ m → Covers MarketEvent.same m l :=
    fun l m hlm e he => ⟨e, hlm he, hrefl e⟩
  have hno : ¬ ReplayEngine.Conflicting [paperTrade 1 1, paperTrade 2 2] := by
    refine not_not.mpr ?_
    intro a ha b hb hab
    simp only [mem_cons, not_mem_nil, or_false] at ha hb
    rcases ha with rfl | rfl <;> rcases hb with rfl | rfl
    · exact hrefl _
    · exact absurd hab (by decide)
    · exact absurd hab (by decide)
    · exact hrefl _
  have hread : ∀ action ∈ ([.append (paperTrade 1 1), .reopen, .append (paperTrade 2 2)] :
      List RawEventSpool.Action), ∀ e ∈ action.offered, e.ScalarsReadBack paperScalars := by
    intro action haction e he
    simp only [mem_cons, not_mem_nil, or_false] at haction
    rcases haction with rfl | rfl | rfl
    · rw [mem_singleton.mp he]
      exact paperTrade_readBack mem_cons_self
    · exact absurd he not_mem_nil
    · rw [mem_singleton.mp he]
      exact paperTrade_readBack (mem_cons_of_mem _ mem_cons_self)
  have hlaw := market_events_replay paperScalars [paperTrade 1 1, paperTrade 2 2]
    [paperTrade 2 2, paperTrade 1 1, paperTrade 2 2]
    (hcovers _ _ (by simp)) (hcovers _ _ (by simp)) (fun _ _ => .ok ()) (fun _ _ => .ok ())
    [.append (paperTrade 1 1), .reopen, .append (paperTrade 2 2)] hread
  exact ⟨hlaw.2.1 hno, hlaw.2.2⟩

end AdvisorAI
