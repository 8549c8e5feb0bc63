import AdvisorAI.Execution.MarketIdentity
import AdvisorAI.Integrations.RawMessages

/-!
# A feed and its replay

`RawWebSocketFeed` numbers the frames of each session from one, keeps a frame in the spool and
parses it then. A replay parses what the spool has, in the order of number and hash. Over several
sessions, restarts among them, the replay gives the events of the live streams when the frames
come to the spool in that order, each with bytes of its own, and all of them parse
(`feed_replays`). Bytes that come again stop the session they come in (`repeated_frame_refused`).
-/

namespace AdvisorAI

open Lib Lib.Json List
open NativeMarketMessageParser

/-! ## The feed -/

/-- A frame, when it came to the spool and when it came to the parser. -/
structure ReceivedFrame where
  payload : List UInt8
  spooledAt : Timestamp
  parsedAt : Timestamp
  payload_ne : payload ≠ []
  spooledAt_valid : datetimeMin ≤ spooledAt ∧ spooledAt ≤ datetimeMax
  parsedAt_valid : datetimeMin ≤ parsedAt ∧ parsedAt ≤ datetimeMax

/-- What the spool is given of a frame with its number. -/
def ReceivedFrame.rawFrame (received : ReceivedFrame) (number : ℕ) : RawFrame :=
  ⟨received.payload, received.spooledAt, number⟩

inductive FeedAction where
  | session
  | frame (received : ReceivedFrame)
  | restart

/-- An event that was yielded, and its frame. -/
structure DeliveredEvent where
  received : ReceivedFrame
  event : MarketEvent

/-- The spool of a feed, the number of frames in the session that goes on, what the sessions have
yielded, and the frames that the spool refused. -/
structure FeedWorld (outside : RawOutside) where
  spool : JournalWorld (WebSocket.RawMessage outside)
  session : Option ℕ
  live : List DeliveredEvent
  refused : List ReceivedFrame

namespace RawWebSocketFeed

variable (outside : RawOutside) (native : NativeOutside) (instrumentId : Option String)

def fresh : FeedWorld outside := ⟨Journal.fresh _, none, [], []⟩

/-- `parser.parse_many(raw, …)`. -/
def parseFrame (payload : List UInt8) (receivedAt : Timestamp) (number : ℕ) :
    Except PyError (List MarketEvent) :=
  parseMany native ⟨.bytes payload, instrumentId, some (Datetime.ofTimestamp receivedAt),
    some number⟩

variable (w : FeedWorld outside)

/-- A frame of the session that has had some frames: it is spooled, and its events are yielded. An
error ends the session. -/
def receive (before : ℕ) (received : ReceivedFrame) : FeedWorld outside :=
  match RawMessageSpool.append outside w.spool.memory (received.rawFrame (before + 1)) with
  | .error _ => { w with session := none, refused := w.refused ++ [received] }
  | .ok found =>
    let spool := (RawMessageSpool.journal outside).appended w.spool (.ok found)
    match parseFrame native instrumentId received.payload received.parsedAt (before + 1) with
    | .error _ => { w with spool, session := none }
    | .ok events =>
      { w with
        spool
        session := some (before + 1)
        live := w.live ++ events.map fun event => ⟨received, event⟩ }

/-- A session begins with `market_events`; a restart opens the spool again, if that goes. -/
def step : FeedAction → Option (FeedWorld outside)
  | .session => some { w with session := some 0 }
  | .frame received =>
    match w.session with
    | none => some w
    | some before => some (receive outside native instrumentId w before received)
  | .restart => ((RawMessageSpool.journal outside).reopened w.spool).map fun spool =>
    { w with spool, session := none }

/-! ## The replay -/

def receivedAtDatetime (text : String) : Except PyError Timestamp :=
  match native.fromisoformat text with
  | none => .error (valueError "raw WebSocket received_at is malformed")
  | some parsed => parsed.aware "raw WebSocket received_at must include a timezone"

/-- `(item.sequence, item.message_id)`. -/
def replayKey {outside : RawOutside} (message : WebSocket.RawMessage outside) : ℕ ×ₗ String :=
  toLex (message.sequence, message.messageId.text)

variable {outside} (memory : List (WebSocket.RawMessage outside))

def readRecords :
    Except PyError (List (ℕ × Timestamp × List UInt8)) :=
  (memory.mergeSort fun a b => decide (replayKey a ≤ replayKey b)).mapM fun message =>
    (receivedAtDatetime native message.receivedAt).map fun receivedAt =>
      (message.sequence, receivedAt, message.payload)

def replayMarketEvents :
    Except PyError (List MarketEvent) := do
  let records ← readRecords native memory
  let events ← records.mapM fun r => parseFrame native instrumentId r.2.2 r.2.1 r.1
  return events.flatten

def told (message : WebSocket.RawMessage outside) : List MarketEvent :=
  (((receivedAtDatetime native message.receivedAt).bind fun receivedAt =>
    parseFrame native instrumentId message.payload receivedAt message.sequence).toOption).getD []

end RawWebSocketFeed

/-! ## What is compared -/

/-- What an event does not take from its time. -/
def MarketEvent.timeless (e : MarketEvent) :=
  (e.eventType, e.instrumentId, e.sequence, e.price, e.quantity, e.bid, e.ask, e.payload)

/-- An event of one frame at two times of receipt: the same, apart from a time that is the time of
receipt, and the identifier with it. -/
structure MarketEvent.SameReceived (t t' : Timestamp) (e e' : MarketEvent) : Prop where
  timeless : e.timeless = e'.timeless
  time : (e.occurredAt = e'.occurredAt ∧ e.eventId = e'.eventId) ∨
    (e.occurredAt = t ∧ e'.occurredAt = t')

/-- **The replay is the live streams**: every frame was spooled, and the replay gives the events of
the sessions in their order, receive times apart. -/
structure FeedWorld.Replays {outside : RawOutside} (native : NativeOutside)
    (instrumentId : Option String) (w : FeedWorld outside) : Prop where
  spooled : w.refused = []
  replayed : ∃ events,
    RawWebSocketFeed.replayMarketEvents native instrumentId w.spool.memory = .ok events ∧
      List.Forall₂ (fun (l : DeliveredEvent) e =>
        l.event.SameReceived l.received.parsedAt l.received.spooledAt e) w.live events

/-- `fromisoformat` reads what `isoformat` writes. -/
def RawOutside.ReadsIso (outside : RawOutside) (native : NativeOutside) : Prop :=
  ∀ t, datetimeMin ≤ t ∧ t ≤ datetimeMax →
    native.fromisoformat (outside.isoText t) = some (Datetime.ofTimestamp t)

/-- A frame that comes to a spool as the next one of its session. -/
structure FrameFits {outside : RawOutside} (native : NativeOutside) (instrumentId : Option String)
    (memory : List (WebSocket.RawMessage outside)) (received : ReceivedFrame) (number : ℕ) :
    Prop where
  printable : (Nat.toDigits 10 number).length ≤ RawEventSpool.maxStrDigits
  new : ∀ message ∈ memory, message.messageId ≠ outside.sha256 received.payload
  spooled_parses : ∃ events, RawWebSocketFeed.parseFrame native instrumentId received.payload
    received.spooledAt number = .ok events
  live_parses : ∃ events, RawWebSocketFeed.parseFrame native instrumentId received.payload
    received.parsedAt number = .ok events
  last : RawWebSocketFeed.parseFrame native instrumentId received.payload received.spooledAt number
      ≠ .ok [] →
    ∀ message ∈ memory, RawWebSocketFeed.told native instrumentId message ≠ [] →
      RawWebSocketFeed.replayKey message
        ≤ toLex (number, (outside.sha256 received.payload).text)

/-- Every frame of a session fits behind what the spool has. -/
def FeedFits {outside : RawOutside} (native : NativeOutside) (instrumentId : Option String)
    (w : FeedWorld outside) : FeedAction → Prop
  | .frame received => ∀ before, w.session = some before →
    FrameFits native instrumentId w.spool.memory received (before + 1)
  | _ => True

/-! ## A frame at two times -/

section Twice

variable {native : NativeOutside} {instrumentId : Option String} {t t' : Timestamp}

theorem timestamp_received (native : NativeOutside) (record : NativeRecord) :
    (∀ t, timestamp native record (some t) = .ok t) ∨
      ∀ t t', timestamp native record (some t) = timestamp native record (some t') := by
  unfold timestamp
  cases value record ["timestamp_ms", "ts", "timestamp", "time", "T", "E"] with
  | none => exact Or.inl fun _ => rfl
  | some v =>
    right
    intro t t'
    cases v <;> rfl

variable {raw payload : List UInt8} {number : ℕ}

/-- A record that is read at two times. -/
theorem readRecord_twice {record : NativeRecord} {r r' : Reading}
    (h : readRecord native raw instrumentId (some t) record number = .ok r)
    (h' : readRecord native raw instrumentId (some t') record number = .ok r') :
    { r with occurredAt := r'.occurredAt } = r' ∧
      (r.occurredAt = r'.occurredAt ∨ (r.occurredAt = t ∧ r'.occurredAt = t')) := by
  unfold readRecord at h h'
  rw [bind_ok_iff] at h h'
  obtain ⟨type, htype, h⟩ := h
  obtain ⟨type', htype', h'⟩ := h'
  cases htype.symm.trans htype'
  cases hinstrument : textField native record ["instrument_id", "symbol", "s", "instrument"]
      instrumentId with
  | none =>
    rw [hinstrument] at h
    cases h
  | some instrument =>
    rw [hinstrument] at h h'
    rw [bind_ok_iff] at h h'
    obtain ⟨occurred, htime, h⟩ := h
    obtain ⟨occurred', htime', h'⟩ := h'
    split at h
    · cases h
    split at h'
    · cases h'
    rw [bind_ok_iff] at h h'
    obtain ⟨found, hfound, h⟩ := h
    obtain ⟨found', hfound', h'⟩ := h'
    cases hfound.symm.trans hfound'
    cases h
    cases h'
    refine ⟨rfl, ?_⟩
    rcases timestamp_received native record with hreceived | hsame
    · right
      exact ⟨Except.ok.inj (htime.symm.trans (hreceived t)),
        Except.ok.inj (htime'.symm.trans (hreceived t'))⟩
    · left
      exact Except.ok.inj (htime.symm.trans ((hsame t t').trans htime'))

theorem sameReceived_of_readings {r r' : Reading} {e e' : MarketEvent}
    (hreading : { r with occurredAt := r'.occurredAt } = r')
    (htime : r.occurredAt = r'.occurredAt ∨ (r.occurredAt = t ∧ r'.occurredAt = t'))
    (h : MadeOf native r e) (h' : MadeOf native r' e') : e.SameReceived t t' e' where
  timeless := by
    unfold MarketEvent.timeless
    rw [h.eventType, h.instrumentId, h.sequence, h.price, h.quantity, h.bid, h.ask, h.payload,
      h'.eventType, h'.instrumentId, h'.sequence, h'.price, h'.quantity, h'.bid, h'.ask,
      h'.payload, ← hreading]
    rfl
  time := by
    rw [h.occurredAt, h'.occurredAt, h.eventId, h'.eventId]
    rcases htime with hsame | hreceived
    · left
      refine ⟨hsame, ?_⟩
      rw [← hreading, ← hsame]
    · exact Or.inr hreceived

theorem forall₂_of_mapM {α β γ ε : Type} {f : α → Except ε β} {g : α → Except ε γ}
    {R : β → γ → Prop} {l : List α} (h : ∀ a ∈ l, ∀ b c, f a = .ok b → g a = .ok c → R b c)
    {bs : List β} {cs : List γ} (hbs : l.mapM f = .ok bs) (hcs : l.mapM g = .ok cs) :
    List.Forall₂ R bs cs := by
  induction l generalizing bs cs with
  | nil =>
    cases hbs
    cases hcs
    exact List.Forall₂.nil
  | cons a l ih =>
    rw [mapM_cons, bind_ok_iff] at hbs hcs
    obtain ⟨b, hb, hbs⟩ := hbs
    obtain ⟨c, hc, hcs⟩ := hcs
    rw [bind_ok_iff] at hbs hcs
    obtain ⟨bs', hbs', hbs⟩ := hbs
    obtain ⟨cs', hcs', hcs⟩ := hcs
    cases hbs
    cases hcs
    exact List.Forall₂.cons (h a mem_cons_self b c hb hc)
      (ih (fun a ha => h a (mem_cons_of_mem _ ha)) hbs' hcs')

theorem prepare_received (ht : datetimeMin ≤ t ∧ t ≤ datetimeMax) :
    NativeMarketMessageParser.prepare native
        ⟨.bytes payload, instrumentId, some (Datetime.ofTimestamp t), some number⟩
      = (decode native (.bytes payload)).bind fun d =>
        (NativeMarketMessageParser.records d.2).map fun found =>
          (d.1, some t, found.map (inherit d.2)) := by
  unfold NativeMarketMessageParser.prepare aware
  dsimp only
  rw [Datetime.aware_ofTimestamp ht]
  cases decode native (.bytes payload) with
  | error e => rfl
  | ok d =>
    show (NativeMarketMessageParser.records d.2 >>= _)
      = (NativeMarketMessageParser.records d.2).map _
    cases NativeMarketMessageParser.records d.2 with
    | error e => rfl
    | ok found => rfl

/-- **A frame that parses at two times** gives the same events, receive times apart. -/
theorem parseFrame_twice {events events' : List MarketEvent}
    (ht : datetimeMin ≤ t ∧ t ≤ datetimeMax) (ht' : datetimeMin ≤ t' ∧ t' ≤ datetimeMax)
    (h : RawWebSocketFeed.parseFrame native instrumentId payload t number = .ok events)
    (h' : RawWebSocketFeed.parseFrame native instrumentId payload t' number = .ok events') :
    List.Forall₂ (fun e e' => e.SameReceived t t' e') events events' := by
  unfold RawWebSocketFeed.parseFrame parseMany at h h'
  rw [prepare_received ht] at h
  rw [prepare_received ht'] at h'
  cases hdecode : decode native (.bytes payload) with
  | error e =>
    rw [hdecode] at h
    cases h
  | ok d =>
    cases hrecords : NativeMarketMessageParser.records d.2 with
    | error e =>
      rw [hdecode] at h
      simp only [Except.bind, hrecords] at h
      cases h
    | ok found =>
      rw [hdecode] at h h'
      simp only [Except.bind, hrecords, Except.map] at h h'
      refine forall₂_of_mapM ?_ h h'
      intro record _ e e' he he'
      obtain ⟨r, hr, he⟩ := ok_of_bind_ok he
      obtain ⟨r', hr', he'⟩ := ok_of_bind_ok he'
      obtain ⟨n, hn, hr⟩ := ok_of_bind_ok hr
      obtain ⟨n', hn', hr'⟩ := ok_of_bind_ok hr'
      cases hn.symm.trans hn'
      obtain ⟨hreading, htime⟩ := readRecord_twice hr hr'
      exact sameReceived_of_readings hreading htime (toEvent_madeOf he) (toEvent_madeOf he')

end Twice

/-! ## Runs -/

namespace FeedWorld

variable {outside : RawOutside} {native : NativeOutside} {instrumentId : Option String}
  {w : FeedWorld outside}

/-- A message of a frame that parses when it is told. -/
def Legible (native : NativeOutside) (instrumentId : Option String)
    (message : WebSocket.RawMessage outside) : Prop :=
  ∃ t, RawWebSocketFeed.receivedAtDatetime native message.receivedAt = .ok t ∧
    ∃ events, RawWebSocketFeed.parseFrame native instrumentId message.payload t message.sequence
      = .ok events

/-- What every frame leaves: a spool that opens, messages that are told, in their order where they
tell something, and the live events with them. -/
structure InStep (native : NativeOutside) (instrumentId : Option String) (w : FeedWorld outside) :
    Prop where
  recoverable : (RawMessageSpool.journal outside).Recoverable w.spool
  whole : Journal.Whole w.spool.file
  spooled : w.refused = []
  legible : ∀ message ∈ w.spool.memory, Legible native instrumentId message
  sorted : w.spool.memory.Pairwise fun a b =>
    RawWebSocketFeed.told native instrumentId a ≠ [] →
      RawWebSocketFeed.told native instrumentId b ≠ [] →
        RawWebSocketFeed.replayKey a ≤ RawWebSocketFeed.replayKey b
  live : List.Forall₂ (fun (l : DeliveredEvent) e =>
      l.event.SameReceived l.received.parsedAt l.received.spooledAt e) w.live
    (w.spool.memory.flatMap (RawWebSocketFeed.told native instrumentId))

theorem replay_of_legible {memory : List (WebSocket.RawMessage outside)}
    (h : ∀ message ∈ memory, Legible native instrumentId message) :
    RawWebSocketFeed.replayMarketEvents native instrumentId memory
      = .ok ((memory.mergeSort fun a b => decide
          (RawWebSocketFeed.replayKey a ≤ RawWebSocketFeed.replayKey b)).flatMap
        (RawWebSocketFeed.told native instrumentId)) := by
  have hsorted : ∀ message ∈ memory.mergeSort fun a b => decide
      (RawWebSocketFeed.replayKey a ≤ RawWebSocketFeed.replayKey b),
      Legible native instrumentId message :=
    fun message hmem => h message (mem_mergeSort.mp hmem)
  unfold RawWebSocketFeed.replayMarketEvents RawWebSocketFeed.readRecords
  generalize memory.mergeSort _ = sorted at hsorted
  induction sorted with
  | nil => rfl
  | cons message sorted ih =>
    obtain ⟨t, ht, events, hevents⟩ := hsorted message mem_cons_self
    have hrest := ih fun m hm => hsorted m (mem_cons_of_mem _ hm)
    rw [bind_ok_iff] at hrest
    obtain ⟨records, hrecords, hrest⟩ := hrest
    rw [bind_ok_iff] at hrest
    obtain ⟨rest, hparsed, hrest⟩ := hrest
    have htold : RawWebSocketFeed.told native instrumentId message = events := by
      unfold RawWebSocketFeed.told
      rw [ht]
      show (Except.toOption (RawWebSocketFeed.parseFrame native instrumentId _ t _)).getD [] = _
      rw [hevents]
      rfl
    rw [mapM_cons, ht, hrecords]
    show (List.mapM (m := Except PyError) _ (_ :: records) >>= _) = _
    rw [mapM_cons, hparsed, flatMap_cons, htold, ← Except.ok.inj hrest]
    show (RawWebSocketFeed.parseFrame native instrumentId _ t _ >>= _) >>= _ = _
    rw [hevents]
    rfl

theorem InStep.replays (h : w.InStep native instrumentId) : w.Replays native instrumentId where
  spooled := h.spooled
  replayed := ⟨_, replay_of_legible h.legible, by
    rw [flatMap_mergeSort h.sorted]
    exact h.live⟩

theorem fresh_inStep : (RawWebSocketFeed.fresh outside).InStep native instrumentId where
  recoverable := Journal.fresh_recoverable
  whole := Journal.whole_none
  spooled := rfl
  legible := fun _ h => absurd h not_mem_nil
  sorted := List.Pairwise.nil
  live := List.Forall₂.nil

variable {received : ReceivedFrame} {number before : ℕ}

theorem told_of_frame (hiso : outside.ReadsIso native) {message : WebSocket.RawMessage outside}
    {events : List MarketEvent}
    (hframe : WebSocket.RawMessage.ofFrame outside (received.rawFrame number) = .ok message)
    (hparse : RawWebSocketFeed.parseFrame native instrumentId received.payload received.spooledAt
      number = .ok events) :
    Legible native instrumentId message ∧
      RawWebSocketFeed.told native instrumentId message = events ∧
      RawWebSocketFeed.replayKey message
        = toLex (number, (outside.sha256 received.payload).text) := by
  obtain ⟨hid, hnumber, htime, -⟩ := WebSocket.RawMessage.ofFrame_ok hframe
  have hpayload : message.payload = received.payload := WebSocket.RawMessage.payload_ofFrame hframe
  have hnumber : message.sequence = number := hnumber
  have htime : message.receivedAt = outside.isoText received.spooledAt := htime
  have hread : RawWebSocketFeed.receivedAtDatetime native message.receivedAt
      = .ok received.spooledAt := by
    unfold RawWebSocketFeed.receivedAtDatetime
    rw [htime, hiso _ received.spooledAt_valid]
    exact Datetime.aware_ofTimestamp received.spooledAt_valid
  have hparse : RawWebSocketFeed.parseFrame native instrumentId message.payload received.spooledAt
      message.sequence = .ok events := by
    rw [hpayload, hnumber]
    exact hparse
  refine ⟨⟨_, hread, _, hparse⟩, ?_, ?_⟩
  · unfold RawWebSocketFeed.told
    rw [hread]
    show (Except.toOption (RawWebSocketFeed.parseFrame native instrumentId _ _ _)).getD [] = _
    rw [hparse]
    rfl
  · unfold RawWebSocketFeed.replayKey
    rw [hid, hnumber]
    rfl

theorem receive_of_fits (houtside : outside.ReadsBack)
    (hfits : FrameFits native instrumentId w.spool.memory received (before + 1)) :
    ∃ message yielded,
      RawMessageSpool.append outside w.spool.memory (received.rawFrame (before + 1))
        = .ok (message, true) ∧
      WebSocket.RawMessage.ofFrame outside (received.rawFrame (before + 1)) = .ok message ∧
      RawWebSocketFeed.parseFrame native instrumentId received.payload received.parsedAt
        (before + 1) = .ok yielded ∧
      RawWebSocketFeed.receive outside native instrumentId w before received =
        { w with
          spool := ⟨Journal.extended w.spool.file
              (Lib.Json.utf8 ((RawMessageSpool.journal outside).line message)),
            w.spool.memory ++ [message], w.spool.history ++ [(message, true)]⟩
          session := some (before + 1)
          live := w.live ++ yielded.map fun event => ⟨received, event⟩ } := by
  obtain ⟨message, happend, hframe⟩ : ∃ message,
      RawMessageSpool.append outside w.spool.memory (received.rawFrame (before + 1))
        = .ok (message, true) ∧
      WebSocket.RawMessage.ofFrame outside (received.rawFrame (before + 1)) = .ok message :=
    RawMessageSpool.append_new houtside received.payload_ne (Int.natCast_nonneg _)
      hfits.printable hfits.new
  obtain ⟨yielded, hlive⟩ := hfits.live_parses
  have hmemory : (RawMessageSpool.journal outside).reader.take w.spool.memory message
      = w.spool.memory ++ [message] := (RawMessageSpool.lawful houtside).takes _ _ _ happend
  refine ⟨message, yielded, happend, hframe, hlive, ?_⟩
  unfold RawWebSocketFeed.receive
  rw [happend]
  rw [hlive]
  dsimp only [Journal.appended]
  rw [hmemory]

/-- **A frame that fits** is spooled, and its events come behind those before it. -/
theorem InStep.receive (houtside : outside.ReadsBack) (hiso : outside.ReadsIso native)
    (h : w.InStep native instrumentId)
    (hfits : FrameFits native instrumentId w.spool.memory received (before + 1)) :
    (RawWebSocketFeed.receive outside native instrumentId w before received).InStep native
      instrumentId := by
  obtain ⟨message, yielded, happend, hframe, hlive, hnext⟩ := receive_of_fits houtside hfits
  obtain ⟨events, hspooled⟩ := hfits.spooled_parses
  obtain ⟨hlegible, htold, hkey⟩ := told_of_frame hiso hframe hspooled
  have hlawful := RawMessageSpool.lawful houtside
  have hunbroken := WebSocket.RawMessage.unbroken_fields houtside hframe
  rw [hnext]
  constructor
  case recoverable =>
    have hwrite := h.recoverable.write hlawful happend h.whole hunbroken
      (Nat.le_succ ((RawMessageSpool.journal outside).lineBytes message)) true
    rw [show (Lib.Json.utf8 ((RawMessageSpool.journal outside).line message)).extract 0
        ((RawMessageSpool.journal outside).lineBytes message) = _ from
      ByteArray.extract_zero_size] at hwrite
    exact hwrite
  case whole => exact h.recoverable.whole_append h.whole message
  case spooled => exact h.spooled
  case legible =>
    intro m hm
    rcases mem_append.mp hm with hm | hm
    · exact h.legible m hm
    · rw [mem_singleton.mp hm]
      exact hlegible
  case sorted =>
    refine pairwise_append.mpr ⟨h.sorted, pairwise_singleton _ _, ?_⟩
    intro a ha b hb
    rw [mem_singleton.mp hb, htold, hkey]
    intro hsays hevents
    refine hfits.last ?_ a ha hsays
    intro hnone
    exact hevents (Except.ok.inj (hspooled.symm.trans hnone))
  case live =>
    show List.Forall₂ _ (_ ++ _) ((_ ++ [message]).flatMap _)
    rw [flatMap_append, flatMap_singleton, htold]
    refine rel_append h.live ?_
    rw [forall₂_map_left_iff]
    exact parseFrame_twice received.parsedAt_valid received.spooledAt_valid hlive hspooled

/-- **A step that fits** leaves the replay in step with the sessions. -/
theorem InStep.step (houtside : outside.ReadsBack) (hiso : outside.ReadsIso native)
    (h : w.InStep native instrumentId) {action : FeedAction}
    (hfits : FeedFits native instrumentId w action) :
    ∃ w', RawWebSocketFeed.step outside native instrumentId w action = some w' ∧
      w'.InStep native instrumentId := by
  cases action with
  | session => exact ⟨_, rfl, h.recoverable, h.whole, h.spooled, h.legible, h.sorted, h.live⟩
  | frame received =>
    unfold RawWebSocketFeed.step
    cases hsession : w.session with
    | none => exact ⟨w, rfl, h⟩
    | some before => exact ⟨_, rfl, h.receive houtside hiso (hfits before hsession)⟩
  | restart =>
    refine ⟨{ w with session := none }, ?_, h.recoverable, h.whole, h.spooled, h.legible, h.sorted,
      h.live⟩
    unfold RawWebSocketFeed.step
    rw [show (RawMessageSpool.journal outside).reopened w.spool = some w.spool from
      h.recoverable.reopened w.spool.memory]
    rfl

end FeedWorld

/-- **The replay of a feed is its live streams**, after every run whose frames fit. -/
theorem feed_replays {outside : RawOutside} {native : NativeOutside}
    (houtside : outside.ReadsBack) (hiso : outside.ReadsIso native)
    (instrumentId : Option String) {actions : List FeedAction}
    (hfits : Runs.Along (RawWebSocketFeed.step outside native instrumentId)
      (FeedFits native instrumentId) (RawWebSocketFeed.fresh outside) actions) :
    ∃ w, Runs.runFrom (RawWebSocketFeed.step outside native instrumentId)
        (RawWebSocketFeed.fresh outside) actions = some w ∧ w.Replays native instrumentId := by
  have hrun : ∀ (actions : List FeedAction) (w : FeedWorld outside),
      w.InStep native instrumentId →
      Runs.Along (RawWebSocketFeed.step outside native instrumentId)
        (FeedFits native instrumentId) w actions →
      ∃ w', Runs.runFrom (RawWebSocketFeed.step outside native instrumentId) w actions = some w' ∧
        w'.InStep native instrumentId := by
    intro actions
    induction actions with
    | nil => exact fun w hw _ => ⟨w, rfl, hw⟩
    | cons action actions ih =>
      intro w hw hfits
      obtain ⟨next, hnext, hstep⟩ := hw.step houtside hiso hfits.1
      obtain ⟨last, hlast, hinStep⟩ := ih next hstep (hfits.2 next hnext)
      exact ⟨last, by rw [Runs.runFrom_cons hnext, hlast], hinStep⟩
  obtain ⟨w, hw, hinStep⟩ := hrun actions _ FeedWorld.fresh_inStep hfits
  exact ⟨w, hw, hinStep.replays⟩

/-! ## A frame that comes again -/

/-- Python, for the times that are printed as integers and for ASCII. -/
def feedNative : NativeOutside :=
  { paperNative with
    decode := fun bytes => some (String.ofList (bytes.map fun b => Char.ofNat b.toNat))
    fromisoformat := fun s => some (Datetime.ofTimestamp (readDigits s.toList)) }

/-- A library that prints times as integers, and the hash of one batch. -/
def feedOutside : RawOutside := numberedRaw fun _ => paperDigest

theorem feedOutside_readsBack : feedOutside.ReadsBack := numberedRaw_readsBack _

theorem feedNative_readsIso : feedOutside.ReadsIso feedNative := by
  intro t _
  show some (Datetime.ofTimestamp (readDigits (String.ofList (integerText t)).toList)) = _
  rw [String.toList_ofList, readDigits_integerText]

def tradeFrame : ReceivedFrame where
  payload := (write quotedAscii (tradeRecord "1")).map fun c => UInt8.ofNat c.toNat
  spooledAt := 0
  parsedAt := 1
  payload_ne := cons_ne_nil _ _
  spooledAt_valid := epoch_valid
  parsedAt_valid := by decide

theorem tradeFrame_fits {memory : List (WebSocket.RawMessage feedOutside)} (hempty : memory = []) :
    FrameFits feedNative none memory tradeFrame 1 where
  printable := by decide
  new := by
    rw [hempty]
    exact fun _ h => absurd h not_mem_nil
  spooled_parses := by
    obtain ⟨events, hevents, -⟩ := ok_of_toOption_any (p := fun _ => true)
      (x := RawWebSocketFeed.parseFrame feedNative none tradeFrame.payload 0 1) (by decide +kernel)
    exact ⟨events, hevents⟩
  live_parses := by
    obtain ⟨events, hevents, -⟩ := ok_of_toOption_any (p := fun _ => true)
      (x := RawWebSocketFeed.parseFrame feedNative none tradeFrame.payload 1 1) (by decide +kernel)
    exact ⟨events, hevents⟩
  last := by
    rw [hempty]
    exact fun _ _ h => absurd h not_mem_nil

def begun : FeedWorld feedOutside := ⟨Journal.fresh _, some 0, [], []⟩

/-- The bytes of a trade come again in their session, and are refused. -/
theorem repeated_frame_refused : ¬ ∀ (outside : RawOutside) (native : NativeOutside),
    outside.ReadsBack → outside.ReadsIso native →
      ∀ (instrumentId : Option String) (actions : List FeedAction) (w : FeedWorld outside),
        Runs.runFrom (RawWebSocketFeed.step outside native instrumentId)
          (RawWebSocketFeed.fresh outside) actions = some w → w.Replays native instrumentId := by
  intro h
  -- the first frame is kept under the number one
  obtain ⟨message, yielded, -, hframe, -, hfirst⟩ :=
    FeedWorld.receive_of_fits (w := begun) feedOutside_readsBack (tradeFrame_fits rfl)
  obtain ⟨again, hagain⟩ : ∃ again,
      WebSocket.RawMessage.ofFrame feedOutside (tradeFrame.rawFrame 2) = .ok again :=
    ⟨_, dif_pos ⟨by decide, (feedOutside_readsBack.iso _).1, tradeFrame.payload_ne⟩⟩
  obtain ⟨hid, hnumber, -, -⟩ := WebSocket.RawMessage.ofFrame_ok hframe
  obtain ⟨hidAgain, hnumberAgain, -, -⟩ := WebSocket.RawMessage.ofFrame_ok hagain
  have hdiffer : message ≠ again := by
    intro hsame
    rw [hsame, hnumberAgain] at hnumber
    exact absurd hnumber (by decide)
  have hsame : message.messageId = again.messageId := hid.trans hidAgain.symm
  have hfind : [message].find? (fun m => m.messageId = again.messageId) = some message := by
    unfold List.find?
    rw [decide_eq_true hsame]
  have hrefused := RawMessageSpool.append_repeated hagain hfind hdiffer
  -- the second one is refused, and the session is over
  generalize hkept : RawWebSocketFeed.receive feedOutside feedNative none begun 0 tradeFrame = kept
    at hfirst
  have hmemory : kept.spool.memory = [message] := by
    rw [hfirst]
    rfl
  have hsession : kept.session = some 1 := by
    rw [hfirst]
  have hsecond : RawWebSocketFeed.receive feedOutside feedNative none kept 1 tradeFrame
      = { kept with session := none, refused := kept.refused ++ [tradeFrame] } := by
    unfold RawWebSocketFeed.receive
    rw [hmemory, hrefused]
  have hrun : Runs.runFrom (RawWebSocketFeed.step feedOutside feedNative none)
      (RawWebSocketFeed.fresh feedOutside) [.session, .frame tradeFrame, .frame tradeFrame]
      = some { kept with session := none, refused := kept.refused ++ [tradeFrame] } := by
    have hstart : RawWebSocketFeed.step feedOutside feedNative none
        (RawWebSocketFeed.fresh feedOutside) .session = some begun := rfl
    have hstep : RawWebSocketFeed.step feedOutside feedNative none begun (.frame tradeFrame)
        = some kept := congrArg some hkept
    rw [Runs.runFrom_cons hstart, Runs.runFrom_cons hstep]
    unfold Runs.runFrom RawWebSocketFeed.step
    rw [hsession]
    dsimp only
    rw [hsecond]
    rfl
  have hspooled := (h _ _ feedOutside_readsBack feedNative_readsIso _ _ _ hrun).spooled
  exact concat_ne_nil _ _ hspooled

/-- A trade, a restart, and another session. -/
theorem feed_replays_trade :
    ∃ w, Runs.runFrom (RawWebSocketFeed.step feedOutside feedNative none)
        (RawWebSocketFeed.fresh feedOutside) [.session, .frame tradeFrame, .restart, .session]
          = some w ∧ w.Replays feedNative none := by
  refine feed_replays feedOutside_readsBack feedNative_readsIso none
    ⟨trivial, fun w hw => ⟨?_, fun _ _ => ⟨trivial, fun _ _ => ⟨trivial, fun _ _ => trivial⟩⟩⟩⟩
  intro before hbefore
  cases hw
  cases hbefore
  exact tradeFrame_fits rfl

end AdvisorAI
